import InfinibandDiags.Chassis.Exclusive
import InfinibandDiags.Discover.Numerals
import Mathlib.Data.List.TakeWhile

/-! The node descriptions that `fill_mellanox_chassis_record` understands, and what it makes of
all others. -/
namespace InfinibandDiags
open Folds

section Scan
variable {separators text rest : Bytes} {c : UInt8}

/-- Text that a scan goes through. -/
def Avoids (separators text : Bytes) : Prop := ∀ c ∈ text, ¬ (c ∈ separators ∨ c = 0)

theorem scanTo_append (htext : Avoids separators text) (hc : c ∈ separators ∨ c = 0) :
    scanTo separators (text ++ c :: rest) = .ok (text, c, rest) := by
  induction text with
  | nil => rw [List.nil_append, scanTo, if_pos hc]
  | cons d text ih =>
      have hd := htext d List.mem_cons_self
      rw [List.cons_append, scanTo, if_neg hd, ih fun x hx => htext x (List.mem_cons_of_mem d hx)]
      rfl

theorem scanTo_avoids (htext : Avoids separators text) :
    scanTo separators text = .error .outOfBounds := by
  induction text with
  | nil => rfl
  | cons d text ih =>
      have hd := htext d List.mem_cons_self
      rw [scanTo, if_neg hd, ih fun x hx => htext x (List.mem_cons_of_mem d hx)]
      rfl

/-- A scan meets a separator or a NUL, or leaves the buffer. -/
theorem scanTo_cases (separators buf : Bytes) : Avoids separators buf ∨
    ∃ text c rest, buf = text ++ c :: rest ∧ Avoids separators text ∧
      (c ∈ separators ∨ c = 0) := by
  induction buf with
  | nil => exact .inl fun c hc => by cases hc
  | cons d buf ih =>
      by_cases hd : d ∈ separators ∨ d = 0
      · exact .inr ⟨[], d, buf, rfl, (fun c hc => by cases hc), hd⟩
      · have hcons : ∀ {text : Bytes}, Avoids separators text → Avoids separators (d :: text) := by
          intro text h x hx
          rcases List.mem_cons.mp hx with rfl | hx
          · exact hd
          · exact h x hx
        rcases ih with h | ⟨text, c, rest, rfl, htext, hc⟩
        · exact .inl (hcons h)
        · exact .inr ⟨d :: text, c, rest, rfl, hcons htext, hc⟩

theorem Avoids.notMem_zero (h : Avoids separators text) : (0 : UInt8) ∉ text := fun hmem =>
  h 0 hmem (.inr rfl)

/-- The three ways a scan ends: outside the buffer, at a NUL, or at a separator. -/
inductive ScanEnd (separators buf : Bytes) : Prop
  | outside (h : scanTo separators buf = .error .outOfBounds) (hnul : (0 : UInt8) ∉ buf)
  | nul (text rest : Bytes) (h : scanTo separators buf = .ok (text, 0, rest))
      (hnul : (0 : UInt8) ∈ buf)
  | separator (text : Bytes) (c : UInt8) (rest : Bytes) (hc : c ∈ separators)
      (h : scanTo separators buf = .ok (text, c, rest)) (hbuf : buf = text ++ c :: rest)
      (htext : Avoids separators text)

theorem scanTo_end (separators buf : Bytes) : ScanEnd separators buf := by
  rcases scanTo_cases separators buf with h | ⟨text, c, rest, rfl, htext, hc⟩
  · exact .outside (scanTo_avoids h) h.notMem_zero
  · by_cases hnul : c = 0
    · rw [hnul]
      exact .nul text rest (scanTo_append htext (.inr rfl)) (by simp)
    · exact .separator text c rest (hc.resolve_right hnul) (scanTo_append htext hc) rfl htext

end Scan

/-- What stands before the `U` of a description. -/
structure DescHead where
  systemName : Bytes
  systemType : Bytes
  systemSlotName : Bytes
  boardType : Option Bytes

def mf0 : Bytes := [77, 70, 48, 59]

namespace DescHead

def boardBytes : Option Bytes → Bytes
  | none => [slash]
  | some boardType => colon :: (boardType ++ [slash])

/-- `MF0;<system name>:<system type>/<system slot name>[:board type]/`. -/
def bytes (d : DescHead) : Bytes :=
  mf0 ++ (d.systemName ++ colon :: (d.systemType ++ slash ::
    (d.systemSlotName ++ boardBytes d.boardType)))

/-- No part goes on past its separator. -/
structure Valid (d : DescHead) : Prop where
  systemName : Avoids [colon] d.systemName
  systemType : Avoids [slash] d.systemType
  systemSlotName : Avoids [slash, colon] d.systemSlotName
  boardType : ∀ b ∈ d.boardType, Avoids [slash] b

variable {d : DescHead} {rest : Bytes}

theorem Valid.notMem_zero (h : d.Valid) : (0 : UInt8) ∉ d.bytes := by
  have hname := h.systemName.notMem_zero
  have htype := h.systemType.notMem_zero
  have hslot := h.systemSlotName.notMem_zero
  have hboard : (0 : UInt8) ∉ boardBytes d.boardType := by
    cases hb : d.boardType with
    | none => simp [boardBytes, slash]
    | some b => simp [boardBytes, slash, colon, (h.boardType b hb).notMem_zero]
  simp [bytes, mf0, colon, slash, hname, htype, hslot, hboard]

/-- Everything up to the node index is scanned over. -/
theorem Valid.parseNodeDesc (h : d.Valid) (rest : Bytes) :
    parseNodeDesc (d.bytes ++ rest) = parseNodeIndex d.systemType d.systemSlotName rest := by
  have hbytes : d.bytes ++ rest = mf0 ++ (d.systemName ++ colon :: (d.systemType ++ slash ::
      (d.systemSlotName ++ (boardBytes d.boardType ++ rest)))) := by
    simp [bytes]
  have htake : (d.bytes ++ rest).take 4 = mf0 := by
    rw [hbytes]
    exact List.take_left' rfl
  have hdrop : (d.bytes ++ rest).drop 4 = d.systemName ++ colon :: (d.systemType ++ slash ::
      (d.systemSlotName ++ (boardBytes d.boardType ++ rest))) := by
    rw [hbytes]
    exact List.drop_left' rfl
  unfold InfinibandDiags.parseNodeDesc
  rw [if_neg (by rw [htake]; decide), hdrop, scanTo_append h.systemName (.inl (by simp)), ok_bind]
  dsimp only
  rw [if_neg (by decide), scanTo_append h.systemType (.inl (by simp)), ok_bind]
  dsimp only
  rw [if_neg (by decide)]
  cases hb : d.boardType with
  | none =>
      rw [boardBytes, List.singleton_append,
        scanTo_append h.systemSlotName (.inl (by simp)), ok_bind]
      rfl
  | some b =>
      rw [boardBytes, List.cons_append, scanTo_append h.systemSlotName (.inl (by simp)), ok_bind]
      dsimp only
      rw [if_neg (by decide), parseBoardType, if_pos rfl, List.append_assoc, List.singleton_append,
        scanTo_append (h.boardType b hb) (.inl (by simp)), ok_bind]
      rfl

end DescHead

/-- A description that does not get as far as the node index. -/
inductive NoHead (nodeDesc : Bytes) : Prop
  | unsupported (h : parseNodeDesc nodeDesc = .ok none)
      (hend : nodeDesc.take 4 ≠ mf0 ∨ (0 : UInt8) ∈ nodeDesc)
  | outside (h : parseNodeDesc nodeDesc = .error .outOfBounds) (hmf0 : nodeDesc.take 4 = mf0)
      (hnul : (0 : UInt8) ∉ nodeDesc)

theorem noHead_nul {nodeDesc buf : Bytes} (hbytes : nodeDesc = mf0 ++ buf)
    (h : parseNodeDesc nodeDesc = .ok none) (hnul : (0 : UInt8) ∈ buf) : NoHead nodeDesc :=
  .unsupported h (.inr (hbytes ▸ List.mem_append_right _ hnul))

theorem noHead_outside {nodeDesc buf : Bytes} (hbytes : nodeDesc = mf0 ++ buf)
    (h : parseNodeDesc nodeDesc = .error .outOfBounds) (hnul : (0 : UInt8) ∉ buf) :
    NoHead nodeDesc := by
  refine .outside h (hbytes ▸ List.take_left' rfl) ?_
  rw [hbytes, List.mem_append, not_or]
  exact ⟨by decide, hnul⟩

/-- A description is scanned up to its node index, or is given up before. -/
theorem parseNodeDesc_cases (nodeDesc : Bytes) :
    (∃ d : DescHead, d.Valid ∧ ∃ rest, nodeDesc = d.bytes ++ rest) ∨ NoHead nodeDesc := by
  by_cases hmf0 : nodeDesc.take 4 ≠ [77, 70, 48, 59]
  · refine .inr (.unsupported ?_ (.inl hmf0))
    unfold parseNodeDesc
    rw [if_pos hmf0]
  have hbytes : nodeDesc = mf0 ++ nodeDesc.drop 4 := by
    rw [mf0, ← not_not.mp hmf0, List.take_append_drop]
  generalize hbuf : nodeDesc.drop 4 = buf at hbytes
  rcases scanTo_end [colon] buf with ⟨h₁, hnul⟩ | ⟨name, rest, h₁, hnul⟩ |
      ⟨name, c₁, rest₁, hc₁, h₁, rfl, hname⟩
  · refine .inr (noHead_outside hbytes ?_ hnul)
    simp only [parseNodeDesc, hmf0, if_false, hbuf, h₁, bind, Except.bind]
  · refine .inr (noHead_nul hbytes ?_ hnul)
    simp only [parseNodeDesc, hmf0, if_false, hbuf, h₁, bind, Except.bind, if_true]
  obtain rfl := List.mem_singleton.mp hc₁
  have hcolon : colon ≠ 0 := by decide
  have hslash : slash ≠ 0 := by decide
  rcases scanTo_end [slash] rest₁ with ⟨h₂, hnul⟩ | ⟨type, rest, h₂, hnul⟩ |
      ⟨type, c₂, rest₂, hc₂, h₂, rfl, htype⟩
  · refine .inr (noHead_outside hbytes ?_ ?_)
    · simp only [parseNodeDesc, hmf0, if_false, hbuf, h₁, h₂, bind, Except.bind, hcolon]
    · simp [hname.notMem_zero, hnul, hcolon.symm]
  · refine .inr (noHead_nul hbytes ?_ (by simp [hnul]))
    simp only [parseNodeDesc, hmf0, if_false, hbuf, h₁, h₂, bind, Except.bind, hcolon, if_true]
  obtain rfl := List.mem_singleton.mp hc₂
  rcases scanTo_end [slash, colon] rest₂ with ⟨h₃, hnul⟩ | ⟨slot, rest, h₃, hnul⟩ |
      ⟨slot, c₃, rest₃, hc₃, h₃, rfl, hslot⟩
  · refine .inr (noHead_outside hbytes ?_ ?_)
    · simp only [parseNodeDesc, hmf0, if_false, hbuf, h₁, h₂, h₃, bind, Except.bind, hcolon, hslash]
    · simp [hname.notMem_zero, htype.notMem_zero, hnul, hcolon.symm, hslash.symm]
  · refine .inr (noHead_nul hbytes ?_ (by simp [hnul]))
    simp only [parseNodeDesc, hmf0, if_false, hbuf, h₁, h₂, h₃, bind, Except.bind, hcolon, hslash,
      if_true]
  by_cases hc : c₃ = slash
  · subst hc
    refine .inl ⟨⟨name, type, slot, none⟩, ⟨hname, htype, hslot, fun b hb => by cases hb⟩, rest₃, ?_⟩
    rw [hbytes]
    simp [DescHead.bytes, DescHead.boardBytes]
  obtain rfl : c₃ = colon := by simpa [hc] using hc₃
  rcases scanTo_end [slash] rest₃ with ⟨h₄, hnul⟩ | ⟨board, rest, h₄, hnul⟩ |
      ⟨board, c₄, rest₄, hc₄, h₄, rfl, hboard⟩
  · refine .inr (noHead_outside hbytes ?_ ?_)
    · simp only [parseNodeDesc, parseBoardType, hmf0, if_false, hbuf, h₁, h₂, h₃, h₄, bind,
        Except.bind, hcolon, hslash, if_true]
    · simp [hname.notMem_zero, htype.notMem_zero, hslot.notMem_zero, hnul, hcolon.symm, hslash.symm]
  · refine .inr (noHead_nul hbytes ?_ (by simp [hnul]))
    simp only [parseNodeDesc, parseBoardType, hmf0, if_false, hbuf, h₁, h₂, h₃, h₄, bind,
      Except.bind, hcolon, hslash, if_true]
  obtain rfl := List.mem_singleton.mp hc₄
  refine .inl ⟨⟨name, type, slot, some board⟩, ⟨hname, htype, hslot, fun b hb => ?_⟩, rest₄, ?_⟩
  · cases hb
    exact hboard
  · rw [hbytes]
    simp [DescHead.bytes, DescHead.boardBytes]

section Inside

/-- Where `atoi` stops. -/
def pastNumber (s : Bytes) : Bytes :=
  match s.dropWhile isSpace with
  | 45 :: s => s.dropWhile isDigit
  | 43 :: s => s.dropWhile isDigit
  | s => s.dropWhile isDigit

theorem byteOfString_eq (s : Bytes) : byteOfString s =
    if pastNumber s = [] then .error .outOfBounds else .ok (UInt8.ofInt (atoi s)) := rfl

/-- It stops at a NUL. -/
theorem notMem_zero_of_pastNumber {s : Bytes} (h : pastNumber s = []) : (0 : UInt8) ∉ s := by
  have hdigits : ∀ {s : Bytes}, s.dropWhile isDigit = [] → (0 : UInt8) ∉ s := fun hs hmem =>
    absurd (List.dropWhile_eq_nil_iff.mp hs 0 hmem) (by decide)
  have hspaces : (0 : UInt8) ∉ s.takeWhile isSpace := fun hmem =>
    absurd (List.mem_takeWhile_imp hmem) (by decide)
  have hrest : (0 : UInt8) ∉ s.dropWhile isSpace := by
    unfold pastNumber at h
    split at h
    · next heq =>
        rw [heq, List.mem_cons, not_or]
        exact ⟨by decide, hdigits h⟩
    · next heq =>
        rw [heq, List.mem_cons, not_or]
        exact ⟨by decide, hdigits h⟩
    · exact hdigits h
  rw [← List.takeWhile_append_dropWhile (p := isSpace) (l := s), List.mem_append, not_or]
  exact ⟨hspaces, hrest⟩

/-- The scans of a description end inside it: it is no Mellanox description, or it has a NUL, or
something else stands where it is given up. -/
def ReadsInside (nodeDesc : Bytes) : Prop :=
  nodeDesc.take 4 ≠ mf0 ∨ (0 : UInt8) ∈ nodeDesc ∨
    ∃ d : DescHead, d.Valid ∧ ∃ c rest, nodeDesc = d.bytes ++ c :: rest ∧
      (c = 85 → pastNumber rest ≠ [])

theorem parseNodeIndex_cons (systemType systemSlotName : Bytes) (c : UInt8) (rest : Bytes) :
    parseNodeIndex systemType systemSlotName (c :: rest) =
      if c ≠ 85 then .ok none
      else if pastNumber rest = [] then .error .outOfBounds
      else .ok (some ⟨systemType, systemSlotName, UInt8.ofInt (atoi rest)⟩) := by
  rw [parseNodeIndex, byteOfString_eq]
  split
  · rfl
  · split <;> rfl

theorem parseNodeDesc_ok_iff (nodeDesc : Bytes) :
    (∃ parsed, parseNodeDesc nodeDesc = .ok parsed) ↔ ReadsInside nodeDesc := by
  constructor
  · rintro ⟨parsed, hparsed⟩
    rcases parseNodeDesc_cases nodeDesc with ⟨d, hd, rest, rfl⟩ | ⟨-, hend⟩ | ⟨h, -, -⟩
    · cases rest with
      | nil =>
          rw [hd.parseNodeDesc] at hparsed
          cases hparsed
      | cons c rest =>
          refine .inr (.inr ⟨d, hd, c, rest, rfl, fun hc hpast => ?_⟩)
          rw [hd.parseNodeDesc, parseNodeIndex_cons, if_neg (not_not.mpr hc),
            if_pos hpast] at hparsed
          cases hparsed
    · rcases hend with hmf0 | hnul
      · exact .inl hmf0
      · exact .inr (.inl hnul)
    · rw [h] at hparsed
      cases hparsed
  · rintro (hnot | hmem | ⟨d, hd, c, rest, rfl, hpast⟩)
    · exact ⟨none, if_pos hnot⟩
    · rcases parseNodeDesc_cases nodeDesc with ⟨d, hd, rest, rfl⟩ | ⟨h, -⟩ | ⟨-, -, hnul⟩
      · have hrest : (0 : UInt8) ∈ rest := (List.mem_append.mp hmem).resolve_left hd.notMem_zero
        cases rest with
        | nil => cases hrest
        | cons c rest =>
            rw [hd.parseNodeDesc, parseNodeIndex_cons]
            by_cases hc : c = 85
            · have hnul : (0 : UInt8) ∈ rest := by
                rcases List.mem_cons.mp hrest with h | h
                · rw [hc] at h
                  exact absurd h (by decide)
                · exact h
              rw [if_neg (not_not.mpr hc),
                if_neg fun hpast => notMem_zero_of_pastNumber hpast hnul]
              exact ⟨_, rfl⟩
            · rw [if_pos hc]
              exact ⟨none, rfl⟩
      · exact ⟨none, h⟩
      · exact absurd hmem hnul
    · rw [hd.parseNodeDesc, parseNodeIndex_cons]
      by_cases hc : c = 85
      · rw [if_neg (not_not.mpr hc), if_neg (hpast hc)]
        exact ⟨_, rfl⟩
      · rw [if_pos hc]
        exact ⟨none, rfl⟩

end Inside

section Documented

/-- `L` and `S` with the number of a slot. -/
inductive NamesSlot : Bytes → ChassisSlotType → Nat → Prop
  | line {ds : Bytes} (hds : IsNumeral ds) (hpos : 1 ≤ decimal ds) (hle : decimal ds ≤ linesMaxNum) :
      NamesSlot (76 :: ds) .lineCs (decimal ds)
  | spine {ds : Bytes} (hds : IsNumeral ds) (hpos : 1 ≤ decimal ds)
      (hle : decimal ds ≤ spinesMaxNum) : NamesSlot (83 :: ds) .spineCs (decimal ds)

/-- The documented form of a description. It ends with the node index, at a NUL or at the end of
the buffer. -/
structure Documented (nodeDesc : Bytes) (d : DescHead) (chSlot : ChassisSlotType)
    (number index : Nat) : Prop where
  valid : d.Valid
  names : NamesSlot d.systemSlotName chSlot number
  text : ∃ ds rest, IsNumeral ds ∧ decimal ds = index ∧ (rest = [] ∨ rest.head? = some 0) ∧
    nodeDesc = d.bytes ++ 85 :: (ds ++ rest)

variable {nodeDesc : Bytes} {d : DescHead} {chSlot : ChassisSlotType} {number index : Nat}

theorem NamesSlot.slotOfName_eq {name : Bytes} (h : NamesSlot name chSlot number) :
    slotOfName name = chSlot := by
  cases h <;> rfl

theorem NamesSlot.known {name : Bytes} (h : NamesSlot name chSlot number) :
    chSlot ≠ .unresolvedCs := by
  cases h <;> decide

/-- The number is read as it is, and is let through. -/
theorem NamesSlot.number_eq {name : Bytes} (h : NamesSlot name chSlot number) :
    (UInt8.ofInt (atoi name.tail)).toNat = number ∧ ¬ slotLimit chSlot < number := by
  cases h with
  | @line ds hds hpos hle =>
      have hread := (hopOf_eq_decimal_iff hds noDigitHead_nil).mpr (by rw [linesMaxNum] at hle; omega)
      rw [List.append_nil] at hread
      refine ⟨hread, ?_⟩
      rw [slotLimit]
      omega
  | @spine ds hds hpos hle =>
      have hread := (hopOf_eq_decimal_iff hds noDigitHead_nil).mpr (by rw [spinesMaxNum] at hle; omega)
      rw [List.append_nil] at hread
      refine ⟨hread, ?_⟩
      rw [slotLimit]
      omega

/-- What becomes of a documented description that is read inside the buffer. -/
theorem Documented.parseNodeDesc_eq (h : Documented nodeDesc d chSlot number index)
    (hinside : ReadsInside nodeDesc) : ∃ nodeIndex : UInt8,
      parseNodeDesc nodeDesc = .ok (some ⟨d.systemType, d.systemSlotName, nodeIndex⟩) ∧
        (nodeIndex.toNat = index ↔ index < 256) := by
  obtain ⟨ds, rest, hds, rfl, hrest, rfl⟩ := h.text
  obtain ⟨parsed, hparsed⟩ := (parseNodeDesc_ok_iff _).mpr hinside
  have hstop : NoDigitHead rest := by
    rcases hrest with rfl | hzero
    · exact noDigitHead_nil
    · intro c hc
      rw [hzero] at hc
      cases hc
      rfl
  refine ⟨UInt8.ofInt (atoi (ds ++ rest)), ?_, hopOf_eq_decimal_iff hds hstop⟩
  rw [h.valid.parseNodeDesc, parseNodeIndex_cons, if_neg (by decide)] at hparsed ⊢
  split at hparsed
  · cases hparsed
  · next hpast => rw [if_neg hpast]

end Documented

namespace Fabric
variable {f : Fabric} {g g' : Grouping} {n : NodeRef} {k : Nat}

/-- What a round does to the external numbers. -/
def mellanoxExt (f : Fabric) (n : NodeRef) (ext : PortRef → Nat) (k : Nat) : PortRef → Nat :=
  match (f.node n).ports k with
  | none => ext
  | some p => if k ≤ 18 then setAt ext p k else ext

theorem mapMellanoxPort_eq (hk : k ∈ f.portNumbers n) : f.mapMellanoxPort n g k =
    .ok { g with extPortnum := f.mellanoxExt n g.extPortnum k } := by
  have hslot : f.slot n k = .ok ((f.node n).ports k) := by
    apply if_pos
    rw [portNumbers, List.mem_range'_1] at hk
    omega
  unfold mapMellanoxPort mellanoxExt
  rw [hslot, ok_bind]
  cases (f.node n).ports k with
  | none => rfl
  | some p =>
      dsimp only
      split <;> rfl

theorem mapMellanoxPorts_eq {ks : List Nat} (hks : ∀ k ∈ ks, k ∈ f.portNumbers n) :
    ks.foldlM (f.mapMellanoxPort n) g =
      .ok { g with extPortnum := ks.foldl (f.mellanoxExt n) g.extPortnum } := by
  induction ks generalizing g with
  | nil => rfl
  | cons k ks ih =>
      rw [List.foldlM_cons, mapMellanoxPort_eq (hks k List.mem_cons_self), ok_bind,
        ih fun j hj => hks j (List.mem_cons_of_mem k hj)]
      rfl

/-- The ports 1 to 18 have their own numbers after the loop, and other ports what they had. -/
theorem foldl_mellanoxExt (ks : List Nat) (ext : PortRef → Nat) (p : PortRef)
    (hslots : ∀ {j k p}, (f.node n).ports j = some p → (f.node n).ports k = some p → j = k) :
    (∀ k ∈ ks, k ≤ 18 → (f.node n).ports k = some p → ks.foldl (f.mellanoxExt n) ext p = k) ∧
      ((∀ k ∈ ks, k ≤ 18 → (f.node n).ports k ≠ some p) →
        ks.foldl (f.mellanoxExt n) ext p = ext p) := by
  have hround : ∀ (ext : PortRef → Nat) k, f.mellanoxExt n ext k p =
      if k ≤ 18 ∧ (f.node n).ports k = some p then k else ext p := by
    intro ext k
    unfold mellanoxExt
    cases hk : (f.node n).ports k with
    | none => simp
    | some q =>
        by_cases hle : k ≤ 18
        · simp [hle, setAt, eq_comm]
        · simp [hle]
  induction ks generalizing ext with
  | nil => exact ⟨fun _ hk => absurd hk List.not_mem_nil, fun _ => rfl⟩
  | cons j ks ih =>
      obtain ⟨hown, hother⟩ := ih (f.mellanoxExt n ext j)
      rw [List.foldl_cons]
      refine ⟨fun k hk hle hport => ?_, fun hnone => ?_⟩
      · by_cases hmem : k ∈ ks
        · exact hown k hmem hle hport
        · obtain rfl := (List.mem_cons.mp hk).resolve_right hmem
          rw [hother fun i hi _ hi' => hmem (hslots hport hi' ▸ hi), hround, if_pos ⟨hle, hport⟩]
      · rw [hother fun k hk => hnone k (List.mem_cons_of_mem j hk), hround,
          if_neg fun hj => hnone j List.mem_cons_self hj.1 hj.2]

/-- A switch whose record says what its description says. -/
structure Described (f : Fabric) (g g' : Grouping) (n : NodeRef) (d : DescHead)
    (slotType : ChassisSlotType) (number index : Nat) : Prop where
  chFound : (g'.ch n).chFound = true
  chSlot : (g'.ch n).chSlot = slotType
  chSlotnum : (g'.ch n).chSlotnum.toNat = number
  chAnafanum : (g'.ch n).chAnafanum.toNat = index
  chTypeStr : (g'.ch n).chTypeStr = d.systemType.take (chassisTypeSize - 1)
  linePorts : slotType = .lineCs → ∀ k p, 1 ≤ k → k ≤ 18 → k ≤ (f.node n).numports →
    (f.node n).ports k = some p → g'.extPortnum p = k
  otherPorts : ∀ p, (∀ k, 1 ≤ k → k ≤ 18 → k ≤ (f.node n).numports →
    slotType = .lineCs → (f.node n).ports k ≠ some p) → g'.extPortnum p = g.extPortnum p
  otherNodes : ∀ m, m ≠ n → g'.ch m = g.ch m

/-- `fill_mellanox_chassis_record` stays inside the description, follows a documented one, and
leaves the node and its ports alone otherwise. -/
def MellanoxExact (f : Fabric) (g : Grouping) (n : NodeRef) : Prop :=
  ∃ g', f.fillMellanoxChassisRecord g n = .ok g' ∧
    (∀ d chSlot number index, Documented (f.node n).nodedesc.bytes d chSlot number index →
      Described f g g' n d chSlot number index) ∧
    ((∀ d chSlot number index, ¬ Documented (f.node n).nodedesc.bytes d chSlot number index) →
      g' = g)

/-- The descriptions, and chip numbers before, that it is exact for. -/
structure MellanoxFine (nodeDesc : Bytes) (chAnafanum : UInt8) : Prop where
  inside : ReadsInside nodeDesc
  lettered : ∀ d : DescHead, d.Valid → ∀ tail, nodeDesc = d.bytes ++ 85 :: tail →
    slotOfName d.systemSlotName ≠ .unresolvedCs →
      ∃ d chSlot number index, Documented nodeDesc d chSlot number index
  unlettered : ∀ d : DescHead, d.Valid → ∀ tail, nodeDesc = d.bytes ++ 85 :: tail →
    slotOfName d.systemSlotName = .unresolvedCs → UInt8.ofInt (atoi tail) = chAnafanum
  index : ∀ d chSlot number index, Documented nodeDesc d chSlot number index → index < 256

section Fill
variable (hfound : (g.ch n).chFound = false) (hdev : (f.node n).devid = mlxDevidIs4)
include hfound hdev

theorem fillMellanox_error {fault : Fault}
    (h : parseNodeDesc (f.node n).nodedesc.bytes = .error fault) :
    f.fillMellanoxChassisRecord g n = .error fault := by
  unfold fillMellanoxChassisRecord
  rw [if_neg (by simp [hfound]), if_neg (not_not.mpr hdev), h]
  rfl

theorem fillMellanox_none (h : parseNodeDesc (f.node n).nodedesc.bytes = .ok none) :
    f.fillMellanoxChassisRecord g n = .ok g := by
  unfold fillMellanoxChassisRecord
  rw [if_neg (by simp [hfound]), if_neg (not_not.mpr hdev), h]
  rfl

theorem fillMellanox_unlettered {desc : MellanoxDesc}
    (h : parseNodeDesc (f.node n).nodedesc.bytes = .ok (some desc))
    (hslot : slotOfName desc.systemSlotName = .unresolvedCs) :
    f.fillMellanoxChassisRecord g n =
      .ok (g.modifyCh n fun info => { info with chAnafanum := desc.nodeIndex }) := by
  unfold fillMellanoxChassisRecord
  rw [if_neg (by simp [hfound]), if_neg (not_not.mpr hdev), h, ok_bind]
  exact if_pos hslot

theorem fillMellanox_lettered {desc : MellanoxDesc}
    (h : parseNodeDesc (f.node n).nodedesc.bytes = .ok (some desc))
    (hslot : slotOfName desc.systemSlotName ≠ .unresolvedCs) :
    f.fillMellanoxChassisRecord g n = f.setMellanoxSlot
      (g.modifyCh n fun info => { info with chAnafanum := desc.nodeIndex }) n desc := by
  unfold fillMellanoxChassisRecord
  rw [if_neg (by simp [hfound]), if_neg (not_not.mpr hdev), h, ok_bind]
  exact if_neg hslot

end Fill

/-- A board with a slot name is marked as found, whatever the slot. -/
theorem setMellanoxSlot_found (g : Grouping) (n : NodeRef) (desc : MellanoxDesc) :
    ∃ g', f.setMellanoxSlot g n desc = .ok g' ∧ (g'.ch n).chFound = true := by
  unfold setMellanoxSlot
  dsimp only
  split
  · exact ⟨_, rfl, by simp⟩
  · split
    · rw [mapMellanoxPorts_eq fun _ => id]
      exact ⟨_, rfl, by simp⟩
    · exact ⟨_, rfl, by simp⟩

/-- A board in a slot that there is. -/
theorem described_setMellanoxSlot {d : DescHead} {slotType : ChassisSlotType} {number : Nat}
    {nodeIndex : UInt8} (hnames : NamesSlot d.systemSlotName slotType number)
    (hslots : ∀ {j k p}, (f.node n).ports j = some p → (f.node n).ports k = some p → j = k) :
    ∃ g', f.setMellanoxSlot (g.modifyCh n fun info => { info with chAnafanum := nodeIndex }) n
        ⟨d.systemType, d.systemSlotName, nodeIndex⟩ = .ok g' ∧
      Described f g g' n d slotType number nodeIndex.toNat := by
  obtain ⟨hread, hlimit⟩ := hnames.number_eq
  unfold setMellanoxSlot
  dsimp only
  rw [hnames.slotOfName_eq, hread, if_neg hlimit]
  have hmem : ∀ {k}, k ∈ f.portNumbers n ↔ 1 ≤ k ∧ k ≤ (f.node n).numports := by
    intro k
    rw [portNumbers, List.mem_range'_1]
    omega
  split
  · next hline =>
      rw [mapMellanoxPorts_eq fun _ => id]
      refine ⟨_, rfl, ?_⟩
      have hports := fun p => foldl_mellanoxExt (f.portNumbers n) g.extPortnum p hslots
      constructor
      case linePorts =>
        intro _ k p hpos hle htop hport
        exact (hports p).1 k (hmem.mpr ⟨hpos, htop⟩) hle hport
      case otherPorts =>
        intro p hnone
        exact (hports p).2 fun k hk hle => hnone k (hmem.mp hk).1 hle (hmem.mp hk).2 hline
      case otherNodes =>
        intro m hm
        simp [hm]
      all_goals simp [hread]
  · next hline =>
      refine ⟨_, rfl, ?_⟩
      constructor
      case linePorts => exact fun h => absurd h hline
      case otherPorts => exact fun _ _ => rfl
      case otherNodes =>
        intro m hm
        simp [hm]
      all_goals simp [hread]

/-- The text behind a `U` that is read inside the buffer. -/
theorem parseNodeDesc_indexed {d : DescHead} {tail : Bytes} (hd : d.Valid)
    (hinside : ReadsInside (d.bytes ++ 85 :: tail)) : parseNodeDesc (d.bytes ++ 85 :: tail) =
      .ok (some ⟨d.systemType, d.systemSlotName, UInt8.ofInt (atoi tail)⟩) := by
  obtain ⟨parsed, hparsed⟩ := (parseNodeDesc_ok_iff _).mpr hinside
  rw [hd.parseNodeDesc, parseNodeIndex_cons, if_neg (by decide)] at hparsed ⊢
  split at hparsed
  · cases hparsed
  · next hpast => rw [if_neg hpast]

theorem modifyCh_eq_self {u : ChassisInfo → ChassisInfo} (h : u (g.ch n) = g.ch n) :
    g.modifyCh n u = g := by
  unfold Grouping.modifyCh
  rw [h, setAt_eq_update, Function.update_eq_self]

theorem MellanoxExact.fine (hfound : (g.ch n).chFound = false)
    (hdev : (f.node n).devid = mlxDevidIs4) (h : f.MellanoxExact g n) :
    MellanoxFine (f.node n).nodedesc.bytes (g.ch n).chAnafanum := by
  obtain ⟨g', hfill, hdescribed, hunchanged⟩ := h
  have hinside : ReadsInside (f.node n).nodedesc.bytes := by
    rw [← parseNodeDesc_ok_iff]
    cases hparse : parseNodeDesc (f.node n).nodedesc.bytes with
    | error fault =>
        rw [fillMellanox_error hfound hdev hparse] at hfill
        cases hfill
    | ok parsed => exact ⟨parsed, rfl⟩
  constructor
  case inside => exact hinside
  case lettered =>
    intro d hd tail htext hslot
    by_contra hnone
    have hsame : g' = g := hunchanged fun d' slotType number index hdoc =>
      hnone ⟨d', slotType, number, index, hdoc⟩
    have hparse := parseNodeDesc_indexed hd (htext ▸ hinside)
    rw [← htext] at hparse
    rw [fillMellanox_lettered hfound hdev hparse hslot] at hfill
    obtain ⟨g₁, hset, hmark⟩ := setMellanoxSlot_found (f := f)
      (g.modifyCh n fun info => { info with chAnafanum := UInt8.ofInt (atoi tail) }) n
      ⟨d.systemType, d.systemSlotName, UInt8.ofInt (atoi tail)⟩
    rw [hset] at hfill
    cases hfill
    rw [hsame, hfound] at hmark
    cases hmark
  case unlettered =>
    intro d hd tail htext hslot
    have hparse := parseNodeDesc_indexed hd (htext ▸ hinside)
    rw [← htext] at hparse
    rw [fillMellanox_unlettered hfound hdev hparse hslot] at hfill
    cases hfill
    have hsame := hunchanged fun d' slotType number index hdoc => by
      have hmark := (hdescribed d' slotType number index hdoc).chFound
      rw [Grouping.ch_modifyCh, if_pos rfl] at hmark
      exact absurd (hfound.symm.trans hmark) (by decide)
    have hchip := congrArg (fun g : Grouping => (g.ch n).chAnafanum) hsame
    simpa using hchip
  case index =>
    intro d slotType number index hdoc
    rw [← (hdescribed d slotType number index hdoc).chAnafanum]
    exact UInt8.toNat_lt _

theorem MellanoxFine.exact (hfound : (g.ch n).chFound = false)
    (hdev : (f.node n).devid = mlxDevidIs4)
    (hslots : ∀ {j k p}, (f.node n).ports j = some p → (f.node n).ports k = some p → j = k)
    (h : MellanoxFine (f.node n).nodedesc.bytes (g.ch n).chAnafanum) : f.MellanoxExact g n := by
  have hdoc : ∀ {d slotType number index},
      Documented (f.node n).nodedesc.bytes d slotType number index →
        ∃ g', f.fillMellanoxChassisRecord g n = .ok g' ∧
          Described f g g' n d slotType number index := by
    intro d slotType number index hd
    obtain ⟨nodeIndex, hparse, hindex⟩ := hd.parseNodeDesc_eq h.inside
    have hname : slotOfName d.systemSlotName ≠ .unresolvedCs := by
      rw [hd.names.slotOfName_eq]
      exact hd.names.known
    rw [fillMellanox_lettered hfound hdev hparse hname,
      ← hindex.mpr (h.index d slotType number index hd)]
    exact described_setMellanoxSlot hd.names hslots
  by_cases hform : ∃ d slotType number index,
      Documented (f.node n).nodedesc.bytes d slotType number index
  · obtain ⟨d, slotType, number, index, hd⟩ := hform
    obtain ⟨g', hfill, -⟩ := hdoc hd
    refine ⟨g', hfill, fun d' slotType' number' index' hd' => ?_, fun hnone =>
      absurd hd (hnone d slotType number index)⟩
    obtain ⟨g₁, hfill', hdescribed⟩ := hdoc hd'
    rw [hfill] at hfill'
    cases hfill'
    exact hdescribed
  · have hfill : f.fillMellanoxChassisRecord g n = .ok g := by
      rcases parseNodeDesc_cases (f.node n).nodedesc.bytes with ⟨d, hd, rest, htext⟩ | hno
      · obtain ⟨parsed, hparsed⟩ := (parseNodeDesc_ok_iff _).mpr h.inside
        cases rest with
        | nil =>
            rw [htext, hd.parseNodeDesc] at hparsed
            cases hparsed
        | cons c tail =>
            by_cases hc : c = 85
            · subst hc
              have hparse := parseNodeDesc_indexed hd (htext ▸ h.inside)
              rw [← htext] at hparse
              have hslot : slotOfName d.systemSlotName = .unresolvedCs := by
                by_contra hne
                exact hform (h.lettered d hd tail htext hne)
              rw [fillMellanox_unlettered hfound hdev hparse hslot, modifyCh_eq_self]
              rw [h.unlettered d hd tail htext hslot]
            · apply fillMellanox_none hfound hdev
              rw [htext, hd.parseNodeDesc, parseNodeIndex_cons, if_pos hc]
      · cases hno with
        | unsupported hnone => exact fillMellanox_none hfound hdev hnone
        | outside herror =>
            obtain ⟨parsed, hparsed⟩ := (parseNodeDesc_ok_iff _).mpr h.inside
            rw [herror] at hparsed
            cases hparsed
    exact ⟨g, hfill, fun d slotType number index hd =>
      absurd ⟨d, slotType, number, index, hd⟩ hform, fun _ => rfl⟩

/-- Which descriptions `fill_mellanox_chassis_record` is exact for. -/
theorem mellanoxExact_iff (hfound : (g.ch n).chFound = false)
    (hdev : (f.node n).devid = mlxDevidIs4)
    (hslots : ∀ {j k p}, (f.node n).ports j = some p → (f.node n).ports k = some p → j = k) :
    f.MellanoxExact g n ↔ MellanoxFine (f.node n).nodedesc.bytes (g.ch n).chAnafanum :=
  ⟨fun h => h.fine hfound hdev, fun h => h.exact hfound hdev hslots⟩

end Fabric
theorem slot_unique_boardNode {n numports j k : Nat} {info : SmpData} {nodedesc : Bytes}
    {p : PortRef} (hj : (boardNode n numports info nodedesc).ports j = some p)
    (hk : (boardNode n numports info nodedesc).ports k = some p) : j = k := by
  simp only [boardNode, Option.ite_none_right_eq_some, Option.some.injEq] at hj hk
  exact Nat.add_left_cancel (hj.2.trans hk.2.symm)

/-- An IS4 switch whose description starts like that of a board and has no NUL. -/
def unterminatedBoard : Fabric :=
  boardFabric [boardNode 0 18 (boardInfo mlxVendorId mlxDevidIs4 5) (mf0 ++ List.replicate 60 65)] []

theorem mellanoxExact_iff_unterminatedBoard :
    unterminatedBoard.MellanoxExact .blank 0 ↔
      Fabric.MellanoxFine (unterminatedBoard.node 0).nodedesc.bytes 0 :=
  Fabric.mellanoxExact_iff rfl (by decide +kernel) slot_unique_boardNode

/-- It is scanned past its end. -/
theorem not_mellanoxExact_unterminatedBoard :
    (unterminatedBoard.node 0).devid = mlxDevidIs4 ∧ (Grouping.blank.ch 0).chFound = false ∧
      unterminatedBoard.fillMellanoxChassisRecord .blank 0 = .error .outOfBounds ∧
      ¬ unterminatedBoard.MellanoxExact .blank 0 := by
  have hfault : unterminatedBoard.fillMellanoxChassisRecord .blank 0 = .error .outOfBounds :=
    faultOf_eq_some.mp (by decide +kernel)
  refine ⟨by decide +kernel, rfl, hfault, ?_⟩
  rintro ⟨g', hfill, -⟩
  rw [hfault] at hfill
  cases hfill

end InfinibandDiags
