import InfinibandDiags.Errors.Config
import InfinibandDiags.Library.Overwrite

/-! `vsnprint_field`, which prints a field as its name, a row of dots and a text, and when it keeps
to its buffer. -/
namespace InfinibandDiags

/-- Where printing a field leaves its buffer, or its sums the range of an `int`. -/
inductive LineFault
  | writePastBuffer
  | intOverflow
  | nullName
  deriving DecidableEq

def dot : UInt8 := 46

def writeAt (buf : Bytes) (i : Nat) (bytes : Bytes) : Except LineFault Bytes :=
  match Overwrite.write buf i bytes with
  | none => .error .writePastBuffer
  | some buf => .ok buf

/-- `strncpy(buf, name, n)` for a buffer of `n` bytes. -/
def strncpy (buf name : Bytes) : Except LineFault Bytes :=
  writeAt buf 0 ((name ++ List.replicate (buf.length - name.length) 0).take buf.length)

/-- The loop that writes a dot at each index from `i` on. -/
def dotLoop : Nat → Nat → Bytes → Except LineFault Bytes
  | 0, _, buf => .ok buf
  | turns + 1, i, buf => do
      let buf ← writeAt buf i [dot]
      dotLoop turns (i + 1) buf

/-- `vsnprintf(&buf[i], size, ...)`: what it returns is negative for a text of 2^31 bytes or more. -/
def vsnprintf (buf : Bytes) (i size : Nat) (text : Bytes) : Except LineFault (Int × Bytes) := do
  let buf ← if size = 0 then .ok buf else writeAt buf i (text.take (size - 1) ++ [0])
  .ok (if text.length < 2 ^ 31 then text.length else -1, buf)

/-- What is returned, and the buffer afterwards, whose length is `n`. -/
def vsnprintField (buf : Bytes) (f spacing : Nat) (text : CString) :
    Except LineFault (Int × Bytes) :=
  match madFieldName f with
  | none => .error .nullName
  | some name =>
      let name := nameBytes name
      let len := name.length
      let n := buf.length
      if len + 2 > n then .ok (0, buf)
      else if spacing + 1 ≥ 2 ^ 31 then .error .intOverflow
      else if spacing + 1 > n then .ok (0, buf)
      else do
        let buf ← strncpy buf name
        let buf ← writeAt buf len [colon]
        let buf ← dotLoop (spacing - len) (len + 1) buf
        let (ret, buf) ← vsnprintf buf (spacing + 1) (n - spacing) text.text
        -- a negative result is larger than any size when they are compared
        let buf ← if ret < 0 ∨ ret ≥ (n - spacing : Nat) then writeAt buf n [0] else .ok buf
        if ret + spacing ≥ 2 ^ 31 then .error .intOverflow else .ok (ret + spacing, buf)

/-- Name, colon, dots up to column `spacing` and text. -/
def fieldLine (name : Bytes) (spacing : Nat) (text : Bytes) : Bytes :=
  name ++ [colon] ++ List.replicate (spacing - name.length) dot ++ text

/-- Nothing is written outside the buffer, and after a positive result the line stands in it, cut to
fit, with a NUL behind it. -/
def LineExact (buf : Bytes) (f spacing : Nat) (text : CString) (name : Bytes) : Prop :=
  ∃ ret buf', vsnprintField buf f spacing text = .ok (ret, buf') ∧ buf'.length = buf.length ∧
    (0 < ret → ((fieldLine name spacing text.text).take (buf.length - 1) ++ [0]) <+: buf')

/-- The text goes on as the name and the colon do that it overwrites, up to the end of the
buffer. -/
def Continues (n : Nat) (name : Bytes) (spacing : Nat) (text : Bytes) : Prop :=
  n = spacing + text.length + 2 ∧ text <+: name.drop (spacing + 1) ++ [colon] ++ text

/-- Either nothing is printed, or the text ends before the last byte of the buffer and begins behind
the colon. -/
def LineFits (n : Nat) (name : Bytes) (spacing : Nat) (text : Bytes) : Prop :=
  n < name.length + 2 ∨ spacing + 1 < 2 ^ 31 ∧
    (n < spacing + 1 ∨ spacing + text.length + 2 ≤ n ∧ spacing + text.length < 2 ^ 31 ∧
      (0 < spacing + text.length → name.length ≤ spacing ∨ Continues n name spacing text))

section Writes
variable {buf front old back bytes : Bytes} {i k : Nat}

theorem writeAt_append (h : old.length = bytes.length) (hi : front.length = i) :
    writeAt (front ++ old ++ back) i bytes = .ok (front ++ bytes ++ back) := by
  rw [writeAt, ← hi, Overwrite.write_append h]

theorem writeAt_past (h : buf.length < i + bytes.length) :
    writeAt buf i bytes = .error .writePastBuffer := by
  rw [writeAt, Overwrite.write_eq_none.mpr h]

/-- The dots take the place of as many bytes. -/
theorem dotLoop_append (h : old.length = k) (hi : front.length = i) :
    dotLoop k i (front ++ old ++ back) = .ok (front ++ List.replicate k dot ++ back) := by
  induction k generalizing front old i with
  | zero =>
      rw [List.length_eq_zero_iff.mp h]
      rfl
  | succ k ih =>
      obtain ⟨b, old, rfl⟩ := List.exists_cons_of_length_eq_add_one h
      have hstep : writeAt (front ++ (b :: old) ++ back) i [dot] =
          .ok (front ++ [dot] ++ old ++ back) := by
        have hwrite : writeAt (front ++ [b] ++ (old ++ back)) i [dot] = _ := writeAt_append rfl hi
        simpa only [List.append_assoc, List.cons_append, List.nil_append] using hwrite
      have hold : old.length = k := Nat.succ_inj.mp h
      have hfront : (front ++ [dot]).length = i + 1 := by
        rw [List.length_append, hi, List.length_singleton]
      rw [dotLoop, hstep, ok_bind, ih hold hfront, List.replicate_succ, List.append_assoc front,
        List.singleton_append]

end Writes

section Lines
variable {buf : Bytes} {f spacing : Nat} {text : CString} {name : String}

/-- What stands in the buffer before the text. -/
def lineHead (n : Nat) (name : Bytes) (spacing : Nat) : Bytes :=
  name ++ [colon] ++ List.replicate (spacing - name.length) dot ++
    List.replicate (n - name.length - 1 - (spacing - name.length)) 0

theorem strncpy_eq {bytes : Bytes} (hroom : bytes.length ≤ buf.length) :
    strncpy buf bytes = .ok (bytes ++ List.replicate (buf.length - bytes.length) 0) := by
  have hlen : (bytes ++ List.replicate (buf.length - bytes.length) (0 : UInt8)).length =
      buf.length := by
    rw [List.length_append, List.length_replicate]
    omega
  have hwrite : writeAt ([] ++ buf ++ []) 0
      (bytes ++ List.replicate (buf.length - bytes.length) (0 : UInt8)) = _ :=
    writeAt_append hlen.symm rfl
  rw [List.nil_append, List.append_nil, List.nil_append, List.append_nil] at hwrite
  rw [strncpy, List.take_of_length_le (Nat.le_of_eq hlen)]
  exact hwrite

/-- From a line that is printed, up to its text. -/
theorem vsnprintField_head (hname : madFieldName f = some name)
    (hroom : (nameBytes name).length + 2 ≤ buf.length) (hint : spacing + 1 < 2 ^ 31)
    (hspacing : spacing + 1 ≤ buf.length) :
    vsnprintField buf f spacing text = (do
      let (ret, line) ← vsnprintf (lineHead buf.length (nameBytes name) spacing) (spacing + 1)
        (buf.length - spacing) text.text
      let line ← if ret < 0 ∨ ret ≥ (buf.length - spacing : Nat) then writeAt line buf.length [0]
        else .ok line
      if ret + spacing ≥ 2 ^ 31 then .error .intOverflow else .ok (ret + spacing, line)) := by
  have hzeros : List.replicate (buf.length - (nameBytes name).length) (0 : UInt8) =
      [0] ++ (List.replicate (spacing - (nameBytes name).length) 0 ++
        List.replicate (buf.length - (nameBytes name).length - 1 -
          (spacing - (nameBytes name).length)) 0) := by
    rw [← List.replicate_one, List.replicate_append_replicate, List.replicate_append_replicate]
    congr 1
    omega
  have hone : ([0] : Bytes).length = [colon].length := rfl
  have hcopy : strncpy buf (nameBytes name) = _ := strncpy_eq (by omega)
  have hcolon : writeAt (nameBytes name ++ [0] ++ (List.replicate
      (spacing - (nameBytes name).length) 0 ++ List.replicate (buf.length -
        (nameBytes name).length - 1 - (spacing - (nameBytes name).length)) 0))
      (nameBytes name).length [colon] = _ :=
    (writeAt_append hone rfl).trans (congrArg Except.ok (List.append_assoc _ _ _).symm)
  have hdots : dotLoop (spacing - (nameBytes name).length) ((nameBytes name).length + 1)
      (nameBytes name ++ [colon] ++ List.replicate (spacing - (nameBytes name).length) 0 ++
        List.replicate (buf.length - (nameBytes name).length - 1 -
          (spacing - (nameBytes name).length)) 0) = _ :=
    dotLoop_append List.length_replicate (by rw [List.length_append, List.length_singleton])
  rw [hzeros, ← List.append_assoc] at hcopy
  unfold vsnprintField lineHead
  rw [hname]
  dsimp only
  rw [if_neg (by omega), if_neg (by omega), if_neg (by omega), hcopy, ok_bind, hcolon, ok_bind,
    hdots, ok_bind]

/-- The line begins where both bounds on its length hold. -/
theorem lineHead_length {n : Nat} {bytes : Bytes} (hroom : bytes.length + 2 ≤ n)
    (hspacing : spacing + 1 ≤ n) : (lineHead n bytes spacing).length = n := by
  simp only [lineHead, List.length_append, List.length_singleton, List.length_replicate]
  omega

theorem writeAt_within {line bytes : Bytes} {i : Nat} (h : i + bytes.length ≤ line.length) :
    writeAt line i bytes = .ok (line.take i ++ bytes ++ line.drop (i + bytes.length)) := by
  rw [writeAt, Overwrite.write, if_pos h]

/-- The text keeps to the buffer where it ends before the last byte. -/
theorem vsnprintf_fits {line : Bytes} (hfits : spacing + text.text.length + 2 ≤ line.length) :
    vsnprintf line (spacing + 1) (line.length - spacing) text.text =
      .ok (if text.text.length < 2 ^ 31 then text.text.length else -1,
        line.take (spacing + 1) ++ (text.text ++ [0]) ++
          line.drop (spacing + text.text.length + 2)) := by
  have hwhole : text.text.take (line.length - spacing - 1) = text.text :=
    List.take_of_length_le (by omega)
  have hlen : (text.text ++ [(0 : UInt8)]).length = text.text.length + 1 := by
    rw [List.length_append, List.length_singleton]
  have hend : spacing + 1 + (text.text.length + 1) = spacing + text.text.length + 2 := by omega
  rw [vsnprintf, if_neg (by omega), hwhole, writeAt_within (by omega), ok_bind, hlen, hend]

/-- The size given to `vsnprintf` is one more than what is left from where it starts. -/
theorem vsnprintf_past {line : Bytes} (hspacing : spacing + 1 ≤ line.length)
    (hlong : line.length < spacing + text.text.length + 2) :
    vsnprintf line (spacing + 1) (line.length - spacing) text.text =
      .error .writePastBuffer := by
  have hlen : (text.text.take (line.length - spacing - 1) ++ [(0 : UInt8)]).length =
      line.length - spacing := by
    rw [List.length_append, List.length_take, List.length_singleton]
    omega
  rw [vsnprintf, if_neg (by omega), writeAt_past (by omega)]
  rfl

/-- From a line that is printed, all three ways to go wrong. -/
theorem vsnprintField_eq (hname : madFieldName f = some name)
    (hroom : (nameBytes name).length + 2 ≤ buf.length) (hint : spacing + 1 < 2 ^ 31)
    (hspacing : spacing + 1 ≤ buf.length) :
    vsnprintField buf f spacing text =
      if buf.length < spacing + text.text.length + 2 ∨ 2 ^ 31 ≤ text.text.length then
        .error .writePastBuffer
      else if 2 ^ 31 ≤ text.text.length + spacing then .error .intOverflow
      else .ok (text.text.length + spacing,
        (lineHead buf.length (nameBytes name) spacing).take (spacing + 1) ++ (text.text ++ [0]) ++
          (lineHead buf.length (nameBytes name) spacing).drop
            (spacing + text.text.length + 2)) := by
  have hhead := lineHead_length hroom hspacing
  rw [vsnprintField_head hname hroom hint hspacing]
  generalize lineHead buf.length (nameBytes name) spacing = line at hhead ⊢
  rw [← hhead] at hspacing ⊢
  by_cases hlong : line.length < spacing + text.text.length + 2
  · rw [if_pos (.inl hlong), vsnprintf_past hspacing hlong]
    rfl
  · rw [vsnprintf_fits (Nat.not_lt.mp hlong), ok_bind]
    dsimp only
    by_cases hret : text.text.length < 2 ^ 31
    · rw [if_neg (by omega), if_pos hret, if_neg (by omega), ok_bind]
      by_cases hsum : 2 ^ 31 ≤ text.text.length + spacing
      · rw [if_pos (by omega), if_pos hsum]
      · rw [if_neg (by omega), if_neg hsum]
    · have hbad : line.length < spacing + text.text.length + 2 ∨ 2 ^ 31 ≤ text.text.length :=
        .inr (Nat.not_lt.mp hret)
      have hneg : (-1 : Int) < 0 ∨ (-1 : Int) ≥ (line.length - spacing : Nat) :=
        .inl (by decide)
      rw [if_pos hbad, if_neg hret, if_pos hneg, writeAt_past]
      · rfl
      · simp only [List.length_append, List.length_take, List.length_drop, List.length_singleton]
        omega

end Lines

section Shown

/-- A text ends at its first NUL. -/
theorem terminated_isPrefix {a b rest : Bytes} (ha : 0 ∉ a) (hb : 0 ∉ b) :
    (a ++ [0]) <+: (b ++ [0] ++ rest) ↔ a = b := by
  constructor
  · intro h
    induction a generalizing b with
    | nil =>
        cases b with
        | nil => rfl
        | cons c b => simp_all
    | cons c a ih =>
        cases b with
        | nil => simp_all
        | cons d b =>
            rw [List.cons_append, List.cons_append, List.cons_append,
              List.cons_prefix_cons] at h
            rw [List.mem_cons, not_or] at ha hb
            rw [h.1, ih ha.2 hb.2 h.2]
  · intro h
    rw [h]
    exact List.prefix_append _ _

/-- The first byte that a character is stored as tells how many follow. -/
theorem utf8EncodeChar_ascii {c : Char} (h : ∀ b ∈ String.utf8EncodeChar c, b < 128) :
    String.utf8EncodeChar c = [UInt8.ofNat c.toNat] := by
  have hlead : ∀ v, v < 64 → ¬ UInt8.ofNat (v + 0xc0) < 128 := by decide
  refine if_pos (not_lt.mp fun hlarge => ?_)
  unfold String.utf8EncodeChar at h
  dsimp only at h
  rw [if_neg (Nat.not_le.mpr hlarge)] at h
  split at h
  · exact hlead (c.val.toNat / 64 % 0x20) (by omega) (h _ List.mem_cons_self)
  · split at h
    · exact hlead (c.val.toNat / 4096 % 0x10 + 0x20) (by omega) (h _ List.mem_cons_self)
    · exact hlead (c.val.toNat / 262144 % 0x08 + 0x30) (by omega) (h _ List.mem_cons_self)

/-- The bytes of a name as the string holds them, which are fast to evaluate. -/
theorem nameBytes_ascii {name : String} (h : ∀ b ∈ name.toByteArray.data.toList, b < 128) :
    nameBytes name = name.toByteArray.data.toList := by
  have hencode : name.toByteArray.data.toList = name.toList.flatMap String.utf8EncodeChar := by
    rw [← String.utf8Encode_toList]
    simp [List.utf8Encode]
  rw [hencode] at h ⊢
  rw [nameBytes]
  generalize name.toList = chars at h
  induction chars with
  | nil => rfl
  | cons c chars ih =>
      rw [List.flatMap_cons] at h ⊢
      rw [List.map_cons, ih fun b hb => h b (List.mem_append_right _ hb),
        utf8EncodeChar_ascii fun b hb => h b (List.mem_append_left _ hb), List.singleton_append]

theorem madFieldName_noNul {f : Nat} {name : String} (hname : madFieldName f = some name) :
    0 ∉ nameBytes name := by
  have hall : ∀ e ∈ reserved :: ibMadTableParts.flatten,
      (e.name.toByteArray.data.toList.all fun b => b < 128 && b != 0) = true := by
    decide +kernel
  have hentry : ∀ e ∈ reserved :: ibMadTableParts.flatten, 0 ∉ nameBytes e.name := by
    intro e he hnul
    have hbytes : ∀ b ∈ e.name.toByteArray.data.toList, b < 128 ∧ b ≠ 0 := fun b hb => by
      have hb := List.all_eq_true.mp (hall e he) b hb
      simpa only [Bool.and_eq_true, decide_eq_true_eq, bne_iff_ne] using hb
    rw [nameBytes_ascii fun b hb => (hbytes b hb).1] at hnul
    exact (hbytes 0 hnul).2 rfl
  rw [madFieldName_parts] at hname
  split at hname
  · cases hname
  · cases hname
    by_cases hf : f < (reserved :: ibMadTableParts.flatten).length
    · rw [List.getD_eq_getElem _ _ hf]
      exact hentry _ (List.getElem_mem hf)
    · rw [List.getD_eq_default _ _ (Nat.not_lt.mp hf)]
      exact hentry _ List.mem_cons_self

variable {buf name text : Bytes} {n spacing : Nat}

/-- In front of the text of a name that ends before its column. -/
theorem lineHead_take (hcolumn : name.length ≤ spacing) :
    (lineHead n name spacing).take (spacing + 1) =
      name ++ [colon] ++ List.replicate (spacing - name.length) dot := by
  apply List.take_left'
  simp only [List.length_append, List.length_singleton, List.length_replicate]
  omega

theorem lineHead_take_long (hcolumn : spacing < name.length) :
    (lineHead n name spacing).take (spacing + 1) = name.take (spacing + 1) := by
  rw [lineHead, List.append_assoc, List.append_assoc, List.take_append_of_le_length hcolumn]

theorem fieldLine_noNul (hname : 0 ∉ name) (htext : 0 ∉ text) :
    0 ∉ fieldLine name spacing text := by
  simp [fieldLine, hname, htext, colon, dot]

/-- A name that goes on behind its column is overwritten by the text. -/
theorem overwritten_iff (hcolumn : spacing < name.length) (hfits : spacing + text.length + 2 ≤ n) :
    (fieldLine name spacing text).take (n - 1) = name.take (spacing + 1) ++ text ↔
      Continues n name spacing text := by
  have hline : fieldLine name spacing text = name ++ [colon] ++ text := by
    rw [fieldLine, Nat.sub_eq_zero_of_le hcolumn.le, List.replicate_zero, List.append_nil]
  have hcut : (name ++ [colon] ++ text).take (spacing + 1 + text.length) =
      name.take (spacing + 1) ++ (name.drop (spacing + 1) ++ [colon] ++ text).take text.length := by
    rw [List.take_add, List.append_assoc, List.take_append_of_le_length hcolumn,
      List.drop_append_of_le_length hcolumn, List.append_assoc]
  rw [hline, Continues]
  constructor
  · intro h
    have hlen : min (n - 1) (name.length + 1 + text.length) = spacing + 1 + text.length := by
      have := congrArg List.length h
      simpa only [List.length_take, List.length_append, List.length_singleton,
        Nat.min_eq_left (Nat.succ_le_of_lt hcolumn)] using this
    have hn : n = spacing + text.length + 2 := by omega
    refine ⟨hn, List.prefix_iff_eq_take.mpr ?_⟩
    rw [show n - 1 = spacing + 1 + text.length by omega, hcut] at h
    exact (List.append_cancel_left h).symm
  · intro ⟨hn, htext⟩
    rw [show n - 1 = spacing + 1 + text.length by omega, hcut,
      ← List.prefix_iff_eq_take.mp htext]

/-- What stands in the buffer when the text kept to it. -/
theorem shown_iff {rest : Bytes} (hname : 0 ∉ name) (htext : 0 ∉ text)
    (hfits : spacing + text.length + 2 ≤ n) :
    ((fieldLine name spacing text).take (n - 1) ++ [0]) <+:
        ((lineHead n name spacing).take (spacing + 1) ++ (text ++ [0]) ++ rest) ↔
      name.length ≤ spacing ∨ Continues n name spacing text := by
  have hline : 0 ∉ (fieldLine name spacing text).take (n - 1) := fun h =>
    fieldLine_noNul hname htext (List.mem_of_mem_take h)
  rw [← List.append_assoc]
  by_cases hcolumn : name.length ≤ spacing
  · have hall : (fieldLine name spacing text).take (n - 1) = fieldLine name spacing text := by
      apply List.take_of_length_le
      simp only [fieldLine, List.length_append, List.length_singleton, List.length_replicate]
      omega
    rw [hall] at hline ⊢
    rw [lineHead_take hcolumn]
    exact iff_of_true ((terminated_isPrefix hline hline).mpr rfl) (.inl hcolumn)
  · have hlong := Nat.not_le.mp hcolumn
    have hshown : 0 ∉ name.take (spacing + 1) ++ text := by
      rw [List.mem_append, not_or]
      exact ⟨fun h => hname (List.mem_of_mem_take h), htext⟩
    rw [lineHead_take_long hlong, terminated_isPrefix hline hshown, overwritten_iff hlong hfits,
      or_iff_right hcolumn]

end Shown

section Exact
variable {buf : Bytes} {f spacing : Nat} {text : CString} {name : String}

theorem vsnprintField_nothing (hname : madFieldName f = some name)
    (h : buf.length < (nameBytes name).length + 2 ∨
      spacing + 1 < 2 ^ 31 ∧ buf.length < spacing + 1) :
    vsnprintField buf f spacing text = .ok (0, buf) := by
  unfold vsnprintField
  rw [hname]
  dsimp only
  by_cases hroom : buf.length < (nameBytes name).length + 2
  · exact if_pos hroom
  · obtain ⟨hint, hspacing⟩ := h.resolve_left hroom
    rw [if_neg hroom, if_neg (Nat.not_le.mpr hint), if_pos hspacing]

theorem vsnprintField_overflow (hname : madFieldName f = some name)
    (hroom : ¬ buf.length < (nameBytes name).length + 2) (hint : ¬ spacing + 1 < 2 ^ 31) :
    vsnprintField buf f spacing text = .error .intOverflow := by
  unfold vsnprintField
  rw [hname]
  dsimp only
  rw [if_neg hroom, if_pos (Nat.not_lt.mp hint)]

/-- Nothing is said of a buffer in which no line was written. -/
theorem lineExact_nothing {bytes : Bytes}
    (h : vsnprintField buf f spacing text = .ok (0, buf)) : LineExact buf f spacing text bytes :=
  ⟨0, buf, h, rfl, fun hpos => absurd hpos (by decide)⟩

/-- A line that is printed keeps to its buffer and its range, and its text begins where it should. -/
theorem lineExact_printed (hname : madFieldName f = some name)
    (hroom : (nameBytes name).length + 2 ≤ buf.length) (hint : spacing + 1 < 2 ^ 31)
    (hspacing : spacing + 1 ≤ buf.length) :
    LineExact buf f spacing text (nameBytes name) ↔
      spacing + text.text.length + 2 ≤ buf.length ∧ spacing + text.text.length < 2 ^ 31 ∧
        (0 < spacing + text.text.length → (nameBytes name).length ≤ spacing ∨
          Continues buf.length (nameBytes name) spacing text.text) := by
  rw [LineExact, vsnprintField_eq hname hroom hint hspacing]
  have hhead := lineHead_length hroom hspacing
  constructor
  · intro ⟨ret, line, hline, hlen, hshown⟩
    split at hline
    · cases hline
    · next hwithin =>
        rw [not_or, Nat.not_lt] at hwithin
        split at hline
        · cases hline
        · next hsum =>
            cases hline
            refine ⟨hwithin.1, by omega, fun hpos => ?_⟩
            exact (shown_iff (madFieldName_noNul hname) text.noNul hwithin.1).mp
              (hshown (by omega))
  · intro ⟨hfits, hsum, hshown⟩
    rw [if_neg (by omega), if_neg (by omega)]
    refine ⟨_, _, rfl, ?_, fun hpos => ?_⟩
    · simp only [List.length_append, List.length_take, List.length_drop, hhead,
        List.length_singleton]
      omega
    · exact (shown_iff (madFieldName_noNul hname) text.noNul hfits).mpr (hshown (by omega))

theorem lineExact_iff (hname : madFieldName f = some name) :
    LineExact buf f spacing text (nameBytes name) ↔
      LineFits buf.length (nameBytes name) spacing text.text := by
  by_cases hroom : buf.length < (nameBytes name).length + 2
  · exact iff_of_true (lineExact_nothing (vsnprintField_nothing hname (.inl hroom))) (.inl hroom)
  rw [LineFits, or_iff_right hroom]
  by_cases hint : spacing + 1 < 2 ^ 31
  · rw [and_iff_right hint]
    by_cases hspacing : buf.length < spacing + 1
    · exact iff_of_true
        (lineExact_nothing (vsnprintField_nothing hname (.inr ⟨hint, hspacing⟩))) (.inl hspacing)
    · rw [or_iff_right hspacing]
      exact lineExact_printed hname (Nat.not_lt.mp hroom) hint (Nat.not_lt.mp hspacing)
  · refine iff_of_false (fun ⟨ret, line, h, _⟩ => ?_) (fun h => hint h.1)
    rw [vsnprintField_overflow hname hroom hint] at h
    cases h

/-- The GID prefix behind a column of sixteen, with a text of two bytes in a buffer of twenty. -/
theorem lineExact_iff_gidPrefix :
    madFieldName 1 = some "GidPrefix" ∧
      LineExact (List.replicate 20 0) 1 16 ⟨[48, 49], by decide⟩ (nameBytes "GidPrefix") :=
  have hname : madFieldName 1 = some "GidPrefix" := by decide +kernel
  ⟨hname, (lineExact_iff hname).mpr (.inr ⟨by decide, .inr ⟨by decide, by decide, fun _ =>
    .inl (by decide)⟩⟩)⟩

/-- A text of one byte that would end in the last byte of the buffer is printed with its NUL behind
the buffer. -/
theorem lastByte_past :
    ¬ ∀ (buf : Bytes) (f spacing : Nat) (text : CString) (name : String),
      madFieldName f = some name → 1 ≤ buf.length →
        LineExact buf f spacing text (nameBytes name) := fun hall => by
  have hname : madFieldName 1 = some "GidPrefix" := by decide +kernel
  obtain ⟨ret, line, h, _⟩ := hall (List.replicate 18 0) 1 16 ⟨[48], by decide⟩ _ hname (by decide)
  have hfault : vsnprintField (List.replicate 18 0) 1 16 ⟨[48], by decide⟩ =
      .error .writePastBuffer := by
    decide +kernel
  rw [hfault] at h
  cases h

end Exact

end InfinibandDiags
