import InfinibandDiags.Chassis.Exclusive

/-! The indices with which `group_nodes` goes into `linenode` and `spinenode`. -/
namespace InfinibandDiags
open Folds

/-- The slots that a chassis is documented to have. -/
def Slot.IsNumbered : Slot → Prop
  | .line i => 1 ≤ i ∧ i ≤ linesMaxNum
  | .spine i => 1 ≤ i ∧ i ≤ spinesMaxNum

/-- A slot of a kind that `insert_mellanox_line_and_spine` knows. -/
def ChassisSlotType.slot : ChassisSlotType → Nat → Option Slot
  | .lineCs, i => some (.line i)
  | .spineCs, i => some (.spine i)
  | _, _ => none

theorem ChassisSlotType.slot_eq_none {chSlot : ChassisSlotType} (h : chSlot = .unresolvedCs)
    (i : Nat) : chSlot.slot i = none := by
  rw [h]
  rfl

/-- The slot that `insert_mellanox_line_and_spine` looks into. -/
def ChassisInfo.mellanoxSlot (info : ChassisInfo) : Option Slot :=
  info.chSlot.slot info.chSlotnum.toNat

/-- The number in a slot name. -/
def slotNumber (systemSlotName : Bytes) : Nat := (UInt8.ofInt (atoi systemSlotName.tail)).toNat

/-- The slot that the node description of an IS4 switch names. -/
def boardSlot (node : Node) : Option Slot :=
  if node.devid ≠ mlxDevidIs4 then none
  else match parseNodeDesc node.nodedesc.bytes with
    | .ok (some desc) => (slotOfName desc.systemSlotName).slot (slotNumber desc.systemSlotName)
    | _ => none

/-- A number past the limit is replaced by 0. -/
def Slot.marked : Slot → Slot
  | .line i => .line (if linesMaxNum + 1 < i then 0 else i)
  | .spine i => .spine (if spinesMaxNum + 1 < i then 0 else i)

theorem ChassisSlotType.slot_marked (chSlot : ChassisSlotType) (i : Nat) :
    (chSlot.slot i).map Slot.marked = chSlot.slot (if slotLimit chSlot < i then 0 else i) := by
  cases chSlot <;> rfl

/-- The limit is one too high, and 0 is a number like any other. -/
theorem Slot.isNumbered_marked {s : Slot} : s.marked.IsNumbered ↔ s.IsNumbered := by
  cases s with
  | line i =>
      unfold marked IsNumbered
      dsimp only
      split <;> omega
  | spine i =>
      unfold marked IsNumbered
      dsimp only
      split <;> omega

namespace Fabric
variable {f : Fabric} {g g' : Grouping} {n m : NodeRef} {c : ChassisRef} {k : Nat} {p : PortRef}

theorem insertMellanox_none (h : (g.ch n).mellanoxSlot = none) :
    insertMellanoxLineAndSpine g n c = .ok g := by
  unfold ChassisInfo.mellanoxSlot at h
  unfold insertMellanoxLineAndSpine
  dsimp only
  cases hslot : (g.ch n).chSlot with
  | lineCs =>
      rw [hslot] at h
      cases h
  | spineCs =>
      rw [hslot] at h
      cases h
  | unresolvedCs => rfl
  | srbdCs => rfl

/-- The slot is looked into, or is outside of the array. -/
theorem insertMellanox_some {s : Slot} (h : (g.ch n).mellanoxSlot = some s) :
    (s.InRange ∧ insertMellanoxLineAndSpine g n c = .ok (g.insert n c s)) ∨
      (¬ s.InRange ∧ insertMellanoxLineAndSpine g n c = .error .outOfBounds) := by
  unfold ChassisInfo.mellanoxSlot at h
  unfold insertMellanoxLineAndSpine slotIndex
  dsimp only
  cases hslot : (g.ch n).chSlot with
  | lineCs =>
      rw [hslot] at h
      cases h
      by_cases hlt : (g.ch n).chSlotnum.toNat < linesMaxNum + 1
      · exact .inl ⟨Nat.le_of_lt_succ hlt, by dsimp only; rw [if_pos hlt, ok_bind]⟩
      · exact .inr ⟨fun hle => hlt (Nat.lt_succ_of_le hle), by dsimp only; rw [if_neg hlt]; rfl⟩
  | spineCs =>
      rw [hslot] at h
      cases h
      by_cases hlt : (g.ch n).chSlotnum.toNat < spinesMaxNum + 1
      · exact .inl ⟨Nat.le_of_lt_succ hlt, by dsimp only; rw [if_pos hlt, ok_bind]⟩
      · exact .inr ⟨fun hle => hlt (Nat.lt_succ_of_le hle), by dsimp only; rw [if_neg hlt]; rfl⟩
  | unresolvedCs =>
      rw [hslot] at h
      cases h
  | srbdCs =>
      rw [hslot] at h
      cases h

section Records

theorem ch_mapMellanoxPort (hround : f.mapMellanoxPort n g k = .ok g') : g'.ch = g.ch := by
  unfold mapMellanoxPort at hround
  obtain ⟨port, -, hround⟩ := bind_eq_ok.mp hround
  split at hround
  · cases hround
    rfl
  · cases hround
    split <;> rfl

theorem ch_mapMellanoxPorts {ks : List Nat}
    (hloop : ks.foldlM (f.mapMellanoxPort n) g = .ok g') : g'.ch = g.ch := by
  apply foldlM_invariant (P := fun s => s.ch = g.ch) ?_ hloop rfl
  exact fun k _ s s' hs hk => (ch_mapMellanoxPort hk).trans hs

theorem ch_setMellanoxSlot {desc : MellanoxDesc} (hset : f.setMellanoxSlot g n desc = .ok g') :
    (g'.ch n).mellanoxSlot = ((slotOfName desc.systemSlotName).slot
        (slotNumber desc.systemSlotName)).map Slot.marked ∧
      ∀ m, m ≠ n → g'.ch m = g.ch m := by
  rw [ChassisSlotType.slot_marked, slotNumber]
  unfold setMellanoxSlot at hset
  dsimp only at hset
  split at hset
  · next hlimit =>
      cases hset
      refine ⟨?_, fun m hm => by simp [hm]⟩
      rw [if_pos hlimit]
      simp [ChassisInfo.mellanoxSlot]
  · next hlimit =>
      have hch : g'.ch = ((g.modifyCh n fun info =>
          { info with chFound := true, chSlot := slotOfName desc.systemSlotName }).modifyCh n
            fun info => { info with
              chSlotnum := UInt8.ofInt (atoi desc.systemSlotName.tail)
              chTypeStr := desc.systemType.take (chassisTypeSize - 1) }).ch := by
        split at hset
        · exact ch_mapMellanoxPorts hset
        · cases hset
          rfl
      rw [hch, if_neg hlimit]
      exact ⟨by simp [ChassisInfo.mellanoxSlot], fun m hm => by simp [hm]⟩

theorem ch_fillMellanox (hnot : (g.ch n).chFound = false)
    (hquiet : (g.ch n).chSlot = .unresolvedCs)
    (hfill : f.fillMellanoxChassisRecord g n = .ok g') :
    (g'.ch n).mellanoxSlot = (boardSlot (f.node n)).map Slot.marked ∧
      ∀ m, m ≠ n → g'.ch m = g.ch m := by
  have hnone : ∀ g : Grouping, (g.ch n).chSlot = .unresolvedCs →
      (g.ch n).mellanoxSlot = none := fun g h => ChassisSlotType.slot_eq_none h _
  unfold fillMellanoxChassisRecord at hfill
  unfold boardSlot
  rw [if_neg (by simp [hnot])] at hfill
  by_cases hdev : (f.node n).devid ≠ mlxDevidIs4
  · rw [if_pos hdev] at hfill ⊢
    cases hfill
    exact ⟨hnone g hquiet, fun _ _ => rfl⟩
  · rw [if_neg hdev] at hfill ⊢
    obtain ⟨parsed, hparsed, hfill⟩ := bind_eq_ok.mp hfill
    rw [hparsed]
    cases parsed with
    | none =>
        cases hfill
        exact ⟨hnone g hquiet, fun _ _ => rfl⟩
    | some desc =>
        dsimp only at hfill ⊢
        by_cases hslot : slotOfName desc.systemSlotName = .unresolvedCs
        · rw [if_pos hslot] at hfill
          cases hfill
          refine ⟨?_, fun m hm => by simp [hm]⟩
          rw [ChassisSlotType.slot_eq_none hslot, hnone]
          · rfl
          · simpa using hquiet
        · rw [if_neg hslot] at hfill
          obtain ⟨hn, hother⟩ := ch_setMellanoxSlot hfill
          exact ⟨hn, fun m hm => (hother m hm).trans (by simp [hm])⟩

/-- What the first pass does for other nodes: the record of a Mellanox node stays, or the node is
a router of a Voltaire chassis now. -/
def KeepsMellanox (f : Fabric) (g g' : Grouping) : Prop :=
  ∀ m, (f.node m).vendid = mlxVendorId → g'.ch m = g.ch m ∨
    ((f.node m).type ≠ ibNodeSwitch ∧ (g'.ch m).chSlot = .srbdCs)

theorem KeepsMellanox.refl (f : Fabric) (g : Grouping) : KeepsMellanox f g g := fun _ _ => .inl rfl

theorem KeepsMellanox.trans {g₁ g₂ g₃ : Grouping} (h₁ : KeepsMellanox f g₁ g₂)
    (h₂ : KeepsMellanox f g₂ g₃) : KeepsMellanox f g₁ g₃ := by
  intro m hm
  rcases h₂ m hm with hsame | hrouter
  · rcases h₁ m hm with hfirst | hfirst
    · exact .inl (hsame.trans hfirst)
    · exact .inr (hsame ▸ hfirst)
  · exact .inr hrouter

theorem KeepsMellanox.modifyCh (hn : (f.node n).vendid ≠ mlxVendorId)
    (u : ChassisInfo → ChassisInfo) : KeepsMellanox f g (g.modifyCh n u) := by
  intro m hm
  refine .inl (if_neg ?_)
  rintro rfl
  exact hn hm

theorem ch_getRouterSlot (h : f.getRouterSlot g n p = .ok g') :
    ∃ u, (∀ info, (u info).chSlot = .srbdCs) ∧ g' = g.modifyCh n u := by
  unfold getRouterSlot at h
  dsimp only at h
  split at h
  · cases h
    refine ⟨_, ?_, rfl⟩
    exact fun _ => rfl
  · obtain ⟨slotnum, -, h⟩ := bind_eq_ok.mp h
    obtain ⟨anafanum, -, h⟩ := bind_eq_ok.mp h
    cases h
    rw [Grouping.modifyCh_modifyCh]
    refine ⟨_, ?_, rfl⟩
    exact fun _ => rfl

theorem keeps_router (hn : (f.node n).vendid ≠ mlxVendorId ∨ (f.node n).type ≠ ibNodeSwitch)
    (h : f.getRouterSlot g n p = .ok g') : KeepsMellanox f g g' := by
  obtain ⟨u, hu, rfl⟩ := ch_getRouterSlot h
  intro m hm
  by_cases hmn : m = n
  · subst hmn
    refine .inr ⟨hn.resolve_left (fun hne => hne hm), ?_⟩
    rw [Grouping.ch_modifyCh, if_pos rfl, hu]
  · exact .inl (if_neg hmn)

theorem keeps_routerPort (hn : (f.node n).vendid ≠ mlxVendorId)
    (hround : f.routerPort n g k = .ok g') : KeepsMellanox f g g' := by
  unfold routerPort at hround
  obtain ⟨port, -, hround⟩ := bind_eq_ok.mp hround
  split at hround
  · cases hround
    exact .refl f g
  · split at hround
    · cases hround
    · split at hround
      · exact keeps_router (.inl hn) hround
      · cases hround
        exact .refl f g

theorem keeps_spinePort (hn : (f.node n).vendid ≠ mlxVendorId)
    (hround : f.spinePort n g k = .ok g') : KeepsMellanox f g g' := by
  unfold spinePort at hround
  obtain ⟨port, -, hround⟩ := bind_eq_ok.mp hround
  split at hround
  · cases hround
    exact .refl f g
  · split at hround
    · cases hround
      exact .refl f g
    · dsimp only at hround
      split at hround
      · cases hround
        exact .refl f g
      · split at hround
        · next htype =>
            split at hround
            · cases hround
              exact .refl f g
            · exact keeps_router (.inr htype) hround
        · split at hround
          · obtain ⟨u, -, rfl⟩ := getSfbSlot_ok hround
            exact .modifyCh hn u
          · cases hround
            exact .refl f g

theorem keeps_linePorts {ks : List Nat} (hn : (f.node n).vendid ≠ mlxVendorId)
    (hloop : f.linePorts n g ks = .ok g') : KeepsMellanox f g g' := by
  induction ks with
  | nil =>
      cases hloop
      exact .refl f g
  | cons k ks ih =>
      rw [linePorts] at hloop
      obtain ⟨port, -, hloop⟩ := bind_eq_ok.mp hloop
      split at hloop
      · exact ih hloop
      · split at hloop
        · exact ih hloop
        · split at hloop
          · exact ih hloop
          · obtain ⟨u, -, rfl⟩ := getSlbSlot_ok hloop
            exact .modifyCh hn u

theorem keeps_foldlM {α : Type} {step : Grouping → α → Except Fault Grouping} {ks : List α}
    (hstep : ∀ g k g', step g k = .ok g' → KeepsMellanox f g g')
    (hloop : ks.foldlM step g = .ok g') : KeepsMellanox f g g' := by
  apply foldlM_invariant (P := KeepsMellanox f g) ?_ hloop (.refl f g)
  exact fun k _ s s' hs hk => hs.trans (hstep s k s' hk)

theorem ch_mapPort (hround : f.mapPort n g k = .ok g') : g'.ch = g.ch := by
  unfold mapPort at hround
  obtain ⟨port, -, hround⟩ := bind_eq_ok.mp hround
  split at hround
  · cases hround
    rfl
  · obtain ⟨ext, -, hround⟩ := bind_eq_ok.mp hround
    cases hround
    rfl

theorem keeps_voltaire (hn : (f.node n).vendid ≠ mlxVendorId)
    (hfill : f.fillVoltaireChassisRecord g n = .ok g') : KeepsMellanox f g g' := by
  unfold fillVoltaireChassisRecord at hfill
  split at hfill
  · cases hfill
    exact .refl f g
  · obtain ⟨g₁, hslot, hmap⟩ := bind_eq_ok.mp hfill
    have hmark : KeepsMellanox f g (g.modifyCh n fun info => { info with chFound := true }) :=
      .modifyCh hn _
    have hslots : KeepsMellanox f (g.modifyCh n fun info => { info with chFound := true }) g₁ := by
      unfold fillSlot at hslot
      split at hslot
      · exact keeps_foldlM (fun _ _ _ => keeps_routerPort hn) hslot
      · split at hslot
        · exact keeps_foldlM (fun _ _ _ => keeps_spinePort hn) hslot
        · split at hslot
          · exact keeps_linePorts hn hslot
          · cases hslot
            exact .refl f _
    have hports : KeepsMellanox f g₁ g' :=
      keeps_foldlM (fun _ _ _ h m _ => .inl (congrFun (ch_mapPort h) m)) hmap
    exact (hmark.trans hslots).trans hports

/-- The first pass after some of the switches: those of Mellanox have the slot that their
description names, and other Mellanox nodes have none. -/
structure BoardsRead (f : Fabric) (seen : List NodeRef) (g : Grouping) : Prop where
  recording : Recording g
  read : ∀ m ∈ seen, (f.node m).vendid = mlxVendorId → (f.node m).type = ibNodeSwitch →
    (g.ch m).mellanoxSlot = (boardSlot (f.node m)).map Slot.marked
  unread : ∀ m, m ∉ seen → (f.node m).vendid = mlxVendorId →
    (g.ch m).mellanoxSlot = none ∧ ((f.node m).type = ibNodeSwitch → (g.ch m).chFound = false)

theorem boardsRead_blank (f : Fabric) : BoardsRead f [] .blank :=
  ⟨recording_blank, by simp, fun _ _ _ => ⟨rfl, fun _ => rfl⟩⟩

theorem BoardsRead.keeps {seen : List NodeRef} (h : BoardsRead f seen g) (hg' : Recording g')
    (hkeeps : KeepsMellanox f g g') : BoardsRead f seen g' := by
  refine ⟨hg', fun m hm hvendor htype => ?_, fun m hm hvendor => ?_⟩
  · rcases hkeeps m hvendor with hsame | ⟨hnot, -⟩
    · rw [hsame]
      exact h.read m hm hvendor htype
    · exact absurd htype hnot
  · rcases hkeeps m hvendor with hsame | ⟨hnot, hrouter⟩
    · rw [hsame]
      exact h.unread m hm hvendor
    · refine ⟨?_, fun htype => absurd htype hnot⟩
      unfold ChassisInfo.mellanoxSlot
      rw [hrouter]
      rfl

/-- A switch of another vendor is not among those that matter. -/
theorem BoardsRead.snoc {seen : List NodeRef} (h : BoardsRead f seen g)
    (hn : (f.node n).vendid ≠ mlxVendorId) : BoardsRead f (seen ++ [n]) g := by
  refine ⟨h.recording, fun m hm hvendor htype => ?_, fun m hm hvendor => ?_⟩
  · rcases List.mem_append.mp hm with hold | hnew
    · exact h.read m hold hvendor htype
    · obtain rfl := List.mem_singleton.mp hnew
      exact absurd hvendor hn
  · exact h.unread m (fun hold => hm (List.mem_append_left _ hold)) hvendor

theorem BoardsRead.mellanox {seen : List NodeRef} (h : BoardsRead f seen g)
    (htype : (f.node n).type = ibNodeSwitch) (hvendor : (f.node n).vendid = mlxVendorId)
    (hfill : f.fillMellanoxChassisRecord g n = .ok g') : BoardsRead f (seen ++ [n]) g' := by
  have hrecording := (records_mellanox h.recording hfill).1
  have hold : ∀ m, m ∉ seen ++ [n] → m ∉ seen ∧ m ≠ n := fun m hm =>
    ⟨fun hs => hm (List.mem_append_left _ hs), fun heq =>
      hm (List.mem_append_right _ (List.mem_singleton.mpr heq))⟩
  cases hfound : (g.ch n).chFound with
  | true =>
      have hn : n ∈ seen := by
        by_contra hnot
        rw [(h.unread n hnot hvendor).2 htype] at hfound
        cases hfound
      unfold fillMellanoxChassisRecord at hfill
      rw [if_pos hfound] at hfill
      cases hfill
      refine ⟨hrecording, fun m hm => ?_, fun m hm => h.unread m (hold m hm).1⟩
      rcases List.mem_append.mp hm with hs | hs
      · exact h.read m hs
      · exact h.read m (List.mem_singleton.mp hs ▸ hn)
  | false =>
      obtain ⟨hslot, hother⟩ := ch_fillMellanox hfound (h.recording.quiet n hfound) hfill
      refine ⟨hrecording, fun m hm hm' htype' => ?_, fun m hm hm' => ?_⟩
      · by_cases hmn : m = n
        · subst hmn
          exact hslot
        · rw [hother m hmn]
          have hs : m ∈ seen := (List.mem_append.mp hm).resolve_right fun hs =>
            hmn (List.mem_singleton.mp hs)
          exact h.read m hs hm' htype'
      · rw [hother m (hold m hm).2]
        exact h.unread m (hold m hm).1 hm'

theorem boardsRead_fillRecord {seen : List NodeRef} (h : BoardsRead f seen g)
    (htype : (f.node n).type = ibNodeSwitch) (hround : f.fillRecord g n = .ok g') :
    BoardsRead f (seen ++ [n]) g' := by
  have hrecording := (records_fillRecord h.recording hround).1
  unfold fillRecord at hround
  split at hround
  · next hvtr =>
      have hn : (f.node n).vendid ≠ mlxVendorId := by
        rw [hvtr]
        decide
      exact (h.keeps hrecording (keeps_voltaire hn hround)).snoc hn
  · split at hround
    · next hmlx => exact h.mellanox htype hmlx hround
    · next hmlx =>
        cases hround
        exact h.snoc hmlx

theorem boardsRead_pass (hswitches : ∀ n ∈ f.switches, (f.node n).type = ibNodeSwitch)
    (hpass : f.switches.foldlM f.fillRecord .blank = .ok g) : BoardsRead f f.switches g := by
  apply foldlM_prefix (P := BoardsRead f) ?_ hpass (boardsRead_blank f)
  intro seen n rest s s' hsplit hs hround
  exact boardsRead_fillRecord hs (hswitches n (by rw [hsplit]; simp)) hround

end Records

section Passes

/-- The later passes leave the slots of the records as they are. -/
def SameSlots (g g' : Grouping) : Prop :=
  ∀ m, (g'.ch m).mellanoxSlot = (g.ch m).mellanoxSlot

theorem SameSlots.of_ch (h : g'.ch = g.ch) : SameSlots g g' := fun m => by rw [h]

theorem SameSlots.trans {g₁ g₂ g₃ : Grouping} (h₁ : SameSlots g₁ g₂) (h₂ : SameSlots g₂ g₃) :
    SameSlots g₁ g₃ := fun m => (h₂ m).trans (h₁ m)

theorem sameSlots_insert (g : Grouping) (n : NodeRef) (c : ChassisRef) (s : Slot) :
    SameSlots g (g.insert n c s) := by
  unfold Grouping.insert
  split
  · exact .of_ch rfl
  · intro m
    rw [Grouping.ch_place]
    split
    · next hm =>
        rw [hm]
        rfl
    · rfl

theorem sameSlots_foldlM {ε α : Type} {step : Grouping → α → Except ε Grouping} {xs : List α}
    (hstep : ∀ g x g', step g x = .ok g' → SameSlots g g') (hloop : xs.foldlM step g = .ok g') :
    SameSlots g g' := by
  apply foldlM_invariant (P := SameSlots g) ?_ hloop (.of_ch rfl)
  exact fun x _ s s' hs hx => hs.trans (hstep s x s' hx)

theorem sameSlots_insertSpine (h : f.insertSpine g n c = .ok g') : SameSlots g g' := by
  unfold insertSpine at h
  split at h
  · cases h
  · cases h
    exact sameSlots_insert g n c _

theorem sameSlots_insertLineRouter (h : f.insertLineRouter g n c = .ok g') : SameSlots g g' := by
  unfold insertLineRouter at h
  split at h
  · cases h
  · cases h
    exact sameSlots_insert g n c _

theorem sameSlots_catchSpine (h : f.catchSpine c n g k = .ok g') : SameSlots g g' := by
  unfold catchSpine at h
  obtain ⟨port, -, h⟩ := bind_eq_ok.mp h
  split at h
  · cases h
    exact .of_ch rfl
  · split at h
    · cases h
      exact .of_ch rfl
    · split at h
      · cases h
        exact .of_ch rfl
      · exact sameSlots_insertSpine h

theorem sameSlots_catchLine (h : f.catchLine c n g k = .ok g') : SameSlots g g' := by
  unfold catchLine at h
  obtain ⟨port, -, h⟩ := bind_eq_ok.mp h
  split at h
  · cases h
    exact .of_ch rfl
  · split at h
    · cases h
      exact .of_ch rfl
    · split at h
      · cases h
        exact .of_ch rfl
      · exact sameSlots_insertLineRouter h

theorem sameSlots_firstLine (h : f.firstLine c n g k = .ok g') : SameSlots g g' := by
  unfold firstLine at h
  obtain ⟨port, -, h⟩ := bind_eq_ok.mp h
  split at h
  · cases h
    exact .of_ch rfl
  · split at h
    · cases h
      exact .of_ch rfl
    · split at h
      · cases h
        exact .of_ch rfl
      · split at h
        · cases h
          exact .of_ch rfl
        · cases h
          exact sameSlots_insert g _ c _

theorem sameSlots_passOnLines (h : f.passOnLinesCatchSpines g c = .ok g') : SameSlots g g' := by
  refine sameSlots_foldlM (fun g i g' hround => ?_) h
  unfold passOnLine at hround
  split at hround
  · cases hround
    exact .of_ch rfl
  · split at hround
    · exact sameSlots_foldlM (fun _ _ _ => sameSlots_catchSpine) hround
    · cases hround
      exact .of_ch rfl

theorem sameSlots_passOnSpines (h : f.passOnSpinesCatchLines g c = .ok g') : SameSlots g g' := by
  refine sameSlots_foldlM (fun g i g' hround => ?_) h
  unfold passOnSpine at hround
  split at hround
  · cases hround
    exact .of_ch rfl
  · exact sameSlots_foldlM (fun _ _ _ => sameSlots_catchLine) hround

theorem sameSlots_buildChassis (h : f.buildChassis g n c = .ok g') : SameSlots g g' := by
  unfold buildChassis at h
  obtain ⟨g₁, h₁, h⟩ := bind_eq_ok.mp h
  obtain ⟨g₂, h₂, h⟩ := bind_eq_ok.mp h
  obtain ⟨g₃, h₃, h⟩ := bind_eq_ok.mp h
  obtain ⟨g₄, h₄, h⟩ := bind_eq_ok.mp h
  obtain ⟨g₅, h₅, h⟩ := bind_eq_ok.mp h
  obtain ⟨g₆, h₆, h⟩ := bind_eq_ok.mp h
  have hlines := (sameSlots_insertSpine h₁).trans
    (sameSlots_foldlM (fun _ _ _ => sameSlots_firstLine) h₂)
  have hfirst := (sameSlots_passOnLines h₃).trans (sameSlots_passOnSpines h₄)
  have hsecond := (sameSlots_passOnLines h₅).trans (sameSlots_passOnSpines h₆)
  have hguid : SameSlots g₆ g' := by
    cases h
    unfold passOnSpinesInterpolateChguid
    split
    · exact .of_ch rfl
    · exact .of_ch rfl
  exact hlines.trans (hfirst.trans (hsecond.trans hguid))

theorem sameSlots_buildRound (h : f.buildRound g n = .ok g') : SameSlots g g' := by
  unfold buildRound at h
  split at h
  · cases h
    exact .of_ch rfl
  · split at h
    · cases h
      exact .of_ch rfl
    · have hbuild : SameSlots (g.addChassis.1.numberChassis g.addChassis.2) g' :=
        sameSlots_buildChassis h
      have hnew : SameSlots g (g.addChassis.1.numberChassis g.addChassis.2) := .of_ch rfl
      exact hnew.trans hbuild

theorem ch_countRound (h : f.countRound g n = .ok g') : g'.ch = g.ch := by
  unfold countRound at h
  split at h
  · cases h
    rfl
  · obtain ⟨found, -, h⟩ := bind_eq_ok.mp h
    split at h
    · cases h
      rfl
    · unfold newChassis at h
      obtain ⟨guid, -, h⟩ := bind_eq_ok.mp h
      cases h
      rfl

theorem sameSlots_joinChassis (h : f.joinChassis g n c = .ok g') : SameSlots g g' := by
  unfold joinChassis at h
  dsimp only at h
  have hnumber : SameSlots g (if (g.chassis c).chassisnum = 0 then g.numberChassis c else g) := by
    split <;> exact .of_ch rfl
  generalize (if (g.chassis c).chassisnum = 0 then g.numberChassis c else g) = g₁ at h hnumber
  refine hnumber.trans ?_
  split at h
  · cases h
    intro m
    unfold addNodeToChassis
    simp only [Grouping.modifyChassis, Grouping.ch_modifyCh]
    split
    · next hm =>
        rw [hm]
        rfl
    · rfl
  · split at h
    · cases hslot : (g₁.ch n).mellanoxSlot with
      | none =>
          rw [insertMellanox_none hslot] at h
          cases h
          exact .of_ch rfl
      | some s =>
          rcases insertMellanox_some (c := c) hslot with ⟨-, hinsert⟩ | ⟨-, hinsert⟩
          · rw [hinsert] at h
            cases h
            exact sameSlots_insert g₁ n c s
          · rw [hinsert] at h
            cases h
    · cases h
      exact .of_ch rfl

theorem sameSlots_groupRound (h : f.groupRound g n = .ok g') : SameSlots g g' := by
  unfold groupRound at h
  split at h
  · cases h
    exact .of_ch rfl
  · obtain ⟨found, -, h⟩ := bind_eq_ok.mp h
    split at h
    · cases h
      exact .of_ch rfl
    · split at h
      · exact sameSlots_joinChassis h
      · cases h
        exact .of_ch rfl

end Passes

/-- The passes before the one that puts Mellanox boards into their slots. -/
def countPasses (f : Fabric) : GroupM Grouping := do
  let g ← orFault (f.switches.foldlM f.fillRecord .blank)
  let g ← f.switches.foldlM f.buildRound g
  orFault (f.nodes.foldlM f.countRound g)

theorem groupNodes_eq_countPasses (f : Fabric) : f.groupNodes = (do
    let g ← f.countPasses
    let g ← orFault (f.nodes.foldlM f.groupRound g)
    .ok { g with listed := true }) := by
  unfold groupNodes countPasses
  simp only [bind_assoc]

/-- `group_nodes` comes to a node that it passes to `insert_mellanox_line_and_spine`. -/
structure InsertsMellanox (f : Fabric) (g : Grouping) (n : NodeRef) (c : ChassisRef) : Prop where
  reached : ∃ before after g₀, f.nodes = before ++ n :: after ∧ f.countPasses = .ok g₀ ∧
    before.foldlM f.groupRound g₀ = .ok g
  byGuid : f.byGuid n = true
  found : f.findChassisguid g n = .ok (some c)
  shared : 1 < (g.chassis c).nodecount
  marked : (g.ch n).chFound = true
  vendor : (f.node n).vendid = mlxVendorId

theorem InsertsMellanox.groupRound_eq (h : f.InsertsMellanox g n c) :
    f.groupRound g n = insertMellanoxLineAndSpine
      (if (g.chassis c).chassisnum = 0 then g.numberChassis c else g) n c := by
  have hmarked : ((if (g.chassis c).chassisnum = 0 then g.numberChassis c else g).ch n).chFound =
      true := by
    split <;> exact h.marked
  unfold groupRound joinChassis
  rw [h.byGuid, h.found, ok_bind]
  simp only [Bool.not_true, Bool.false_eq_true, if_false, h.shared, if_true, hmarked, h.vendor]

/-- The slot of the board is the one that its description names, or 0 instead of a number past
the limit. -/
theorem InsertsMellanox.slot_eq (hswitches : ∀ n ∈ f.switches, (f.node n).type = ibNodeSwitch)
    (h : f.InsertsMellanox g n c) : (g.ch n).mellanoxSlot =
      if n ∈ f.switches then (boardSlot (f.node n)).map Slot.marked else none := by
  obtain ⟨before, after, g₀, -, hpasses, hrounds⟩ := h.reached
  obtain ⟨g₁, h₁, hpasses⟩ := bind_eq_ok.mp hpasses
  obtain ⟨g₂, h₂, h₃⟩ := bind_eq_ok.mp hpasses
  have hread := boardsRead_pass hswitches (orFault_eq_ok.mp h₁)
  have hbuilt : SameSlots g₁ g₂ := sameSlots_foldlM (fun _ _ _ => sameSlots_buildRound) h₂
  have hcounted : SameSlots g₂ g₀ :=
    sameSlots_foldlM (fun _ _ _ h => .of_ch (ch_countRound h)) (orFault_eq_ok.mp h₃)
  have hgrouped : SameSlots g₀ g := sameSlots_foldlM (fun _ _ _ => sameSlots_groupRound) hrounds
  rw [hgrouped n, hcounted n, hbuilt n]
  split
  · next hn => exact hread.read n hn h.vendor (hswitches n hn)
  · next hn => exact (hread.unread n hn h.vendor).1

/-- What the three functions go into the arrays with: the first two in any state, the third in the
states that a run of `group_nodes` calls it in. -/
inductive Accesses (f : Fabric) : Slot → Prop
  | lineRouter {g n i} (h : f.getLineIndex g n = some i) : Accesses f (.line i)
  | spine {g n i} (h : f.getSpineIndex g n = some i) : Accesses f (.spine i)
  | mellanox {g n c s} (h : f.InsertsMellanox g n c) (hslot : (g.ch n).mellanoxSlot = some s) :
      Accesses f s

/-- The indices are those of slots if and only if the descriptions of the boards that get to
`insert_mellanox_line_and_spine` name slots. -/
theorem accesses_isNumbered_iff (f : Fabric)
    (hswitches : ∀ n ∈ f.switches, (f.node n).type = ibNodeSwitch) :
    (∀ s, f.Accesses s → s.IsNumbered) ↔
      ∀ n ∈ f.switches, (∃ g c, f.InsertsMellanox g n c) →
        ∀ s, boardSlot (f.node n) = some s → s.IsNumbered := by
  constructor
  · rintro hall n hn ⟨g, c, h⟩ s hs
    have hslot := h.slot_eq hswitches
    rw [if_pos hn, hs] at hslot
    exact Slot.isNumbered_marked.mp (hall _ (.mellanox h hslot))
  · intro hnames s hs
    cases hs with
    | lineRouter h => exact getLineIndex_le h
    | spine h => exact getSpineIndex_le h
    | @mellanox g n c _ h hslot =>
        rw [h.slot_eq hswitches] at hslot
        split at hslot
        · next hn =>
            obtain ⟨t, ht, rfl⟩ := Option.map_eq_some_iff.mp hslot
            exact Slot.isNumbered_marked.mpr (hnames n hn ⟨g, c, h⟩ t ht)
        · cases hslot

end Fabric

/-- Two IS4 switches of one system, the first one in slot `L37`. -/
def lineInSlot37 : Fabric :=
  let info := boardInfo mlxVendorId mlxDevidIs4 5
  -- the descriptions are `MF0;a:b/L37/U1` and `MF0;a:b/L1/U1`
  boardFabric [boardNode 0 1 info [77, 70, 48, 59, 97, 58, 98, 47, 76, 51, 55, 47, 85, 49],
    boardNode 1 1 info [77, 70, 48, 59, 97, 58, 98, 47, 76, 49, 47, 85, 49]] []

theorem lineInSlot37_inserts : ∃ g c, lineInSlot37.InsertsMellanox g 0 c ∧
    (g.ch 0).mellanoxSlot = some (.line 37) := by
  have hrun : lineInSlot37.countPasses.toOption.any (fun g => decide (
      lineInSlot37.findChassisguid g 0 = .ok (some 0) ∧ 1 < (g.chassis 0).nodecount ∧
        (g.ch 0).chFound = true ∧ (g.ch 0).mellanoxSlot = some (.line 37))) = true := by
    decide +kernel
  obtain ⟨g, hg, hslot⟩ := (Option.any_eq_true _ _).mp hrun
  obtain ⟨hfind, hshared, hmarked, hslot⟩ := of_decide_eq_true hslot
  refine ⟨g, 0, ⟨⟨[], [1], g, rfl, toOption_eq_some.mp hg, rfl⟩, ?_, hfind, hshared, hmarked, ?_⟩,
    hslot⟩
  · decide +kernel
  · decide +kernel

theorem type_lineInSlot37 :
    ∀ n ∈ lineInSlot37.switches, (lineInSlot37.node n).type = ibNodeSwitch := by
  decide +kernel

theorem accesses_isNumbered_iff_lineInSlot37 :
    (∀ n ∈ lineInSlot37.switches, (lineInSlot37.node n).type = ibNodeSwitch) ∧
      ((∀ s, lineInSlot37.Accesses s → s.IsNumbered) ↔
        ∀ n ∈ lineInSlot37.switches, (∃ g c, lineInSlot37.InsertsMellanox g n c) →
          ∀ s, boardSlot (lineInSlot37.node n) = some s → s.IsNumbered) :=
  ⟨type_lineInSlot37, Fabric.accesses_isNumbered_iff lineInSlot37 type_lineInSlot37⟩

/-- `linenode` ends at 36. -/
theorem accesses_linenode_37 : ∃ f : Fabric, (∀ n ∈ f.switches, (f.node n).type = ibNodeSwitch) ∧
    f.Accesses (.line 37) ∧ ¬ (Slot.line 37).IsNumbered := by
  obtain ⟨g, c, hinserts, hslot⟩ := lineInSlot37_inserts
  refine ⟨lineInSlot37, type_lineInSlot37, .mellanox hinserts hslot, ?_⟩
  rintro ⟨-, hle⟩
  exact absurd hle (by decide)

end InfinibandDiags
