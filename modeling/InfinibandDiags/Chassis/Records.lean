import InfinibandDiags.Chassis.Group
import InfinibandDiags.Library.Folds

/-! The first pass of `group_nodes` writes chassis records and nothing else. -/
namespace InfinibandDiags
open Folds

/-- No chassis has been made, and a node that is not marked as found has no slot type. -/
structure Recording (g : Grouping) : Prop where
  chassis : ∀ c, g.chassis c = .blank
  chassisCount : g.chassisCount = 0
  chassisnum : g.chassisnum = 0
  listed : g.listed = false
  placed : g.placed = []
  pointer : ∀ n, (g.ch n).chassis = none
  quiet : ∀ n, (g.ch n).chFound = false → (g.ch n).chSlot = .unresolvedCs

theorem recording_blank : Recording .blank :=
  ⟨fun _ => rfl, rfl, rfl, rfl, rfl, fun _ => rfl, fun _ _ => rfl⟩

/-- An update of a record that keeps the chassis pointer and the mark. -/
def Keeps (u : ChassisInfo → ChassisInfo) : Prop :=
  ∀ info, (u info).chassis = info.chassis ∧ (info.chFound = true → (u info).chFound = true)

namespace Grouping
variable {g g' : Grouping} {n m : NodeRef}

@[simp] theorem ch_modifyCh (u : ChassisInfo → ChassisInfo) :
    (g.modifyCh n u).ch m = if m = n then u (g.ch n) else g.ch m := rfl

theorem modifyCh_modifyCh (u v : ChassisInfo → ChassisInfo) :
    (g.modifyCh n u).modifyCh n v = g.modifyCh n fun info => v (u info) := by
  unfold modifyCh
  simp

/-- Marks stay. -/
def MoreFound (g g' : Grouping) : Prop := ∀ m, (g.ch m).chFound = true → (g'.ch m).chFound = true

theorem moreFound_modifyCh {u : ChassisInfo → ChassisInfo} (hu : Keeps u) :
    MoreFound g (g.modifyCh n u) := by
  intro m hm
  rw [ch_modifyCh]
  split
  · next h => exact (hu _).2 (h ▸ hm)
  · exact hm

end Grouping

namespace Recording
open Grouping
variable {g g' : Grouping} {n m : NodeRef} {p : PortRef}

theorem modifyCh (h : Recording g) {u : ChassisInfo → ChassisInfo} (hu : Keeps u)
    (hquiet : (u (g.ch n)).chFound = false → (u (g.ch n)).chSlot = .unresolvedCs) :
    Recording (g.modifyCh n u) where
  chassis := h.chassis
  chassisCount := h.chassisCount
  chassisnum := h.chassisnum
  listed := h.listed
  placed := h.placed
  pointer m := by
    rw [ch_modifyCh]
    split
    · rw [(hu _).1]
      exact h.pointer n
    · exact h.pointer m
  quiet m := by
    rw [ch_modifyCh]
    split
    · exact hquiet
    · exact h.quiet m

/-- The record of a node that is marked as found. -/
theorem modifyFound (h : Recording g) {u : ChassisInfo → ChassisInfo} (hu : Keeps u)
    (hfound : (g.ch n).chFound = true) : Recording (g.modifyCh n u) := by
  apply h.modifyCh hu
  intro hnot
  rw [(hu _).2 hfound] at hnot
  cases hnot

theorem setExtPortnum (h : Recording g) (k : Nat) : Recording (g.setExtPortnum p k) :=
  ⟨h.chassis, h.chassisCount, h.chassisnum, h.listed, h.placed, h.pointer, h.quiet⟩

end Recording

namespace Fabric
open Grouping
variable {f : Fabric} {g g' : Grouping} {n : NodeRef} {p : PortRef} {k : Nat}

theorem getSfbSlot_ok (h : f.getSfbSlot g n p = .ok g') : ∃ u, Keeps u ∧ g' = g.modifyCh n u := by
  unfold getSfbSlot at h
  split at h
  · cases h
    refine ⟨_, ?_, rfl⟩
    exact fun _ => ⟨rfl, id⟩
  · obtain ⟨slotnum, -, h⟩ := bind_eq_ok.mp h
    obtain ⟨anafanum, -, h⟩ := bind_eq_ok.mp h
    cases h
    rw [modifyCh_modifyCh]
    refine ⟨_, ?_, rfl⟩
    exact fun _ => ⟨rfl, id⟩

theorem getSlbSlot_ok (h : f.getSlbSlot g n p = .ok g') : ∃ u, Keeps u ∧ g' = g.modifyCh n u := by
  unfold getSlbSlot at h
  split at h
  · cases h
    refine ⟨_, ?_, rfl⟩
    exact fun _ => ⟨rfl, id⟩
  · obtain ⟨slotnum, -, h⟩ := bind_eq_ok.mp h
    obtain ⟨anafanum, -, h⟩ := bind_eq_ok.mp h
    cases h
    rw [modifyCh_modifyCh]
    refine ⟨_, ?_, rfl⟩
    exact fun _ => ⟨rfl, id⟩

/-- A router is marked as found in the same go. -/
theorem getRouterSlot_ok (h : f.getRouterSlot g n p = .ok g') :
    ∃ u, Keeps u ∧ (∀ info, (u info).chFound = true) ∧ g' = g.modifyCh n u := by
  unfold getRouterSlot at h
  dsimp only at h
  split at h
  · cases h
    refine ⟨_, ?_, ?_, rfl⟩
    · exact fun _ => ⟨rfl, fun _ => rfl⟩
    · exact fun _ => rfl
  · obtain ⟨slotnum, -, h⟩ := bind_eq_ok.mp h
    obtain ⟨anafanum, -, h⟩ := bind_eq_ok.mp h
    cases h
    rw [modifyCh_modifyCh]
    refine ⟨_, ?_, ?_, rfl⟩
    · exact fun _ => ⟨rfl, fun _ => rfl⟩
    · exact fun _ => rfl

/-- What a part of the first pass keeps: the state is one of that pass, and marks stay. -/
def Records (g g' : Grouping) : Prop := Recording g' ∧ MoreFound g g'

theorem Records.refl (h : Recording g) : Records g g := ⟨h, fun _ => id⟩

theorem Records.trans {g₁ g₂ g₃ : Grouping} (h₁ : Records g₁ g₂) (h₂ : Records g₂ g₃) :
    Records g₁ g₃ := ⟨h₂.1, fun m hm => h₂.2 m (h₁.2 m hm)⟩

theorem records_router (h : Recording g) (hslot : f.getRouterSlot g n p = .ok g') :
    Records g g' := by
  obtain ⟨u, hu, hfound, rfl⟩ := getRouterSlot_ok hslot
  refine ⟨h.modifyCh hu fun hnot => ?_, moreFound_modifyCh hu⟩
  rw [hfound] at hnot
  cases hnot

theorem records_routerPort (h : Recording g) (hround : f.routerPort n g k = .ok g') :
    Records g g' := by
  unfold routerPort at hround
  obtain ⟨port, -, hround⟩ := bind_eq_ok.mp hround
  split at hround
  · cases hround
    exact .refl h
  · split at hround
    · cases hround
    · split at hround
      · exact records_router h hround
      · cases hround
        exact .refl h

theorem records_spinePort (h : Recording g) (hfound : (g.ch n).chFound = true)
    (hround : f.spinePort n g k = .ok g') : Records g g' := by
  unfold spinePort at hround
  obtain ⟨port, -, hround⟩ := bind_eq_ok.mp hround
  split at hround
  · cases hround
    exact .refl h
  · split at hround
    · cases hround
      exact .refl h
    · dsimp only at hround
      split at hround
      · cases hround
        exact .refl h
      · split at hround
        · split at hround
          · cases hround
            exact .refl h
          · exact records_router h hround
        · split at hround
          · obtain ⟨u, hu, rfl⟩ := getSfbSlot_ok hround
            exact ⟨h.modifyFound hu hfound, moreFound_modifyCh hu⟩
          · cases hround
            exact .refl h

theorem records_linePorts {ks : List Nat} (h : Recording g) (hfound : (g.ch n).chFound = true)
    (hloop : f.linePorts n g ks = .ok g') : Records g g' := by
  induction ks with
  | nil =>
      cases hloop
      exact .refl h
  | cons k ks ih =>
      rw [linePorts] at hloop
      obtain ⟨port, -, hloop⟩ := bind_eq_ok.mp hloop
      split at hloop
      · exact ih hloop
      · split at hloop
        · exact ih hloop
        · split at hloop
          · exact ih hloop
          · obtain ⟨u, hu, rfl⟩ := getSlbSlot_ok hloop
            exact ⟨h.modifyFound hu hfound, moreFound_modifyCh hu⟩

theorem records_mapPort (h : Recording g) (hround : f.mapPort n g k = .ok g') : Records g g' := by
  unfold mapPort at hround
  obtain ⟨port, -, hround⟩ := bind_eq_ok.mp hround
  split at hround
  · cases hround
    exact .refl h
  · obtain ⟨ext, -, hround⟩ := bind_eq_ok.mp hround
    cases hround
    exact ⟨h.setExtPortnum ext, fun _ => id⟩

/-- A loop over the ports of a node. -/
theorem records_foldlM {step : Grouping → Nat → Except Fault Grouping} {ks : List Nat}
    (hstep : ∀ g k g', Recording g → (g.ch n).chFound = true → step g k = .ok g' → Records g g')
    (h : Recording g) (hfound : (g.ch n).chFound = true) (hloop : ks.foldlM step g = .ok g') :
    Records g g' := by
  apply foldlM_invariant (P := Records g) ?_ hloop (.refl h)
  intro k _ s s' hs hround
  exact hs.trans (hstep s k s' hs.1 (hs.2 n hfound) hround)

theorem records_fillSlot (h : Recording g) (hfound : (g.ch n).chFound = true)
    (hfill : f.fillSlot g n = .ok g') : Records g g' := by
  unfold fillSlot at hfill
  split at hfill
  · exact records_foldlM (fun _ _ _ hs _ => records_routerPort hs) h hfound hfill
  · split at hfill
    · exact records_foldlM (fun _ _ _ hs hn => records_spinePort hs hn) h hfound hfill
    · split at hfill
      · exact records_linePorts h hfound hfill
      · cases hfill
        exact .refl h

theorem records_voltaire (h : Recording g) (hfill : f.fillVoltaireChassisRecord g n = .ok g') :
    Records g g' := by
  unfold fillVoltaireChassisRecord at hfill
  split at hfill
  · cases hfill
    exact .refl h
  · obtain ⟨g₁, hslot, hmap⟩ := bind_eq_ok.mp hfill
    have hkeeps : Keeps fun info => { info with chFound := true } := fun _ => ⟨rfl, fun _ => rfl⟩
    have hmark : Records g (g.modifyCh n fun info => { info with chFound := true }) :=
      ⟨h.modifyCh hkeeps fun hnot => (by cases hnot), moreFound_modifyCh hkeeps⟩
    have hfound : ((g.modifyCh n fun info => { info with chFound := true }).ch n).chFound = true := by
      simp
    have hslots := records_fillSlot hmark.1 hfound hslot
    exact (hmark.trans hslots).trans
      (records_foldlM (fun _ _ _ hs _ => records_mapPort hs) hslots.1 (hslots.2 n hfound) hmap)

theorem records_mapMellanoxPort (h : Recording g) (hround : f.mapMellanoxPort n g k = .ok g') :
    Records g g' := by
  unfold mapMellanoxPort at hround
  obtain ⟨port, -, hround⟩ := bind_eq_ok.mp hround
  split at hround
  · cases hround
    exact .refl h
  · cases hround
    split
    · exact ⟨h.setExtPortnum k, fun _ => id⟩
    · exact .refl h

theorem records_setMellanoxSlot {desc : MellanoxDesc} (h : Recording g)
    (hset : f.setMellanoxSlot g n desc = .ok g') : Records g g' := by
  have hkeeps : Keeps fun info =>
      { info with chFound := true, chSlot := slotOfName desc.systemSlotName } :=
    fun _ => ⟨rfl, fun _ => rfl⟩
  have hmark : Records g (g.modifyCh n fun info =>
      { info with chFound := true, chSlot := slotOfName desc.systemSlotName }) :=
    ⟨h.modifyCh hkeeps fun hnot => (by cases hnot), moreFound_modifyCh hkeeps⟩
  have hfound : ((g.modifyCh n fun info =>
      { info with chFound := true, chSlot := slotOfName desc.systemSlotName }).ch n).chFound =
        true := by
    simp
  unfold setMellanoxSlot at hset
  dsimp only at hset
  split at hset
  · cases hset
    have hzero : Keeps fun info => { info with chSlotnum := 0 } := fun _ => ⟨rfl, id⟩
    exact hmark.trans ⟨hmark.1.modifyFound hzero hfound, moreFound_modifyCh hzero⟩
  · have hnumber : Keeps fun info =>
        { info with
          chSlotnum := UInt8.ofInt (atoi desc.systemSlotName.tail)
          chTypeStr := desc.systemType.take (chassisTypeSize - 1) } := fun _ => ⟨rfl, id⟩
    have hslot := hmark.trans ⟨hmark.1.modifyFound hnumber hfound, moreFound_modifyCh hnumber⟩
    split at hset
    · exact hslot.trans (records_foldlM (fun _ _ _ hs _ => records_mapMellanoxPort hs) hslot.1
        (moreFound_modifyCh hnumber n hfound) hset)
    · cases hset
      exact hslot

theorem records_mellanox (h : Recording g) (hfill : f.fillMellanoxChassisRecord g n = .ok g') :
    Records g g' := by
  unfold fillMellanoxChassisRecord at hfill
  split at hfill
  · cases hfill
    exact .refl h
  · split at hfill
    · cases hfill
      exact .refl h
    · obtain ⟨parsed, -, hfill⟩ := bind_eq_ok.mp hfill
      split at hfill
      · cases hfill
        exact .refl h
      · next desc =>
          have hindex : Keeps fun info => { info with chAnafanum := desc.nodeIndex } :=
            fun _ => ⟨rfl, id⟩
          have hchip : Records g (g.modifyCh n fun info =>
              { info with chAnafanum := desc.nodeIndex }) :=
            ⟨h.modifyCh hindex (h.quiet n), moreFound_modifyCh hindex⟩
          dsimp only at hfill
          split at hfill
          · cases hfill
            exact hchip
          · exact hchip.trans (records_setMellanoxSlot hchip.1 hfill)

theorem records_fillRecord (h : Recording g) (hround : f.fillRecord g n = .ok g') :
    Records g g' := by
  unfold fillRecord at hround
  split at hround
  · exact records_voltaire h hround
  · split at hround
    · exact records_mellanox h hround
    · cases hround
      exact .refl h

/-- The first pass. -/
theorem recording_pass {ns : List NodeRef} (hpass : ns.foldlM f.fillRecord .blank = .ok g) :
    Recording g := by
  apply foldlM_invariant (P := Recording) ?_ hpass recording_blank
  intro n _ s s' hs hround
  exact (records_fillRecord hs hround).1

end Fabric
end InfinibandDiags
