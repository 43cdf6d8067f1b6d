import InfinibandDiags.Topology.Dump

/-! When the grouped topology prints every switch exactly once. -/
namespace InfinibandDiags
namespace Topology
open Fabric Grouping
variable {f : Fabric} {g : Grouping} {n : NodeRef} {c : ChassisRef}

/-- The slots of a chassis that are printed: those from 1 on. -/
def slotsOf (c : ChassisRef) : List (ChassisRef × Slot) :=
  (List.range' 1 spinesMaxNum).map (fun i => (c, Slot.spine i)) ++
    (List.range' 1 linesMaxNum).map fun i => (c, Slot.line i)

theorem mem_slotsOf {x : ChassisRef × Slot} :
    x ∈ slotsOf c ↔ x.1 = c ∧ 1 ≤ x.2.index ∧ x.2.InRange := by
  obtain ⟨d, s⟩ := x
  unfold slotsOf
  rw [List.mem_append, List.mem_map, List.mem_map]
  constructor
  · rintro (⟨i, hi, heq⟩ | ⟨i, hi, heq⟩)
    · cases heq
      rw [List.mem_range'_1] at hi
      exact ⟨rfl, hi.1, Nat.le_of_lt_succ (by omega)⟩
    · cases heq
      rw [List.mem_range'_1] at hi
      exact ⟨rfl, hi.1, Nat.le_of_lt_succ (by omega)⟩
  · rintro ⟨hd, hpos, hrange⟩
    cases s with
    | line i =>
        refine .inr ⟨i, ?_, by rw [← hd]⟩
        simp only [Slot.index, Slot.InRange] at hpos hrange
        exact List.mem_range'_1.mpr (by omega)
    | spine i =>
        refine .inl ⟨i, ?_, by rw [← hd]⟩
        simp only [Slot.index, Slot.InRange] at hpos hrange
        exact List.mem_range'_1.mpr (by omega)

theorem nodup_slotsOf : (slotsOf c).Nodup := by
  unfold slotsOf
  rw [List.nodup_append]
  refine ⟨?_, ?_, ?_⟩
  · exact List.Nodup.map (fun i j h => by simpa using h) List.nodup_range'
  · exact List.Nodup.map (fun i j h => by simpa using h) List.nodup_range'
  · intro x hx y hy
    obtain ⟨i, -, rfl⟩ := List.mem_map.mp hx
    obtain ⟨j, -, rfl⟩ := List.mem_map.mp hy
    simp

/-- The printed slots of all chassis that have a number. -/
def shownSlots (g : Grouping) : List (ChassisRef × Slot) :=
  (List.range g.chassisCount).flatMap fun c =>
    if (g.chassis c).chassisnum = 0 then [] else slotsOf c

theorem mem_shownSlots {x : ChassisRef × Slot} : x ∈ shownSlots g ↔
    x.1 < g.chassisCount ∧ (g.chassis x.1).chassisnum ≠ 0 ∧ 1 ≤ x.2.index ∧ x.2.InRange := by
  unfold shownSlots
  rw [List.mem_flatMap]
  constructor
  · rintro ⟨c, hc, hx⟩
    split at hx
    · cases hx
    · next hnum =>
        obtain ⟨rfl, hslot⟩ := mem_slotsOf.mp hx
        exact ⟨List.mem_range.mp hc, hnum, hslot⟩
  · rintro ⟨hc, hnum, hslot⟩
    refine ⟨x.1, List.mem_range.mpr hc, ?_⟩
    rw [if_neg hnum]
    exact mem_slotsOf.mpr ⟨rfl, hslot⟩

theorem nodup_shownSlots : (shownSlots g).Nodup := by
  unfold shownSlots
  rw [List.nodup_flatMap]
  constructor
  · intro c _
    split
    · exact List.nodup_nil
    · exact nodup_slotsOf
  · apply List.nodup_range.imp
    intro c d hne x hx hy
    dsimp only at hx hy
    split at hx
    · cases hx
    · split at hy
      · cases hy
      · exact hne ((mem_slotsOf.mp hx).1.symm.trans (mem_slotsOf.mp hy).1)

/-- A placement in a slot that is printed. -/
def Shown (g : Grouping) (p : Placement) : Prop :=
  1 ≤ p.slot.index ∧ (g.chassis p.chassis).chassisnum ≠ 0

instance (g : Grouping) (p : Placement) : Decidable (Shown g p) :=
  inferInstanceAs (Decidable (_ ∧ _))

/-- How often a board was put in a slot that is printed. -/
def shownCount (g : Grouping) (n : NodeRef) : Nat :=
  (g.placed.filter fun p => p.board = n).countP fun p => Shown g p

/-- Each printed slot with the board stands for one such placement. -/
theorem countP_shownSlots (h : Tracked g) (n : NodeRef) :
    (shownSlots g).countP (fun x => (g.chassis x.1).board x.2 = some n) = shownCount g n := by
  have hmap : (((g.placed.filter fun p => p.board = n).filter fun p => Shown g p).map
      fun p => (p.chassis, p.slot)).Nodup :=
    ((List.filter_sublist.trans List.filter_sublist).map _).nodup h.once
  have hperm : ((shownSlots g).filter fun x => (g.chassis x.1).board x.2 = some n).Perm
      (((g.placed.filter fun p => p.board = n).filter fun p => Shown g p).map
        fun p => (p.chassis, p.slot)) := by
    apply (List.perm_ext_iff_of_nodup (nodup_shownSlots.filter _) hmap).mpr
    intro x
    simp only [List.mem_filter, List.mem_map, decide_eq_true_eq]
    constructor
    · rintro ⟨hx, hboard⟩
      obtain ⟨-, hnum, hpos, -⟩ := mem_shownSlots.mp hx
      obtain ⟨p, hp, hpn, hpc, hps⟩ := (h.filled _ _ _).mp hboard
      exact ⟨p, ⟨⟨hp, hpn⟩, hps ▸ hpos, hpc ▸ hnum⟩, Prod.ext hpc hps⟩
    · rintro ⟨p, ⟨⟨hp, hpn⟩, hpos, hnum⟩, rfl⟩
      exact ⟨mem_shownSlots.mpr ⟨h.inList p hp, hnum, hpos, h.inRange p hp⟩,
        (h.filled _ _ _).mpr ⟨p, hp, hpn, rfl, rfl⟩⟩
  rw [List.countP_eq_length_filter, hperm.length_eq, List.length_map, shownCount,
    List.countP_eq_length_filter]

/-- The switches in the lists of the chassis that have a number. -/
def shownLists (f : Fabric) (g : Grouping) : List NodeRef :=
  (List.range g.chassisCount).flatMap fun c =>
    if (g.chassis c).chassisnum = 0 then []
    else (g.chassis c).nodes.filter fun n => (f.node n).type = ibNodeSwitch

theorem mem_shownLists : n ∈ shownLists f g ↔ ∃ c < g.chassisCount,
    (g.chassis c).chassisnum ≠ 0 ∧ n ∈ (g.chassis c).nodes ∧ (f.node n).type = ibNodeSwitch := by
  unfold shownLists
  rw [List.mem_flatMap]
  constructor
  · rintro ⟨c, hc, hn⟩
    split at hn
    · cases hn
    · next hnum =>
        rw [List.mem_filter, decide_eq_true_eq] at hn
        exact ⟨c, List.mem_range.mp hc, hnum, hn⟩
  · rintro ⟨c, hc, hnum, hn⟩
    refine ⟨c, List.mem_range.mpr hc, ?_⟩
    rw [if_neg hnum, List.mem_filter, decide_eq_true_eq]
    exact hn

/-- A node is in the list of one chassis. -/
theorem nodup_shownLists (h : Tracked g) : (shownLists f g).Nodup := by
  unfold shownLists
  rw [List.nodup_flatMap]
  constructor
  · intro c _
    split
    · exact List.nodup_nil
    · exact (h.nodup c).filter _
  · apply List.nodup_range.imp
    intro c d hne n hc hd
    dsimp only at hc hd
    split at hc
    · cases hc
    · split at hd
      · cases hd
      · have hpc := (h.joined c n (List.mem_filter.mp hc).1).2.2.2.1
        have hpd := (h.joined d n (List.mem_filter.mp hd).1).2.2.2.1
        rw [hpc, Option.some.injEq] at hpd
        exact hne hpd

theorem count_slotBoards {slot : Nat → Option NodeRef} {top : Nat} :
    (slotBoards slot top).count n = (List.range' 1 top).countP fun i => slot i = some n := by
  unfold slotBoards
  rw [List.count_filterMap]
  congr 1
  funext i
  exact Bool.eq_iff_iff.mpr (by simp)

theorem count_chassisSwitches (cs : List ChassisRef) (n : NodeRef) :
    (cs.flatMap fun c => chassisSwitches f (g.chassis c)).count n =
      (cs.flatMap fun c => if (g.chassis c).chassisnum = 0 then [] else slotsOf c).countP
        (fun x => (g.chassis x.1).board x.2 = some n) +
      (cs.flatMap fun c => if (g.chassis c).chassisnum = 0 then []
        else (g.chassis c).nodes.filter fun n => (f.node n).type = ibNodeSwitch).count n := by
  induction cs with
  | nil => rfl
  | cons c cs ih =>
      simp only [List.flatMap_cons, List.count_append, List.countP_append, ih]
      unfold chassisSwitches
      split
      · simp
      · unfold slotsOf
        simp only [List.count_append, count_slotBoards, List.countP_append, List.countP_map]
        have hspine : (fun x : ChassisRef × Slot => decide ((g.chassis x.1).board x.2 = some n)) ∘
            (fun i => (c, Slot.spine i)) = fun i => decide ((g.chassis c).spinenode i = some n) :=
          rfl
        have hline : (fun x : ChassisRef × Slot => decide ((g.chassis x.1).board x.2 = some n)) ∘
            (fun i => (c, Slot.line i)) = fun i => decide ((g.chassis c).linenode i = some n) := rfl
        rw [hspine, hline]
        omega

/-- The placements in slots that are printed, the list of the chassis, and the rest. -/
theorem count_dumpTopology (h : Tracked g) (n : NodeRef) :
    (switches (dumpTopology f g true)).count n = shownCount g n + (shownLists f g).count n +
      (f.switches.filter fun m => !numbered g m).count n := by
  rw [switches_dumpTopology, List.count_append, count_chassisSwitches, ← countP_shownSlots h]
  rfl

/-- A switch that was never put in a slot is printed once. -/
theorem count_of_not_placed (h : Tracked g) (hnodup : f.switches.Nodup) (hn : n ∈ f.switches)
    (htype : (f.node n).type = ibNodeSwitch) (hnone : g.lastPlace n = none) :
    (switches (dumpTopology f g true)).count n = 1 := by
  have hslots : shownCount g n = 0 := by
    have hempty : (g.placed.filter fun p => p.board = n) = [] := by
      rw [List.filter_eq_nil_iff]
      exact List.find?_eq_none.mp hnone
    unfold shownCount
    rw [hempty]
    rfl
  rw [count_dumpTopology h, hslots, (nodup_shownLists h).count, (hnodup.filter _).count]
  simp only [mem_shownLists, List.mem_filter, hn, true_and]
  rcases h.free n hnone with hfree | ⟨c, hc⟩
  · have hnot : numbered g n = false := by
      unfold numbered
      rw [hfree]
      rfl
    rw [if_neg, if_pos (by rw [hnot]; rfl)]
    rintro ⟨c, -, -, hc, -⟩
    have hpointer := (h.joined c n hc).2.2.2.1
    rw [hfree] at hpointer
    cases hpointer
  · obtain ⟨hlt, -, -, hpointer, -⟩ := h.joined c n hc
    by_cases hnum : (g.chassis c).chassisnum = 0
    · have hnot : numbered g n = false := by
        unfold numbered
        rw [hpointer]
        simp [hnum]
      rw [if_neg, if_pos (by rw [hnot]; rfl)]
      rintro ⟨d, -, hd, hmem, -⟩
      have hpointer' := (h.joined d n hmem).2.2.2.1
      rw [hpointer, Option.some.injEq] at hpointer'
      exact hd (hpointer' ▸ hnum)
    · have hnumbered : numbered g n = true := by
        unfold numbered
        rw [hpointer]
        simp [hnum]
      rw [if_pos ⟨c, hlt, hnum, hc, htype⟩, if_neg (by rw [hnumbered]; decide)]

/-- A switch that was put in slots is printed for those that are shown, and once more when its
last chassis has no number. -/
theorem count_of_placed (h : Tracked g) (hnodup : f.switches.Nodup) (hn : n ∈ f.switches)
    {p : Placement} (hlast : g.lastPlace n = some p) :
    (switches (dumpTopology f g true)).count n =
      shownCount g n + if (g.chassis p.chassis).chassisnum = 0 then 1 else 0 := by
  have hpointer := h.last n p hlast
  have hlist : n ∉ shownLists f g := by
    rw [mem_shownLists]
    rintro ⟨c, -, -, hc, -⟩
    have hnone := (h.joined c n hc).2.2.2.2
    rw [hlast] at hnone
    cases hnone
  rw [count_dumpTopology h, List.count_eq_zero.mpr hlist, Nat.add_zero, (hnodup.filter _).count]
  have hnumbered : numbered g n = decide ((g.chassis p.chassis).chassisnum ≠ 0) := by
    unfold numbered
    rw [hpointer]
    rfl
  simp only [List.mem_filter, hn, true_and, hnumbered]
  by_cases hnum : (g.chassis p.chassis).chassisnum = 0
  · simp [hnum]
  · simp [hnum]

/-- Every switch is printed exactly once if and only if every switch that was put in a slot was
put once in a slot that is printed or, if its last chassis has no number, in none. -/
theorem printedOnce_iff (hgroup : f.groupNodes = .ok g) (hnodup : f.switches.Nodup)
    (htype : ∀ n ∈ f.switches, (f.node n).type = ibNodeSwitch) :
    (∀ n ∈ f.switches, (switches (dumpTopology f g true)).count n = 1) ↔
      ∀ n ∈ f.switches, ∀ p, g.lastPlace n = some p →
        shownCount g n = if (g.chassis p.chassis).chassisnum = 0 then 0 else 1 := by
  have h := tracked_groupNodes hgroup
  constructor
  · intro hprinted n hn p hlast
    have honce := hprinted n hn
    rw [count_of_placed h hnodup hn hlast] at honce
    split
    · next hnum =>
        rw [if_pos hnum] at honce
        omega
    · next hnum =>
        rw [if_neg hnum] at honce
        exact honce
  · intro hplaced n hn
    cases hlast : g.lastPlace n with
    | none => exact count_of_not_placed h hnodup hn (htype n hn) hlast
    | some p =>
        rw [count_of_placed h hnodup hn hlast, hplaced n hn p hlast]
        split <;> rfl

/-- Two boards of one system, whose descriptions name the slots `L40` and `L01`. -/
def boardOfNoSlot : Fabric :=
  boardFabric [boardNode 0 1 (boardInfo mlxVendorId mlxDevidIs4 7) "MF0;sw:IS5600/L40/U1".toUTF8.toList,
    boardNode 1 1 (boardInfo mlxVendorId mlxDevidIs4 7) "MF0;sw:IS5600/L01/U1".toUTF8.toList] []

theorem boardOfNoSlot_run : ∃ g, boardOfNoSlot.groupNodes = .ok g ∧
    (switches (dumpTopology boardOfNoSlot g true)).count 0 = 0 := by
  have hrun : boardOfNoSlot.groupNodes.toOption.any (fun g =>
      decide ((switches (dumpTopology boardOfNoSlot g true)).count 0 = 0)) = true := by
    decide +kernel
  obtain ⟨g, hg, hcount⟩ := (Option.any_eq_true _ _).mp hrun
  exact ⟨g, toOption_eq_some.mp hg, of_decide_eq_true hcount⟩

theorem printedOnce_iff_boardOfNoSlot : ∃ g, boardOfNoSlot.groupNodes = .ok g ∧
    ((∀ n ∈ boardOfNoSlot.switches, (switches (dumpTopology boardOfNoSlot g true)).count n = 1) ↔
      ∀ n ∈ boardOfNoSlot.switches, ∀ p, g.lastPlace n = some p →
        shownCount g n = if (g.chassis p.chassis).chassisnum = 0 then 0 else 1) := by
  obtain ⟨g, hgroup, -⟩ := boardOfNoSlot_run
  exact ⟨g, hgroup, printedOnce_iff hgroup (by decide) (by decide)⟩

/-- A board whose slot number is refused lies in slot 0, and is not printed. -/
theorem refused_slot_not_printed : ∃ f : Fabric, ∃ g, f.groupNodes = .ok g ∧ f.switches.Nodup ∧
    (∀ n ∈ f.switches, (f.node n).type = ibNodeSwitch) ∧
    ∃ n ∈ f.switches, (switches (dumpTopology f g true)).count n ≠ 1 := by
  obtain ⟨g, hgroup, hcount⟩ := boardOfNoSlot_run
  refine ⟨boardOfNoSlot, g, hgroup, by decide, by decide, 0, by decide, ?_⟩
  rw [hcount]
  decide

end Topology
end InfinibandDiags
