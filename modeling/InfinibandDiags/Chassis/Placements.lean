import InfinibandDiags.Chassis.Records

/-! The slots of the chassis against the history of what was put into them, through the other
three passes of `group_nodes`. -/
namespace InfinibandDiags
open Folds

/-- The chassis pointer a board had when it was put in a slot is that of its placement before. -/
def History : List Placement → Prop
  | [] => True
  | p :: older => p.before = (older.find? fun q => q.board = p.board).map (·.chassis) ∧ History older

namespace Grouping

/-- The last placement of a board. -/
def lastPlace (g : Grouping) (n : NodeRef) : Option Placement :=
  g.placed.find? fun p => p.board = n

end Grouping

/-- Slots hold what was placed, and a chassis pointer is that of the last placement or, for a
node that has none, of the chassis whose list the node is in. -/
structure Tracked (g : Grouping) : Prop where
  filled : ∀ c s n, (g.chassis c).board s = some n ↔
    ∃ p ∈ g.placed, p.board = n ∧ p.chassis = c ∧ p.slot = s
  once : (g.placed.map fun p => (p.chassis, p.slot)).Nodup
  inList : ∀ p ∈ g.placed, p.chassis < g.chassisCount
  inRange : ∀ p ∈ g.placed, p.slot.InRange
  found : ∀ p ∈ g.placed, (g.ch p.board).chFound = true
  history : History g.placed
  last : ∀ n p, g.lastPlace n = some p → (g.ch n).chassis = some p.chassis
  free : ∀ n, g.lastPlace n = none → (g.ch n).chassis = none ∨ ∃ c, n ∈ (g.chassis c).nodes
  joined : ∀ c n, n ∈ (g.chassis c).nodes → c < g.chassisCount ∧ (g.ch n).chFound = true ∧
    (g.ch n).chSlot = .unresolvedCs ∧ (g.ch n).chassis = some c ∧ g.lastPlace n = none
  nodup : ∀ c, (g.chassis c).nodes.Nodup
  quiet : ∀ n, (g.ch n).chFound = false → (g.ch n).chSlot = .unresolvedCs ∧ (g.ch n).chassis = none

namespace Tracked
open Grouping
variable {g g' : Grouping} {n : NodeRef} {c : ChassisRef} {s : Slot}

theorem of_recording (h : Recording g) : Tracked g := by
  have hnone : ∀ n, g.lastPlace n = none := by
    intro n
    unfold lastPlace
    rw [h.placed]
    rfl
  have hnodes : ∀ c, (g.chassis c).nodes = [] := by
    intro c
    rw [h.chassis]
    rfl
  constructor
  · intro c s n
    rw [h.chassis, h.placed]
    cases s <;> simp [Chassis.board, Chassis.blank]
  · simp [h.placed]
  · simp [h.placed]
  · simp [h.placed]
  · simp [h.placed]
  · rw [h.placed]
    trivial
  · intro n p hp
    rw [hnone] at hp
    cases hp
  · intro n _
    exact .inl (h.pointer n)
  · intro c n hn
    rw [hnodes] at hn
    cases hn
  · intro c
    rw [hnodes]
    exact List.nodup_nil
  · intro n hn
    exact ⟨h.quiet n hn, h.pointer n⟩

/-- Chassis records may change, apart from their slots and lists. -/
theorem of_same (h : Tracked g) (hch : g'.ch = g.ch) (hplaced : g'.placed = g.placed)
    (hcount : g.chassisCount ≤ g'.chassisCount)
    (hboard : ∀ c s, (g'.chassis c).board s = (g.chassis c).board s)
    (hnodes : ∀ c, (g'.chassis c).nodes = (g.chassis c).nodes) : Tracked g' := by
  have hlast : g'.lastPlace = g.lastPlace := by
    funext n
    unfold lastPlace
    rw [hplaced]
  constructor
  · intro c s n
    rw [hboard, hplaced]
    exact h.filled c s n
  · rw [hplaced]
    exact h.once
  · intro p hp
    rw [hplaced] at hp
    exact Nat.lt_of_lt_of_le (h.inList p hp) hcount
  · rw [hplaced]
    exact h.inRange
  · intro p hp
    rw [hplaced] at hp
    rw [hch]
    exact h.found p hp
  · rw [hplaced]
    exact h.history
  · intro n p hp
    rw [hlast] at hp
    rw [hch]
    exact h.last n p hp
  · intro n hn
    rw [hlast] at hn
    simp only [hch, hnodes]
    exact h.free n hn
  · intro c n hn
    rw [hnodes] at hn
    obtain ⟨hc, hrest⟩ := h.joined c n hn
    rw [hch, hlast]
    exact ⟨Nat.lt_of_lt_of_le hc hcount, hrest⟩
  · intro c
    rw [hnodes]
    exact h.nodup c
  · intro n hn
    rw [hch] at hn ⊢
    exact h.quiet n hn

theorem modifyChassis (h : Tracked g) {u : Chassis → Chassis}
    (hboard : ∀ chassis s, (u chassis).board s = chassis.board s)
    (hnodes : ∀ chassis, (u chassis).nodes = chassis.nodes) : Tracked (g.modifyChassis c u) := by
  have hcell : ∀ d, (g.modifyChassis c u).chassis d = g.chassis d ∨
      (g.modifyChassis c u).chassis d = u (g.chassis d) := by
    intro d
    by_cases hd : d = c
    · subst hd
      exact .inr (if_pos rfl)
    · exact .inl (if_neg hd)
  refine h.of_same rfl rfl (Nat.le_refl _) ?_ ?_
  · intro d s
    rcases hcell d with hd | hd
    · rw [hd]
    · rw [hd, hboard]
  · intro d
    rcases hcell d with hd | hd
    · rw [hd]
    · rw [hd, hnodes]

theorem numberChassis (h : Tracked g) : Tracked (g.numberChassis c) := by
  have hmodify : Tracked (g.modifyChassis c fun chassis =>
      { chassis with chassisnum := UInt8.ofNat (g.chassisnum + 1) }) :=
    h.modifyChassis (fun chassis s => by cases s <;> rfl) fun _ => rfl
  exact hmodify.of_same rfl rfl (Nat.le_refl _) (fun _ _ => rfl) fun _ => rfl

/-- The new record is one that nothing was put into. -/
theorem addChassis (h : Tracked g) : Tracked g.addChassis.1 := by
  have hcell : ∀ d, g.addChassis.1.chassis d = g.chassis d ∨
      d = g.chassisCount ∧ g.addChassis.1.chassis d = .blank := by
    intro d
    by_cases hd : d = g.chassisCount
    · exact .inr ⟨hd, if_pos hd⟩
    · exact .inl (if_neg hd)
  refine h.of_same rfl rfl (Nat.le_succ _) ?_ ?_
  · intro d s
    rcases hcell d with hd | ⟨hlast, hd⟩
    · rw [hd]
    · rw [hd]
      cases hold : (g.chassis d).board s with
      | none => cases s <;> rfl
      | some n =>
          obtain ⟨p, hp, -, hpd, -⟩ := (h.filled d s n).mp hold
          have hlt := h.inList p hp
          rw [hpd, hlast] at hlt
          exact absurd hlt (Nat.lt_irrefl _)
  · intro d
    rcases hcell d with hd | ⟨hlast, hd⟩
    · rw [hd]
    · rw [hd]
      refine (List.eq_nil_iff_forall_not_mem.mpr ?_).symm
      intro n hn
      have hlt := (h.joined d n hn).1
      rw [hlast] at hlt
      exact absurd hlt (Nat.lt_irrefl _)

/-- A board that is marked as found, and in no list, is put in a slot of a chassis. -/
theorem insert (h : Tracked g) (hfound : (g.ch n).chFound = true)
    (hfree : ∀ d, n ∉ (g.chassis d).nodes) (hc : c < g.chassisCount) (hs : s.InRange) :
    Tracked (g.insert n c s) := by
  unfold Grouping.insert
  split
  · exact h
  · next hempty =>
      rw [Bool.not_eq_true, Option.isSome_eq_false_iff, Option.isNone_iff_eq_none] at hempty
      have hpointer : (g.ch n).chassis = (g.lastPlace n).map (·.chassis) := by
        cases hp : g.lastPlace n with
        | none =>
            rcases h.free n hp with hnone | ⟨d, hd⟩
            · exact hnone
            · exact absurd hd (hfree d)
        | some p => exact h.last n p hp
      have hlast : ∀ m, (g.place n c s).lastPlace m =
          if n = m then some ⟨n, c, s, (g.ch n).chassis⟩ else g.lastPlace m := by
        intro m
        unfold lastPlace
        rw [placed_place, List.find?_cons]
        by_cases hm : n = m <;> simp [hm]
      constructor
      · intro d t m
        rw [board_place, placed_place]
        constructor
        · intro hboard
          split at hboard
          · next hds =>
              cases hboard
              exact ⟨_, List.mem_cons_self, rfl, hds.1.symm, hds.2.symm⟩
          · obtain ⟨p, hp, hpm⟩ := (h.filled d t m).mp hboard
            exact ⟨p, List.mem_cons_of_mem _ hp, hpm⟩
        · rintro ⟨p, hp, rfl, rfl, rfl⟩
          rcases List.mem_cons.mp hp with rfl | hp
          · exact if_pos ⟨rfl, rfl⟩
          · have hold := (h.filled _ _ _).mpr ⟨p, hp, rfl, rfl, rfl⟩
            rw [if_neg, hold]
            rintro ⟨hd, ht⟩
            rw [hd, ht, hempty] at hold
            cases hold
      · rw [placed_place, List.map_cons, List.nodup_cons]
        refine ⟨?_, h.once⟩
        intro hmem
        obtain ⟨p, hp, hpair⟩ := List.mem_map.mp hmem
        obtain ⟨hpc, hps⟩ := Prod.mk.inj hpair
        have hold := (h.filled _ _ _).mpr ⟨p, hp, rfl, hpc, hps⟩
        rw [hempty] at hold
        cases hold
      · intro p hp
        rcases List.mem_cons.mp hp with rfl | hp
        · exact hc
        · exact h.inList p hp
      · intro p hp
        rcases List.mem_cons.mp hp with rfl | hp
        · exact hs
        · exact h.inRange p hp
      · intro p hp
        rw [ch_place]
        split
        · exact hfound
        · next hne =>
            rcases List.mem_cons.mp hp with rfl | hp
            · exact absurd rfl hne
            · exact h.found p hp
      · exact ⟨hpointer, h.history⟩
      · intro m p hp
        rw [hlast] at hp
        rw [ch_place]
        by_cases hm : n = m
        · rw [if_pos hm] at hp
          cases hp
          rw [if_pos hm.symm]
        · rw [if_neg hm] at hp
          rw [if_neg (Ne.symm hm)]
          exact h.last m p hp
      · intro m hm
        rw [hlast] at hm
        by_cases hnm : n = m
        · rw [if_pos hnm] at hm
          cases hm
        · rw [if_neg hnm] at hm
          rw [ch_place, if_neg (Ne.symm hnm)]
          simp only [nodes_place]
          exact h.free m hm
      · intro d m hm
        rw [nodes_place] at hm
        have hne : m ≠ n := by
          rintro rfl
          exact hfree d hm
        rw [ch_place, if_neg hne, hlast, if_neg (Ne.symm hne)]
        exact h.joined d m hm
      · intro d
        rw [nodes_place]
        exact h.nodup d
      · intro m hm
        rw [ch_place] at hm ⊢
        split at hm
        · rw [hfound] at hm
          cases hm
        · next hne =>
            rw [if_neg hne]
            exact h.quiet m hm

/-- A node that is not marked as found goes to the list of a chassis. -/
theorem addNodeToChassis (h : Tracked g) (hnot : (g.ch n).chFound = false)
    (hc : c < g.chassisCount) : Tracked (Fabric.addNodeToChassis g n c) := by
  have hnone : g.lastPlace n = none := by
    cases hp : g.lastPlace n with
    | none => rfl
    | some p =>
        have hfound := h.found p (List.mem_of_find?_eq_some hp)
        have hboard : p.board = n := by simpa using List.find?_some hp
        rw [hboard, hnot] at hfound
        cases hfound
  have hlist : ∀ d, n ∉ (g.chassis d).nodes := by
    intro d hd
    have hfound := (h.joined d n hd).2.1
    rw [hnot] at hfound
    cases hfound
  have hch : ∀ m, (Fabric.addNodeToChassis g n c).ch m =
      if m = n then { g.ch n with chFound := true, chassis := some c } else g.ch m := fun _ => rfl
  have hcell : ∀ d, (Fabric.addNodeToChassis g n c).chassis d =
      if d = c then { g.chassis c with nodes := n :: (g.chassis c).nodes } else g.chassis d :=
    fun _ => rfl
  have hnodes : ∀ d, ((Fabric.addNodeToChassis g n c).chassis d).nodes =
      if d = c then n :: (g.chassis c).nodes else (g.chassis d).nodes := by
    intro d
    rw [hcell]
    split <;> rfl
  have hboard : ∀ d t, ((Fabric.addNodeToChassis g n c).chassis d).board t =
      (g.chassis d).board t := by
    intro d t
    rw [hcell]
    split
    · next hdc =>
        rw [hdc]
        cases t <;> rfl
    · rfl
  constructor
  · intro d t m
    rw [hboard]
    exact h.filled d t m
  · exact h.once
  · exact h.inList
  · exact h.inRange
  · intro p hp
    rw [hch]
    split
    · rfl
    · exact h.found p hp
  · exact h.history
  · intro m p hp
    have hne : m ≠ n := by
      rintro rfl
      rw [show g.lastPlace m = some p from hp] at hnone
      cases hnone
    rw [hch, if_neg hne]
    exact h.last m p hp
  · intro m hm
    by_cases hmn : m = n
    · refine .inr ⟨c, ?_⟩
      rw [hnodes, if_pos rfl, hmn]
      exact List.mem_cons_self
    · rw [hch, if_neg hmn]
      rcases h.free m hm with hfree | ⟨d, hd⟩
      · exact .inl hfree
      · refine .inr ⟨d, ?_⟩
        rw [hnodes]
        split
        · next hdc => exact List.mem_cons_of_mem n (hdc ▸ hd)
        · exact hd
  · intro d m hm
    rw [hnodes] at hm
    have hcases : (m = n ∧ d = c) ∨ m ∈ (g.chassis d).nodes := by
      split at hm
      · next hdc =>
          rcases List.mem_cons.mp hm with hmn | hm
          · exact .inl ⟨hmn, hdc⟩
          · exact .inr (hdc ▸ hm)
      · exact .inr hm
    rcases hcases with ⟨rfl, rfl⟩ | hold
    · rw [hch, if_pos rfl]
      exact ⟨hc, rfl, (h.quiet m hnot).1, rfl, hnone⟩
    · have hne : m ≠ n := by
        rintro rfl
        exact hlist d hold
      rw [hch, if_neg hne]
      exact h.joined d m hold
  · intro d
    rw [hnodes]
    split
    · exact List.nodup_cons.mpr ⟨hlist c, h.nodup c⟩
    · exact h.nodup d
  · intro m hm
    rw [hch] at hm ⊢
    split at hm
    · cases hm
    · next hne =>
        rw [if_neg hne]
        exact h.quiet m hm

end Tracked
/-- The second pass: no list of a chassis has a node yet. -/
structure Building (count : Nat) (g : Grouping) : Prop where
  tracked : Tracked g
  lists : ∀ c, (g.chassis c).nodes = []
  count : g.chassisCount = count

namespace Fabric
variable {f : Fabric} {g : Grouping} {n : NodeRef} {i : Nat}

theorem getLineIndex_le (h : f.getLineIndex g n = some i) : 1 ≤ i ∧ i ≤ linesMaxNum := by
  unfold getLineIndex at h
  simp only [Option.ite_none_left_eq_some, Option.some.injEq] at h
  obtain ⟨hrange, rfl⟩ := h
  omega

theorem getSpineIndex_le (h : f.getSpineIndex g n = some i) : 1 ≤ i ∧ i ≤ spinesMaxNum := by
  unfold getSpineIndex at h
  simp only [Option.ite_none_left_eq_some, Option.some.injEq] at h
  obtain ⟨hrange, rfl⟩ := h
  omega

end Fabric

namespace Building
open Grouping
variable {f : Fabric} {count : Nat} {g g' : Grouping} {n m : NodeRef} {c : ChassisRef} {k : Nat}

theorem insert (h : Building count g) (hfound : (g.ch n).chFound = true) (hc : c < count)
    {s : Slot} (hs : s.InRange) : Building count (g.insert n c s) where
  tracked := by
    apply h.tracked.insert hfound
    · intro d
      rw [h.lists]
      exact List.not_mem_nil
    · rw [h.count]
      exact hc
    · exact hs
  lists d := by
    unfold Grouping.insert
    split
    · exact h.lists d
    · rw [nodes_place]
      exact h.lists d
  count := by
    unfold Grouping.insert
    split
    · exact h.count
    · exact h.count

theorem insertSpine (h : Building count g) (hfound : (g.ch n).chFound = true) (hc : c < count)
    (hinsert : f.insertSpine g n c = .ok g') : Building count g' := by
  unfold Fabric.insertSpine at hinsert
  split at hinsert
  · cases hinsert
  · next i hindex =>
      cases hinsert
      exact h.insert hfound hc (Fabric.getSpineIndex_le hindex).2

theorem insertLineRouter (h : Building count g) (hfound : (g.ch n).chFound = true) (hc : c < count)
    (hinsert : f.insertLineRouter g n c = .ok g') : Building count g' := by
  unfold Fabric.insertLineRouter at hinsert
  split at hinsert
  · cases hinsert
  · next i hindex =>
      cases hinsert
      exact h.insert hfound hc (Fabric.getLineIndex_le hindex).2

theorem catchSpine (h : Building count g) (hc : c < count)
    (hround : f.catchSpine c n g k = .ok g') : Building count g' := by
  unfold Fabric.catchSpine at hround
  obtain ⟨port, -, hround⟩ := bind_eq_ok.mp hround
  split at hround
  · cases hround
    exact h
  · split at hround
    · cases hround
      exact h
    · split at hround
      · cases hround
        exact h
      · next hskip =>
          apply h.insertSpine ?_ hc hround
          simp only [Bool.or_eq_true, Bool.not_eq_true', not_or, Bool.not_eq_false] at hskip
          exact hskip.2

theorem catchLine (h : Building count g) (hc : c < count)
    (hround : f.catchLine c n g k = .ok g') : Building count g' := by
  unfold Fabric.catchLine at hround
  obtain ⟨port, -, hround⟩ := bind_eq_ok.mp hround
  split at hround
  · cases hround
    exact h
  · split at hround
    · cases hround
      exact h
    · split at hround
      · cases hround
        exact h
      · next hskip =>
          apply h.insertLineRouter ?_ hc hround
          simp only [Bool.or_eq_true, Bool.not_eq_true', not_or, Bool.not_eq_false] at hskip
          exact hskip.2

theorem firstLine (h : Building count g) (hc : c < count)
    (hround : f.firstLine c n g k = .ok g') : Building count g' := by
  unfold Fabric.firstLine at hround
  obtain ⟨port, -, hround⟩ := bind_eq_ok.mp hround
  split at hround
  · cases hround
    exact h
  · split at hround
    · cases hround
      exact h
    · split at hround
      · cases hround
        exact h
      · next hskip =>
          split at hround
          · cases hround
            exact h
          · next i hindex =>
              cases hround
              apply h.insert (s := .line i) ?_ hc (Fabric.getLineIndex_le hindex).2
              simp only [Bool.or_eq_true, Bool.not_eq_true', not_or, Bool.not_eq_false] at hskip
              exact hskip.2

theorem passOnLinesCatchSpines (h : Building count g) (hc : c < count)
    (hpass : f.passOnLinesCatchSpines g c = .ok g') : Building count g' := by
  apply foldlM_invariant (P := Building count) ?_ hpass h
  intro i _ s s' hs hround
  unfold Fabric.passOnLine at hround
  split at hround
  · cases hround
    exact hs
  · split at hround
    · exact foldlM_invariant (P := Building count) (fun _ _ _ _ hs => hs.catchSpine hc) hround hs
    · cases hround
      exact hs

theorem passOnSpinesCatchLines (h : Building count g) (hc : c < count)
    (hpass : f.passOnSpinesCatchLines g c = .ok g') : Building count g' := by
  apply foldlM_invariant (P := Building count) ?_ hpass h
  intro i _ s s' hs hround
  unfold Fabric.passOnSpine at hround
  split at hround
  · cases hround
    exact hs
  · exact foldlM_invariant (P := Building count) (fun _ _ _ _ hs => hs.catchLine hc) hround hs

theorem modifyChassis (h : Building count g) {u : Chassis → Chassis}
    (hboard : ∀ chassis s, (u chassis).board s = chassis.board s)
    (hnodes : ∀ chassis, (u chassis).nodes = chassis.nodes) :
    Building count (g.modifyChassis c u) where
  tracked := h.tracked.modifyChassis hboard hnodes
  lists d := by
    change (if d = c then u (g.chassis c) else g.chassis d).nodes = []
    split
    · rw [hnodes]
      exact h.lists c
    · exact h.lists d
  count := h.count

theorem buildChassis (h : Building count g) (hfound : (g.ch n).chFound = true) (hc : c < count)
    (hbuild : f.buildChassis g n c = .ok g') : Building count g' := by
  unfold Fabric.buildChassis at hbuild
  obtain ⟨g₁, h₁, hbuild⟩ := bind_eq_ok.mp hbuild
  obtain ⟨g₂, h₂, hbuild⟩ := bind_eq_ok.mp hbuild
  obtain ⟨g₃, h₃, hbuild⟩ := bind_eq_ok.mp hbuild
  obtain ⟨g₄, h₄, hbuild⟩ := bind_eq_ok.mp hbuild
  obtain ⟨g₅, h₅, hbuild⟩ := bind_eq_ok.mp hbuild
  obtain ⟨g₆, h₆, hbuild⟩ := bind_eq_ok.mp hbuild
  have hspine := h.insertSpine hfound hc h₁
  have hlines := foldlM_invariant (P := Building count) (fun _ _ _ _ hs => hs.firstLine hc) h₂ hspine
  have hpasses := ((((hlines.passOnLinesCatchSpines hc h₃).passOnSpinesCatchLines hc
    h₄).passOnLinesCatchSpines hc h₅).passOnSpinesCatchLines hc h₆)
  cases hbuild
  unfold Fabric.passOnSpinesInterpolateChguid
  split
  · exact hpasses
  · exact hpasses.modifyChassis (fun chassis s => by cases s <;> rfl) fun _ => rfl

end Building

namespace Fabric
open Grouping
variable {f : Fabric} {g g' : Grouping} {n : NodeRef}

theorem building_buildRound {count : Nat} (h : Building count g)
    (hround : f.buildRound g n = .ok g') : ∃ count', Building count' g' := by
  unfold buildRound at hround
  split at hround
  · cases hround
    exact ⟨count, h⟩
  · split at hround
    · cases hround
      exact ⟨count, h⟩
    · next hskip =>
        have hfound : (g.ch n).chFound = true := by
          simp only [Bool.or_eq_true, not_or] at hskip
          simpa using hskip.1.1
        have hadd : Building (count + 1) g.addChassis.1 := by
          refine ⟨h.tracked.addChassis, fun d => ?_, congrArg (· + 1) h.count⟩
          change (if d = g.chassisCount then Chassis.blank else g.chassis d).nodes = []
          split
          · rfl
          · exact h.lists d
        have hnumber : Building (count + 1) (g.addChassis.1.numberChassis g.addChassis.2) := by
          refine ⟨hadd.tracked.numberChassis, fun d => ?_, hadd.count⟩
          exact (hadd.modifyChassis (c := g.addChassis.2) (u := fun chassis =>
            { chassis with chassisnum := UInt8.ofNat (g.chassisnum + 1) })
            (fun chassis s => by cases s <;> rfl) fun _ => rfl).lists d
        refine ⟨count + 1, hnumber.buildChassis hfound ?_ hround⟩
        change g.chassisCount < count + 1
        rw [h.count]
        exact Nat.lt_succ_self count

end Fabric
end InfinibandDiags
