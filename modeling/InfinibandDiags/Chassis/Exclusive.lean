import InfinibandDiags.Chassis.Placements

/-! When the slots of all chassis are exclusive. -/
namespace InfinibandDiags
open Folds

theorem History.of_append {newer older : List Placement} {p : Placement}
    (h : History (newer ++ p :: older)) :
    p.before = (older.find? fun q => q.board = p.board).map (·.chassis) := by
  induction newer with
  | nil => exact h.1
  | cons q newer ih => exact ih h.2

/-- Boards whose chassis pointer was always `NULL` were placed once. -/
theorem History.unique {l : List Placement} (h : History l) {p q : Placement} (hp : p ∈ l)
    (hq : q ∈ l) (hboard : p.board = q.board) (hbefore : ∀ r ∈ l, r.board = p.board → r.before = none) :
    p = q := by
  induction l with
  | nil => cases hp
  | cons r older ih =>
      have hnone : r.board = p.board → ∀ x ∈ older, x.board ≠ r.board := by
        intro hr x hx hxr
        have hold := h.1
        rw [hbefore r List.mem_cons_self hr, eq_comm, Option.map_eq_none_iff] at hold
        simpa [hxr] using List.find?_eq_none.mp hold x hx
      rcases List.mem_cons.mp hp with rfl | hp'
      · rcases List.mem_cons.mp hq with rfl | hq'
        · rfl
        · exact absurd hboard.symm (hnone rfl q hq')
      · rcases List.mem_cons.mp hq with rfl | hq'
        · exact absurd hboard (hnone hboard.symm p hp')
        · exact ih h.2 hp' hq' fun x hx => hbefore x (List.mem_cons_of_mem r hx)

namespace Fabric
open Grouping
variable {f : Fabric} {g g' : Grouping} {n : NodeRef} {c : ChassisRef}

theorem findChassisguid_lt (hfind : f.findChassisguid g n = .ok (some c)) : c < g.chassisCount := by
  unfold findChassisguid at hfind
  obtain ⟨guid, -, hfind⟩ := bind_eq_ok.mp hfind
  rw [Except.ok.injEq] at hfind
  split at hfind
  · exact List.mem_range.mp (List.mem_of_find?_eq_some hfind)
  · cases hfind

theorem tracked_newChassis (h : Tracked g) (hnew : f.newChassis g n = .ok g') : Tracked g' := by
  unfold newChassis at hnew
  obtain ⟨guid, -, hnew⟩ := bind_eq_ok.mp hnew
  cases hnew
  have hguid : Tracked (g.addChassis.1.modifyChassis g.addChassis.2 fun chassis =>
      { chassis with chassisguid := guid, nodecount := 1 }) :=
    h.addChassis.modifyChassis (fun chassis s => by cases s <;> rfl) fun _ => rfl
  exact hguid.of_same rfl rfl (Nat.le_refl _) (fun _ _ => rfl) fun _ => rfl

theorem tracked_countRound (h : Tracked g) (hround : f.countRound g n = .ok g') : Tracked g' := by
  unfold countRound at hround
  split at hround
  · cases hround
    exact h
  · obtain ⟨found, -, hround⟩ := bind_eq_ok.mp hround
    split at hround
    · cases hround
      exact h.modifyChassis (fun chassis s => by cases s <;> rfl) fun _ => rfl
    · exact tracked_newChassis h hround

theorem slotIndex_le {top i j : Nat} (h : slotIndex (top + 1) i = .ok j) : j ≤ top := by
  unfold slotIndex at h
  split at h
  · next hlt =>
      cases h
      exact Nat.le_of_lt_succ hlt
  · cases h

/-- A board with a slot type is in no list. -/
theorem tracked_insertMellanox (h : Tracked g) (hfound : (g.ch n).chFound = true)
    (hc : c < g.chassisCount) (hinsert : insertMellanoxLineAndSpine g n c = .ok g') :
    Tracked g' := by
  have hfree : (g.ch n).chSlot ≠ .unresolvedCs → ∀ d, n ∉ (g.chassis d).nodes := by
    intro hslot d hd
    exact hslot (h.joined d n hd).2.2.1
  unfold insertMellanoxLineAndSpine at hinsert
  dsimp only at hinsert
  split at hinsert
  · next hslot =>
      obtain ⟨i, hindex, hinsert⟩ := bind_eq_ok.mp hinsert
      cases hinsert
      exact h.insert hfound (hfree (by rw [hslot]; decide)) hc (slotIndex_le hindex)
  · next hslot =>
      obtain ⟨i, hindex, hinsert⟩ := bind_eq_ok.mp hinsert
      cases hinsert
      exact h.insert hfound (hfree (by rw [hslot]; decide)) hc (slotIndex_le hindex)
  · cases hinsert
    exact h

theorem tracked_joinChassis (h : Tracked g) (hc : c < g.chassisCount)
    (hjoin : f.joinChassis g n c = .ok g') : Tracked g' := by
  have hnumbered : Tracked (if (g.chassis c).chassisnum = 0 then g.numberChassis c else g) ∧
      c < (if (g.chassis c).chassisnum = 0 then g.numberChassis c else g).chassisCount := by
    split
    · exact ⟨h.numberChassis, hc⟩
    · exact ⟨h, hc⟩
  unfold joinChassis at hjoin
  dsimp only at hjoin
  generalize (if (g.chassis c).chassisnum = 0 then g.numberChassis c else g) = g₁
    at hjoin hnumbered
  split at hjoin
  · next hnot =>
      cases hjoin
      apply hnumbered.1.addNodeToChassis ?_ hnumbered.2
      simpa using hnot
  · next hfound =>
      split at hjoin
      · apply tracked_insertMellanox hnumbered.1 ?_ hnumbered.2 hjoin
        simpa using hfound
      · cases hjoin
        exact hnumbered.1

theorem tracked_groupRound (h : Tracked g) (hround : f.groupRound g n = .ok g') : Tracked g' := by
  unfold groupRound at hround
  split at hround
  · cases hround
    exact h
  · obtain ⟨found, hfind, hround⟩ := bind_eq_ok.mp hround
    split at hround
    · cases hround
      exact h
    · split at hround
      · exact tracked_joinChassis h (findChassisguid_lt hfind) hround
      · cases hround
        exact h

theorem tracked_groupNodes (hgroup : f.groupNodes = .ok g) : Tracked g := by
  unfold groupNodes at hgroup
  obtain ⟨g₁, h₁, hgroup⟩ := bind_eq_ok.mp hgroup
  obtain ⟨g₂, h₂, hgroup⟩ := bind_eq_ok.mp hgroup
  obtain ⟨g₃, h₃, hgroup⟩ := bind_eq_ok.mp hgroup
  obtain ⟨g₄, h₄, hgroup⟩ := bind_eq_ok.mp hgroup
  have hrecording := recording_pass (orFault_eq_ok.mp h₁)
  have hstart : ∃ count, Building count g₁ := ⟨_, .of_recording hrecording, fun d => by
    rw [hrecording.chassis]
    rfl, rfl⟩
  obtain ⟨count, hbuilding⟩ := foldlM_invariant (P := fun g => ∃ count, Building count g)
    (fun _ _ _ _ ⟨_, hs⟩ hround => building_buildRound hs hround) h₂ hstart
  have hcounted := foldlM_invariant (P := Tracked) (fun _ _ _ _ => tracked_countRound)
    (orFault_eq_ok.mp h₃) hbuilding.tracked
  have hgrouped := foldlM_invariant (P := Tracked) (fun _ _ _ _ => tracked_groupRound)
    (orFault_eq_ok.mp h₄) hcounted
  cases hgroup
  exact hgrouped.of_same rfl rfl (Nat.le_refl _) (fun _ _ => rfl) fun _ => rfl

/-- A switch is in one slot of one chassis, and its chassis pointer says so. -/
structure SlotsExclusive (f : Fabric) (g : Grouping) : Prop where
  once : ∀ n ∈ f.switches, ∀ c < g.chassisCount, ∀ d < g.chassisCount, ∀ s t,
    (g.chassis c).board s = some n → (g.chassis d).board t = some n → c = d ∧ s = t
  owner : ∀ n ∈ f.switches, ∀ c < g.chassisCount, ∀ s, (g.chassis c).board s = some n →
    (g.ch n).chassis = some c

/-- The slots are exclusive if and only if no switch was put in a slot while its chassis pointer
was set. -/
theorem slotsExclusive_iff (hgroup : f.groupNodes = .ok g) : SlotsExclusive f g ↔
    ∀ p ∈ g.placed, p.board ∈ f.switches → p.before = none := by
  have h := tracked_groupNodes hgroup
  have hslot : ∀ p ∈ g.placed, (g.chassis p.chassis).board p.slot = some p.board := fun p hp =>
    (h.filled _ _ _).mpr ⟨p, hp, rfl, rfl, rfl⟩
  constructor
  · intro hexclusive p hp hswitch
    by_contra hbefore
    obtain ⟨newer, older, hplaced⟩ := List.append_of_mem hp
    have hhistory := h.history
    have honce := h.once
    rw [hplaced] at hhistory honce
    rw [hhistory.of_append, Option.map_eq_none_iff] at hbefore
    obtain ⟨q, hq⟩ := Option.ne_none_iff_exists'.mp hbefore
    have hqold := List.mem_of_find?_eq_some hq
    have hqmem : q ∈ g.placed := by
      rw [hplaced]
      exact List.mem_append_right _ (List.mem_cons_of_mem _ hqold)
    have hboard : q.board = p.board := by simpa using List.find?_some hq
    have hsame := hexclusive.once p.board hswitch p.chassis (h.inList p hp) q.chassis
      (h.inList q hqmem) p.slot q.slot (hslot p hp) (hboard ▸ hslot q hqmem)
    rw [List.map_append, List.map_cons] at honce
    apply (List.nodup_cons.mp (List.nodup_append.mp honce).2.1).1
    refine List.mem_map.mpr ⟨q, hqold, ?_⟩
    rw [hsame.1, hsame.2]
  · intro hbefore
    have hunique : ∀ p ∈ g.placed, ∀ q ∈ g.placed, p.board ∈ f.switches → p.board = q.board →
        p = q := by
      intro p hp q hq hswitch hboard
      apply h.history.unique hp hq hboard
      intro r hr hrp
      exact hbefore r hr (hrp ▸ hswitch)
    constructor
    · intro n hn c _ d _ s t hc hd
      obtain ⟨p, hp, rfl, rfl, rfl⟩ := (h.filled c s n).mp hc
      obtain ⟨q, hq, hboard, rfl, rfl⟩ := (h.filled d t _).mp hd
      rw [hunique p hp q hq hn hboard.symm]
      exact ⟨rfl, rfl⟩
    · intro n hn c _ s hc
      obtain ⟨p, hp, rfl, rfl, rfl⟩ := (h.filled c s n).mp hc
      cases hlast : g.lastPlace p.board with
      | none =>
          have hnot := List.find?_eq_none.mp hlast p hp
          simp at hnot
      | some q =>
          have hboard : q.board = p.board := by simpa using List.find?_some hlast
          rw [h.last _ q hlast, hunique p hp q (List.mem_of_find?_eq_some hlast) hn hboard.symm]

end Fabric

/-- The NodeInfo of a board. -/
def boardInfo (vendid devid : Nat) (sysimgguid : UInt64) : SmpData :=
  .ofBytes (madSetField64 (madSetField (madSetField SmpData.zero.bytes 0 .nodeVendorid vendid) 0
    .nodeDevid devid) 0 .nodeSystemGuid sysimgguid)

/-- A switch with ports from 1 on; port `k` of node `n` is at `256 * n + k`. -/
def boardNode (n numports : Nat) (info : SmpData) (nodedesc : Bytes) : Node :=
  { (default : Node) with
    guid := UInt64.ofNat n + 1
    type := ibNodeSwitch
    numports := numports
    info := info
    nodedesc := .ofBytes nodedesc
    ports := fun k => if 1 ≤ k ∧ k ≤ numports then some (256 * n + k) else none }

/-- Some switches and the cables between their ports. -/
def boardFabric (boards : List Node) (cables : List (PortRef × PortRef)) : Fabric :=
  let refs := List.range boards.length
  { allocateFabricInternal with
    node := fun n => boards.getD n default
    nodeCount := boards.length
    port := fun p =>
      { (default : Port) with
        guid := UInt64.ofNat (p / 256) + 1
        portnum := p % 256
        node := p / 256
        remoteport := (cables.lookup p).or ((cables.map Prod.swap).lookup p) }
    portCount := 256 * boards.length
    nodes := refs
    switches := refs }

/-- Two spines that a line takes for the same slot. -/
def spinesOfOneSlot : Fabric :=
  boardFabric [boardNode 0 1 (boardInfo vtrVendorId vtrDevidSfb4200 0) [],
    boardNode 1 1 (boardInfo vtrVendorId vtrDevidSfb4200 0) [],
    boardNode 2 2 (boardInfo vtrVendorId vtrDevidSlb4018 0) []] [(1, 513), (257, 514)]

theorem spinesOfOneSlot_run : ∃ g, spinesOfOneSlot.groupNodes = .ok g ∧ g.chassisCount = 2 ∧
    (g.chassis 0).linenode 1 = some 2 ∧ (g.chassis 1).linenode 1 = some 2 := by
  have hrun : spinesOfOneSlot.groupNodes.toOption.any (fun g => decide (g.chassisCount = 2 ∧
      (g.chassis 0).linenode 1 = some 2 ∧ (g.chassis 1).linenode 1 = some 2)) = true := by
    decide +kernel
  obtain ⟨g, hg, hslots⟩ := (Option.any_eq_true _ _).mp hrun
  exact ⟨g, toOption_eq_some.mp hg, of_decide_eq_true hslots⟩

theorem slotsExclusive_iff_spinesOfOneSlot : ∃ g, spinesOfOneSlot.groupNodes = .ok g ∧
    (spinesOfOneSlot.SlotsExclusive g ↔
      ∀ p ∈ g.placed, p.board ∈ spinesOfOneSlot.switches → p.before = none) := by
  obtain ⟨g, hgroup, -⟩ := spinesOfOneSlot_run
  exact ⟨g, hgroup, Fabric.slotsExclusive_iff hgroup⟩

/-- The second spine gets a chassis of its own, and the line is put into that one, too. -/
theorem slots_shared : ∃ f : Fabric, ∃ g, f.groupNodes = .ok g ∧ ¬ f.SlotsExclusive g := by
  obtain ⟨g, hgroup, hcount, h₀, h₁⟩ := spinesOfOneSlot_run
  refine ⟨spinesOfOneSlot, g, hgroup, ?_⟩
  intro hexclusive
  have hsame := hexclusive.once 2 (by decide) 0 (by rw [hcount]; decide) 1 (by rw [hcount]; decide)
    (.line 1) (.line 1) h₀ h₁
  exact absurd hsame.1 (by decide)

end InfinibandDiags
