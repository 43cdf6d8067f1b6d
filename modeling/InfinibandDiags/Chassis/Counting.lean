import InfinibandDiags.Chassis.Exclusive
import Mathlib.Data.Finset.Card

/-! The third pass of `group_nodes`: a chassis record for each chassis GUID, with the count of
its nodes. -/
namespace InfinibandDiags
open Folds

/-- A field of the chassis records that an update of one of them leaves alone. -/
theorem Grouping.modifyChassis_frame {β : Type} (g : Grouping) (c d : ChassisRef)
    (field : Chassis → β) {u : Chassis → Chassis}
    (hu : ∀ chassis, field (u chassis) = field chassis) :
    field ((g.modifyChassis c u).chassis d) = field (g.chassis d) := by
  change field (if d = c then u (g.chassis c) else g.chassis d) = _
  split
  · next hd => rw [hu, hd]
  · rfl

namespace Fabric
variable {f : Fabric} {g g' : Grouping} {seen : List NodeRef} {n m : NodeRef} {c : ChassisRef}
  {guid : UInt64}

def inGroup (f : Fabric) (guid : UInt64) (n : NodeRef) : Bool :=
  f.byGuid n && decide (f.getChassisguid n = .ok guid)

/-- The nodes of one chassis GUID, among some. -/
def group (f : Fabric) (ns : List NodeRef) (guid : UInt64) : List NodeRef :=
  ns.filter (f.inGroup guid)

/-- The chassis GUIDs that two or more nodes have. -/
def sharedGuids (f : Fabric) : Finset UInt64 :=
  (f.nodes.filterMap fun n => (f.getChassisguid n).toOption).toFinset.filter fun guid =>
    2 ≤ (f.group f.nodes guid).length

theorem inGroup_iff : f.inGroup guid n = true ↔
    f.byGuid n = true ∧ f.getChassisguid n = .ok guid := by
  simp [inGroup]

theorem mem_group {ns : List NodeRef} : n ∈ f.group ns guid ↔ n ∈ ns ∧ f.inGroup guid n = true :=
  List.mem_filter

theorem group_concat (ns : List NodeRef) (n : NodeRef) (guid : UInt64) :
    f.group (ns ++ [n]) guid = f.group ns guid ++ if f.inGroup guid n then [n] else [] := by
  unfold group
  rw [List.filter_append, List.filter_singleton, cond_eq_ite]

theorem inGroup_unique {guid' : UInt64} (h : f.inGroup guid n = true)
    (h' : f.inGroup guid' n = true) : guid = guid' := by
  have hguid := (inGroup_iff.mp h).2
  rw [(inGroup_iff.mp h').2] at hguid
  exact (Except.ok.inj hguid).symm

/-- The chassis records of the nodes counted so far, one for each chassis GUID. -/
structure Table (f : Fabric) (seen : List NodeRef) (g : Grouping) : Prop where
  listed : g.listed = true ∨ g.chassisCount = 0
  guidInj : ∀ c < g.chassisCount, ∀ d < g.chassisCount,
    (g.chassis c).chassisguid = (g.chassis d).chassisguid → c = d
  count : ∀ c < g.chassisCount,
    (g.chassis c).nodecount = UInt8.ofNat (f.group seen (g.chassis c).chassisguid).length
  covers : ∀ n ∈ seen, f.byGuid n = true →
    ∃ c < g.chassisCount, f.inGroup (g.chassis c).chassisguid n = true
  used : ∀ c < g.chassisCount, ∃ n ∈ seen, f.inGroup (g.chassis c).chassisguid n = true

theorem Table.find (h : Table f seen g) (hn : n ∈ seen) (hin : f.inGroup guid n = true) :
    ∃ c < g.chassisCount, (g.chassis c).chassisguid = guid := by
  obtain ⟨c, hc, hin'⟩ := h.covers n hn (inGroup_iff.mp hin).1
  exact ⟨c, hc, inGroup_unique hin' hin⟩

theorem findChassisguid_some (h : f.findChassisguid g n = .ok (some c)) :
    c < g.chassisCount ∧ f.getChassisguid n = .ok (g.chassis c).chassisguid := by
  refine ⟨findChassisguid_lt h, ?_⟩
  unfold findChassisguid at h
  obtain ⟨guid, hguid, h⟩ := bind_eq_ok.mp h
  rw [Except.ok.injEq] at h
  split at h
  · have hfound := List.find?_some h
    rw [decide_eq_true_eq] at hfound
    rw [hguid, hfound]
  · cases h

theorem findChassisguid_none (hlisted : g.listed = true ∨ g.chassisCount = 0)
    (h : f.findChassisguid g n = .ok none) (hguid : f.getChassisguid n = .ok guid) :
    ∀ d < g.chassisCount, (g.chassis d).chassisguid ≠ guid := by
  intro d hd
  unfold findChassisguid at h
  obtain ⟨guid', hguid', h⟩ := bind_eq_ok.mp h
  rw [hguid] at hguid'
  cases hguid'
  rw [Except.ok.injEq] at h
  split at h
  · simpa using List.find?_eq_none.mp h d (List.mem_range.mpr hd)
  · next hnot =>
      rcases hlisted with hlisted | hzero
      · exact absurd hlisted hnot
      · omega

/-- A round that counts no node, or is of a node without a GUID. -/
theorem Table.skip (h : Table f seen g) (hn : f.byGuid n = false) : Table f (seen ++ [n]) g := by
  have hnot : ∀ guid, f.inGroup guid n = false := by
    intro guid
    rw [inGroup, hn, Bool.false_and]
  constructor
  · exact h.listed
  · exact h.guidInj
  · intro c hc
    rw [group_concat, hnot, h.count c hc]
    simp
  · intro m hm hby
    rcases List.mem_append.mp hm with hm | hm
    · exact h.covers m hm hby
    · rw [List.mem_singleton.mp hm, hn] at hby
      cases hby
  · intro c hc
    obtain ⟨m, hm, hguid⟩ := h.used c hc
    exact ⟨m, List.mem_append_left _ hm, hguid⟩

/-- One more node of a chassis GUID that is known. -/
theorem Table.known (h : Table f seen g) (hc : c < g.chassisCount)
    (hn : f.inGroup (g.chassis c).chassisguid n = true)
    (hlisted : g'.listed = g.listed) (hcount : g'.chassisCount = g.chassisCount)
    (hguid : ∀ d, (g'.chassis d).chassisguid = (g.chassis d).chassisguid)
    (hnodecount : ∀ d, (g'.chassis d).nodecount =
      if d = c then (g.chassis c).nodecount + 1 else (g.chassis d).nodecount) :
    Table f (seen ++ [n]) g' := by
  constructor
  · rw [hlisted, hcount]
    exact h.listed
  · intro d hd e he heq
    rw [hcount] at hd he
    rw [hguid, hguid] at heq
    exact h.guidInj d hd e he heq
  · intro d hd
    rw [hcount] at hd
    rw [hnodecount, hguid, group_concat]
    by_cases hdc : d = c
    · subst hdc
      rw [if_pos rfl, if_pos hn, List.length_append, List.length_singleton, UInt8.ofNat_add,
        h.count d hd]
      rfl
    · have hnot : ¬ f.inGroup (g.chassis d).chassisguid n = true := by
        intro hin
        exact hdc (h.guidInj d hd c hc (inGroup_unique hin hn))
      rw [if_neg hdc, if_neg hnot, List.append_nil, h.count d hd]
  · intro m hm hby
    simp only [hcount, hguid]
    rcases List.mem_append.mp hm with hm | hm
    · exact h.covers m hm hby
    · rw [List.mem_singleton.mp hm]
      exact ⟨c, hc, hn⟩
  · intro d hd
    rw [hcount] at hd
    obtain ⟨m, hm, hin⟩ := h.used d hd
    rw [hguid]
    exact ⟨m, List.mem_append_left _ hm, hin⟩

/-- The first node of a chassis GUID. -/
theorem Table.new (h : Table f seen g) (hn : f.inGroup guid n = true)
    (hnew : ∀ d < g.chassisCount, (g.chassis d).chassisguid ≠ guid)
    (hlisted : g'.listed = true) (hcount : g'.chassisCount = g.chassisCount + 1)
    (hchassis : ∀ d, g'.chassis d = if d = g.chassisCount then
      { Chassis.blank with chassisguid := guid, nodecount := 1 } else g.chassis d) :
    Table f (seen ++ [n]) g' := by
  have hold : ∀ d < g.chassisCount, g'.chassis d = g.chassis d := by
    intro d hd
    rw [hchassis, if_neg (Nat.ne_of_lt hd)]
  have hlast : g'.chassis g.chassisCount =
      { Chassis.blank with chassisguid := guid, nodecount := 1 } := by
    rw [hchassis, if_pos rfl]
  have hcases : ∀ d < g'.chassisCount, d < g.chassisCount ∨ d = g.chassisCount := by
    intro d hd
    rw [hcount] at hd
    omega
  have hfirst : f.group seen guid = [] := by
    apply List.eq_nil_iff_forall_not_mem.mpr
    intro m hm
    obtain ⟨hm, hin⟩ := mem_group.mp hm
    obtain ⟨d, hd, hguid⟩ := h.find hm hin
    exact hnew d hd hguid
  constructor
  · exact .inl hlisted
  · intro d hd e he heq
    rcases hcases d hd with hd | rfl
    · rcases hcases e he with he | rfl
      · rw [hold d hd, hold e he] at heq
        exact h.guidInj d hd e he heq
      · rw [hold d hd, hlast] at heq
        exact absurd heq (hnew d hd)
    · rcases hcases e he with he | rfl
      · rw [hold e he, hlast] at heq
        exact absurd heq.symm (hnew e he)
      · rfl
  · intro d hd
    rcases hcases d hd with hd | rfl
    · have hnot : ¬ f.inGroup (g.chassis d).chassisguid n = true := by
        intro hin
        exact hnew d hd (inGroup_unique hin hn)
      rw [hold d hd, group_concat, if_neg hnot, List.append_nil, h.count d hd]
    · rw [hlast, group_concat, hfirst, if_pos hn]
      rfl
  · intro m hm hby
    rcases List.mem_append.mp hm with hm | hm
    · obtain ⟨d, hd, hin⟩ := h.covers m hm hby
      exact ⟨d, by omega, by rw [hold d hd, hin]⟩
    · refine ⟨g.chassisCount, by omega, ?_⟩
      rw [hlast, List.mem_singleton.mp hm]
      exact hn
  · intro d hd
    rcases hcases d hd with hd | rfl
    · obtain ⟨m, hm, hin⟩ := h.used d hd
      rw [hold d hd]
      exact ⟨m, List.mem_append_left _ hm, hin⟩
    · rw [hlast]
      exact ⟨n, List.mem_append_right _ List.mem_cons_self, hn⟩

/-- The third pass, when no node has been marked as found. -/
structure Counting (f : Fabric) (seen : List NodeRef) (g : Grouping) : Prop where
  table : Table f seen g
  pointer : ∀ n, (g.ch n).chassis = none
  unfound : ∀ n ∈ f.nodes, (g.ch n).chFound = false
  lists : ∀ c, (g.chassis c).nodes = []
  chassisnum : ∀ c, (g.chassis c).chassisnum = 0
  counter : g.chassisnum = 0

theorem newChassis_ok (h : f.newChassis g n = .ok g') : ∃ guid, f.getChassisguid n = .ok guid ∧
    g'.ch = g.ch ∧ g'.listed = true ∧ g'.chassisnum = g.chassisnum ∧
    g'.chassisCount = g.chassisCount + 1 ∧ ∀ d, g'.chassis d = if d = g.chassisCount then
      { Chassis.blank with chassisguid := guid, nodecount := 1 } else g.chassis d := by
  unfold newChassis at h
  obtain ⟨guid, hguid, h⟩ := bind_eq_ok.mp h
  cases h
  refine ⟨guid, hguid, rfl, rfl, rfl, rfl, fun d => ?_⟩
  by_cases hd : d = g.chassisCount
  · subst hd
    simp [Grouping.modifyChassis]
  · simp [Grouping.modifyChassis, hd]

theorem Counting.countRound (h : Counting f seen g) (hround : f.countRound g n = .ok g') :
    Counting f (seen ++ [n]) g' := by
  unfold Fabric.countRound at hround
  split at hround
  · next hby =>
      cases hround
      exact { h with table := h.table.skip (by simpa using hby) }
  · next hby =>
      have hby : f.byGuid n = true := by simpa using hby
      obtain ⟨found, hfind, hround⟩ := bind_eq_ok.mp hround
      split at hround
      · next c =>
          cases hround
          obtain ⟨hc, hguid⟩ := findChassisguid_some hfind
          refine ⟨h.table.known hc (inGroup_iff.mpr ⟨hby, hguid⟩) rfl rfl ?_ fun d => ?_,
            h.pointer, h.unfound, fun d => ?_, fun d => ?_, h.counter⟩
          · intro d
            exact g.modifyChassis_frame c d Chassis.chassisguid fun _ => by rfl
          · exact apply_ite Chassis.nodecount (d = c) _ _
          · exact (g.modifyChassis_frame c d Chassis.nodes fun _ => by rfl).trans (h.lists d)
          · exact (g.modifyChassis_frame c d Chassis.chassisnum fun _ => by rfl).trans
              (h.chassisnum d)
      · obtain ⟨guid, hguid, hch, hlisted, hcounter, hcount, hcell⟩ := newChassis_ok hround
        refine ⟨?_, ?_, ?_, fun d => ?_, fun d => ?_, hcounter.trans h.counter⟩
        · exact h.table.new (inGroup_iff.mpr ⟨hby, hguid⟩)
            (findChassisguid_none h.table.listed hfind hguid) hlisted hcount hcell
        · rw [hch]
          exact h.pointer
        · rw [hch]
          exact h.unfound
        · rw [hcell, apply_ite Chassis.nodes, h.lists]
          exact ite_self _
        · rw [hcell, apply_ite Chassis.chassisnum, h.chassisnum]
          exact ite_self _

end Fabric
end InfinibandDiags
