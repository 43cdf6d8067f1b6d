import InfinibandDiags.Chassis.Counting
import Mathlib.Order.Interval.Finset.Nat

/-! Grouping by the SystemImageGUID, in a fabric of which the first pass of `group_nodes` marks
no node as found. -/
namespace InfinibandDiags
open Folds
namespace Fabric
variable {f : Fabric} {g g' : Grouping} {seen : List NodeRef} {n m : NodeRef} {c : ChassisRef}

/-- The chassis gets its nodes in the fourth pass. -/
def Large (g : Grouping) (c : ChassisRef) : Prop :=
  c < g.chassisCount ∧ 1 < (g.chassis c).nodecount

instance (g : Grouping) (c : ChassisRef) : Decidable (Large g c) :=
  inferInstanceAs (Decidable (_ ∧ _))

/-- The fourth pass: the lists have the nodes seen so far, and the chassis pointers agree. -/
structure Joining (f : Fabric) (seen : List NodeRef) (g : Grouping) : Prop where
  table : Table f f.nodes g
  unfound : ∀ n ∈ f.nodes, n ∉ seen → (g.ch n).chFound = false
  lists : ∀ c, (g.chassis c).nodes =
    if Large g c then (f.group seen (g.chassis c).chassisguid).reverse else []
  pointer : ∀ n c, (g.ch n).chassis = some c ↔ n ∈ (g.chassis c).nodes

theorem Table.of_same (h : Table f seen g) (hlisted : g'.listed = g.listed)
    (hcount : g'.chassisCount = g.chassisCount)
    (hguid : ∀ d, (g'.chassis d).chassisguid = (g.chassis d).chassisguid)
    (hnodecount : ∀ d, (g'.chassis d).nodecount = (g.chassis d).nodecount) : Table f seen g' := by
  constructor
  · rw [hlisted, hcount]
    exact h.listed
  · simp only [hcount, hguid]
    exact h.guidInj
  · simp only [hcount, hguid, hnodecount]
    exact h.count
  · simp only [hcount, hguid]
    exact h.covers
  · simp only [hcount, hguid]
    exact h.used

theorem Counting.joining (h : Counting f f.nodes g) : Joining f [] g := by
  refine ⟨h.table, fun n hn _ => h.unfound n hn, fun c => ?_, fun n c => ?_⟩
  · rw [h.lists]
    exact (ite_self _).symm
  · rw [h.pointer, h.lists]
    simp

section NumberChassis
variable (g) (c d : ChassisRef)

theorem chassis_numberChassis : (g.numberChassis c).chassis d = (g.modifyChassis c fun chassis =>
    { chassis with chassisnum := UInt8.ofNat (g.chassisnum + 1) }).chassis d := rfl

@[simp] theorem chassisguid_numberChassis :
    ((g.numberChassis c).chassis d).chassisguid = (g.chassis d).chassisguid := by
  rw [chassis_numberChassis]
  exact g.modifyChassis_frame c d Chassis.chassisguid fun _ => by rfl

@[simp] theorem nodecount_numberChassis :
    ((g.numberChassis c).chassis d).nodecount = (g.chassis d).nodecount := by
  rw [chassis_numberChassis]
  exact g.modifyChassis_frame c d Chassis.nodecount fun _ => by rfl

@[simp] theorem nodes_numberChassis :
    ((g.numberChassis c).chassis d).nodes = (g.chassis d).nodes := by
  rw [chassis_numberChassis]
  exact g.modifyChassis_frame c d Chassis.nodes fun _ => by rfl

theorem large_numberChassis : Large (g.numberChassis c) d ↔ Large g d := by
  unfold Large
  rw [nodecount_numberChassis]
  rfl

end NumberChassis

theorem Joining.numberChassis (h : Joining f seen g) : Joining f seen (g.numberChassis c) where
  table := h.table.of_same rfl rfl (chassisguid_numberChassis g c) (nodecount_numberChassis g c)
  unfound := h.unfound
  lists d := by
    simp only [nodes_numberChassis, chassisguid_numberChassis, large_numberChassis]
    exact h.lists d
  pointer m d := by
    rw [nodes_numberChassis]
    exact h.pointer m d

section AddNode
variable (g) (n m : NodeRef) (c d : ChassisRef)

theorem ch_addNodeToChassis : (addNodeToChassis g n c).ch m = if m = n then
    { g.ch n with chFound := true, chassis := some c } else g.ch m := rfl

theorem chassis_addNodeToChassis : (addNodeToChassis g n c).chassis d = if d = c then
    { g.chassis c with nodes := n :: (g.chassis c).nodes } else g.chassis d := rfl

@[simp] theorem chassisguid_addNodeToChassis :
    ((addNodeToChassis g n c).chassis d).chassisguid = (g.chassis d).chassisguid :=
  Grouping.modifyChassis_frame _ c d Chassis.chassisguid fun _ => by rfl

@[simp] theorem nodecount_addNodeToChassis :
    ((addNodeToChassis g n c).chassis d).nodecount = (g.chassis d).nodecount :=
  Grouping.modifyChassis_frame _ c d Chassis.nodecount fun _ => by rfl

@[simp] theorem chassisnum_addNodeToChassis :
    ((addNodeToChassis g n c).chassis d).chassisnum = (g.chassis d).chassisnum :=
  Grouping.modifyChassis_frame _ c d Chassis.chassisnum fun _ => by rfl

theorem nodes_addNodeToChassis : ((addNodeToChassis g n c).chassis d).nodes =
    if d = c then n :: (g.chassis c).nodes else (g.chassis d).nodes := by
  rw [chassis_addNodeToChassis, apply_ite Chassis.nodes]

theorem large_addNodeToChassis : Large (addNodeToChassis g n c) d ↔ Large g d := by
  unfold Large
  rw [nodecount_addNodeToChassis]
  rfl

end AddNode

/-- A node is added once, to the chassis of its GUID. -/
theorem Joining.addNode (h : Joining f seen g) (hnot : n ∉ seen) (hlarge : Large g c)
    (hin : f.inGroup (g.chassis c).chassisguid n = true) :
    Joining f (seen ++ [n]) (addNodeToChassis g n c) := by
  have hfree : ∀ d, n ∉ (g.chassis d).nodes := by
    intro d hd
    rw [h.lists] at hd
    split at hd
    · exact hnot (mem_group.mp (List.mem_reverse.mp hd)).1
    · cases hd
  constructor
  · exact h.table.of_same rfl rfl (fun _ => by simp) fun _ => by simp
  · intro m hm hseen
    rw [List.mem_append, List.mem_singleton, not_or] at hseen
    rw [ch_addNodeToChassis, if_neg hseen.2]
    exact h.unfound m hm hseen.1
  · intro d
    rw [nodes_addNodeToChassis, chassisguid_addNodeToChassis, group_concat]
    simp only [large_addNodeToChassis]
    by_cases hdc : d = c
    · subst hdc
      rw [if_pos rfl, if_pos hlarge, if_pos hin, h.lists, if_pos hlarge, List.reverse_append]
      rfl
    · rw [if_neg hdc, h.lists]
      by_cases hd : Large g d
      · have hother : ¬ f.inGroup (g.chassis d).chassisguid n = true := by
          intro hin'
          exact hdc (h.table.guidInj d hd.1 c hlarge.1 (inGroup_unique hin' hin))
        rw [if_pos hd, if_pos hd, if_neg hother, List.append_nil]
      · rw [if_neg hd, if_neg hd]
  · intro m d
    rw [ch_addNodeToChassis, nodes_addNodeToChassis]
    by_cases hmn : m = n
    · subst hmn
      rw [if_pos rfl]
      by_cases hdc : d = c
      · subst hdc
        simp
      · rw [if_neg hdc]
        exact iff_of_false (fun heq => hdc (Option.some.inj heq).symm) (hfree d)
    · rw [if_neg hmn, h.pointer]
      by_cases hdc : d = c
      · subst hdc
        simp [hmn]
      · rw [if_neg hdc]

/-- A node that stays out of the lists: it has no GUID, or its chassis is not large. -/
theorem Joining.skip (h : Joining f seen g)
    (hnot : ∀ c, Large g c → ¬ f.inGroup (g.chassis c).chassisguid n = true) :
    Joining f (seen ++ [n]) g := by
  refine ⟨h.table, fun m hm hseen => ?_, fun d => ?_, h.pointer⟩
  · exact h.unfound m hm fun hmem => hseen (List.mem_append_left _ hmem)
  · rw [h.lists]
    by_cases hd : Large g d
    · rw [if_pos hd, if_pos hd, group_concat, if_neg (hnot d hd), List.append_nil]
    · rw [if_neg hd, if_neg hd]

/-- What the node that is added does before: its chassis gets a number. -/
theorem joinChassis_ok (hnot : (g.ch n).chFound = false) (h : f.joinChassis g n c = .ok g') :
    g' = addNodeToChassis (if (g.chassis c).chassisnum = 0 then g.numberChassis c else g) n c := by
  unfold joinChassis at h
  dsimp only at h
  have hsame : ((if (g.chassis c).chassisnum = 0 then g.numberChassis c else g).ch n).chFound =
      false := by
    split
    · exact hnot
    · exact hnot
  rw [if_pos (by rw [hsame]; rfl)] at h
  exact (Except.ok.inj h).symm

/-- A round of the fourth pass, of a node that is not seen before. -/
theorem groupRound_cases (h : Joining f seen g) (hn : n ∈ f.nodes) (hseen : n ∉ seen)
    (hround : f.groupRound g n = .ok g') :
    (g' = g ∧ ∀ c, Large g c → ¬ f.inGroup (g.chassis c).chassisguid n = true) ∨
    ∃ c, Large g c ∧ f.inGroup (g.chassis c).chassisguid n = true ∧
      g' = addNodeToChassis (if (g.chassis c).chassisnum = 0 then g.numberChassis c else g) n c := by
  unfold groupRound at hround
  split at hround
  · next hby =>
      cases hround
      refine .inl ⟨rfl, fun c _ hin => ?_⟩
      rw [(inGroup_iff.mp hin).1] at hby
      cases hby
  · next hby =>
      have hby : f.byGuid n = true := by simpa using hby
      obtain ⟨found, hfind, hround⟩ := bind_eq_ok.mp hround
      split at hround
      · cases hround
        refine .inl ⟨rfl, fun c hc hin => ?_⟩
        exact findChassisguid_none h.table.listed hfind (inGroup_iff.mp hin).2 c hc.1 rfl
      · next c =>
          obtain ⟨hc, hguid⟩ := findChassisguid_some hfind
          have hin := inGroup_iff.mpr ⟨hby, hguid⟩
          split at hround
          · next hcount =>
              exact .inr ⟨c, ⟨hc, hcount⟩, hin, joinChassis_ok (h.unfound n hn hseen) hround⟩
          · next hcount =>
              cases hround
              refine .inl ⟨rfl, fun d hd hin' => ?_⟩
              rw [h.table.guidInj d hd.1 c hc (inGroup_unique hin' hin)] at hd
              exact hcount hd.2

theorem Joining.groupRound (h : Joining f seen g) (hn : n ∈ f.nodes) (hseen : n ∉ seen)
    (hround : f.groupRound g n = .ok g') : Joining f (seen ++ [n]) g' := by
  rcases groupRound_cases h hn hseen hround with ⟨rfl, hnot⟩ | ⟨c, hlarge, hin, rfl⟩
  · exact h.skip hnot
  · split
    · apply h.numberChassis.addNode hseen ((large_numberChassis g c c).mpr hlarge)
      rw [chassisguid_numberChassis]
      exact hin
    · exact h.addNode hseen hlarge hin

theorem mem_sharedGuids {guid : UInt64} :
    guid ∈ f.sharedGuids ↔ 2 ≤ (f.group f.nodes guid).length := by
  unfold sharedGuids
  rw [Finset.mem_filter, and_iff_right_iff_imp]
  intro hlen
  have hne : f.group f.nodes guid ≠ [] := List.ne_nil_of_length_pos (by omega)
  obtain ⟨n, hn⟩ := List.exists_mem_of_ne_nil _ hne
  obtain ⟨hn, hin⟩ := mem_group.mp hn
  rw [List.mem_toFinset, List.mem_filterMap]
  exact ⟨n, hn, toOption_eq_some.mpr (inGroup_iff.mp hin).2⟩

theorem Table.large_iff (h : Table f f.nodes g) : Large g c ↔
    c < g.chassisCount ∧ 2 ≤ (f.group f.nodes (g.chassis c).chassisguid).length % 256 := by
  unfold Large
  apply and_congr_right
  intro hc
  rw [h.count c hc, UInt8.lt_iff_toNat_lt, UInt8.toNat_ofNat']
  exact Iff.rfl

/-- Large chassis have different GUIDs, each of them shared. -/
theorem Table.length_le (h : Table f f.nodes g) {cs : List ChassisRef} (hnodup : cs.Nodup)
    (hlarge : ∀ c ∈ cs, Large g c) : cs.length ≤ f.sharedGuids.card := by
  have hguids : (cs.map fun c => (g.chassis c).chassisguid).Nodup := by
    apply hnodup.map_on
    intro c hc d hd
    exact h.guidInj c (hlarge c hc).1 d (hlarge d hd).1
  rw [← List.length_map fun c => (g.chassis c).chassisguid, ← List.toFinset_card_of_nodup hguids]
  apply Finset.card_le_card
  intro guid hguid
  obtain ⟨c, hc, rfl⟩ := List.mem_map.mp (List.mem_toFinset.mp hguid)
  exact mem_sharedGuids.mpr
    ((h.large_iff.mp (hlarge c hc)).2.trans (Nat.mod_le _ _))

/-- The chassis that have numbers, in the order they were given in. -/
structure Numbered (cs : List ChassisRef) (g : Grouping) : Prop where
  nodup : cs.Nodup
  large : ∀ c ∈ cs, Large g c
  counter : g.chassisnum = cs.length
  zero : ∀ c, c ∉ cs → (g.chassis c).chassisnum = 0
  number : ∀ i c, cs[i]? = some c → (g.chassis c).chassisnum.toNat = i + 1
  listed : ∀ c, (g.chassis c).nodes ≠ [] → c ∈ cs

theorem Counting.numbered (h : Counting f f.nodes g) : Numbered [] g where
  nodup := List.nodup_nil
  large := by simp
  counter := h.counter
  zero c _ := h.chassisnum c
  number := by simp
  listed c hc := absurd (h.lists c) hc

variable {cs : List ChassisRef}

theorem Numbered.ne_zero (h : Numbered cs g) (hc : c ∈ cs) : (g.chassis c).chassisnum ≠ 0 := by
  intro hzero
  obtain ⟨i, hi⟩ := List.getElem?_of_mem hc
  have hnumber := h.number i c hi
  rw [hzero] at hnumber
  exact absurd hnumber (Nat.succ_ne_zero i).symm

theorem Numbered.inj (h : Numbered cs g) {d : ChassisRef} (hc : c ∈ cs) (hd : d ∈ cs)
    (heq : (g.chassis c).chassisnum = (g.chassis d).chassisnum) : c = d := by
  obtain ⟨i, hi⟩ := List.getElem?_of_mem hc
  obtain ⟨j, hj⟩ := List.getElem?_of_mem hd
  have hnumber := h.number i c hi
  rw [heq, h.number j d hj, Nat.add_right_cancel_iff] at hnumber
  rw [← hnumber, hj] at hi
  exact (Option.some.inj hi).symm

/-- A number is given once, while they fit in a byte. -/
theorem Numbered.numberChassis (h : Numbered cs g) (hlarge : Large g c)
    (hzero : (g.chassis c).chassisnum = 0) (hfit : cs.length < 255) :
    Numbered (cs ++ [c]) (g.numberChassis c) := by
  have hnew : c ∉ cs := fun hc => h.ne_zero hc hzero
  have hcell : ∀ d, ((g.numberChassis c).chassis d).chassisnum =
      if d = c then UInt8.ofNat (g.chassisnum + 1) else (g.chassis d).chassisnum := by
    intro d
    exact apply_ite Chassis.chassisnum (d = c) _ _
  constructor
  · exact List.nodup_append_comm.mp (List.nodup_cons.mpr ⟨hnew, h.nodup⟩)
  · intro d hd
    rw [large_numberChassis]
    rcases List.mem_append.mp hd with hd | hd
    · exact h.large d hd
    · rw [List.mem_singleton.mp hd]
      exact hlarge
  · rw [List.length_append]
    exact congrArg (· + 1) h.counter
  · intro d hd
    rw [List.mem_append, List.mem_singleton, not_or] at hd
    rw [hcell, if_neg hd.2]
    exact h.zero d hd.1
  · intro i d hi
    rw [List.getElem?_append] at hi
    rw [hcell]
    split at hi
    · have hne : d ≠ c := by
        rintro rfl
        exact hnew (List.mem_of_getElem? hi)
      rw [if_neg hne]
      exact h.number i d hi
    · next hlen =>
        have hlast : i - cs.length < 1 := (List.getElem?_eq_some_iff.mp hi).1
        rw [show i - cs.length = 0 by omega] at hi
        cases hi
        rw [if_pos rfl, UInt8.toNat_ofNat', h.counter]
        omega
  · intro d hd
    rw [nodes_numberChassis] at hd
    exact List.mem_append_left _ (h.listed d hd)

theorem Numbered.addNode (h : Numbered cs g) (hc : c ∈ cs) :
    Numbered cs (addNodeToChassis g n c) where
  nodup := h.nodup
  large d hd := (large_addNodeToChassis g n c d).mpr (h.large d hd)
  counter := h.counter
  zero d hd := by
    rw [chassisnum_addNodeToChassis]
    exact h.zero d hd
  number i d hi := by
    rw [chassisnum_addNodeToChassis]
    exact h.number i d hi
  listed d hd := by
    rw [nodes_addNodeToChassis] at hd
    split at hd
    · next hdc => exact hdc ▸ hc
    · exact h.listed d hd

theorem Numbered.groupRound (hjoin : Joining f seen g) (h : Numbered cs g) (hn : n ∈ f.nodes)
    (hseen : n ∉ seen) (hfew : f.sharedGuids.card ≤ 255) (hround : f.groupRound g n = .ok g') :
    ∃ cs', Numbered cs' g' := by
  rcases groupRound_cases hjoin hn hseen hround with ⟨rfl, -⟩ | ⟨c, hlarge, -, rfl⟩
  · exact ⟨cs, h⟩
  · split
    · next hzero =>
        have hnodup : (cs ++ [c]).Nodup :=
          List.nodup_append_comm.mp (List.nodup_cons.mpr ⟨fun hc => h.ne_zero hc hzero, h.nodup⟩)
        have hlen := hjoin.table.length_le hnodup fun d hd => by
          rcases List.mem_append.mp hd with hd | hd
          · exact h.large d hd
          · exact List.mem_singleton.mp hd ▸ hlarge
        rw [List.length_append, List.length_singleton] at hlen
        exact ⟨_, (h.numberChassis hlarge hzero (by omega)).addNode
          (List.mem_append_right _ List.mem_cons_self)⟩
    · next hnumber =>
        refine ⟨cs, h.addNode ?_⟩
        by_contra hc
        exact hnumber (h.zero c hc)

/-- No Voltaire node, and no Mellanox node that the first pass marks as found. -/
structure Plain (f : Fabric) : Prop where
  nodup : f.nodes.Nodup
  notVoltaire : ∀ n, n ∈ f.nodes ∨ n ∈ f.switches → (f.node n).vendid ≠ vtrVendorId
  notFound : ∀ g, f.switches.foldlM f.fillRecord .blank = .ok g →
    ∀ n ∈ f.nodes, (g.ch n).chFound = false

/-- Another node has the chassis GUID of a node. -/
def HasPeer (f : Fabric) (n : NodeRef) : Prop :=
  ∃ m ∈ f.nodes, f.byGuid m = true ∧ m ≠ n ∧ f.getChassisguid m = f.getChassisguid n

/-- The nodes with a SystemImageGUID are grouped by their chassis GUID, and the chassis of the
groups have numbers. -/
structure GroupedByGuid (f : Fabric) (g : Grouping) : Prop where
  chassisSet : ∀ n ∈ f.nodes, f.byGuid n = true → ((g.ch n).chassis.isSome ↔ f.HasPeer n)
  sameChassis : ∀ n ∈ f.nodes, f.byGuid n = true → ∀ m ∈ f.nodes, f.byGuid m = true → n ≠ m →
    ((∃ c, (g.ch n).chassis = some c ∧ (g.ch m).chassis = some c) ↔
      f.getChassisguid n = f.getChassisguid m)
  lists : ∀ c < g.chassisCount, (g.chassis c).nodes.Nodup ∧ ∀ n, n ∈ (g.chassis c).nodes ↔
    n ∈ f.nodes ∧ f.byGuid n = true ∧ f.getChassisguid n = .ok (g.chassis c).chassisguid ∧
      f.HasPeer n
  numbers : ∀ c < g.chassisCount, (g.chassis c).nodes ≠ [] → (g.chassis c).chassisnum ≠ 0 ∧
    ∀ d < g.chassisCount, (g.chassis d).nodes ≠ [] →
      (g.chassis c).chassisnum = (g.chassis d).chassisnum → c = d

theorem counting_of_groupNodes (hplain : Plain f) (hgroup : f.groupNodes = .ok g) :
    ∃ g₀ g₁, Counting f f.nodes g₀ ∧ f.nodes.foldlM f.groupRound g₀ = .ok g₁ ∧
      g = { g₁ with listed := true } := by
  unfold groupNodes at hgroup
  obtain ⟨g₁, h₁, hgroup⟩ := bind_eq_ok.mp hgroup
  obtain ⟨g₂, h₂, hgroup⟩ := bind_eq_ok.mp hgroup
  obtain ⟨g₃, h₃, hgroup⟩ := bind_eq_ok.mp hgroup
  obtain ⟨g₄, h₄, hgroup⟩ := bind_eq_ok.mp hgroup
  have hrec := recording_pass (orFault_eq_ok.mp h₁)
  have hstart : Counting f [] g₁ := by
    refine ⟨⟨.inr hrec.chassisCount, ?_, ?_, ?_, ?_⟩, hrec.pointer,
      hplain.notFound g₁ (orFault_eq_ok.mp h₁), ?_, ?_, hrec.chassisnum⟩
    · intro c hc
      rw [hrec.chassisCount] at hc
      cases hc
    · intro c hc
      rw [hrec.chassisCount] at hc
      cases hc
    · intro n hn
      cases hn
    · intro c hc
      rw [hrec.chassisCount] at hc
      cases hc
    · intro c
      rw [hrec.chassis]
      rfl
    · intro c
      rw [hrec.chassis]
      rfl
  have hsame : g₂ = g₁ := by
    apply foldlM_invariant (P := (· = g₁)) ?_ h₂ rfl
    intro n hn s s' hs hround
    unfold buildRound at hround
    rw [if_pos (hplain.notVoltaire n (.inr hn))] at hround
    exact (Except.ok.inj hround).symm.trans hs
  rw [hsame] at h₃
  refine ⟨g₃, g₄, ?_, orFault_eq_ok.mp h₄, (Except.ok.inj hgroup).symm⟩
  exact foldlM_prefix (P := Counting f) (fun _ _ _ _ _ _ hs hround => hs.countRound hround)
    (orFault_eq_ok.mp h₃) hstart

theorem joining_of_groupNodes (hplain : Plain f) (hgroup : f.groupNodes = .ok g) :
    Joining f f.nodes g ∧ (f.sharedGuids.card ≤ 255 → ∃ cs, Numbered cs g) := by
  obtain ⟨g₀, g₁, hcounting, hpass, rfl⟩ := counting_of_groupNodes hplain hgroup
  have hfresh : ∀ seen n rest, f.nodes = seen ++ n :: rest → n ∈ f.nodes ∧ n ∉ seen := by
    intro seen n rest hnodes
    have hnodup := hplain.nodup
    rw [hnodes] at hnodup ⊢
    refine ⟨List.mem_append_right _ List.mem_cons_self, fun hn => ?_⟩
    exact (List.nodup_append.mp hnodup).2.2 n hn n List.mem_cons_self rfl
  constructor
  · have h := foldlM_prefix (P := Joining f) (fun seen n rest _ _ hnodes hs hround =>
      hs.groupRound (hfresh seen n rest hnodes).1 (hfresh seen n rest hnodes).2 hround) hpass
      hcounting.joining
    exact ⟨⟨.inl rfl, h.table.guidInj, h.table.count, h.table.covers, h.table.used⟩, h.unfound,
      h.lists, h.pointer⟩
  · intro hfew
    have h := foldlM_prefix (P := fun seen g => Joining f seen g ∧ ∃ cs, Numbered cs g)
      (fun seen n rest _ _ hnodes ⟨hs, _, hcs⟩ hround =>
        ⟨hs.groupRound (hfresh seen n rest hnodes).1 (hfresh seen n rest hnodes).2 hround,
          hcs.groupRound hs (hfresh seen n rest hnodes).1 (hfresh seen n rest hnodes).2 hfew hround⟩)
      hpass ⟨hcounting.joining, [], hcounting.numbered⟩
    obtain ⟨-, cs, hcs⟩ := h
    exact ⟨cs, hcs.nodup, hcs.large, hcs.counter, hcs.zero, hcs.number, hcs.listed⟩

theorem hasPeer_iff {guid : UInt64} (hnodup : f.nodes.Nodup) (hn : n ∈ f.nodes)
    (hin : f.inGroup guid n = true) : f.HasPeer n ↔ 2 ≤ (f.group f.nodes guid).length := by
  have hguid := (inGroup_iff.mp hin).2
  have hmem : n ∈ f.group f.nodes guid := mem_group.mpr ⟨hn, hin⟩
  constructor
  · rintro ⟨m, hm, hby, hne, hsame⟩
    have hmem' : m ∈ f.group f.nodes guid :=
      mem_group.mpr ⟨hm, inGroup_iff.mpr ⟨hby, hsame.trans hguid⟩⟩
    by_contra hlen
    have hone : (f.group f.nodes guid).length = 1 := by
      have hpos := List.length_pos_of_mem hmem
      omega
    obtain ⟨x, hx⟩ := List.length_eq_one_iff.mp hone
    rw [hx, List.mem_singleton] at hmem hmem'
    exact hne (hmem'.trans hmem.symm)
  · intro hlen
    by_contra hnone
    have hall : ∀ m ∈ f.group f.nodes guid, m = n := by
      intro m hm
      by_contra hne
      obtain ⟨hm, hin'⟩ := mem_group.mp hm
      obtain ⟨hby, hguid'⟩ := inGroup_iff.mp hin'
      exact hnone ⟨m, hm, hby, hne, hguid'.trans hguid.symm⟩
    have hrep := List.eq_replicate_of_mem hall
    have hgroup : (f.group f.nodes guid).Nodup := hnodup.filter _
    rw [hrep, List.nodup_replicate] at hgroup
    omega

/-- Where the lists of the fourth pass have a node. -/
theorem Joining.mem_nodes (h : Joining f f.nodes g) : n ∈ (g.chassis c).nodes ↔
    Large g c ∧ n ∈ f.nodes ∧ f.inGroup (g.chassis c).chassisguid n = true := by
  rw [h.lists]
  split
  · next hlarge => rw [List.mem_reverse, mem_group, and_iff_right hlarge]
  · next hlarge => simp [hlarge]

theorem Joining.chassis_isSome (h : Joining f f.nodes g) {guid : UInt64} (hn : n ∈ f.nodes)
    (hin : f.inGroup guid n = true) :
    (g.ch n).chassis.isSome ↔ 2 ≤ (f.group f.nodes guid).length % 256 := by
  rw [Option.isSome_iff_exists]
  constructor
  · rintro ⟨c, hc⟩
    obtain ⟨hlarge, -, hin'⟩ := h.mem_nodes.mp ((h.pointer n c).mp hc)
    rw [inGroup_unique hin hin']
    exact (h.table.large_iff.mp hlarge).2
  · intro hlen
    obtain ⟨c, hc, rfl⟩ := h.table.find hn hin
    exact ⟨c, (h.pointer n c).mpr (h.mem_nodes.mpr ⟨h.table.large_iff.mpr ⟨hc, hlen⟩, hn, hin⟩)⟩

/-- The count of a group that is found does not wrap round to 0 or 1. -/
theorem GroupedByGuid.count_fits (h : GroupedByGuid f g) (hplain : Plain f)
    (hjoin : Joining f f.nodes g) {guid : UInt64} (hguid : guid ∈ f.sharedGuids) :
    2 ≤ (f.group f.nodes guid).length % 256 := by
  have hlen := mem_sharedGuids.mp hguid
  obtain ⟨n, hn⟩ := List.exists_mem_of_length_pos (l := f.group f.nodes guid) (by omega)
  obtain ⟨hn, hin⟩ := mem_group.mp hn
  apply (hjoin.chassis_isSome hn hin).mp
  apply (h.chassisSet n hn (inGroup_iff.mp hin).1).mpr
  exact (hasPeer_iff hplain.nodup hn hin).mpr hlen

/-- The groups that are found have numbers of their own, so a byte counts them. -/
theorem GroupedByGuid.card_le (h : GroupedByGuid f g) (hplain : Plain f)
    (hjoin : Joining f f.nodes g) : f.sharedGuids.card ≤ 255 := by
  let listed := (Finset.range g.chassisCount).filter fun c => (g.chassis c).nodes ≠ []
  have hlisted : ∀ {c}, c ∈ listed ↔ c < g.chassisCount ∧ (g.chassis c).nodes ≠ [] := by
    intro c
    rw [Finset.mem_filter, Finset.mem_range]
  have hguids : f.sharedGuids ⊆ listed.image fun c => (g.chassis c).chassisguid := by
    intro guid hguid
    have hlen := mem_sharedGuids.mp hguid
    obtain ⟨n, hmem⟩ := List.exists_mem_of_length_pos (l := f.group f.nodes guid) (by omega)
    obtain ⟨hn, hin⟩ := mem_group.mp hmem
    obtain ⟨c, hc, rfl⟩ := hjoin.table.find hn hin
    have hlarge := hjoin.table.large_iff.mpr ⟨hc, h.count_fits hplain hjoin hguid⟩
    exact Finset.mem_image.mpr ⟨c, hlisted.mpr
      ⟨hc, List.ne_nil_of_mem (hjoin.mem_nodes.mpr ⟨hlarge, hn, hin⟩)⟩, rfl⟩
  have hnumbers : listed.card ≤ (Finset.Icc 1 255).card := by
    apply Finset.card_le_card_of_injOn fun c => (g.chassis c).chassisnum.toNat
    · intro c hc
      obtain ⟨hc, hne⟩ := hlisted.mp hc
      have hzero := (h.numbers c hc hne).1
      have hlt := (g.chassis c).chassisnum.toNat_lt
      have hpos : (g.chassis c).chassisnum.toNat ≠ 0 := fun hz => hzero (UInt8.toNat_inj.mp hz)
      rw [Finset.coe_Icc]
      exact Set.mem_Icc.mpr ⟨Nat.pos_of_ne_zero hpos, Nat.le_of_lt_succ hlt⟩
    · intro c hc d hd heq
      obtain ⟨hc, hne⟩ := hlisted.mp hc
      obtain ⟨hd, hne'⟩ := hlisted.mp hd
      exact (h.numbers c hc hne).2 d hd hne' (UInt8.toNat_inj.mp heq)
  calc f.sharedGuids.card ≤ (listed.image fun c => (g.chassis c).chassisguid).card :=
        Finset.card_le_card hguids
    _ ≤ listed.card := Finset.card_image_le
    _ ≤ (Finset.Icc 1 255).card := hnumbers
    _ = 255 := Nat.card_Icc 1 255

section Fits
variable (hplain : Plain f) (hjoin : Joining f f.nodes g)
  (hfits : ∀ guid ∈ f.sharedGuids, 2 ≤ (f.group f.nodes guid).length % 256)
include hplain hjoin hfits

omit hjoin in
theorem hasPeer_iff_of_fits {guid : UInt64} (hn : n ∈ f.nodes) (hin : f.inGroup guid n = true) :
    f.HasPeer n ↔ 2 ≤ (f.group f.nodes guid).length % 256 := by
  rw [hasPeer_iff hplain.nodup hn hin]
  constructor
  · exact fun hlen => hfits guid (mem_sharedGuids.mpr hlen)
  · exact fun hlen => hlen.trans (Nat.mod_le _ _)

theorem mem_nodes_of_fits (hc : c < g.chassisCount) : n ∈ (g.chassis c).nodes ↔ n ∈ f.nodes ∧
    f.byGuid n = true ∧ f.getChassisguid n = .ok (g.chassis c).chassisguid ∧ f.HasPeer n := by
  rw [hjoin.mem_nodes, hjoin.table.large_iff]
  constructor
  · rintro ⟨⟨-, hlen⟩, hn, hin⟩
    obtain ⟨hby, hguid⟩ := inGroup_iff.mp hin
    exact ⟨hn, hby, hguid, (hasPeer_iff_of_fits hplain hfits hn hin).mpr hlen⟩
  · rintro ⟨hn, hby, hguid, hpeer⟩
    have hin := inGroup_iff.mpr ⟨hby, hguid⟩
    exact ⟨⟨hc, (hasPeer_iff_of_fits hplain hfits hn hin).mp hpeer⟩, hn, hin⟩

theorem sameChassis_of_fits (hn : n ∈ f.nodes) (hby : f.byGuid n = true) (hm : m ∈ f.nodes)
    (hby' : f.byGuid m = true) (hne : n ≠ m) :
    (∃ c, (g.ch n).chassis = some c ∧ (g.ch m).chassis = some c) ↔
      f.getChassisguid n = f.getChassisguid m := by
  simp only [hjoin.pointer]
  constructor
  · rintro ⟨c, hc, hc'⟩
    obtain ⟨-, -, hin⟩ := hjoin.mem_nodes.mp hc
    obtain ⟨-, -, hin'⟩ := hjoin.mem_nodes.mp hc'
    rw [(inGroup_iff.mp hin).2, (inGroup_iff.mp hin').2]
  · intro hsame
    obtain ⟨c, hc, hin⟩ := hjoin.table.covers n hn hby
    have hguid := (inGroup_iff.mp hin).2
    refine ⟨c, ?_, ?_⟩
    · apply (mem_nodes_of_fits hplain hjoin hfits hc).mpr
      exact ⟨hn, hby, hguid, m, hm, hby', hne.symm, hsame.symm⟩
    · apply (mem_nodes_of_fits hplain hjoin hfits hc).mpr
      exact ⟨hm, hby', hsame.symm.trans hguid, n, hn, hby, hne, hsame⟩

theorem groupedByGuid_of_fits {cs : List ChassisRef} (hcs : Numbered cs g) :
    GroupedByGuid f g where
  chassisSet n hn hby := by
    obtain ⟨c, -, hin⟩ := hjoin.table.covers n hn hby
    rw [hjoin.chassis_isSome hn hin, hasPeer_iff_of_fits hplain hfits hn hin]
  sameChassis n hn hby m hm hby' hne := sameChassis_of_fits hplain hjoin hfits hn hby hm hby' hne
  lists c hc := by
    refine ⟨?_, fun n => mem_nodes_of_fits hplain hjoin hfits hc⟩
    rw [hjoin.lists]
    split
    · exact List.nodup_reverse.mpr (hplain.nodup.filter _)
    · exact List.nodup_nil
  numbers c _ hne := by
    refine ⟨hcs.ne_zero (hcs.listed c hne), fun d _ hne' heq => ?_⟩
    exact hcs.inj (hcs.listed c hne) (hcs.listed d hne') heq

end Fits

/-- The nodes are grouped by their chassis GUIDs if and only if the bytes that count them hold:
no group of two or more nodes has a size that is 0 or 1 modulo 256, and there are no more than
255 of these groups. -/
theorem groupedByGuid_iff (hplain : Plain f) (hgroup : f.groupNodes = .ok g) :
    GroupedByGuid f g ↔
      (∀ guid ∈ f.sharedGuids, 2 ≤ (f.group f.nodes guid).length % 256) ∧
        f.sharedGuids.card ≤ 255 := by
  obtain ⟨hjoin, hnumbered⟩ := joining_of_groupNodes hplain hgroup
  constructor
  · intro h
    exact ⟨fun guid => h.count_fits hplain hjoin, h.card_le hplain hjoin⟩
  · rintro ⟨hfits, hfew⟩
    obtain ⟨cs, hcs⟩ := hnumbered hfew
    exact groupedByGuid_of_fits hplain hjoin hfits hcs

end Fabric

/-- Adapters of one SystemImageGUID. -/
def adaptersOfOneGuid (size : Nat) : Fabric :=
  { allocateFabricInternal with
    node := fun n => { boardNode n 0 (boardInfo 0 0 1) [] with type := ibNodeCa }
    nodeCount := size
    nodes := List.range size
    chAdapters := List.range size }

theorem adaptersOfOneGuid_plain (size : Nat) : (adaptersOfOneGuid size).Plain where
  nodup := List.nodup_range
  notVoltaire n _ := by
    change madGetField (boardInfo 0 0 1).bytes 0 .nodeVendorid ≠ vtrVendorId
    decide +kernel
  notFound g hpass n _ := by
    cases hpass
    rfl

theorem groupedByGuid_iff_adaptersOfOneGuid : ∃ g, (adaptersOfOneGuid 2).groupNodes = .ok g ∧
    ((adaptersOfOneGuid 2).GroupedByGuid g ↔
      (∀ guid ∈ (adaptersOfOneGuid 2).sharedGuids,
        2 ≤ ((adaptersOfOneGuid 2).group (adaptersOfOneGuid 2).nodes guid).length % 256) ∧
        (adaptersOfOneGuid 2).sharedGuids.card ≤ 255) := by
  have hrun : (adaptersOfOneGuid 2).groupNodes.toOption.isSome = true := by
    decide +kernel
  obtain ⟨g, hg⟩ := Option.isSome_iff_exists.mp hrun
  have hgroup := toOption_eq_some.mp hg
  exact ⟨g, hgroup, Fabric.groupedByGuid_iff (adaptersOfOneGuid_plain 2) hgroup⟩

/-- The count of 256 nodes is 0, and none of them gets a chassis. -/
theorem group_of_256_nodes_missed :
    ∃ f : Fabric, f.Plain ∧ ∃ g, f.groupNodes = .ok g ∧ ¬ f.GroupedByGuid g := by
  have hrun : (adaptersOfOneGuid 256).groupNodes.toOption.any (fun g =>
      decide ((g.ch 0).chassis = none)) = true := by
    decide +kernel
  obtain ⟨g, hg, hnone⟩ := (Option.any_eq_true _ _).mp hrun
  refine ⟨adaptersOfOneGuid 256, adaptersOfOneGuid_plain 256, g, toOption_eq_some.mp hg, ?_⟩
  intro hgrouped
  have hset := (hgrouped.chassisSet 0 (by decide) (by decide +kernel)).mpr
    ⟨1, by decide, by decide +kernel, by decide, rfl⟩
  rw [of_decide_eq_true hnone] at hset
  cases hset

end InfinibandDiags
