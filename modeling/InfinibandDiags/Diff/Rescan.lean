import InfinibandDiags.Cache.Scanned
import InfinibandDiags.Diff.Silent
import InfinibandDiags.Discover.NodeIndex

/-! A fabric from a cache file against a later scan of the same network. -/
namespace InfinibandDiags
open Engine Fabric

section Charts
variable {V : Type} {N : Network V} {s : V × Nat} {pg : V × Nat → UInt64} {f f' f₁ f₂ : Fabric}
  {g : Grouping} {ports : List PortRef}

/-- A fabric that is a chart of what is within reach in a network, however its nodes and ports are
numbered. -/
structure Charted (N : Network V) (s : V × Nat) (pg : V × Nat → UInt64) (f : Fabric) : Prop where
  wellFormed : f.WellFormed
  owned : ∀ n ∈ f.nodes, ∀ k p, (f.node n).ports k = some p →
    (f.port p).node = n ∧ (f.port p).portnum = k
  nodeGuids : f.nodeGuids = N.nodeGuids s
  cabling : f.cabling = N.cabling s
  numports : ∀ n ∈ f.nodes, ∀ v, (f.node n).guid = N.guid v →
    (f.node n).numports = N.numports v
  slots : ∀ n ∈ f.nodes, ∀ v, (f.node n).guid = N.guid v → ∀ k,
    ((∃ p, (f.node n).ports k = some p) ↔ N.Inventoried s (v, k))
  guids : ∀ n ∈ f.nodes, ∀ v, (f.node n).guid = N.guid v → ∀ k p,
    (f.node n).ports k = some p → (f.port p).guid = pg (v, k)

theorem Charted.named (h : Charted N s pg f) {n : NodeRef} (hn : n ∈ f.nodes) :
    ∃ v, (f.node n).guid = N.guid v := by
  have hin : (f.node n).guid ∈ N.nodeGuids s := h.nodeGuids ▸ ⟨n, hn, rfl⟩
  obtain ⟨v, -, hguid⟩ := hin
  exact ⟨v, hguid.symm⟩

/-- The far end of a port is a matter of the cables. -/
theorem Charted.remoteEnd_iff (h : Charted N s pg f) {n : NodeRef} {k : Nat} {p : PortRef}
    (hn : n ∈ f.nodes) (hk : k ≤ (f.node n).numports) (hp : (f.node n).ports k = some p)
    (e : UInt64 × Nat) : f.remoteEnd p = some e ↔ (((f.node n).guid, k), e) ∈ f.cabling := by
  unfold remoteEnd
  rw [Option.map_eq_some_iff]
  constructor
  · rintro ⟨r, hr, rfl⟩
    obtain ⟨hm, -, hslot⟩ := h.wellFormed.cabled hn hk hp hr
    exact ⟨n, hn, _, hm, k, _, p, r, hp, hslot, hr, rfl⟩
  · rintro ⟨m, hm, m', hm', j, l, q, r, hq, hr, hqr, heq⟩
    obtain ⟨hnear, rfl⟩ := Prod.mk.inj heq
    obtain ⟨hguid, rfl⟩ := Prod.mk.inj hnear
    obtain rfl := h.wellFormed.guid_inj hn hm hguid
    obtain rfl := Option.some.inj (hp.symm.trans hq)
    obtain ⟨hnode, hnum⟩ := h.owned m' hm' l r hr
    exact ⟨r, hqr, by rw [hnode, hnum]⟩

/-- Two charts of the same are the same. -/
theorem Charted.same (h₁ : Charted N s pg f₁) (h₂ : Charted N s pg f₂) :
    SameTopology f₁ f₂ ∧ SamePortGuids f₁ f₂ := by
  refine ⟨⟨fun guid => ?_, fun n hn m hm hguid => ?_, fun n hn m hm hguid k hk => ?_⟩,
    fun n hn m hm hguid k hk hk' p q hp hq => ?_⟩
  · exact Set.ext_iff.mp (h₁.nodeGuids.trans h₂.nodeGuids.symm) guid
  · obtain ⟨v, hv⟩ := h₁.named hn
    rw [h₁.numports n hn v hv, h₂.numports m hm v (hguid.symm.trans hv)]
  · obtain ⟨v, hv⟩ := h₁.named hn
    have hv' := hguid.symm.trans hv
    have hslots := (h₁.slots n hn v hv k).trans (h₂.slots m hm v hv' k).symm
    have hk' : k ≤ (f₂.node m).numports := by
      rwa [h₂.numports m hm v hv', ← h₁.numports n hn v hv]
    unfold SameEnd
    cases hp : (f₁.node n).ports k with
    | none =>
        cases hq : (f₂.node m).ports k with
        | none => rfl
        | some q =>
            obtain ⟨p, hp'⟩ := hslots.mpr ⟨q, hq⟩
            rw [hp] at hp'
            cases hp'
    | some p =>
        obtain ⟨q, hq⟩ := hslots.mp ⟨p, hp⟩
        rw [hq, Option.map_some, Option.map_some]
        congr 1
        ext e
        rw [h₁.remoteEnd_iff hn hk hp, h₂.remoteEnd_iff hm hk' hq, h₁.cabling, h₂.cabling, hguid]
  · obtain ⟨v, hv⟩ := h₁.named hn
    rw [h₁.guids n hn v hv k p hp, h₂.guids m hm v (hguid.symm.trans hv) k q hq]

/-- The chart of a fabric is the same after it was written to a file and loaded. -/
theorem Charted.reloaded (h : Charted N s pg f) (hc : f.Cacheable g ports)
    (hr : Reloaded f ports f') : Charted N s pg f' := by
  obtain ⟨ports', hc'⟩ : ∃ ports', f'.Cacheable .blank ports' :=
    hr.cacheable hc fun _ _ => Nat.zero_lt_succ 255
  have hguid : ∀ {i n v}, f.nodes[i]? = some n → (f'.node i).guid = N.guid v →
      (f.node n).guid = N.guid v := fun hn hv => ((hr.node _ _ hn).guid).symm.trans hv
  constructor
  case wellFormed =>
    constructor
    case find_iff =>
      intro guid i
      rw [hr.byGuid, Option.map_eq_some_iff]
      constructor
      · rintro ⟨n, hfind, rfl⟩
        have hget := getElem?_idxOf (List.mem_of_find?_eq_some hfind)
        have hsame := List.find?_some hfind
        rw [decide_eq_true_eq] at hsame
        exact ⟨hr.mem_nodes.mpr ⟨n, hget⟩, (hr.node _ n hget).guid.trans hsame⟩
      · rintro ⟨hi, rfl⟩
        obtain ⟨n, hn⟩ := hr.mem_nodes.mp hi
        have hin := List.mem_of_getElem? hn
        refine ⟨n, find?_eq_some_of_unique hin (decide_eq_true (hr.node i n hn).guid.symm) ?_,
          idxOf_getElem? hc.nodup_nodes hn⟩
        intro m hm hsame
        exact h.wellFormed.guid_inj hm hin
          ((of_decide_eq_true hsame).trans (hr.node i n hn).guid)
    case switches =>
      intro i
      rw [hr.switches, List.mem_filter, decide_eq_true_eq]
    case chAdapters =>
      intro i
      rw [hr.chAdapters, List.mem_filter, decide_eq_true_eq]
    case routers =>
      intro i
      rw [hr.routers, List.mem_filter, decide_eq_true_eq]
    case ported =>
      intro i hi
      obtain ⟨n, hn⟩ := hr.mem_nodes.mp hi
      obtain ⟨k, hk, hsome⟩ := h.wellFormed.ported n (List.mem_of_getElem? hn)
      refine ⟨k, (hr.node i n hn).numports.symm ▸ hk, ?_⟩
      rw [hr.slots i n k hn, Option.isSome_map]
      exact hsome
    case cabled =>
      intro i k x y hi _ hx hy
      have hyin := hc'.remotes x ((hc'.slots i hi k x).mp hx).1 y hy
      obtain ⟨hnode, hle⟩ := hc'.inArray y hyin
      exact ⟨hnode, hle, (hc'.slots _ hnode _ y).mpr ⟨hyin, rfl, rfl⟩⟩
  case owned => exact fun i hi k x hx => ((hc'.slots i hi k x).mp hx).2
  case nodeGuids => exact hr.nodeGuids.trans h.nodeGuids
  case cabling => exact (hr.cabling hc).trans h.cabling
  case numports =>
    intro i hi v hv
    obtain ⟨n, hn⟩ := hr.mem_nodes.mp hi
    exact (hr.node i n hn).numports.trans
      (h.numports n (List.mem_of_getElem? hn) v (hguid hn hv))
  case slots =>
    intro i hi v hv k
    obtain ⟨n, hn⟩ := hr.mem_nodes.mp hi
    rw [← h.slots n (List.mem_of_getElem? hn) v (hguid hn hv) k, hr.slots i n k hn]
    simp only [Option.map_eq_some_iff]
    exact ⟨fun ⟨_, p, hp, _⟩ => ⟨p, hp⟩, fun ⟨p, hp⟩ => ⟨_, p, hp, rfl⟩⟩
  case guids =>
    intro i hi v hv k x hx
    obtain ⟨n, hn⟩ := hr.mem_nodes.mp hi
    have hin := List.mem_of_getElem? hn
    rw [hr.slots i n k hn] at hx
    obtain ⟨p, hp, rfl⟩ := Option.map_eq_some_iff.mp hx
    have hpin := ((hc.slots n hin k p).mp hp).1
    exact (hr.port _ p (getElem?_idxOf hpin)).guid.trans (h.guids n hin v (hguid hn hv) k p hp)

end Charts

section Rescans
variable {V : Type} {N : Network V} {s : V × Nat} {pg : V × Nat → UInt64}
  {args args' : DiscoverArgs} {rs rs' : List Recv} {e e' : Engine ScanCb CbData}
  {scan scan' : Scan} {g : Grouping}

end Rescans
end InfinibandDiags
