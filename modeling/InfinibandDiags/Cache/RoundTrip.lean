import InfinibandDiags.Cache.Written

/-! A fabric, written to a file and loaded from it. -/
namespace InfinibandDiags

/-- The fields of a port that a cache file has, its links apart. -/
structure Port.SameCached (a b : Port) : Prop where
  guid : a.guid = b.guid
  portnum : a.portnum = b.portnum
  baseLid : a.baseLid = b.baseLid
  lmc : a.lmc = b.lmc
  info : a.info = b.info

/-- `f'` is `f` with its nodes and ports numbered anew, as they come in the file. -/
structure Reloaded (f : Fabric) (ports : List PortRef) (f' : Fabric) : Prop where
  nodes : f'.nodes = List.range f.nodes.length
  node : ∀ i n, f.nodes[i]? = some n → (f'.node i).SameCached (f.node n)
  slots : ∀ i n k, f.nodes[i]? = some n →
    (f'.node i).ports k = ((f.node n).ports k).map ports.idxOf
  port : ∀ j p, ports[j]? = some p → (f'.port j).SameCached (f.port p)
  owner : ∀ j p, ports[j]? = some p → f.nodes[(f'.port j).node]? = some (f.port p).node
  remoteport : ∀ j p, ports[j]? = some p →
    f'.remoteport j = (f.remoteport p).map ports.idxOf
  fromNode : f'.fromNode = f.fromNode.map f.nodes.idxOf
  maxhops : f'.maxhopsDiscovered = f.maxhopsDiscovered
  iterPorts : ∃ ps, f'.ibndIterPorts = .ok ps ∧ ps.Perm (List.range ports.length)
  byGuid : ∀ guid, f'.ibndFindNodeGuid guid =
    (f.nodes.find? fun n => (f.node n).guid = guid).map f.nodes.idxOf
  switches : f'.switches = f'.nodes.filter fun n => (f'.node n).type = ibNodeSwitch
  chAdapters : f'.chAdapters = f'.nodes.filter fun n => (f'.node n).type = ibNodeCa
  routers : f'.routers = f'.nodes.filter fun n => (f'.node n).type = ibNodeRouter
  lids : ∀ key : UInt32, f'.lid2guid.lookup key =
    (ports.reverse.find? fun p => Fabric.entersLid (f.port p) key.toNat).map ports.idxOf

theorem find?_eq_some_of_unique {α : Type} {l : List α} {p : α → Bool} {a : α} (ha : a ∈ l)
    (hp : p a = true) (hunique : ∀ b ∈ l, p b = true → b = a) : l.find? p = some a := by
  cases hfind : l.find? p with
  | none => exact absurd hp (List.find?_eq_none.mp hfind a ha)
  | some b =>
      rw [hunique b (List.mem_of_find?_eq_some hfind) (List.find?_some hfind)]

theorem getElem?_idxOf {l : List Nat} {a : Nat} (ha : a ∈ l) : l[l.idxOf a]? = some a := by
  rw [List.getElem?_eq_getElem (List.idxOf_lt_length_iff.mpr ha), List.getElem_idxOf]

theorem idxOf_getElem? {l : List Nat} (hl : l.Nodup) {i a : Nat} (hi : l[i]? = some a) :
    l.idxOf a = i := by
  obtain ⟨hlt, rfl⟩ := List.getElem?_eq_some_iff.mp hi
  exact hl.idxOf_getElem i hlt

/-- A search by position, from the front or from the back. -/
theorem find?_positions {l : List Nat} (hl : l.Nodup) {P Q : Nat → Bool}
    (h : ∀ i a, l[i]? = some a → P i = Q a) :
    (List.range l.length).find? P = (l.find? Q).map l.idxOf ∧
      (List.range l.length).reverse.find? P = (l.reverse.find? Q).map l.idxOf := by
  have hlist : (List.range l.length).map (fun i => l.getD i 0) = l := by
    rw [Numbered.map_range (G := id), List.map_id]
    intro i a ha
    rw [List.getD, ha]
    rfl
  have hfind : ∀ r : List Nat, (∀ i ∈ r, i < l.length) →
      r.find? P = ((r.map fun i => l.getD i 0).find? Q).map l.idxOf := by
    intro r hr
    have hget : ∀ i ∈ r, l[i]? = some (l.getD i 0) := by
      intro i hi
      rw [List.getD, List.getElem?_eq_getElem (hr i hi)]
      rfl
    have hsame : r.find? (Q ∘ fun i => l.getD i 0) = r.find? P :=
      FabricCache.find?_congr fun i hi => (h i _ (hget i hi)).symm
    rw [List.find?_map, Option.map_map, hsame]
    cases hi : r.find? P with
    | none => rfl
    | some i =>
        have hidx := idxOf_getElem? hl (hget i (List.mem_of_find?_eq_some hi))
        exact congrArg some hidx.symm
  constructor
  · rw [hfind _ fun i hi => List.mem_range.mp hi, hlist]
  · rw [hfind _ fun i hi => List.mem_range.mp (List.mem_reverse.mp hi), List.map_reverse, hlist]

/-- A port of a file that a key of a node names. -/
def Listed (nrs : List NodeRecord) (prs : List PortRecord) (p : PortRef) : Prop :=
  ∃ r ∈ nrs, ∃ key ∈ r.portCacheKeys, portAt prs key = some p

namespace Fabric.Cacheable
variable {f f' : Fabric} {g : Grouping} {ports : List PortRef}

theorem nodup_nodes (h : f.Cacheable g ports) : f.nodes.Nodup := h.guids.of_map

theorem getElem?_nodeRecord {i : Nat} {n : NodeRef} (hn : f.nodes[i]? = some n) :
    (f.nodes.map f.nodeRecord)[i]? = some (f.nodeRecord n) := by
  rw [List.getElem?_map, hn, Option.map_some]

theorem getElem?_portRecord {j : Nat} {p : PortRef} (hp : ports[j]? = some p) :
    (ports.map (f.portRecord g))[j]? = some (f.portRecord g p) := by
  rw [List.getElem?_map, hp, Option.map_some]

/-- The key of a port names the port. -/
theorem portAt_eq (h : f.Cacheable g ports) {p : PortRef} (hp : p ∈ ports) :
    portAt (ports.map (f.portRecord g)) (f.cacheKey p) = some (ports.idxOf p) := by
  have hkeys : (ports.map (f.portRecord g)).map PortRecord.key = ports.map f.cacheKey := by
    rw [List.map_map]
    rfl
  exact Numbered.last_of_nodup (hkeys ▸ h.keys) (getElem?_portRecord (getElem?_idxOf hp))

/-- The GUID of a node names the node. -/
theorem nodeAt_eq (h : f.Cacheable g ports) {n : NodeRef} (hn : n ∈ f.nodes) :
    nodeAt (f.nodes.map f.nodeRecord) (f.node n).guid = some (f.nodes.idxOf n) := by
  have hguids : (f.nodes.map f.nodeRecord).map NodeRecord.guid =
      f.nodes.map fun n => (f.node n).guid := by
    rw [List.map_map]
    rfl
  exact Numbered.last_of_nodup (hguids ▸ h.guids) (getElem?_nodeRecord (getElem?_idxOf hn))

/-- The key of every port is in the record of its node. -/
theorem listed (h : f.Cacheable g ports) {j : Nat} (hj : j < ports.length) :
    Listed (f.nodes.map f.nodeRecord) (ports.map (f.portRecord g)) j := by
  have hp := List.getElem?_eq_getElem hj
  have hpmem := List.mem_of_getElem? hp
  have hin := (h.inArray _ hpmem).1
  refine ⟨_, List.mem_map_of_mem hin, f.cacheKey ports[j], ?_, ?_⟩
  · rw [nodeRecord, portCacheKeys_eq_map]
    exact List.mem_map_of_mem ((h.mem_presentPorts hin).mpr ⟨hpmem, rfl⟩)
  · rw [h.portAt_eq hpmem, idxOf_getElem? h.nodup_ports hp]

theorem slots_eq (h : f.Cacheable g ports) {n : NodeRef} (hn : n ∈ f.nodes) (k : Nat) :
    (f.nodeRecord n).slots (ports.map (f.portRecord g)) k =
      ((f.node n).ports k).map ports.idxOf := by
  have hnum : ∀ p ∈ ports, (f.cacheKey p).portnum.toNat = (f.port p).portnum :=
    fun p hp => UInt8.toNat_ofNat_of_lt' (h.portnum_lt hp)
  unfold NodeRecord.slots
  have hkeys : (f.nodeRecord n).portCacheKeys = (f.presentPorts n).map f.cacheKey :=
    f.portCacheKeys_eq_map n
  rw [hkeys]
  cases hslot : (f.node n).ports k with
  | none =>
      rw [List.find?_eq_none.mpr]
      · rfl
      · intro key hkey
        obtain ⟨p, hp, rfl⟩ := List.mem_map.mp (List.mem_reverse.mp hkey)
        obtain ⟨hmem, hnode⟩ := (h.mem_presentPorts hn).mp hp
        rw [hnum p hmem, decide_eq_true_eq]
        intro hk
        rw [(h.slots n hn k p).mpr ⟨hmem, hnode, hk⟩] at hslot
        cases hslot
  | some p =>
      obtain ⟨hmem, hnode, hk⟩ := (h.slots n hn k p).mp hslot
      rw [find?_eq_some_of_unique (a := f.cacheKey p)]
      · exact h.portAt_eq hmem
      · exact List.mem_reverse.mpr
          (List.mem_map_of_mem ((h.mem_presentPorts hn).mpr ⟨hmem, hnode⟩))
      · rw [hnum p hmem]
        exact decide_eq_true hk
      · intro key hkey hsame
        obtain ⟨q, hq, rfl⟩ := List.mem_map.mp (List.mem_reverse.mp hkey)
        obtain ⟨hqmem, hqnode⟩ := (h.mem_presentPorts hn).mp hq
        rw [hnum q hqmem, decide_eq_true_eq] at hsame
        have hqslot := (h.slots n hn k q).mpr ⟨hqmem, hqnode, hsame⟩
        rw [hslot] at hqslot
        rw [Option.some.inj hqslot]

theorem remote_eq (h : f.Cacheable g ports) {p : PortRef} (hp : p ∈ ports) :
    (f.portRecord g p).remote (ports.map (f.portRecord g)) =
      (f.remoteport p).map ports.idxOf := by
  unfold PortRecord.remote portRecord
  dsimp only
  cases hremote : f.remoteport p with
  | none => rfl
  | some q => exact h.portAt_eq (h.remotes p hp q hremote)

/-- The nodes, ports and links that the records of a fabric stand for are those of the fabric. -/
theorem reloaded (h : f.Cacheable g ports) {n : NodeRef} (hn : n ∈ f.nodes)
    (hfrom : f.fromNode = some n) (hl : Loaded (f.headerRecord ports n)
      (f.nodes.map f.nodeRecord) (ports.map (f.portRecord g)) f') : Reloaded f ports f' := by
  have hnode : ∀ i m, f.nodes[i]? = some m → m ∈ f.nodes ∧ f'.node i =
      { (f.nodeRecord m).node with ports := fun k => ((f.node m).ports k).map ports.idxOf } := by
    intro i m hm
    have hmem := List.mem_of_getElem? hm
    refine ⟨hmem, ?_⟩
    have hslots : (f.nodeRecord m).slots (ports.map (f.portRecord g)) =
        fun k => ((f.node m).ports k).map ports.idxOf := funext (h.slots_eq hmem)
    rw [hl.node i _ (getElem?_nodeRecord hm), hslots]
  have hport : ∀ j p, ports[j]? = some p → p ∈ ports ∧ ∃ htnext, f'.port j =
      { (f.portRecord g p).port with
        node := f.nodes.idxOf (f.port p).node
        remoteport := (f.remoteport p).map ports.idxOf
        htnext } := by
    intro j p hp
    have hmem := List.mem_of_getElem? hp
    obtain ⟨m, htnext, hm, hj⟩ := hl.port j _ (getElem?_portRecord hp)
    have howner := h.nodeAt_eq (h.inArray p hmem).1
    have hmnode : m = f.nodes.idxOf (f.port p).node := Option.some.inj (hm.symm.trans howner)
    rw [h.remote_eq hmem, hmnode] at hj
    exact ⟨hmem, htnext, hj⟩
  constructor
  case nodes => rw [hl.nodes, List.length_map]
  case node =>
    intro i m hm
    obtain ⟨hmem, hi⟩ := hnode i m hm
    obtain ⟨hfits, -⟩ := h.record m hmem
    rw [hi]
    exact {
      smalid := rfl
      smalmc := rfl
      smaenhsp0 := toNat_ofNat8_eq_iff.2 hfits.smaenhsp0
      switchinfo := rfl
      guid := rfl
      type := toNat_ofNat8_eq_iff.2 hfits.type
      numports := toNat_ofNat8_eq_iff.2 (Nat.lt_succ_of_le (h.numports m hmem))
      info := rfl
      nodedesc := rfl }
  case slots =>
    intro i m k hm
    rw [(hnode i m hm).2]
  case port =>
    intro j p hp
    obtain ⟨hmem, htnext, hj⟩ := hport j p hp
    rw [hj]
    exact {
      guid := rfl
      portnum := toNat_ofNat8_eq_iff.2 (h.portnum_lt hmem)
      baseLid := rfl
      lmc := rfl
      info := rfl }
  case owner =>
    intro j p hp
    obtain ⟨hmem, htnext, hj⟩ := hport j p hp
    rw [hj]
    exact getElem?_idxOf (h.inArray p hmem).1
  case remoteport =>
    intro j p hp
    obtain ⟨-, htnext, hj⟩ := hport j p hp
    rw [Fabric.remoteport, hj]
  case fromNode =>
    rw [hl.fromNode, hfrom]
    exact h.nodeAt_eq hn
  case maxhops => exact hl.maxhops
  case iterPorts =>
    obtain ⟨ps, hps, hnodup, hmem⟩ := (portTable_of_hashed hl.hashed).iterPorts
    refine ⟨ps, hps, (List.perm_ext_iff_of_nodup hnodup List.nodup_range).mpr fun j => ?_⟩
    rw [hmem, hl.members, List.mem_range]
    constructor
    · rintro ⟨r, hr, key, -, hj⟩
      have hlt := Numbered.last_lt hj
      rwa [List.length_map] at hlt
    · exact h.listed
  case byGuid =>
    intro guid
    rw [hl.byGuid, hl.nodes, List.length_map]
    refine (find?_positions h.nodup_nodes fun i m hm => ?_).1
    rw [(hnode i m hm).2]
    rfl
  case switches => exact hl.switches
  case chAdapters => exact hl.chAdapters
  case routers => exact hl.routers
  case lids =>
    intro key
    rw [hl.lids, List.length_map]
    refine (find?_positions h.nodup_ports fun j p hp => ?_).2
    obtain ⟨-, htnext, hj⟩ := hport j p hp
    rw [hj]
    rfl

/-- A fabric that is written and loaded comes back as it was, up to what `group_nodes` adds. -/
theorem reload (h : f.Cacheable g ports) : ∃ file fc, f.ibndCacheFabric g = .ok file ∧
    FabricCache.load file = .ok fc ∧ Reloaded f ports fc.fabric ∧
      (∀ j p, ports[j]? = some p → fc.extPortnum j = g.extPortnum p) ∧
        ibndLoadFabric file = fc.groupLoaded := by
  obtain ⟨n, hn, file, hfrom, hfile, hload⟩ := h.toWritable.loads_iff
  obtain ⟨fc, hlink⟩ := (FabricCache.relink_iff_consistent _ _ _).mpr (h.consistent hn)
  obtain ⟨hloaded, hext⟩ := FabricCache.loaded_of_relink hlink
  rw [hlink] at hload
  refine ⟨file, fc, hfile, hload, h.reloaded hn hfrom hloaded, ?_, ?_⟩
  · intro j p hp
    rw [hext j _ (getElem?_portRecord hp)]
    exact toNat_ofNat8_eq_iff.2 (h.extPortnum p (List.mem_of_getElem? hp))
  · rw [FabricCache.ibndLoadFabric_eq]
    exact congrArg (· >>= FabricCache.groupLoaded) hload

end Fabric.Cacheable

section Again
variable {f f' : Fabric} {g g' : Grouping} {ports : List PortRef}

/-- The nodes of the fabric, by position. -/
theorem Reloaded.mem_nodes (h : Reloaded f ports f') {i : NodeRef} :
    i ∈ f'.nodes ↔ ∃ n, f.nodes[i]? = some n := by
  rw [h.nodes, List.mem_range]
  constructor
  · exact fun hi => ⟨_, List.getElem?_eq_getElem hi⟩
  · exact fun ⟨n, hn⟩ => (List.getElem?_eq_some_iff.mp hn).1

theorem Reloaded.map_guid (h : Reloaded f ports f') :
    (f'.nodes.map fun n => (f'.node n).guid) = f.nodes.map fun n => (f.node n).guid := by
  rw [h.nodes]
  exact Numbered.map_range fun i n hn => (h.node i n hn).guid

theorem Reloaded.presentPorts (h : Reloaded f ports f') {i n : NodeRef}
    (hn : f.nodes[i]? = some n) : f'.presentPorts i = (f.presentPorts n).map ports.idxOf := by
  unfold Fabric.presentPorts
  rw [(h.node i n hn).numports, List.map_filterMap]
  exact List.filterMap_congr fun k _ => h.slots i n k hn

/-- What is loaded from a file can be written to a file again. -/
theorem Reloaded.cacheable (hr : Reloaded f ports f') (h : f.Cacheable g ports)
    (hext : ∀ j < ports.length, g'.extPortnum j < 256) : ∃ ports', f'.Cacheable g' ports' := by
  obtain ⟨ports', hiter, hperm⟩ := hr.iterPorts
  have hmem : ∀ j, j ∈ ports' ↔ ∃ p, ports[j]? = some p := by
    intro j
    rw [hperm.mem_iff, List.mem_range]
    constructor
    · exact fun hj => ⟨_, List.getElem?_eq_getElem hj⟩
    · exact fun ⟨p, hp⟩ => (List.getElem?_eq_some_iff.mp hp).1
  have hplace : ∀ p ∈ ports, ports.idxOf p ∈ ports' := fun p hp =>
    (hmem _).mpr ⟨p, getElem?_idxOf hp⟩
  have howner : ∀ {j p i n}, ports[j]? = some p → f.nodes[i]? = some n →
      ((f'.port j).node = i ↔ (f.port p).node = n) := by
    intro j p i n hp hn
    have hown := hr.owner j p hp
    constructor
    · rintro rfl
      exact Option.some.inj (hown.symm.trans hn)
    · rintro rfl
      rw [← idxOf_getElem? h.nodup_nodes hown, idxOf_getElem? h.nodup_nodes hn]
  refine ⟨ports', ?_⟩
  constructor
  case toWritable =>
    constructor
    case iterPorts => exact hiter
    case fromNode =>
      obtain ⟨n, hn, hfrom⟩ := h.fromNode
      exact ⟨_, hr.mem_nodes.mpr ⟨n, getElem?_idxOf hn⟩, by rw [hr.fromNode, hfrom]; rfl⟩
    case counts =>
      rw [hr.nodes, hperm.length_eq, List.length_range, List.length_range]
      exact h.counts
    case guids =>
      rw [hr.map_guid]
      exact h.guids
    case keys =>
      refine ((hperm.map f'.cacheKey).nodup_iff).mpr ?_
      have hkeys : (List.range ports.length).map f'.cacheKey = ports.map f.cacheKey :=
        Numbered.map_range fun j p hp => by
          rw [Fabric.cacheKey, Fabric.cacheKey, (hr.port j p hp).guid, (hr.port j p hp).portnum]
      rw [hkeys]
      exact h.keys
    case numports =>
      intro i hi
      obtain ⟨n, hn⟩ := hr.mem_nodes.mp hi
      rw [(hr.node i n hn).numports]
      exact h.numports n (List.mem_of_getElem? hn)
    case record =>
      intro i hi
      obtain ⟨n, hn⟩ := hr.mem_nodes.mp hi
      have hin := List.mem_of_getElem? hn
      obtain ⟨⟨hsmaenhsp0, htype, hnum⟩, hlength⟩ := h.record n hin
      rw [hr.presentPorts hn, List.length_map]
      refine ⟨⟨?_, ?_, fun x hx => ?_⟩, hlength⟩
      · rwa [(hr.node i n hn).smaenhsp0]
      · rwa [(hr.node i n hn).type]
      · rw [hr.presentPorts hn] at hx
        obtain ⟨p, hp, rfl⟩ := List.mem_map.mp hx
        rw [(hr.port _ p (getElem?_idxOf ((h.mem_presentPorts hin).mp hp).1)).portnum]
        exact hnum p hp
    case extPortnum =>
      intro j hj
      obtain ⟨p, hp⟩ := (hmem j).mp hj
      exact hext j (List.getElem?_eq_some_iff.mp hp).1
  case slots =>
    intro i hi k x
    obtain ⟨n, hn⟩ := hr.mem_nodes.mp hi
    have hin := List.mem_of_getElem? hn
    rw [hr.slots i n k hn, hmem]
    constructor
    · intro hx
      obtain ⟨p, hp, rfl⟩ := Option.map_eq_some_iff.mp hx
      obtain ⟨hpin, hnode, hnum⟩ := (h.slots n hin k p).mp hp
      have hget := getElem?_idxOf hpin
      exact ⟨⟨p, hget⟩, (howner hget hn).mpr hnode, (hr.port _ p hget).portnum.trans hnum⟩
    · rintro ⟨⟨p, hp⟩, hnode, hnum⟩
      rw [(hr.port x p hp).portnum] at hnum
      rw [(h.slots n hin k p).mpr ⟨List.mem_of_getElem? hp, (howner hp hn).mp hnode, hnum⟩]
      exact congrArg some (idxOf_getElem? h.nodup_ports hp)
  case inArray =>
    intro x hx
    obtain ⟨p, hp⟩ := (hmem x).mp hx
    obtain ⟨-, hle⟩ := h.inArray p (List.mem_of_getElem? hp)
    have hown := hr.owner x p hp
    rw [(hr.port x p hp).portnum, (hr.node _ _ hown).numports]
    exact ⟨hr.mem_nodes.mpr ⟨_, hown⟩, hle⟩
  case remotes =>
    intro x hx y hy
    obtain ⟨p, hp⟩ := (hmem x).mp hx
    rw [hr.remoteport x p hp] at hy
    obtain ⟨q, hq, rfl⟩ := Option.map_eq_some_iff.mp hy
    exact hplace q (h.remotes p (List.mem_of_getElem? hp) q hq)
  case lids =>
    intro x hx
    obtain ⟨p, hp⟩ := (hmem x).mp hx
    rw [(hr.port x p hp).baseLid, (hr.port x p hp).lmc]
    exact h.lids p (List.mem_of_getElem? hp)

end Again

/-- Two adapters and a cable between them. -/
def cabledAdapters : Fabric :=
  { allocateFabricInternal with
    node := fun n => { (default : Node) with
      guid := UInt64.ofNat n + 1
      type := ibNodeCa
      numports := 1
      ports := fun k => if k = 1 then some n else none }
    nodeCount := 2
    port := fun p => { (default : Port) with
      guid := UInt64.ofNat p + 1
      portnum := 1
      node := p
      remoteport := some (1 - p)
      baseLid := UInt16.ofNat p + 1 }
    portCount := 2
    nodes := [0, 1]
    chAdapters := [0, 1]
    portstbl := fun i => if i = hashguid 1 then some 0 else if i = hashguid 2 then some 1 else none
    fromNode := some 0
    fromPortnum := 1
    maxhopsDiscovered := 1 }

theorem cabledAdapters_cacheable : cabledAdapters.Cacheable .blank [1, 0] where
  iterPorts := toOption_eq_some.mp (by decide +kernel)
  fromNode := ⟨0, List.mem_cons_self, rfl⟩
  counts := by decide
  guids := by decide
  keys := by decide
  numports := by decide
  record := by
    intro n hn
    have hslots : cabledAdapters.presentPorts n = [n] := rfl
    refine ⟨⟨Nat.zero_lt_succ _, (by decide : ibNodeCa < 256), fun p _ => ?_⟩, ?_⟩
    · exact (by decide : 1 < 256)
    · rw [hslots]
      exact (by decide : 1 < 256)
  extPortnum := by decide
  slots := by
    intro n hn k p
    have hcell : (cabledAdapters.node n).ports k = if k = 1 then some n else none := rfl
    have hport : (cabledAdapters.port p).node = p ∧ (cabledAdapters.port p).portnum = 1 :=
      ⟨rfl, rfl⟩
    have hnodes : cabledAdapters.nodes = [0, 1] := rfl
    rw [hcell, hport.1, hport.2]
    rw [hnodes] at hn
    simp only [List.mem_cons, List.not_mem_nil, or_false] at hn ⊢
    by_cases hk : k = 1
    · rw [if_pos hk, Option.some_inj]
      constructor
      · rintro rfl
        exact ⟨hn.symm, rfl, hk.symm⟩
      · exact fun h => h.2.1.symm
    · rw [if_neg hk]
      simp only [reduceCtorEq, false_iff, not_and]
      omega
  inArray := by decide
  remotes := by
    intro p hp q hq
    have hpeer : cabledAdapters.remoteport p = some (1 - p) := rfl
    rw [hpeer, Option.some_inj] at hq
    simp only [List.mem_cons, List.not_mem_nil, or_false] at hp ⊢
    rcases hp with rfl | rfl
    · exact .inr hq.symm
    · exact .inl hq.symm
  lids := by decide

theorem reload_cabledAdapters : ∃ file fc, cabledAdapters.ibndCacheFabric .blank = .ok file ∧
    FabricCache.load file = .ok fc ∧ Reloaded cabledAdapters [1, 0] fc.fabric := by
  obtain ⟨file, fc, hfile, hload, hreloaded, -⟩ := cabledAdapters_cacheable.reload
  exact ⟨file, fc, hfile, hload, hreloaded⟩

end InfinibandDiags
