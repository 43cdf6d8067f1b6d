import InfinibandDiags.Cache.Destroy
import InfinibandDiags.Cache.RoundTrip

/-! Who frees the nodes and ports that `ibnd_load_fabric` has allocated, wherever it stops. -/
namespace InfinibandDiags

/-- The port of a file that is entered for a LID in the end. -/
def lidAt (prs : List PortRecord) (lid : UInt32) : Option PortRef :=
  (List.range prs.length).reverse.find? fun i =>
    prs[i]?.any fun q => Fabric.entersLid q.port lid.toNat

/-- Nothing that the fabric is rebuilt with refers to a port that no node has. -/
structure Closed (nrs : List NodeRecord) (prs : List PortRecord) : Prop where
  remotes : ∀ i q, Listed nrs prs i → prs[i]? = some q → ∀ j, q.remote prs = some j →
    Listed nrs prs j
  lids : ∀ lid j, lidAt prs lid = some j → Listed nrs prs j

section Records
variable {h : HeaderRecord} {nrs : List NodeRecord} {prs : List PortRecord}

/-- If nodes list all ports, every remote port and every LID ends at a listed one. -/
theorem closed_of_listed (hall : ∀ j < prs.length, Listed nrs prs j) : Closed nrs prs where
  remotes i q _ _ j hj := by
    unfold PortRecord.remote at hj
    split at hj
    · exact hall j (Numbered.last_lt hj)
    · cases hj
  lids lid j hj := by
    have hin := List.mem_of_find?_eq_some hj
    exact hall j (List.mem_range.mp (List.mem_reverse.mp hin))

/-- No key is in two records. -/
theorem Consistent.record_eq (hc : Consistent h nrs prs) {r r' : NodeRecord} {key : PortCacheKey}
    (hr : r ∈ nrs) (hr' : r' ∈ nrs) (hkey : key ∈ r.portCacheKeys)
    (hkey' : key ∈ r'.portCacheKeys) : r = r' := by
  by_contra hne
  have hsymm : Std.Symm (Function.onFun List.Disjoint NodeRecord.portCacheKeys) :=
    ⟨fun _ _ hd => hd.symm⟩
  exact (List.nodup_flatMap.mp hc.once).2.forall hr hr' hne hkey hkey'

/-- Every listed port stays in a slot exactly if no node has two keys with one number. -/
theorem Consistent.slots_iff (hc : Consistent h nrs prs) :
    (∀ p, Listed nrs prs p → ∃ r ∈ nrs, ∃ k, r.slots prs k = some p) ↔
      ∀ r ∈ nrs, (r.portCacheKeys.map PortCacheKey.portnum).Nodup := by
  have hnodup : ∀ r ∈ nrs, r.portCacheKeys.Nodup := (List.nodup_flatMap.mp hc.once).1
  constructor
  · intro hall r hr
    -- the key of a port in a slot is the last one with its number
    have hlast : ∀ key : PortCacheKey, key ∈ r.portCacheKeys → ∀ k : Nat, k = key.portnum.toNat →
        r.portCacheKeys.reverse.find? (fun x : PortCacheKey => x.portnum.toNat = k) = some key := by
      rintro key hkey k rfl
      obtain ⟨p, hp⟩ := Option.isSome_iff_exists.mp
        (Numbered.last_isSome_iff.mpr (hc.found r hr key hkey))
      obtain ⟨r', hr', k, hk⟩ := hall p ⟨r, hr, key, hkey, hp⟩
      obtain ⟨key', hfind, hp'⟩ := Option.bind_eq_some_iff.mp hk
      obtain rfl : key' = key := Numbered.last_inj hp' hp
      have hkey' := List.mem_reverse.mp (List.mem_of_find?_eq_some hfind)
      obtain rfl := hc.record_eq hr' hr hkey' hkey
      have hnum := List.find?_some
        (p := fun key : PortCacheKey => decide (key.portnum.toNat = k)) hfind
      rw [of_decide_eq_true hnum]
      exact hfind
    refine (hnodup r hr).map_on fun key hkey key' hkey' hnum => ?_
    have hfirst := hlast key hkey _ rfl
    have hsecond := hlast key' hkey' _ (congrArg UInt8.toNat hnum)
    exact Option.some.inj (hfirst.symm.trans hsecond)
  · rintro hall p ⟨r, hr, key, hkey, hp⟩
    refine ⟨r, hr, key.portnum.toNat, Option.bind_eq_some_iff.mpr ⟨key, ?_, hp⟩⟩
    refine find?_eq_some_of_unique (List.mem_reverse.mpr hkey) (decide_eq_true rfl) ?_
    intro key' hkey' hnum
    exact List.inj_on_of_nodup_map (hall r hr) (List.mem_reverse.mp hkey') hkey
      (UInt8.toNat_inj.mp (of_decide_eq_true hnum))

end Records

namespace FabricCache
open Fabric Folds

def destroyIbndNodeCache (fc : FabricCache) (heap : Heap) (n : NodeRef) : Except Block Heap :=
  if (fc.nodeCache n).nodeStoredToFabric then .ok heap else fc.fabric.destroyNode heap n

/-- The ports in the loop of `_destroy_ibnd_fabric_cache`. -/
def destroyPortCache (fc : FabricCache) (heap : Heap) (p : PortRef) : Except Block Heap :=
  if (fc.portCache p).portStoredToFabric then .ok heap else Release.free heap (.port p)

def destroyIbndFabricCache (fc : FabricCache) (heap : Heap) : Except Block Heap := do
  let heap ← fc.nodesCache.foldlM fc.destroyIbndNodeCache heap
  fc.portsCache.foldlM fc.destroyPortCache heap

/-- The label `cleanup` of `ibnd_load_fabric`. -/
def cleanup (fc : FabricCache) (heap : Heap) : Except Block Heap := do
  let heap ← fc.fabric.ibndDestroyFabric heap
  fc.destroyIbndFabricCache heap

def nodeCacheBlocks (fc : FabricCache) (n : NodeRef) : List Block :=
  if (fc.nodeCache n).nodeStoredToFabric then [] else fc.fabric.nodeBlocks n

def portCacheBlocks (fc : FabricCache) (p : PortRef) : List Block :=
  if (fc.portCache p).portStoredToFabric then [] else [.port p]

/-- What `_destroy_ibnd_fabric_cache` frees, in this order. -/
def cacheBlocks (fc : FabricCache) : List Block :=
  fc.nodesCache.flatMap fc.nodeCacheBlocks ++ fc.portsCache.flatMap fc.portCacheBlocks

theorem destroyIbndFabricCache_eq (fc : FabricCache) (heap : Heap) :
    fc.destroyIbndFabricCache heap = Release.freeAll heap fc.cacheBlocks := by
  have hnode : fc.destroyIbndNodeCache = fun heap n =>
      Release.freeAll heap (fc.nodeCacheBlocks n) := by
    funext heap n
    unfold destroyIbndNodeCache nodeCacheBlocks
    split
    · rfl
    · exact fc.fabric.destroyNode_eq heap n
  have hport : fc.destroyPortCache = fun heap p =>
      Release.freeAll heap (fc.portCacheBlocks p) := by
    funext heap p
    unfold destroyPortCache portCacheBlocks
    split
    · rfl
    · exact (Release.freeAll_singleton heap _).symm
  unfold destroyIbndFabricCache
  rw [cacheBlocks, Release.freeAll_append, ← Release.freeAll_flatMap, hnode, hport]
  simp only [Release.freeAll_flatMap]

theorem cleanup_eq (fc : FabricCache) (heap : Heap) :
    fc.cleanup heap = Release.freeAll heap (fc.fabric.blocks ++ fc.cacheBlocks) := by
  unfold cleanup
  simp only [ibndDestroyFabric_eq, destroyIbndFabricCache_eq]
  rw [Release.freeAll_append]

/-- What the fabric and the caches own. A node or port in a cache belongs to the cache until it is
stored to the fabric, and only what is stored is in a list or a slot. -/
structure Owned (fc : FabricCache) : Prop extends Owning fc.fabric where
  nodesCache : fc.nodesCache = (List.range fc.fabric.nodeCount).reverse
  portsCache : fc.portsCache = (List.range fc.fabric.portCount).reverse
  nodeStored : ∀ n, (fc.nodeCache n).nodeStoredToFabric = true ↔ n ∈ fc.fabric.nodes
  portStored : ∀ p, (fc.portCache p).portStoredToFabric = true ↔ p ∈ fc.fabric.hashed
  known : ∀ n ∈ fc.fabric.nodes, n < fc.fabric.nodeCount
  hashed_lt : ∀ p ∈ fc.fabric.hashed, p < fc.fabric.portCount
  held : ∀ {n k p}, (fc.fabric.node n).ports k = some p →
    n ∈ fc.fabric.nodes ∧ k ≤ (fc.fabric.node n).numports ∧ p ∈ fc.fabric.hashed

/-- A port that was stored, and whose slot has another port now. -/
def Lost (fc : FabricCache) (p : PortRef) : Prop :=
  (fc.portCache p).portStoredToFabric = true ∧ ∀ n k, (fc.fabric.node n).ports k ≠ some p

section Owned
variable {fc fc' : FabricCache} {n : NodeRef} {p : PortRef}

theorem Owned.holds_iff (h : Owned fc) :
    fc.fabric.Holds p ↔ ∃ n k, (fc.fabric.node n).ports k = some p := by
  constructor
  · rintro ⟨n, -, hp⟩
    obtain ⟨k, -, hk⟩ := mem_presentPorts.mp hp
    exact ⟨n, k, hk⟩
  · rintro ⟨n, k, hk⟩
    obtain ⟨hn, hle, -⟩ := h.held hk
    exact ⟨n, hn, mem_presentPorts.mpr ⟨k, hle, hk⟩⟩

theorem Owned.lost_iff (h : Owned fc) :
    fc.Lost p ↔ p ∈ fc.fabric.hashed ∧ ¬ fc.fabric.Holds p := by
  rw [Lost, h.portStored, h.holds_iff]
  push Not
  rfl

theorem Owned.hashed_of_holds (h : Owned fc) (hp : fc.fabric.Holds p) : p ∈ fc.fabric.hashed := by
  obtain ⟨n, k, hk⟩ := h.holds_iff.mp hp
  exact (h.held hk).2.2

/-- A node that is not stored has no ports yet. -/
theorem Owned.nodeCacheBlocks_eq (h : Owned fc) (n : NodeRef) :
    fc.nodeCacheBlocks n = if n ∈ fc.fabric.nodes then [] else [.node n] := by
  unfold nodeCacheBlocks
  by_cases hn : n ∈ fc.fabric.nodes
  · rw [if_pos ((h.nodeStored n).mpr hn), if_pos hn]
  · have hnone : fc.fabric.presentPorts n = [] := by
      refine List.eq_nil_iff_forall_not_mem.mpr fun p hp => ?_
      obtain ⟨k, -, hk⟩ := mem_presentPorts.mp hp
      exact hn (h.held hk).1
    rw [if_neg (fun hs => hn ((h.nodeStored n).mp hs)), if_neg hn, nodeBlocks, hnone]
    rfl

theorem Owned.portCacheBlocks_eq (h : Owned fc) (p : PortRef) :
    fc.portCacheBlocks p = if p ∈ fc.fabric.hashed then [] else [.port p] := by
  unfold portCacheBlocks
  by_cases hp : p ∈ fc.fabric.hashed
  · rw [if_pos ((h.portStored p).mpr hp), if_pos hp]
  · rw [if_neg (fun hs => hp ((h.portStored p).mp hs)), if_neg hp]

/-- The cache frees what is not stored to the fabric. -/
theorem Owned.cacheBlocks_eq (h : Owned fc) : fc.cacheBlocks =
    (fc.nodesCache.filter fun n => n ∉ fc.fabric.nodes).map Block.node ++
      (fc.portsCache.filter fun p => p ∉ fc.fabric.hashed).map Block.port := by
  rw [cacheBlocks, funext h.nodeCacheBlocks_eq, funext h.portCacheBlocks_eq,
    Release.flatMap_unless, Release.flatMap_unless]

theorem Owned.node_mem_cacheBlocks (h : Owned fc) :
    Block.node n ∈ fc.cacheBlocks ↔ n < fc.fabric.nodeCount ∧ n ∉ fc.fabric.nodes := by
  rw [h.cacheBlocks_eq, h.nodesCache]
  simp

theorem Owned.port_mem_cacheBlocks (h : Owned fc) :
    Block.port p ∈ fc.cacheBlocks ↔ p < fc.fabric.portCount ∧ p ∉ fc.fabric.hashed := by
  rw [h.cacheBlocks_eq, h.portsCache]
  simp

theorem Owned.nodup_cacheBlocks (h : Owned fc) : fc.cacheBlocks.Nodup := by
  have hrange : ∀ (count : Nat) (q : Nat → Bool), ((List.range count).reverse.filter q).Nodup :=
    fun count q => (List.nodup_reverse.mpr List.nodup_range).filter q
  rw [h.cacheBlocks_eq, h.nodesCache, h.portsCache]
  refine List.nodup_append.mpr ⟨(hrange _ _).map fun _ _ => Block.node.inj,
    (hrange _ _).map fun _ _ => Block.port.inj, ?_⟩
  intro b hb c hc hbc
  obtain ⟨n, -, rfl⟩ := List.mem_map.mp hb
  obtain ⟨p, -, rfl⟩ := List.mem_map.mp hc
  cases hbc

/-- The fabric and the cache free different blocks. -/
theorem Owned.nodup_append (h : Owned fc) : (fc.fabric.blocks ++ fc.cacheBlocks).Nodup := by
  refine List.nodup_append.mpr ⟨h.nodup_blocks, h.nodup_cacheBlocks, ?_⟩
  rintro b hb _ hc rfl
  cases b with
  | node n => exact (h.node_mem_cacheBlocks.mp hc).2 (node_mem_blocks.mp hb)
  | port p => exact (h.port_mem_cacheBlocks.mp hc).2 (h.hashed_of_holds (port_mem_blocks.mp hb))

theorem Owned.live (h : Owned fc) :
    ∀ b ∈ fc.fabric.blocks ++ fc.cacheBlocks, b ∈ fc.fabric.heap := by
  intro b hb
  rcases List.mem_append.mp hb with hb | hb
  · cases b with
    | node n => exact node_mem_heap.mpr (h.known n (node_mem_blocks.mp hb))
    | port p =>
        exact port_mem_heap.mpr (h.hashed_lt p (h.hashed_of_holds (port_mem_blocks.mp hb)))
  · cases b with
    | node n => exact node_mem_heap.mpr (h.node_mem_cacheBlocks.mp hb).1
    | port p => exact port_mem_heap.mpr (h.port_mem_cacheBlocks.mp hb).1

/-- Where loading has stopped, nothing is freed twice, and what is not freed is what is lost. -/
theorem Owned.cleanup (h : Owned fc) : ∃ heap, fc.cleanup fc.fabric.heap = .ok heap ∧
    (∀ n, .node n ∉ heap) ∧ ∀ p, .port p ∈ heap ↔ fc.Lost p := by
  obtain ⟨heap, hok, hrest⟩ := Release.freeAll_ok h.nodup_append h.live
  refine ⟨heap, (fc.cleanup_eq _).trans hok, fun n hn => ?_, fun p => ?_⟩
  · obtain ⟨hlt, hout⟩ := (hrest _).mp hn
    rw [List.mem_append, node_mem_blocks, h.node_mem_cacheBlocks, not_or] at hout
    exact hout.2 ⟨node_mem_heap.mp hlt, hout.1⟩
  · rw [hrest, List.mem_append, port_mem_blocks, h.port_mem_cacheBlocks, h.lost_iff, port_mem_heap]
    constructor
    · rintro ⟨hlt, hout⟩
      rw [not_or] at hout
      exact ⟨not_not.mp fun hp => hout.2 ⟨hlt, hp⟩, hout.1⟩
    · rintro ⟨hp, hout⟩
      exact ⟨h.hashed_lt p hp, not_or.mpr ⟨hout, fun hnew => hnew.2 hp⟩⟩

/-- Where loading went through, the cache is freed first, and the fabric after its use. -/
theorem Owned.destroyed (h : Owned fc) (hall : fc.fabric.nodes = List.range fc.fabric.nodeCount) :
    ∃ heap heap', fc.destroyIbndFabricCache fc.fabric.heap = .ok heap ∧
      fc.fabric.ibndDestroyFabric heap = .ok heap' ∧
      (∀ n, .node n ∈ heap ↔ n < fc.fabric.nodeCount) ∧
      (∀ p, .port p ∈ heap ↔ p ∈ fc.fabric.hashed) ∧
      (∀ n, .node n ∉ heap') ∧ ∀ p, .port p ∈ heap' ↔ fc.Lost p := by
  obtain ⟨heap, hok, hrest⟩ := Release.freeAll_ok h.nodup_cacheBlocks
    fun b hb => h.live b (List.mem_append_right _ hb)
  have hlisted : ∀ n, n ∈ fc.fabric.nodes ↔ n < fc.fabric.nodeCount := by
    intro n
    rw [hall, List.mem_range]
  have hnode : ∀ n, .node n ∈ heap ↔ n < fc.fabric.nodeCount := by
    intro n
    rw [hrest, node_mem_heap, h.node_mem_cacheBlocks, hlisted]
    exact and_iff_left fun hn => hn.2 hn.1
  have hport : ∀ p, .port p ∈ heap ↔ p ∈ fc.fabric.hashed := by
    intro p
    rw [hrest, port_mem_heap, h.port_mem_cacheBlocks]
    constructor
    · exact fun hp => not_not.mp fun hout => hp.2 ⟨hp.1, hout⟩
    · exact fun hp => ⟨h.hashed_lt p hp, fun hout => hout.2 hp⟩
  have hlive : ∀ b ∈ fc.fabric.blocks, b ∈ heap := by
    intro b hb
    cases b with
    | node n => exact (hnode n).mpr (h.known n (node_mem_blocks.mp hb))
    | port p => exact (hport p).mpr (h.hashed_of_holds (port_mem_blocks.mp hb))
  obtain ⟨heap', hok', hrest'⟩ := Release.freeAll_ok h.nodup_blocks hlive
  refine ⟨heap, heap', (fc.destroyIbndFabricCache_eq _).trans hok,
    (ibndDestroyFabric_eq _ _).trans hok', hnode, hport, fun n hn => ?_, fun p => ?_⟩
  · obtain ⟨hin, hout⟩ := (hrest' _).mp hn
    exact hout (node_mem_blocks.mpr ((hlisted n).mpr ((hnode n).mp hin)))
  · rw [hrest', hport, port_mem_blocks, h.lost_iff]

/-- What belongs to whom is left as it is. -/
structure SameOwners (fc fc' : FabricCache) : Prop where
  nodesCache : fc'.nodesCache = fc.nodesCache
  portsCache : fc'.portsCache = fc.portsCache
  nodeCache : fc'.nodeCache = fc.nodeCache
  portCache : fc'.portCache = fc.portCache
  node : fc'.fabric.node = fc.fabric.node
  nodes : fc'.fabric.nodes = fc.fabric.nodes
  nodeCount : fc'.fabric.nodeCount = fc.fabric.nodeCount
  portCount : fc'.fabric.portCount = fc.fabric.portCount
  hashed : fc'.fabric.hashed = fc.fabric.hashed

theorem SameOwners.refl (fc : FabricCache) : SameOwners fc fc :=
  ⟨rfl, rfl, rfl, rfl, rfl, rfl, rfl, rfl, rfl⟩

theorem SameOwners.trans {fc₁ fc₂ fc₃ : FabricCache} (h : SameOwners fc₁ fc₂)
    (h' : SameOwners fc₂ fc₃) : SameOwners fc₁ fc₃ where
  nodesCache := h'.nodesCache.trans h.nodesCache
  portsCache := h'.portsCache.trans h.portsCache
  nodeCache := h'.nodeCache.trans h.nodeCache
  portCache := h'.portCache.trans h.portCache
  node := h'.node.trans h.node
  nodes := h'.nodes.trans h.nodes
  nodeCount := h'.nodeCount.trans h.nodeCount
  portCount := h'.portCount.trans h.portCount
  hashed := h'.hashed.trans h.hashed

theorem Owned.of_same (h : Owned fc) (hs : SameOwners fc fc') : Owned fc' where
  nodup := hs.nodes ▸ h.nodup
  unique hj hk := by
    rw [hs.node] at hj hk
    exact h.unique hj hk
  nodesCache := by rw [hs.nodesCache, hs.nodeCount, h.nodesCache]
  portsCache := by rw [hs.portsCache, hs.portCount, h.portsCache]
  nodeStored n := by rw [hs.nodeCache, hs.nodes, h.nodeStored]
  portStored p := by rw [hs.portCache, hs.hashed, h.portStored]
  known n hn := by
    rw [hs.nodes] at hn
    rw [hs.nodeCount]
    exact h.known n hn
  hashed_lt p hp := by
    rw [hs.hashed] at hp
    rw [hs.portCount]
    exact h.hashed_lt p hp
  held hk := by
    rw [hs.node] at hk
    rw [hs.nodes, hs.node, hs.hashed]
    exact h.held hk

end Owned

/-- What is left behind where loading stops with a -1. -/
def AtStop (P : FabricCache → Prop) : LoadStop → Prop
  | .fault _ => True
  | .invalid fc => P fc

theorem AtStop.imp {P Q : FabricCache → Prop} (h : ∀ fc, P fc → Q fc) (e : LoadStop)
    (he : AtStop P e) : AtStop Q e := by
  cases e with
  | fault fault => trivial
  | invalid fc => exact h fc he

/-- The caches that a load with a -1 leaves behind. -/
def leftBehind {α : Type} : LoadM α → Option FabricCache
  | .error (.invalid fc) => some fc
  | .error (.fault _) => none
  | .ok _ => none

theorem leftBehind_eq_some {α : Type} {load : LoadM α} {fc : FabricCache} :
    leftBehind load = some fc ↔ load = .error (.invalid fc) := by
  cases load with
  | ok a => simp [leftBehind]
  | error e => cases e <;> simp [leftBehind]

section Stages
variable {nrs : List NodeRecord} {prs : List PortRecord} {fc fc₀ : FabricCache} {n : NodeRef}
  {ns : List NodeRef} {fills : List (NodeRef × PortRef)}

theorem Stored.owned (hs : Stored nrs prs fc) : Owned fc := by
  have hnodes : fc.fabric.nodes = [] := congrArg Fabric.nodes hs.bare
  have hhashed : fc.fabric.hashed = [] := congrArg Fabric.hashed hs.bare
  constructor
  case toOwning =>
    refine ⟨hnodes ▸ List.nodup_nil, fun {n m j k p} hj => ?_⟩
    rw [hs.noPorts] at hj
    cases hj
  case nodesCache => rw [hs.nodesCache, hs.nodeCount]
  case portsCache => rw [hs.portsCache, hs.portCount]
  case nodeStored =>
    intro n
    rw [hs.unstored.1, hnodes]
    simp
  case portStored =>
    intro p
    rw [hs.unstored.2, hhashed]
    simp
  case known =>
    intro n hn
    rw [hnodes] at hn
    cases hn
  case hashed_lt =>
    intro p hp
    rw [hhashed] at hp
    cases hp
  case held =>
    intro n k p hk
    rw [hs.noPorts] at hk
    cases hk

theorem stored_initial_bare : Stored [] [] initial := by
  constructor
  case noPorts => exact fun _ _ => rfl
  all_goals simp [initial, allocateFabricInternal]

theorem loadCount_ends {ρ : Type} (read : Bytes → Option (ρ × Bytes))
    {add : FabricCache → ρ → FabricCache} {Q : FabricCache → Prop}
    (hadd : ∀ fc r, Q fc → Q (add fc r)) (h : Q fc) (count : Nat) (fd : Bytes) :
    Ends (fun x => Q x.1) (AtStop Q) (loadCount (loadWith read add) count fc fd) := by
  induction count generalizing fc fd with
  | zero => exact h
  | succ count ih =>
      have hone : Ends (fun x => Q x.1) (AtStop Q) (loadWith read add fc fd) := by
        unfold loadWith
        cases read fd with
        | none => exact h
        | some r => exact hadd fc r.1 h
      exact hone.bind fun x hx => ih hx x.2

/-- Reading the file. -/
theorem readFile_ends (file : Bytes) :
    Ends (fun fc => ∃ nrs prs, Stored nrs prs fc) (AtStop Owned) (readFile file) := by
  unfold readFile loadHeaderInfo
  cases readHeader file with
  | none => exact stored_initial_bare.owned
  | some r =>
      rw [ok_bind]
      have hnodes := loadCount_ends readNode (Q := fun fc => ∃ nrs, Stored nrs [] fc)
        (fun fc r ⟨nrs, hs⟩ => ⟨_, hs.addNode r⟩) ⟨[], stored_initial r.1⟩ r.1.nodeCount.toNat r.2
      refine (hnodes.imp (fun _ hx => hx) (AtStop.imp fun fc ⟨nrs, hs⟩ => hs.owned)).bind
        fun x ⟨nrs, hs⟩ => ?_
      have hports := loadCount_ends readPort (Q := fun fc => ∃ prs, Stored nrs prs fc)
        (fun fc r ⟨prs, hs⟩ => ⟨_, hs.addPort r⟩) ⟨[], hs⟩ r.1.portCount.toNat x.2
      exact (hports.imp (fun _ hx => hx) (AtStop.imp fun fc ⟨prs, hs⟩ => hs.owned)).bind
        fun y ⟨prs, hs⟩ => ⟨nrs, prs, hs⟩

/-- The caches that `_rebuild_nodes` works on. -/
structure Whole (fc₀ : FabricCache) : Prop where
  nodesCache : fc₀.nodesCache = (List.range fc₀.fabric.nodeCount).reverse
  portsCache : fc₀.portsCache = (List.range fc₀.fabric.portCount).reverse
  found : ∀ key p, fc₀.findPort key = some p → p < fc₀.fabric.portCount

theorem Rebuilt.owned (h : Rebuilt fc₀ ns fills fc) (hw : Whole fc₀) (hnodup : ns.Nodup)
    (hns : ∀ n ∈ ns, n ∈ fc₀.nodesCache) : Owned fc := by
  have hfill : ∀ {n k p}, (fc.fabric.node n).ports k = some p →
      (n, p) ∈ fills ∧ (fc₀.fabric.port p).portnum = k := by
    intro n k p hk
    rw [h.ports] at hk
    exact lastFill_eq_some hk
  have hstored : ∀ {x}, x ∈ fills → x.2 ∈ fills.map Prod.snd := fun hx => List.mem_map_of_mem hx
  constructor
  case toOwning =>
    refine ⟨by rwa [h.nodes], fun {n m j k p} hj hk => ?_⟩
    obtain ⟨hn, rfl⟩ := hfill hj
    obtain ⟨hm, rfl⟩ := hfill hk
    have hsame : (n, p) = (m, p) := List.inj_on_of_nodup_map h.nodup hn hm rfl
    exact ⟨congrArg Prod.fst hsame, rfl⟩
  case nodesCache => rw [h.nodesCache, h.nodeCount, hw.nodesCache]
  case portsCache => rw [h.portsCache, h.portCount, hw.portsCache]
  case nodeStored =>
    intro n
    rw [h.nodeStored, h.nodes]
  case portStored =>
    intro p
    rw [h.portStored, h.members]
  case known =>
    intro n hn
    rw [h.nodes] at hn
    have hin := hns n hn
    rw [hw.nodesCache, List.mem_reverse, List.mem_range] at hin
    rwa [h.nodeCount]
  case hashed_lt => exact fun p hp => h.hashed.2 p hp
  case held =>
    intro n k p hk
    obtain ⟨hx, rfl⟩ := hfill hk
    rw [h.nodes, h.numports, h.members]
    exact ⟨h.stored _ hx, h.fits _ hx, hstored hx⟩

/-- A key of a node, whatever it names. -/
theorem Rebuilt.fillPort_ends (h : Rebuilt fc₀ ns fills fc) (hw : Whole fc₀) (hn : n ∈ ns)
    (key : PortCacheKey) :
    Ends (fun fc => ∃ fills, Rebuilt fc₀ ns fills fc)
      (AtStop fun fc => ∃ fills, Rebuilt fc₀ ns fills fc) (FabricCache.fillPort n fc key) := by
  by_cases hkey : ∀ p, fc₀.findPort key = some p → p ∈ fills.map Prod.snd
  · rw [h.fillPort_invalid hkey]
    exact ⟨fills, h⟩
  · push Not at hkey
    obtain ⟨p, hp, hnew⟩ := hkey
    by_cases hfit : (fc₀.fabric.port p).portnum ≤ (fc₀.fabric.node n).numports
    · obtain ⟨fc', hok, h'⟩ := h.fillPort hn hp (hw.found key p hp) hnew hfit
      rw [hok]
      exact ⟨_, h'⟩
    · rw [h.fillPort_fault hp hnew (Nat.lt_of_not_le hfit)]
      trivial

/-- Some of the nodes are in the fabric, each once. -/
def PartRebuilt (fc₀ fc : FabricCache) : Prop :=
  ∃ ns fills, ns.Nodup ∧ (∀ n ∈ ns, n ∈ fc₀.nodesCache) ∧ Rebuilt fc₀ ns fills fc

theorem Rebuilt.rebuildNode_ends (h : Rebuilt fc₀ ns fills fc) (hw : Whole fc₀)
    (hnodup : (n :: ns).Nodup) (hns : ∀ m ∈ n :: ns, m ∈ fc₀.nodesCache) :
    Ends (fun fc => ∃ fills, Rebuilt fc₀ (n :: ns) fills fc) (AtStop (PartRebuilt fc₀))
      (FabricCache.rebuildNode fc n) := by
  have hout : n ∉ ns := (List.nodup_cons.mp hnodup).1
  unfold FabricCache.rebuildNode
  refine ends_foldlM (P := fun _ fc => ∃ fills, Rebuilt fc₀ (n :: ns) fills fc)
    (fun _ key _ s _ ⟨fills', hs⟩ => ?_) ⟨fills, h.storeNode hout⟩
  refine (hs.fillPort_ends hw List.mem_cons_self key).imp (fun _ hx => hx) (AtStop.imp ?_)
  exact fun _ ⟨fills₁, h₁⟩ => ⟨n :: ns, fills₁, hnodup, hns, h₁⟩

theorem Rebuilt.rebuildNodes_ends (h : Rebuilt fc₀ [] [] fc) (hw : Whole fc₀) :
    Ends (fun fc => ∃ fills, Rebuilt fc₀ fc₀.nodesCache.reverse fills fc)
      (AtStop (PartRebuilt fc₀)) (fc₀.nodesCache.foldlM FabricCache.rebuildNode fc) := by
  have hnodup : fc₀.nodesCache.Nodup := by
    rw [hw.nodesCache]
    exact List.nodup_reverse.mpr List.nodup_range
  refine ends_foldlM (P := fun seen fc => ∃ fills, Rebuilt fc₀ seen.reverse fills fc)
    (fun seen n rest s hall ⟨fills, hs⟩ => ?_) ⟨[], h⟩
  have hpart : (n :: seen.reverse).Nodup ∧ ∀ m ∈ n :: seen.reverse, m ∈ fc₀.nodesCache := by
    rw [hall] at hnodup ⊢
    constructor
    · have hfirst := (List.nodup_append.mp (List.append_cons .. ▸ hnodup)).1
      rw [← List.nodup_reverse, List.reverse_append] at hfirst
      exact hfirst
    · intro m hm
      rcases List.mem_cons.mp hm with rfl | hm
      · exact List.mem_append_right _ List.mem_cons_self
      · exact List.mem_append_left _ (List.mem_reverse.mp hm)
  rw [List.reverse_append]
  exact hs.rebuildNode_ends hw hpart.1 hpart.2

theorem sameOwners_modifyPort (fc : FabricCache) (p : PortRef) (g : Port → Port) :
    SameOwners fc (fc.modifyPort p g) :=
  ⟨rfl, rfl, rfl, rfl, rfl, rfl, rfl, rfl, rfl⟩

theorem linkPort_ends (fc : FabricCache) (p : PortRef) :
    Ends (SameOwners fc) (AtStop (SameOwners fc)) (fc.linkPort p) := by
  unfold linkPort
  split
  · cases fc.findPort (fc.portCache p).remoteportCacheKey with
    | none => exact .refl fc
    | some r => exact sameOwners_modifyPort fc p _
  · exact sameOwners_modifyPort fc p _

/-- A round of `_rebuild_ports`, which frees and allocates nothing. -/
theorem rebuildPort_ends (fc : FabricCache) (p : PortRef) :
    Ends (SameOwners fc) (AtStop (SameOwners fc)) (fc.rebuildPort p) := by
  unfold rebuildPort
  cases fc.findNode (fc.portCache p).nodeGuid with
  | none => exact .refl fc
  | some n =>
      have hfirst := sameOwners_modifyPort fc p fun port => { port with node := n }
      have hlink := (linkPort_ends (fc.modifyPort p fun port => { port with node := n }) p).imp
        (fun _ => hfirst.trans) (AtStop.imp fun _ => hfirst.trans)
      refine hlink.bind fun fc' h' => ?_
      cases hlid : fc'.fabric.addToPortlidHash p with
      | error fault => trivial
      | ok f =>
          obtain ⟨m, rfl⟩ := addToPortlidHash_ok hlid
          exact h'.trans ⟨rfl, rfl, rfl, rfl, rfl, rfl, rfl, rfl, rfl⟩

theorem rebuildPorts_ends {ps : List PortRef} (h : Owned fc) :
    Ends (SameOwners fc) (AtStop Owned) (ps.foldlM FabricCache.rebuildPort fc) := by
  refine ends_foldlM (P := fun _ => SameOwners fc) (fun _ p _ s _ hs => ?_) (.refl fc)
  exact (rebuildPort_ends s p).imp (fun _ => hs.trans)
    (AtStop.imp fun _ hend => h.of_same (hs.trans hend))

/-- Every node and port has one owner, wherever the part before `group_nodes` stops. If it goes
through, all nodes are in the fabric. -/
theorem load_ends (file : Bytes) :
    Ends (fun fc => Owned fc ∧ fc.fabric.nodes = List.range fc.fabric.nodeCount) (AtStop Owned)
      (load file) := by
  refine (readFile_ends file).bind fun fc ⟨nrs, prs, hs⟩ => ?_
  unfold relink
  cases fc.findNode fc.fromNodeGuid with
  | none => exact hs.owned
  | some n =>
      have hw : Whole (fc.withFromNode n) := {
        nodesCache := hs.owned.nodesCache
        portsCache := hs.owned.portsCache
        found := fun key p hp => hs.findPort_lt hp }
      have hnodes := (Rebuilt.start hs n).rebuildNodes_ends hw
      have hstop := hnodes.imp (fun _ hx => hx)
        (AtStop.imp fun _ ⟨ns, fills, hnodup, hns, h⟩ => h.owned hw hnodup hns)
      refine hstop.bind fun fc₁ ⟨fills, h⟩ => ?_
      have hrange : (fc.withFromNode n).nodesCache.reverse =
          List.range (fc.withFromNode n).fabric.nodeCount := by
        rw [hw.nodesCache, List.reverse_reverse]
      have howned : Owned fc₁ := h.owned hw (hrange ▸ List.nodup_range)
        fun m hm => List.mem_reverse.mp hm
      have hall : fc₁.fabric.nodes = List.range fc₁.fabric.nodeCount := by
        rw [h.nodes, hrange, h.nodeCount]
      refine (rebuildPorts_ends howned).imp (fun fc' h' => ⟨howned.of_same h', ?_⟩) fun _ he => he
      rw [h'.nodes, h'.nodeCount, hall]

theorem owned_of_invalid {file : Bytes} (h : ibndLoadFabric file = .error (.invalid fc)) :
    Owned fc := by
  have hends : Ends (fun _ => True) (AtStop Owned) (ibndLoadFabric file) := by
    rw [ibndLoadFabric_eq]
    refine (load_ends file).bind fun fc₁ h₁ => ?_
    unfold groupLoaded
    cases fc₁.fabric.groupNodesFrom fc₁.grouping with
    | ok g => trivial
    | error fault =>
        cases fault with
        | some fault => trivial
        | none => exact h₁.1
  rw [h] at hends
  exact hends

/-- Wherever `ibnd_load_fabric` gives up, it frees no node and no port twice, and frees all of them
but the ports whose slot another port of the node has taken over. -/
theorem ibndLoadFabric_cleanup {file : Bytes} (h : ibndLoadFabric file = .error (.invalid fc)) :
    ∃ heap, fc.cleanup fc.fabric.heap = .ok heap ∧ (∀ n, .node n ∉ heap) ∧
      ∀ p, .port p ∈ heap ↔ fc.Lost p :=
  (owned_of_invalid h).cleanup

/-- A node with GUID 1 and with room for one port beside port 0. -/
def oneNode (keys : List PortCacheKey) : NodeRecord where
  smalid := 0
  smalmc := 0
  smaenhsp0 := 0
  switchinfo := .zero
  guid := 1
  type := UInt8.ofNat ibNodeCa
  numports := 1
  info := .zero
  nodedesc := .zero
  portCacheKeys := keys

/-- Port 1 of a node, and the GUID of its remote port. -/
def portOne (guid nodeGuid : UInt64) (remote : Option UInt64) : PortRecord where
  guid := guid
  portnum := 1
  extPortnum := 0
  baseLid := 0
  lmc := 0
  info := .zero
  nodeGuid := nodeGuid
  remoteportFlag := if remote.isSome then 1 else 0
  remoteportCacheKey := ⟨remote.getD 0, 1⟩

def oneNodeFile (keys : List PortCacheKey) (prs : List PortRecord) : Bytes :=
  HeaderRecord.bytes ⟨1, UInt32.ofNat prs.length, 1, 0⟩ ++
    ([oneNode keys].flatMap NodeRecord.bytes ++ prs.flatMap PortRecord.bytes)

/-- The node has two ports with one number, and the second one names a node that is not there. -/
theorem ibndLoadFabric_cleanup_twoKeys : ∃ fc heap,
    ibndLoadFabric (oneNodeFile [⟨1, 1⟩, ⟨2, 1⟩] [portOne 1 1 none, portOne 2 9 none]) =
      .error (.invalid fc) ∧
    fc.cleanup fc.fabric.heap = .ok heap ∧ Block.port 0 ∈ heap := by
  have hleft : ((leftBehind (ibndLoadFabric
      (oneNodeFile [⟨1, 1⟩, ⟨2, 1⟩] [portOne 1 1 none, portOne 2 9 none]))).any fun fc =>
        decide (0 ∈ fc.fabric.hashed) && fc.fabric.nodes.all fun n =>
          decide (0 ∉ fc.fabric.presentPorts n)) = true := by decide +kernel
  obtain ⟨fc, hfc, hport⟩ := (Option.any_eq_true _ _).mp hleft
  have hload := leftBehind_eq_some.mp hfc
  obtain ⟨hhashed, hslots⟩ := Bool.and_eq_true_iff.mp hport
  obtain ⟨heap, hok, -, hlost⟩ := ibndLoadFabric_cleanup hload
  refine ⟨fc, heap, hload, hok, (hlost 0).mpr ((owned_of_invalid hload).lost_iff.mpr ?_)⟩
  refine ⟨of_decide_eq_true hhashed, ?_⟩
  rintro ⟨n, hn, hp⟩
  exact of_decide_eq_true (List.all_eq_true.mp hslots n hn) hp

end Stages

section Result
variable {h : HeaderRecord} {nrs : List NodeRecord} {prs : List PortRecord} {fc : FabricCache}
  {f : Fabric}

theorem lidAt_eq (hl : Loaded h nrs prs f) (lid : UInt32) :
    f.lid2guid.lookup lid = lidAt prs lid := by
  rw [hl.lids, lidAt]
  apply find?_congr
  intro i hi
  rw [List.mem_reverse, List.mem_range] at hi
  obtain ⟨n, htnext, -, hport⟩ := hl.port i _ (List.getElem?_eq_getElem hi)
  rw [hport, List.getElem?_eq_getElem hi]
  rfl

/-- All that the fabric leads to is listed exactly if the records are closed. -/
theorem leadsTo_iff (hl : Loaded h nrs prs f) (hheld : ∀ n ∈ f.nodes, ∀ k p,
    (f.node n).ports k = some p → p ∈ f.hashed) :
    (∀ p, f.LeadsTo p → Listed nrs prs p) ↔ Closed nrs prs := by
  have hport : ∀ i q, prs[i]? = some q → f.remoteport i = q.remote prs := by
    intro i q hq
    obtain ⟨n, htnext, -, hi⟩ := hl.port i q hq
    rw [Fabric.remoteport, hi]
  constructor
  · intro hall
    refine ⟨fun i q hi hq j hj => ?_, fun lid j hj => ?_⟩
    · exact hall j (.remote (.hash ((hl.members i).mpr hi)) ((hport i q hq).trans hj))
    · exact hall j (.lid lid ((lidAt_eq hl lid).trans hj))
  · intro hc p hp
    induction hp with
    | slot hn hk => exact (hl.members _).mp (hheld _ hn _ _ hk)
    | hash hp => exact (hl.members _).mp hp
    | lid lid hlid => exact hc.lids lid _ ((lidAt_eq hl lid).symm.trans hlid)
    | @remote i j _ hj ih =>
        obtain ⟨r, -, key, -, hi⟩ := id ih
        obtain ⟨q, hq, -⟩ := Numbered.last_eq_some hi
        exact hc.remotes i q ih hq j ((hport i q hq).symm.trans hj)

/-- The fabric and the caches of an accepted file, with what its records say of them. -/
structure Accepted (nrs : List NodeRecord) (prs : List PortRecord) (fc : FabricCache) : Prop
    extends Owned fc where
  all : fc.fabric.nodes = List.range fc.fabric.nodeCount
  count : fc.fabric.nodeCount = nrs.length
  listed : ∀ p, p ∈ fc.fabric.hashed ↔ Listed nrs prs p
  slots : ∀ p, fc.fabric.Holds p ↔ ∃ r ∈ nrs, ∃ k, r.slots prs k = some p

theorem accepted_of_load {file : Bytes} (hload : load file = .ok fc)
    (hl : Loaded h nrs prs fc.fabric) : Accepted nrs prs fc := by
  have hends := load_ends file
  rw [hload] at hends
  obtain ⟨howned, hall⟩ := hends
  constructor
  case toOwned => exact howned
  case all => exact hall
  case count =>
    have hlength := congrArg List.length (hall.symm.trans hl.nodes)
    rwa [List.length_range, List.length_range] at hlength
  case listed => exact hl.members
  case slots =>
    intro p
    rw [howned.holds_iff]
    constructor
    · rintro ⟨n, k, hk⟩
      have hn := (howned.held hk).1
      rw [hl.nodes, List.mem_range] at hn
      have hr := List.getElem?_eq_getElem hn
      rw [hl.node n _ hr] at hk
      exact ⟨_, List.getElem_mem hn, k, hk⟩
    · rintro ⟨r, hr, k, hk⟩
      obtain ⟨n, hn⟩ := List.mem_iff_getElem?.mp hr
      exact ⟨n, k, by rw [hl.node n r hn]; exact hk⟩

/-- The cache frees the ports that are not listed, and the fabric all others in its slots. -/
theorem Accepted.destroyed (ha : Accepted nrs prs fc) : ∃ heap heap',
    fc.destroyIbndFabricCache fc.fabric.heap = .ok heap ∧
    fc.fabric.ibndDestroyFabric heap = .ok heap' ∧
    (∀ n, .node n ∈ heap ↔ n < nrs.length) ∧ (∀ p, .port p ∈ heap ↔ Listed nrs prs p) ∧
    (heap' = ∅ ↔ ∀ p, Listed nrs prs p → ∃ r ∈ nrs, ∃ k, r.slots prs k = some p) := by
  obtain ⟨heap, heap', hok, hok', hnode, hport, hnone, hlost⟩ := ha.toOwned.destroyed ha.all
  refine ⟨heap, heap', hok, hok', fun n => ?_, fun p => (hport p).trans (ha.listed p), ?_⟩
  · rw [hnode, ha.count]
  · rw [Finset.eq_empty_iff_forall_notMem]
    constructor
    · intro hempty p hp
      rw [← ha.slots]
      by_contra hout
      exact hempty (.port p) ((hlost p).mpr (ha.lost_iff.mpr ⟨(ha.listed p).mpr hp, hout⟩))
    · intro hheld b hb
      cases b with
      | node n => exact hnone n hb
      | port p =>
          obtain ⟨hp, hout⟩ := ha.lost_iff.mp ((hlost p).mp hb)
          exact hout ((ha.slots p).mpr (hheld p ((ha.listed p).mp hp)))

/-- Of the ports of an accepted file, `ibnd_load_fabric` frees those that no node lists, with the
cache. The fabric leads to none of them exactly if the records are closed. When the fabric is
destroyed, no node or port is freed twice, and none is left over exactly if no node has two keys
with one port number. -/
theorem load_owned {file : Bytes} (hf : HoldsRecords file h nrs prs) (hload : load file = .ok fc) :
    ∃ heap heap', fc.destroyIbndFabricCache fc.fabric.heap = .ok heap ∧
      fc.fabric.ibndDestroyFabric heap = .ok heap' ∧
      (∀ n, .node n ∈ heap ↔ n < nrs.length) ∧ (∀ p, .port p ∈ heap ↔ Listed nrs prs p) ∧
      ((∀ p, fc.fabric.LeadsTo p → .port p ∈ heap) ↔ Closed nrs prs) ∧
      (heap' = ∅ ↔ ∀ r ∈ nrs, (r.portCacheKeys.map PortCacheKey.portnum).Nodup) := by
  obtain ⟨hc, hl⟩ := loaded_of_records hf hload
  have ha := accepted_of_load hload hl
  obtain ⟨heap, heap', hok, hok', hnode, hport, hempty⟩ := ha.destroyed
  have hleads : (∀ p, fc.fabric.LeadsTo p → .port p ∈ heap) ↔
      ∀ p, fc.fabric.LeadsTo p → Listed nrs prs p :=
    forall_congr' fun p => imp_congr_right fun _ => hport p
  exact ⟨heap, heap', hok, hok', hnode, hport,
    hleads.trans (leadsTo_iff hl fun _ _ _ _ hk => (ha.held hk).2.2), hempty.trans hc.slots_iff⟩

/-- The remote port of the only port is in the file, and no node lists it. -/
theorem load_owned_unlistedPeer : ∃ fc heap heap',
    load (oneNodeFile [⟨1, 1⟩] [portOne 1 1 (some 2), portOne 2 1 none]) = .ok fc ∧
    fc.destroyIbndFabricCache fc.fabric.heap = .ok heap ∧
    fc.fabric.ibndDestroyFabric heap = .ok heap' ∧ heap' = ∅ ∧
    ∃ p, fc.fabric.LeadsTo p ∧ .port p ∉ heap := by
  have haccepted : (load (oneNodeFile [⟨1, 1⟩]
      [portOne 1 1 (some 2), portOne 2 1 none])).toOption.isSome = true := by decide +kernel
  obtain ⟨fc, hfc⟩ := Option.isSome_iff_exists.mp haccepted
  have hload := toOption_eq_some.mp hfc
  obtain ⟨heap, heap', hok, hok', -, -, hleads, hempty⟩ :=
    load_owned (holdsRecords_bytes (by decide) (by decide) (by decide)) hload
  refine ⟨fc, heap, heap', hload, hok, hok', hempty.mpr (by decide), ?_⟩
  have hopen : ¬ Closed [oneNode [⟨1, 1⟩]] [portOne 1 1 (some 2), portOne 2 1 none] := by
    intro hclosed
    obtain ⟨r, hr, key, hkey, hp⟩ := hclosed.remotes 0 _
      ⟨_, List.mem_cons_self, ⟨1, 1⟩, List.mem_cons_self, by decide⟩ rfl 1 (by decide)
    cases List.mem_singleton.mp hr
    cases List.mem_singleton.mp hkey
    exact absurd hp (by decide)
  have hout := mt hleads.mp hopen
  push Not at hout
  exact hout

end Result
end FabricCache

namespace Fabric.Cacheable
variable {f : Fabric} {g : Grouping} {ports : List PortRef}

theorem nodup_portnums (h : f.Cacheable g ports) {n : NodeRef} (hn : n ∈ f.nodes) :
    ((f.nodeRecord n).portCacheKeys.map PortCacheKey.portnum).Nodup := by
  rw [nodeRecord, portCacheKeys_eq_map, List.map_map]
  refine (h.nodup_presentPorts hn).map_on fun p hp q hq hnum => ?_
  obtain ⟨hpmem, hpnode⟩ := (h.mem_presentPorts hn).mp hp
  obtain ⟨hqmem, hqnode⟩ := (h.mem_presentPorts hn).mp hq
  have hsame : (f.port p).portnum = (f.port q).portnum := by
    have hnat : (UInt8.ofNat (f.port p).portnum).toNat = (UInt8.ofNat (f.port q).portnum).toNat :=
      congrArg UInt8.toNat hnum
    rwa [UInt8.toNat_ofNat_of_lt' (h.portnum_lt hpmem),
      UInt8.toNat_ofNat_of_lt' (h.portnum_lt hqmem)] at hnat
  have hslot := (h.slots n hn _ p).mpr ⟨hpmem, hpnode, hsame⟩
  rw [(h.slots n hn _ q).mpr ⟨hqmem, hqnode, rfl⟩] at hslot
  exact (Option.some.inj hslot).symm

/-- Nothing of a fabric that was cached is lost: loaded again, it leads to no port that is freed
with the cache, and when it is destroyed, every node and port is freed once. -/
theorem reload_owned (h : f.Cacheable g ports) : ∃ file fc heap,
    f.ibndCacheFabric g = .ok file ∧ FabricCache.load file = .ok fc ∧
    fc.destroyIbndFabricCache fc.fabric.heap = .ok heap ∧
    (∀ p, fc.fabric.LeadsTo p → .port p ∈ heap) ∧ fc.fabric.ibndDestroyFabric heap = .ok ∅ := by
  obtain ⟨n, hn, file, -, hfile, hload⟩ := h.toWritable.loads_iff
  have hc := h.consistent hn
  obtain ⟨fc, hlink⟩ := (FabricCache.relink_iff_consistent _ _ _).mpr hc
  rw [hlink] at hload
  have hl := (FabricCache.loaded_of_relink hlink).1
  have ha := FabricCache.accepted_of_load hload hl
  obtain ⟨heap, heap', hok, hok', -, hport, hempty⟩ := ha.destroyed
  have hclosed : Closed (f.nodes.map f.nodeRecord) (ports.map (f.portRecord g)) :=
    closed_of_listed fun j hj => h.listed (by rwa [List.length_map] at hj)
  have hnums : ∀ r ∈ f.nodes.map f.nodeRecord,
      (r.portCacheKeys.map PortCacheKey.portnum).Nodup := by
    intro r hr
    obtain ⟨m, hm, rfl⟩ := List.mem_map.mp hr
    exact h.nodup_portnums hm
  rw [hempty.mpr (hc.slots_iff.mpr hnums)] at hok'
  refine ⟨file, fc, heap, hfile, hload, hok, fun p hp => (hport p).mpr ?_, hok'⟩
  exact (FabricCache.leadsTo_iff hl fun _ _ _ _ hk => (ha.held hk).2.2).mpr hclosed p hp

end Fabric.Cacheable

theorem reload_owned_cabledAdapters : ∃ file fc heap,
    cabledAdapters.ibndCacheFabric .blank = .ok file ∧ FabricCache.load file = .ok fc ∧
    fc.destroyIbndFabricCache fc.fabric.heap = .ok heap ∧
    (∀ p, fc.fabric.LeadsTo p → .port p ∈ heap) ∧ fc.fabric.ibndDestroyFabric heap = .ok ∅ :=
  cabledAdapters_cacheable.reload_owned

end InfinibandDiags
