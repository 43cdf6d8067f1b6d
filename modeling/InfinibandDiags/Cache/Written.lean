import InfinibandDiags.Cache.Loaded
import InfinibandDiags.Cache.NodeCodec

/-! The records in the files that `ibnd_cache_fabric` writes, and the fabrics whose records are
consistent. -/
namespace InfinibandDiags
open Fabric (LidsEnd)

/-- New bytes over as many old ones. -/
theorem copyInto_over (front old back new : Bytes) (h : old.length = new.length) :
    copyInto (front ++ old ++ back) front.length new = front ++ new ++ back := by
  induction new generalizing front old with
  | nil =>
      rw [List.length_nil, List.length_eq_zero_iff] at h
      rw [h, copyInto]
  | cons b new ih =>
      cases old with
      | nil => cases h
      | cons a old =>
          have hset : (front ++ (a :: old) ++ back).set front.length b =
              (front ++ [b]) ++ old ++ back := by
            simp
          have hlen : front.length + 1 = (front ++ [b]).length := by simp
          rw [copyInto, hset, hlen, ih (front ++ [b]) old (Nat.succ.inj h)]
          simp

namespace Fabric
variable {f : Fabric} {g : Grouping} {ports : List PortRef}

/-- The counts go where the header has left room for them. -/
theorem cacheHeaderCounts_bytes (guid : UInt64) (maxhops nodeCount portCount : UInt32)
    (rest : Bytes) :
    cacheHeaderCounts (HeaderRecord.bytes ⟨0, 0, guid, maxhops⟩ ++ rest) nodeCount portCount =
      HeaderRecord.bytes ⟨nodeCount, portCount, guid, maxhops⟩ ++ rest := by
  have hover := copyInto_over (marshall32 ibndFabricCacheMagic ++ marshall32 ibndFabricCacheVersion)
    (marshall32 0 ++ marshall32 0) (marshall64 guid ++ marshall32 maxhops ++ rest)
    (marshall32 nodeCount ++ marshall32 portCount) (by simp)
  rw [List.length_append, length_marshall32, length_marshall32] at hover
  simp only [cacheHeaderCounts, HeaderRecord.bytes, List.append_assoc] at hover ⊢
  exact hover

def headerRecord (f : Fabric) (ports : List PortRef) (n : NodeRef) : HeaderRecord :=
  ⟨UInt32.ofNat f.nodes.length, UInt32.ofNat ports.length, (f.node n).guid, f.maxhopsDiscovered⟩

/-- The keys of a record are the keys of the ports in the slots. -/
theorem flatMap_keys (f : Fabric) :
    (f.nodes.map f.nodeRecord).flatMap NodeRecord.portCacheKeys =
      (f.nodes.flatMap f.presentPorts).map f.cacheKey := by
  rw [List.flatMap_map, List.map_flatMap]
  exact List.flatMap_congr fun n _ => f.portCacheKeys_eq_map n

/-- A fabric that a file can hold: the numbers fit their bytes, and the ports of the port table
differ by their keys, the nodes by their GUIDs. -/
structure Writable (f : Fabric) (g : Grouping) (ports : List PortRef) : Prop where
  iterPorts : f.ibndIterPorts = .ok ports
  fromNode : ∃ n ∈ f.nodes, f.fromNode = some n
  counts : f.nodes.length < 2 ^ 32 ∧ ports.length < 2 ^ 32
  guids : (f.nodes.map fun n => (f.node n).guid).Nodup
  keys : (ports.map f.cacheKey).Nodup
  numports : ∀ n ∈ f.nodes, (f.node n).numports ≤ 255
  record : ∀ n ∈ f.nodes, f.FitsRecord n ∧ (f.presentPorts n).length < 256
  extPortnum : ∀ p ∈ ports, g.extPortnum p < 256

/-- A fabric whose file says all of it: the ports in the slots are those of the port table. -/
structure Cacheable (f : Fabric) (g : Grouping) (ports : List PortRef) : Prop
    extends Writable f g ports where
  slots : ∀ n ∈ f.nodes, ∀ k p, (f.node n).ports k = some p ↔
    p ∈ ports ∧ (f.port p).node = n ∧ (f.port p).portnum = k
  inArray : ∀ p ∈ ports, (f.port p).node ∈ f.nodes ∧
    (f.port p).portnum ≤ (f.node (f.port p).node).numports
  remotes : ∀ p ∈ ports, ∀ q, f.remoteport p = some q → q ∈ ports
  lids : ∀ p ∈ ports, LidsEnd (f.port p).baseLid (f.port p).lmc

namespace Writable

theorem file_ok (h : f.Writable g ports) : ∃ n ∈ f.nodes, f.fromNode = some n ∧
    f.ibndCacheFabric g = .ok ((f.headerRecord ports n).bytes ++
      ((f.nodes.map f.nodeRecord).flatMap NodeRecord.bytes ++
        (ports.map (f.portRecord g)).flatMap PortRecord.bytes)) := by
  obtain ⟨n, hn, hfrom⟩ := h.fromNode
  refine ⟨n, hn, hfrom, ?_⟩
  have hnodes : f.nodes.mapM f.cacheNode = .ok (f.nodes.map fun n => (f.nodeRecord n).bytes) :=
    Folds.mapM_ok fun n hn => cacheNode_ok (h.numports n hn)
  unfold ibndCacheFabric cacheHeaderInfo
  rw [hfrom, hnodes, h.iterPorts]
  simp only [ok_bind]
  rw [List.append_assoc, cacheHeaderCounts_bytes, List.flatMap_map, List.flatMap_map,
    ← List.flatMap_def]
  rfl

theorem holdsRecords (h : f.Writable g ports) (n : NodeRef) : FabricCache.HoldsRecords
    ((f.headerRecord ports n).bytes ++ ((f.nodes.map f.nodeRecord).flatMap NodeRecord.bytes ++
      (ports.map (f.portRecord g)).flatMap PortRecord.bytes))
    (f.headerRecord ports n) (f.nodes.map f.nodeRecord) (ports.map (f.portRecord g)) := by
  apply FabricCache.holdsRecords_bytes
  · rw [List.length_map, headerRecord, UInt32.toNat_ofNat_of_lt' h.counts.1]
  · rw [List.length_map, headerRecord, UInt32.toNat_ofNat_of_lt' h.counts.2]
  · intro r hr
    obtain ⟨m, hm, rfl⟩ := List.mem_map.mp hr
    rw [nodeRecord, portCacheKeys_eq_map, List.length_map]
    exact (h.record m hm).2

/-- Whether the file can be loaded is a matter of its records. -/
theorem loads_iff (h : f.Writable g ports) : ∃ n ∈ f.nodes, ∃ file, f.fromNode = some n ∧
    f.ibndCacheFabric g = .ok file ∧ FabricCache.load file = (FabricCache.ofRecords
      (f.headerRecord ports n) (f.nodes.map f.nodeRecord) (ports.map (f.portRecord g))).relink := by
  obtain ⟨n, hn, hfrom, hfile⟩ := h.file_ok
  refine ⟨n, hn, _, hfrom, hfile, ?_⟩
  rw [FabricCache.load, FabricCache.readFile_of_records (h.holdsRecords n)]
  rfl

end Writable

namespace Cacheable
variable (h : f.Cacheable g ports)
include h

theorem nodup_ports : ports.Nodup := h.keys.of_map

theorem mem_presentPorts {n : NodeRef} (hn : n ∈ f.nodes) {p : PortRef} :
    p ∈ f.presentPorts n ↔ p ∈ ports ∧ (f.port p).node = n := by
  unfold presentPorts
  rw [List.mem_filterMap]
  constructor
  · rintro ⟨k, -, hp⟩
    obtain ⟨hmem, hnode, -⟩ := (h.slots n hn k p).mp hp
    exact ⟨hmem, hnode⟩
  · rintro ⟨hmem, hnode⟩
    refine ⟨(f.port p).portnum, ?_, (h.slots n hn _ p).mpr ⟨hmem, hnode, rfl⟩⟩
    rw [List.mem_range, ← hnode]
    exact Nat.lt_succ_of_le (h.inArray p hmem).2

theorem portnum_lt {p : PortRef} (hp : p ∈ ports) : (f.port p).portnum < 256 := by
  obtain ⟨hnode, hle⟩ := h.inArray p hp
  exact Nat.lt_succ_of_le (hle.trans (h.numports _ hnode))

theorem key_inj {p q : PortRef} (hp : p ∈ ports) (hq : q ∈ ports)
    (hkey : f.cacheKey p = f.cacheKey q) : p = q :=
  List.inj_on_of_nodup_map h.keys hp hq hkey

theorem nodup_presentPorts {n : NodeRef} (hn : n ∈ f.nodes) : (f.presentPorts n).Nodup := by
  unfold presentPorts
  refine List.nodup_range.filterMap fun j k p hj hk => ?_
  exact ((h.slots n hn j p).mp hj).2.2.symm.trans ((h.slots n hn k p).mp hk).2.2

theorem nodup_slots : (f.nodes.flatMap f.presentPorts).Nodup := by
  rw [List.nodup_flatMap]
  refine ⟨fun n hn => h.nodup_presentPorts hn, ?_⟩
  refine h.guids.of_map.imp_of_mem fun {n m} hn hm hne => ?_
  change List.Disjoint (f.presentPorts n) (f.presentPorts m)
  rw [List.disjoint_left]
  intro p hp hp'
  exact hne (((h.mem_presentPorts hn).mp hp).2.symm.trans ((h.mem_presentPorts hm).mp hp').2)

theorem consistent {n : NodeRef} (hn : n ∈ f.nodes) : Consistent (f.headerRecord ports n)
    (f.nodes.map f.nodeRecord) (ports.map (f.portRecord g)) where
  fromNode := ⟨f.nodeRecord n, List.mem_map_of_mem hn, rfl⟩
  found := by
    intro r hr key hkey
    obtain ⟨m, hm, rfl⟩ := List.mem_map.mp hr
    rw [nodeRecord, portCacheKeys_eq_map] at hkey
    obtain ⟨p, hp, rfl⟩ := List.mem_map.mp hkey
    exact ⟨f.portRecord g p, List.mem_map_of_mem ((h.mem_presentPorts hm).mp hp).1, rfl⟩
  fits := by
    intro r hr key hkey
    obtain ⟨m, hm, rfl⟩ := List.mem_map.mp hr
    rw [nodeRecord, portCacheKeys_eq_map] at hkey
    obtain ⟨p, hp, rfl⟩ := List.mem_map.mp hkey
    obtain ⟨hmem, hnode⟩ := (h.mem_presentPorts hm).mp hp
    have hle := (h.inArray p hmem).2
    rw [hnode] at hle
    rw [UInt8.le_iff_toNat_le, cacheKey, nodeRecord]
    rw [UInt8.toNat_ofNat_of_lt' (h.portnum_lt hmem),
      UInt8.toNat_ofNat_of_lt' (Nat.lt_succ_of_le (h.numports m hm))]
    exact hle
  once := by
    rw [f.flatMap_keys]
    refine List.Nodup.map_on (fun p hp q hq hkey => ?_) h.nodup_slots
    obtain ⟨m, hm, hp⟩ := List.mem_flatMap.mp hp
    obtain ⟨m', hm', hq⟩ := List.mem_flatMap.mp hq
    exact h.key_inj ((h.mem_presentPorts hm).mp hp).1 ((h.mem_presentPorts hm').mp hq).1 hkey
  owners := by
    intro q hq
    obtain ⟨p, hp, rfl⟩ := List.mem_map.mp hq
    exact ⟨f.nodeRecord (f.port p).node, List.mem_map_of_mem (h.inArray p hp).1, rfl⟩
  remotes := by
    intro q hq hflag
    obtain ⟨p, hp, rfl⟩ := List.mem_map.mp hq
    cases hremote : f.remoteport p with
    | none =>
        rw [portRecord, hremote] at hflag
        exact absurd rfl hflag
    | some r =>
        refine ⟨f.portRecord g r, List.mem_map_of_mem (h.remotes p hp r hremote), ?_⟩
        change f.cacheKey r = ((f.remoteport p).map f.cacheKey).getD ⟨0, 0⟩
        rw [hremote]
        rfl
  lids := by
    intro q hq
    obtain ⟨p, hp, rfl⟩ := List.mem_map.mp hq
    exact h.lids p hp

end Cacheable
end Fabric
end InfinibandDiags
