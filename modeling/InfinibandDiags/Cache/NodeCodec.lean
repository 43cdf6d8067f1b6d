import InfinibandDiags.Cache.Load
import InfinibandDiags.Cache.Store

/-! What `_load_node` makes of the record that `_cache_node` wrote of a node. -/
namespace InfinibandDiags

theorem toNat_ofNat8_eq_iff {k : Nat} : (UInt8.ofNat k).toNat = k ↔ k < 256 := by
  constructor
  · intro h
    rw [← h]
    exact UInt8.toNat_lt _
  · exact fun h => UInt8.toNat_ofNat_of_lt' h

/-- The fields of a node that a cache file has. -/
structure Node.SameCached (a b : Node) : Prop where
  smalid : a.smalid = b.smalid
  smalmc : a.smalmc = b.smalmc
  smaenhsp0 : a.smaenhsp0 = b.smaenhsp0
  switchinfo : a.switchinfo = b.switchinfo
  guid : a.guid = b.guid
  type : a.type = b.type
  numports : a.numports = b.numports
  info : a.info = b.info
  nodedesc : a.nodedesc = b.nodedesc

theorem length_le_of_drop_eq_nil {keys : List PortCacheKey} {count : Nat}
    (h : (keys.drop count).flatMap PortCacheKey.bytes = []) : keys.length ≤ count := by
  have hlen := length_keyBytes (keys.drop count)
  rw [h, List.length_nil, ibndPortCacheKeyLen, List.length_drop] at hlen
  omega

namespace Fabric
variable (f : Fabric) (n : NodeRef)

/-- The ports that are there, port 0 first. -/
def presentPorts : List PortRef :=
  (List.range ((f.node n).numports + 1)).filterMap (f.node n).ports

theorem portCacheKeys_eq_map : f.portCacheKeys n = (f.presentPorts n).map f.cacheKey :=
  List.map_filterMap.symm

theorem length_presentPorts_le : (f.presentPorts n).length ≤ (f.node n).numports + 1 := by
  have hle := List.length_filterMap_le (f.node n).ports (List.range ((f.node n).numports + 1))
  rw [List.length_range] at hle
  exact hle

/-- The record of a node is read back as the node, with the keys of its ports, and what is behind
the record is left. -/
def NodeReadsBack : Prop :=
  ∃ bytes, f.cacheNode n = .ok bytes ∧ ∀ fc rest,
    ∃ fc', FabricCache.loadNode fc (bytes ++ rest) = .ok (fc', rest) ∧
      (fc'.fabric.node fc.fabric.nodeCount).SameCached (f.node n) ∧
      (fc'.nodeCache fc.fabric.nodeCount).portCacheKeys.map
          (fun key => (key.guid, key.portnum.toNat)) =
        (f.presentPorts n).map fun p => ((f.port p).guid, (f.port p).portnum)

/-- What is an `int` in memory and a byte in the file fits the byte. -/
structure FitsRecord : Prop where
  smaenhsp0 : (f.node n).smaenhsp0 < 256
  type : (f.node n).type < 256
  portnum : ∀ p ∈ f.presentPorts n, (f.port p).portnum < 256

section Written
variable {f n}

theorem cacheNode_ok (h : (f.node n).numports ≤ 255) :
    f.cacheNode n = .ok (f.nodeRecord n).bytes := by
  have hlen : (f.nodeRecord n).portCacheKeys.length ≤ 256 := by
    have hle := f.length_presentPorts_le n
    rw [nodeRecord, portCacheKeys_eq_map, List.length_map]
    omega
  unfold cacheNode
  rw [if_neg]
  simp only [ibndFabricCacheBuflen, ibndNodeCacheHeaderLen, ibndPortCacheKeyLen, ibSmpDataSize]
  omega

theorem loadNode_record (fc : FabricCache) (rest : Bytes) :
    let r := f.nodeRecord n
    FabricCache.loadNode fc (r.bytes ++ rest) =
      .ok (fc.addNode { r with portCacheKeys := r.portCacheKeys.take r.portsStoredCount },
        (r.portCacheKeys.drop r.portsStoredCount).flatMap PortCacheKey.bytes ++ rest) := by
  intro r
  unfold FabricCache.loadNode FabricCache.loadWith
  rw [readNode_counted]

@[simp] theorem addNode_node (fc : FabricCache) (r : NodeRecord) :
    (fc.addNode r).fabric.node fc.fabric.nodeCount = r.node := by
  simp [FabricCache.addNode, FabricCache.storeNodeCache, setAt]

@[simp] theorem addNode_nodeCache (fc : FabricCache) (r : NodeRecord) :
    (fc.addNode r).nodeCache fc.fabric.nodeCount = ⟨r.portCacheKeys, false⟩ := by
  simp [FabricCache.addNode, FabricCache.storeNodeCache, setAt]

theorem nodeReadsBack_of_fits (h : (f.node n).numports ≤ 255) (hfits : f.FitsRecord n)
    (hcount : (f.presentPorts n).length < 256) : f.NodeReadsBack n := by
  have hlen : (f.nodeRecord n).portCacheKeys.length < 256 := by
    rw [nodeRecord, portCacheKeys_eq_map, List.length_map]
    exact hcount
  refine ⟨_, cacheNode_ok h, fun fc rest => ⟨fc.addNode (f.nodeRecord n), ?_, ?_, ?_⟩⟩
  · unfold FabricCache.loadNode FabricCache.loadWith
    rw [readNode_bytes rest _ hlen]
  · rw [addNode_node]
    exact {
      smalid := rfl
      smalmc := rfl
      smaenhsp0 := toNat_ofNat8_eq_iff.2 hfits.smaenhsp0
      switchinfo := rfl
      guid := rfl
      type := toNat_ofNat8_eq_iff.2 hfits.type
      numports := toNat_ofNat8_eq_iff.2 (by omega)
      info := rfl
      nodedesc := rfl }
  · rw [addNode_nodeCache, nodeRecord, portCacheKeys_eq_map, List.map_map]
    apply List.map_congr_left
    intro p hp
    exact Prod.ext rfl (toNat_ofNat8_eq_iff.2 (hfits.portnum p hp))

/-- The count of all 256 slots is written as 0, so that their keys stay in the file. -/
theorem NodeReadsBack.length_lt (h : (f.node n).numports ≤ 255) (hback : f.NodeReadsBack n) :
    (f.presentPorts n).length < 256 := by
  obtain ⟨bytes, hbytes, hload⟩ := hback
  obtain ⟨fc', hload, -, -⟩ := hload .initial []
  rw [cacheNode_ok h] at hbytes
  cases hbytes
  rw [loadNode_record] at hload
  have hrest := congrArg Prod.snd (Except.ok.inj hload)
  rw [List.append_nil] at hrest
  have hle := length_le_of_drop_eq_nil hrest
  rw [NodeRecord.portsStoredCount_eq_mod] at hle
  have hlen : (f.nodeRecord n).portCacheKeys.length = (f.presentPorts n).length := by
    rw [nodeRecord, portCacheKeys_eq_map, List.length_map]
  rw [← hlen]
  exact lt_of_le_of_lt hle (Nat.mod_lt _ (by decide))

theorem NodeReadsBack.fits (h : (f.node n).numports ≤ 255) (hback : f.NodeReadsBack n) :
    f.FitsRecord n := by
  have hcount := hback.length_lt h
  obtain ⟨bytes, hbytes, hload⟩ := hback
  obtain ⟨fc', hload, hsame, hkeys⟩ := hload .initial []
  rw [cacheNode_ok h] at hbytes
  cases hbytes
  rw [loadNode_record] at hload
  have hfc := congrArg Prod.fst (Except.ok.inj hload)
  have hlen : (f.nodeRecord n).portCacheKeys.length < 256 := by
    rw [nodeRecord, portCacheKeys_eq_map, List.length_map]
    exact hcount
  rw [NodeRecord.portsStoredCount_eq_mod, Nat.mod_eq_of_lt hlen, List.take_length] at hfc
  subst hfc
  rw [addNode_node] at hsame
  rw [addNode_nodeCache, nodeRecord, portCacheKeys_eq_map, List.map_map] at hkeys
  have hnums := List.map_inj_left.1 hkeys
  exact {
    smaenhsp0 := toNat_ofNat8_eq_iff.1 hsame.smaenhsp0
    type := toNat_ofNat8_eq_iff.1 hsame.type
    portnum := fun p hp => toNat_ofNat8_eq_iff.1 (congrArg Prod.snd (hnums p hp)) }

end Written

/-- A node of at most 255 ports is read back exactly if its record has room for its numbers and
one of its 256 slots is empty. -/
theorem nodeReadsBack_iff (h : (f.node n).numports ≤ 255) :
    f.NodeReadsBack n ↔ f.FitsRecord n ∧ (f.presentPorts n).length < 256 :=
  ⟨fun hback => ⟨hback.fits h, hback.length_lt h⟩,
    fun hfits => nodeReadsBack_of_fits h hfits.1 hfits.2⟩

end Fabric

/-- A switch of 255 ports, with all slots filled. -/
def fullSwitch : Fabric :=
  { allocateFabricInternal with
    node := fun _ => { (default : Node) with
      type := ibNodeSwitch
      numports := 255
      ports := fun k => some k }
    port := fun p => { (default : Port) with portnum := p } }

theorem presentPorts_fullSwitch : fullSwitch.presentPorts 0 = List.range 256 :=
  List.filterMap_some

theorem fitsRecord_fullSwitch : fullSwitch.FitsRecord 0 where
  smaenhsp0 := by decide
  type := by decide
  portnum := by
    rw [presentPorts_fullSwitch]
    exact fun p hp => List.mem_range.1 hp

/-- Port numbers and all else fit the record, but the record is not read back. -/
theorem not_nodeReadsBack_fullSwitch :
    (fullSwitch.node 0).numports ≤ 255 ∧ fullSwitch.FitsRecord 0 ∧
      ¬ fullSwitch.NodeReadsBack 0 := by
  refine ⟨Nat.le_refl 255, fitsRecord_fullSwitch, fun hback => ?_⟩
  have hlt := hback.length_lt (Nat.le_refl 255)
  rw [presentPorts_fullSwitch, List.length_range] at hlt
  omega

theorem nodeReadsBack_iff_fullSwitch :
    (fullSwitch.node 0).numports ≤ 255 ∧ (fullSwitch.NodeReadsBack 0 ↔
      fullSwitch.FitsRecord 0 ∧ (fullSwitch.presentPorts 0).length < 256) :=
  ⟨Nat.le_refl 255, fullSwitch.nodeReadsBack_iff 0 (Nat.le_refl 255)⟩

end InfinibandDiags
