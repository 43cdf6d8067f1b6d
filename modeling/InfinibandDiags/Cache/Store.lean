import InfinibandDiags.Cache.Load

/-! `ibnd_cache_fabric`: the records that a fabric is written as. -/
namespace InfinibandDiags

def ibndFabricCacheBuflen : Nat := 4096

namespace Fabric
variable (f : Fabric)

def cacheKey (p : PortRef) : PortCacheKey := ⟨(f.port p).guid, UInt8.ofNat (f.port p).portnum⟩

/-- The keys that `_cache_node` writes: of the ports that are there, port 0 first. -/
def portCacheKeys (n : NodeRef) : List PortCacheKey :=
  (List.range ((f.node n).numports + 1)).filterMap fun k => ((f.node n).ports k).map f.cacheKey

def nodeRecord (n : NodeRef) : NodeRecord where
  smalid := (f.node n).smalid
  smalmc := (f.node n).smalmc
  smaenhsp0 := UInt8.ofNat (f.node n).smaenhsp0
  switchinfo := (f.node n).switchinfo
  guid := (f.node n).guid
  type := UInt8.ofNat (f.node n).type
  numports := UInt8.ofNat (f.node n).numports
  info := (f.node n).info
  nodedesc := (f.node n).nodedesc
  portCacheKeys := f.portCacheKeys n

/-- `_cache_node`. -/
def cacheNode (n : NodeRef) : Except Fault Bytes :=
  let record := f.nodeRecord n
  if ibndFabricCacheBuflen <
      ibndNodeCacheHeaderLen + ibndPortCacheKeyLen * record.portCacheKeys.length then
    .error .outOfBounds
  else .ok record.bytes

def portRecord (g : Grouping) (p : PortRef) : PortRecord where
  guid := (f.port p).guid
  portnum := UInt8.ofNat (f.port p).portnum
  extPortnum := UInt8.ofNat (g.extPortnum p)
  baseLid := (f.port p).baseLid
  lmc := (f.port p).lmc
  info := (f.port p).info
  nodeGuid := (f.node (f.port p).node).guid
  remoteportFlag := if (f.remoteport p).isSome then 1 else 0
  remoteportCacheKey := ((f.remoteport p).map f.cacheKey).getD ⟨0, 0⟩

/-- `_cache_port`. -/
def cachePort (g : Grouping) (p : PortRef) : Bytes := (f.portRecord g p).bytes

/-- `_cache_header_info`, with zeros for the counts. -/
def cacheHeaderInfo : Except Fault Bytes :=
  match f.fromNode with
  | none => .error .nullDeref
  | some n => .ok (HeaderRecord.bytes ⟨0, 0, (f.node n).guid, f.maxhopsDiscovered⟩)

/-- `_cache_header_counts`, once the rest is written. -/
def cacheHeaderCounts (file : Bytes) (nodeCount portCount : UInt32) : Bytes :=
  copyInto file ibndFabricCacheCountOffset (marshall32 nodeCount ++ marshall32 portCount)

/-- What `ibnd_cache_fabric` writes to the file. The counts are 32 bits wide. -/
def ibndCacheFabric (g : Grouping) : Except Fault Bytes := do
  let header ← f.cacheHeaderInfo
  let nodes ← f.nodes.mapM f.cacheNode
  let ports ← f.ibndIterPorts
  let file := header ++ nodes.flatten ++ ports.flatMap (f.cachePort g)
  .ok (cacheHeaderCounts file (UInt32.ofNat f.nodes.length) (UInt32.ofNat ports.length))

end Fabric
end InfinibandDiags
