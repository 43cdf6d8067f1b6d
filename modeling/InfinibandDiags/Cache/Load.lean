import InfinibandDiags.Cache.Format
import InfinibandDiags.Chassis.Group

/-! `ibnd_load_fabric`: the records of a file, and the fabric that is rebuilt from them. -/
namespace InfinibandDiags

/-- `ibnd_node_cache_t`, at the address of its node. -/
structure NodeCache where
  portCacheKeys : List PortCacheKey
  nodeStoredToFabric : Bool
  deriving Inhabited

/-- `ibnd_port_cache_t`, at the address of its port. -/
structure PortCache where
  nodeGuid : UInt64
  remoteportFlag : UInt8
  remoteportCacheKey : PortCacheKey
  portStoredToFabric : Bool

/-- `ibnd_fabric_cache_t`, and the external numbers of the ports. -/
structure FabricCache where
  fabric : Fabric
  extPortnum : PortRef → Nat
  fromNodeGuid : UInt64
  nodeCache : NodeRef → NodeCache
  portCache : PortRef → PortCache
  nodesCache : List NodeRef
  portsCache : List PortRef
  nodescachetbl : Nat → List NodeRef
  portscachetbl : Nat → List PortRef

/-- How loading stops: in an access that is not allowed, or with a return of -1, after which the
cache is destroyed. -/
inductive LoadStop
  | fault (fault : Fault)
  | invalid (fc : FabricCache)

abbrev LoadM := Except LoadStop

/-- A part of the loader that has no return value of its own. -/
def orStop {α : Type} : Except Fault α → LoadM α
  | .ok a => .ok a
  | .error fault => .error (.fault fault)

/-- The node that `_load_node` fills in. Its ports come later. -/
def NodeRecord.node (r : NodeRecord) : Node :=
  { (default : Node) with
    smalid := r.smalid
    smalmc := r.smalmc
    smaenhsp0 := r.smaenhsp0.toNat
    switchinfo := r.switchinfo
    guid := r.guid
    type := r.type.toNat
    numports := r.numports.toNat
    info := r.info
    nodedesc := r.nodedesc }

/-- The port that `_load_port` fills in. -/
def PortRecord.port (r : PortRecord) : Port :=
  { (default : Port) with
    guid := r.guid
    portnum := r.portnum.toNat
    remoteport := none
    baseLid := r.baseLid
    lmc := r.lmc
    info := r.info
    htnext := none }

namespace FabricCache

def initial : FabricCache where
  fabric := allocateFabricInternal
  extPortnum := fun _ => 0
  fromNodeGuid := 0
  nodeCache := fun _ => ⟨[], false⟩
  portCache := fun _ => ⟨0, 0, ⟨0, 0⟩, false⟩
  nodesCache := []
  portsCache := []
  nodescachetbl := fun _ => []
  portscachetbl := fun _ => []

/-- A record is read, and stored unless the file ends before it. -/
def loadWith {ρ : Type} (read : Bytes → Option (ρ × Bytes)) (add : FabricCache → ρ → FabricCache)
    (fc : FabricCache) (fd : Bytes) : LoadM (FabricCache × Bytes) :=
  match read fd with
  | none => .error (.invalid fc)
  | some (r, fd) => .ok (add fc r, fd)

def addHeader (fc : FabricCache) (r : HeaderRecord) : FabricCache :=
  { fc with
    fabric := { fc.fabric with maxhopsDiscovered := r.maxhopsDiscovered }
    fromNodeGuid := r.fromNodeGuid }

/-- `_load_header_info`: the counts, and what is left of the file. -/
def loadHeaderInfo (fc : FabricCache) (fd : Bytes) :
    LoadM (FabricCache × UInt32 × UInt32 × Bytes) :=
  match readHeader fd with
  | none => .error (.invalid fc)
  | some (r, fd) => .ok (fc.addHeader r, r.nodeCount, r.portCount, fd)

def storeNodeCache (fc : FabricCache) (n : NodeRef) : FabricCache :=
  let idx := hashguid (fc.fabric.node n).guid
  { fc with
    nodesCache := n :: fc.nodesCache
    nodescachetbl := setAt fc.nodescachetbl idx (n :: fc.nodescachetbl idx) }

/-- What `_load_node` makes of a record. -/
def addNode (fc : FabricCache) (r : NodeRecord) : FabricCache :=
  let n := fc.fabric.nodeCount
  let fabric := { fc.fabric with node := setAt fc.fabric.node n r.node, nodeCount := n + 1 }
  let nodeCache := setAt fc.nodeCache n ⟨r.portCacheKeys, false⟩
  { fc with fabric, nodeCache }.storeNodeCache n

def loadNode : FabricCache → Bytes → LoadM (FabricCache × Bytes) := loadWith readNode addNode

def storePortCache (fc : FabricCache) (p : PortRef) : FabricCache :=
  let idx := hashguid (fc.fabric.port p).guid
  { fc with
    portsCache := p :: fc.portsCache
    portscachetbl := setAt fc.portscachetbl idx (p :: fc.portscachetbl idx) }

/-- What `_load_port` makes of a record. -/
def addPort (fc : FabricCache) (r : PortRecord) : FabricCache :=
  let p := fc.fabric.portCount
  let fabric := { fc.fabric with port := setAt fc.fabric.port p r.port, portCount := p + 1 }
  let portCache :=
    setAt fc.portCache p ⟨r.nodeGuid, r.remoteportFlag, r.remoteportCacheKey, false⟩
  let extPortnum := setAt fc.extPortnum p r.extPortnum.toNat
  { fc with fabric, portCache, extPortnum }.storePortCache p

def loadPort : FabricCache → Bytes → LoadM (FabricCache × Bytes) := loadWith readPort addPort

/-- The loops of `ibnd_load_fabric` over the counts of the header. -/
def loadCount (load : FabricCache → Bytes → LoadM (FabricCache × Bytes)) :
    Nat → FabricCache → Bytes → LoadM (FabricCache × Bytes)
  | 0, fc, fd => .ok (fc, fd)
  | count + 1, fc, fd => do
      let (fc, fd) ← load fc fd
      loadCount load count fc fd

/-- `_find_port`. -/
def findPort (fc : FabricCache) (key : PortCacheKey) : Option PortRef :=
  (fc.portscachetbl (hashguid key.guid)).find? fun p =>
    (fc.fabric.port p).guid = key.guid && (fc.fabric.port p).portnum = key.portnum.toNat

/-- `_find_node`. -/
def findNode (fc : FabricCache) (guid : UInt64) : Option NodeRef :=
  (fc.nodescachetbl (hashguid guid)).find? fun n => (fc.fabric.node n).guid = guid

def fillPort (n : NodeRef) (fc : FabricCache) (key : PortCacheKey) : LoadM FabricCache :=
  match fc.findPort key with
  | none => .error (.invalid fc)
  | some p =>
      if (fc.portCache p).portStoredToFabric then .error (.invalid fc)
      else
        let k := (fc.fabric.port p).portnum
        if (fc.fabric.node n).numports < k then .error (.fault .outOfBounds)
        else do
          let fabric := fc.fabric.modifyNode n fun node =>
            { node with ports := setAt node.ports k (some p) }
          let portCache :=
            setAt fc.portCache p { fc.portCache p with portStoredToFabric := true }
          let (_, fabric) ← orStop (fabric.addToPortguidHash p)
          .ok { fc with fabric, portCache }

/-- A round of `_rebuild_nodes`, up to the ports array. -/
def storeNode (fc : FabricCache) (n : NodeRef) : FabricCache :=
  let fabric := { fc.fabric with nodes := n :: fc.fabric.nodes }
  let fabric := (fabric.addToNodeguidHash n).2.addToTypeList n
  { fc with
    fabric := fabric.modifyNode n fun node => { node with ports := fun _ => none }
    nodeCache := setAt fc.nodeCache n { fc.nodeCache n with nodeStoredToFabric := true } }

def rebuildNode (fc : FabricCache) (n : NodeRef) : LoadM FabricCache :=
  (fc.nodeCache n).portCacheKeys.foldlM (fillPort n) (fc.storeNode n)

def rebuildNodes (fc : FabricCache) : LoadM FabricCache := fc.nodesCache.foldlM rebuildNode fc

def modifyPort (fc : FabricCache) (p : PortRef) (g : Port → Port) : FabricCache :=
  { fc with fabric := fc.fabric.modifyPort p g }

/-- The remote port of a port record. -/
def linkPort (fc : FabricCache) (p : PortRef) : LoadM FabricCache :=
  if (fc.portCache p).remoteportFlag ≠ 0 then
    match fc.findPort (fc.portCache p).remoteportCacheKey with
    | none => .error (.invalid fc)
    | some r => .ok (fc.modifyPort p fun port => { port with remoteport := some r })
  else .ok (fc.modifyPort p fun port => { port with remoteport := none })

/-- A round of `_rebuild_ports`. -/
def rebuildPort (fc : FabricCache) (p : PortRef) : LoadM FabricCache :=
  match fc.findNode (fc.portCache p).nodeGuid with
  | none => .error (.invalid fc)
  | some n => do
      let fc ← (fc.modifyPort p fun port => { port with node := n }).linkPort p
      let fabric ← orStop (fc.fabric.addToPortlidHash p)
      .ok { fc with fabric }

def rebuildPorts (fc : FabricCache) : LoadM FabricCache := fc.portsCache.foldlM rebuildPort fc

/-- The part of `ibnd_load_fabric` that reads the file. -/
def readFile (file : Bytes) : LoadM FabricCache := do
  let (fc, nodeCount, portCount, fd) ← loadHeaderInfo initial file
  let (fc, fd) ← loadCount loadNode nodeCount.toNat fc fd
  let (fc, _) ← loadCount loadPort portCount.toNat fc fd
  .ok fc

/-- The grouping that `group_nodes` starts from. -/
def grouping (fc : FabricCache) : Grouping := { Grouping.blank with extPortnum := fc.extPortnum }

/-- The part of `ibnd_load_fabric` that rebuilds the fabric. -/
def rebuild (fc : FabricCache) : LoadM (Fabric × Grouping) :=
  match fc.findNode fc.fromNodeGuid with
  | none => .error (.invalid fc)
  | some n => do
      let fc := { fc with fabric := { fc.fabric with fromNode := some n } }
      let fc ← fc.rebuildNodes
      let fc ← fc.rebuildPorts
      match fc.fabric.groupNodesFrom fc.grouping with
      | .ok g => .ok (fc.fabric, g)
      | .error (some fault) => .error (.fault fault)
      | .error none => .error (.invalid fc)

end FabricCache

/-- `ibnd_load_fabric` of a file with the given content. -/
def ibndLoadFabric (file : Bytes) : LoadM (Fabric × Grouping) := do
  let fc ← FabricCache.readFile file
  fc.rebuild

end InfinibandDiags
