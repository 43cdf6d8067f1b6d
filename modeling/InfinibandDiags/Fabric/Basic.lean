import InfinibandDiags.Complib.Qmap
import InfinibandDiags.Fault
import InfinibandDiags.Library.Chain
import InfinibandDiags.Library.Pairing
import InfinibandDiags.Mad.Packet

/-! The fabric that a scan builds: nodes and ports are records at addresses, linked by
pointers, and the two GUID tables and the LID map point into them (ibnetdisc.h). -/
namespace InfinibandDiags

/-- An array of `IB_SMP_DATA_SIZE` bytes. -/
structure SmpData where
  bytes : Bytes
  size : bytes.length = ibSmpDataSize
  deriving DecidableEq

def SmpData.zero : SmpData := ⟨List.replicate ibSmpDataSize 0, by simp⟩

instance : Inhabited SmpData := ⟨.zero⟩

/-- The attribute a MAD carries, at `mad + IB_SMP_DATA_OFFS`. -/
def smpData (mad : Bytes) : SmpData :=
  ⟨(List.range ibSmpDataSize).map fun i => byteAt mad (ibSmpDataOffs + i), by simp⟩

/-- A buffer with some bytes in front. -/
def SmpData.ofBytes (bytes : Bytes) : SmpData :=
  ⟨(bytes ++ List.replicate ibSmpDataSize 0).take ibSmpDataSize, by simp⟩

def SmpData.field (d : SmpData) (f : MadField) : Nat := madGetField d.bytes 0 f

def SmpData.field64 (d : SmpData) (f : MadField) : UInt64 := madGetField64 d.bytes 0 f

/-- Addresses of `ibnd_node_t` and of `ibnd_port_t`. -/
abbrev NodeRef := Nat
abbrev PortRef := Nat

def ibNodeCa : Nat := 1
def ibNodeSwitch : Nat := 2
def ibNodeRouter : Nat := 3

/-- `ibnd_port_t`. The tail pointer of the hash chain is `htnext`. -/
structure Port where
  guid : UInt64
  portnum : Nat
  node : NodeRef
  remoteport : Option PortRef
  baseLid : UInt16
  lmc : UInt8
  info : SmpData
  extInfo : SmpData
  htnext : Option PortRef
  deriving Inhabited

/-- `ibnd_node_t`. The array `ports` has the `numports + 1` slots it was allocated with. -/
structure Node where
  pathPortid : PortId
  smalid : UInt16
  smalmc : UInt8
  smaenhsp0 : Nat
  switchinfo : SmpData
  guid : UInt64
  type : Nat
  numports : Nat
  info : SmpData
  nodedesc : SmpData
  ports : Nat → Option PortRef

instance : Inhabited Node := ⟨⟨⟨0, .empty⟩, 0, 0, 0, .zero, 0, 0, 0, .zero, .zero, fun _ => none⟩⟩

/-- `ibnd_fabric_t` with the LID map of `f_internal_t`, over its nodes and ports. The lists
run from their head pointers; `hashed` is history only: what was ever passed to
`add_to_portguid_hash`. -/
structure Fabric where
  node : NodeRef → Node
  nodeCount : Nat
  port : PortRef → Port
  portCount : Nat
  nodes : List NodeRef
  switches : List NodeRef
  chAdapters : List NodeRef
  routers : List NodeRef
  nodestbl : Nat → List NodeRef
  portstbl : Nat → Option PortRef
  lid2guid : Qmap PortRef
  fromNode : Option NodeRef
  fromPortnum : Nat
  maxhopsDiscovered : UInt32
  hashed : List PortRef

/-- `allocate_fabric_internal`. -/
def allocateFabricInternal : Fabric where
  node := fun _ => default
  nodeCount := 0
  port := fun _ => default
  portCount := 0
  nodes := []
  switches := []
  chAdapters := []
  routers := []
  nodestbl := fun _ => []
  portstbl := fun _ => none
  lid2guid := ∅
  fromNode := none
  fromPortnum := 0
  maxhopsDiscovered := 0
  hashed := []

/-- A store to one cell. -/
def setAt {β : Type} (f : Nat → β) (a : Nat) (b : β) : Nat → β := fun x => if x = a then b else f x

@[simp] theorem setAt_eq_update {β : Type} (f : Nat → β) (a : Nat) (b : β) :
    setAt f a b = Function.update f a b := by
  funext x
  simp [setAt, Function.update_apply]

def htsz : Nat := 137

/-- `HASHGUID(guid) % HTSZ`. -/
def hashguid (guid : UInt64) : Nat :=
  let mixed := (guid.toUInt32 * (101 : UInt32)) ^^^ ((guid >>> 32).toUInt32 * (103 : UInt32))
  mixed.toNat % htsz

namespace Fabric

def modifyNode (f : Fabric) (n : NodeRef) (g : Node → Node) : Fabric :=
  { f with node := setAt f.node n (g (f.node n)) }

def modifyPort (f : Fabric) (p : PortRef) (g : Port → Port) : Fabric :=
  { f with port := setAt f.port p (g (f.port p)) }

/-- `node->ports[k]`, an access outside the array being a fault. -/
def slot (f : Fabric) (n : NodeRef) (k : Nat) : Except Fault (Option PortRef) :=
  if k ≤ (f.node n).numports then .ok ((f.node n).ports k) else .error .outOfBounds

/-- `node->ports[k] = calloc(..)`, filled in. -/
def newPort (f : Fabric) (n : NodeRef) (k : Nat) (port : Port) : Fabric :=
  { f with
    port := setAt f.port f.portCount port
    portCount := f.portCount + 1
    node := setAt f.node n
      { f.node n with ports := setAt (f.node n).ports k (some f.portCount) } }

def remoteport (f : Fabric) (p : PortRef) : Option PortRef := (f.port p).remoteport

def htnext (f : Fabric) (p : PortRef) : Option PortRef := (f.port p).htnext

/-- The bucket of a port's current GUID. -/
def bucket (f : Fabric) (p : PortRef) : Nat := hashguid (f.port p).guid

def ibndFindNodeGuid (f : Fabric) (guid : UInt64) : Option NodeRef :=
  (f.nodestbl (hashguid guid)).find? fun n => (f.node n).guid = guid

def addToNodeguidHash (f : Fabric) (n : NodeRef) : Int × Fabric :=
  let idx := hashguid (f.node n).guid
  if n ∈ f.nodestbl idx then (1, f)
  else (0, { f with nodestbl := setAt f.nodestbl idx (n :: f.nodestbl idx) })

/-- The membership test of `add_to_portguid_hash`. Over `portCount` cells, a chain that is
followed for longer never ends. -/
def onChain (f : Fabric) (p : PortRef) : Nat → Option PortRef → Except Fault Bool
  | _, none => .ok false
  | 0, some _ => .error .endlessLoop
  | fuel + 1, some r => if r = p then .ok true else onChain f p fuel (f.htnext r)

def addToPortguidHash (f : Fabric) (p : PortRef) : Except Fault (Int × Fabric) := do
  let idx := f.bucket p
  let dup ← f.onChain p f.portCount (f.portstbl idx)
  let f := { f with hashed := p :: f.hashed }
  if dup then .ok (1, f)
  else
    let f := f.modifyPort p fun port => { port with htnext := f.portstbl idx }
    .ok (0, { f with portstbl := setAt f.portstbl idx (some p) })

/-- `ibnd_find_port_guid`. -/
def findOnChain (f : Fabric) (guid : UInt64) : Nat → Option PortRef → Except Fault (Option PortRef)
  | _, none => .ok none
  | 0, some _ => .error .endlessLoop
  | fuel + 1, some r =>
      if (f.port r).guid = guid then .ok (some r) else findOnChain f guid fuel (f.htnext r)

def ibndFindPortGuid (f : Fabric) (guid : UInt64) : Except Fault (Option PortRef) :=
  f.findOnChain guid f.portCount (f.portstbl (hashguid guid))

/-- One bucket of `ibnd_iter_ports`, after the ports that its function has been passed. -/
def iterBucket (f : Fabric) (seen : List PortRef) (idx : Nat) : Except Fault (List PortRef) :=
  match Chain.walk f.htnext f.portCount (f.portstbl idx) with
  | none => .error .endlessLoop
  | some chain => .ok (seen ++ chain)

/-- The ports that `ibnd_iter_ports` passes to its function, bucket by bucket. -/
def ibndIterPorts (f : Fabric) : Except Fault (List PortRef) :=
  (List.range htsz).foldlM f.iterBucket []

/-- `for (lid = base_lid; lid <= base_lid + lid_mask; lid++)` with a 16-bit `lid`: there are
as many rounds left as values up to 0xffff, and past that the counter starts over. -/
def lidLoop (p : PortRef) (limit : Nat) : Nat → Nat → Qmap PortRef → Except Fault (Qmap PortRef)
  | 0, _, _ => .error .endlessLoop
  | left + 1, lid, m =>
      if lid ≤ limit then lidLoop p limit left (lid + 1) (clQmapInsert m (UInt32.ofNat lid) p)
      else .ok m

def addToPortlidHash (f : Fabric) (p : PortRef) : Except Fault Fabric :=
  let baseLid := (f.port p).baseLid.toNat
  let lmc := (f.port p).lmc.toNat
  if 31 ≤ lmc then .error .badShift
  else
    let lidMask := (2 ^ lmc - 1) % 2 ^ 16
    if 0 < baseLid ∧ baseLid ≤ 0xbfff then do
      let m ← lidLoop p (baseLid + lidMask) (2 ^ 16 - baseLid) baseLid f.lid2guid
      .ok { f with lid2guid := m }
    else .ok f

def addToTypeList (f : Fabric) (n : NodeRef) : Fabric :=
  if (f.node n).type = ibNodeCa then { f with chAdapters := n :: f.chAdapters }
  else if (f.node n).type = ibNodeSwitch then { f with switches := n :: f.switches }
  else if (f.node n).type = ibNodeRouter then { f with routers := n :: f.routers }
  else f

/-- `if (port->remoteport) port->remoteport->remoteport = NULL;`. -/
def release (f : Fabric) (p : PortRef) : Fabric :=
  match f.remoteport p with
  | some r => f.modifyPort r fun port => { port with remoteport := none }
  | none => f

/-- `link_ports`: both ports let go of their old peers one after the other. -/
def linkPorts (f : Fabric) (p remote : PortRef) : Fabric :=
  let f := (f.release p).release remote
  let f := f.modifyPort p fun port => { port with remoteport := some remote }
  f.modifyPort remote fun port => { port with remoteport := some p }

end Fabric
end InfinibandDiags
