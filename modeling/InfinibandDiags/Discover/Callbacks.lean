import InfinibandDiags.Fabric.Basic
import InfinibandDiags.Smp.Engine

/-! The callbacks of the fabric scan (ibnetdisc.c). A callback works on the scan state and
lists the SMPs it issues; none of them looks at the return codes it gets for these, and what
it only prints is left out. -/
namespace InfinibandDiags

/-- The functions passed to `issue_smp`. -/
inductive ScanCb
  | recvNodeInfo
  | recvNodeDesc
  | recvSwitchInfo
  | recvPort0Info
  | recvPortInfo
  | recvMlnxExtPortInfo
  deriving DecidableEq, Repr

/-- What `cb_data` points to: a `struct ni_cbdata` (or NULL), or a node. -/
inductive CbData
  | niCbdata (from? : Option (NodeRef × Nat))
  | node (n : NodeRef)
  deriving DecidableEq, Repr

abbrev ScanSmp := Smp ScanCb CbData
abbrev ScanRequest := Request ScanCb CbData

/-- `ibnd_scan_t`. -/
structure Scan where
  selfLid : Nat
  cfg : Config
  initialHops : UInt32
  fabric : Fabric

/-- What a callback leaves behind. -/
structure Outcome where
  scan : Scan
  requests : List ScanRequest
  rc : Int

def ibPortPhysStateLinkup : Nat := 5
def ibLinkSpeedActive10 : Nat := 4
def ibLinkSpeedExtActiveNone : Nat := 0
/-- `be32toh(IB_PORT_CAP_HAS_EXT_SPEEDS)`. -/
def ibPortCapHasExtSpeeds : Nat := 0x4000
def ibndConfigMlxEpi : Nat := 1

section Queries

def queryNodeInfo (portid : PortId) (cbdata : Option (NodeRef × Nat)) : ScanRequest :=
  ⟨portid, ibAttrNodeInfo, 0, .recvNodeInfo, .niCbdata cbdata⟩

def queryNodeDesc (portid : PortId) (n : NodeRef) : ScanRequest :=
  ⟨portid, ibAttrNodeDesc, 0, .recvNodeDesc, .node n⟩

def querySwitchInfo (portid : PortId) (n : NodeRef) : ScanRequest :=
  ⟨portid, ibAttrSwitchInfo, 0, .recvSwitchInfo, .node n⟩

def queryPortInfo (portid : PortId) (n : NodeRef) (portnum : Nat) : ScanRequest :=
  ⟨portid, ibAttrPortInfo, portnum, if portnum ≠ 0 then .recvPortInfo else .recvPort0Info, .node n⟩

def queryMlnxExtPortInfo (portid : PortId) (n : NodeRef) (portnum : Nat) : ScanRequest :=
  ⟨portid, ibAttrMlnxExtPortInfo, portnum, .recvMlnxExtPortInfo, .node n⟩

end Queries

namespace Scan

def mapFabric (scan : Scan) (g : Fabric → Fabric) : Scan := { scan with fabric := g scan.fabric }

def recvSwitchInfo (scan : Scan) (mad : Bytes) (n : NodeRef) : Outcome :=
  let switchinfo := smpData mad
  ⟨scan.mapFabric (·.modifyNode n fun node =>
    { node with switchinfo, smaenhsp0 := switchinfo.field .swEnhancedPort0 }), [], 0⟩

def recvNodeDesc (scan : Scan) (mad : Bytes) (n : NodeRef) : Outcome :=
  ⟨scan.mapFabric (·.modifyNode n fun node => { node with nodedesc := smpData mad }), [], 0⟩

def addPortToDpath (path : DrPath) (nextport : Nat) : Option DrPath :=
  if path.cnt > 64 - 2 then none
  else some { path with
    cnt := path.cnt + 1
    p := path.p.setIfInBounds (path.cnt + 1) (UInt8.ofNat nextport) }

/-- The test both path operations start with. -/
def hopLimitReached (scan : Scan) : Bool :=
  scan.cfg.maxHops ≠ 0 && scan.fabric.maxhopsDiscovered > scan.cfg.maxHops

def retractDpath (scan : Scan) (portid : PortId) : Int × Scan × PortId :=
  if scan.hopLimitReached then (0, scan, portid)
  else
    (1, scan.mapFabric fun f => { f with maxhopsDiscovered := f.maxhopsDiscovered + 1 },
      { portid with drpath := { portid.drpath with
          p := portid.drpath.p.setIfInBounds portid.drpath.cnt 0
          cnt := portid.drpath.cnt - 1 } })

def extendDpath (scan : Scan) (portid : PortId) (nextport : Nat) : Int × Scan × PortId :=
  if scan.hopLimitReached then (0, scan, portid)
  else
    let portid :=
      if portid.lid ≠ 0 then { portid with drpath := { portid.drpath with
        drslid := scan.selfLid % 2 ^ 16, drdlid := 0xffff } }
      else portid
    match addPortToDpath portid.drpath nextport with
    | none => (-1, scan, portid)
    | some drpath =>
        let deeper := UInt32.ofNat drpath.cnt - scan.initialHops > scan.fabric.maxhopsDiscovered
        (1, scan.mapFabric fun f => { f with
          maxhopsDiscovered := if deeper then f.maxhopsDiscovered + 1 else f.maxhopsDiscovered },
          { portid with drpath })

/-- The PortInfo whose capability mask counts: that of port 0 on a switch. -/
def capInfo (scan : Scan) (p : PortRef) : Except Fault SmpData :=
  let f := scan.fabric
  let node := f.node (f.port p).node
  if node.type = ibNodeSwitch then
    match node.ports 0 with
    | none => .error .nullDeref
    | some p0 => .ok (f.port p0).info
  else .ok (f.port p).info

/-- `debug_port` prints; all that matters is that it reads the capability mask. -/
def debugPort (scan : Scan) (p : PortRef) : Except Fault Unit := do
  let _ ← scan.capInfo p
  .ok ()

def isMlnxExtPortInfoSupported (node : Node) : Bool :=
  let devid := node.info.field .nodeDevid % 2 ^ 16
  let vendorid := node.info.field .nodeVendorid
  let between (lo hi : Nat) : Bool := lo ≤ devid && devid ≤ hi
  between 0xc738 0xc73b || devid = 0xc839 || devid = 0xcb20 || devid = 0xcf08 ||
    devid = 0xcf09 || devid = 0xd2f0 ||
    (vendorid = 0x119f && (devid = 0x1b02 || devid = 0x1b50 || devid = 0x1ba0 ||
      between 0x1bd0 0x1bd5 || devid = 0x1bf0)) ||
    between 0x1003 0x101b || devid = 0xa2d2 ||
    (vendorid = 0x119f && (devid = 0x1b33 || devid = 0x1b73 || devid = 0x1b40 || devid = 0x1b41 ||
      devid = 0x1b60 || devid = 0x1b61 || devid = 0x1b83 || devid = 0x1b93 || devid = 0x1b94 ||
      devid = 0x1bb4 || devid = 0x1bb5 || between 0x1bc4 0x1bc6))

/-- Whether a port is worth following: linked up, and on a switch other than its own port 0,
or the port the scan started at. -/
def worthFollowing (scan : Scan) (n : NodeRef) (p : PortRef) (portNum : Nat) : Bool :=
  let node := scan.fabric.node n
  let info := (scan.fabric.port p).info
  portNum ≠ 0 && info.field .portPhysState = ibPortPhysStateLinkup &&
    ((node.type = ibNodeSwitch && portNum ≠ info.field .portLocalPort) ||
      (some n = scan.fabric.fromNode && portNum = scan.fabric.fromPortnum))

/-- The end shared by the three PortInfo callbacks: ask for the NodeInfo of the other end. -/
def exploreLink (scan : Scan) (path : PortId) (n : NodeRef) (p : PortRef) (portNum : Nat) :
    Scan × List ScanRequest :=
  if scan.worthFollowing n p portNum then
    let type := (scan.fabric.node n).type
    let (rc, scan, path) :=
      if type ≠ ibNodeSwitch ∧ some n = scan.fabric.fromNode ∧ path.drpath.cnt > 1 then
        scan.retractDpath path
      else if path.lid = 0 ∨ type = ibNodeSwitch then scan.extendDpath path portNum
      else (0, scan, path)
    (scan, if rc > 0 then [queryNodeInfo path (some (n, portNum))] else [])
  else (scan, [])

/-- `(uint8_t) mad_get_field(mad, 0, IB_MAD_ATTRMOD_F)`. -/
def attrModPort (mad : Bytes) : Nat := madGetField mad 0 .madAttrmod % 256

def mlnxExtPortInfoErr (scan : Scan) (smp : ScanSmp) (mad : Bytes) (n : NodeRef) :
    Except Fault Outcome := do
  let portNum := attrModPort mad
  match ← scan.fabric.slot n portNum with
  | none => .ok ⟨scan, [], -1⟩
  | some p =>
      scan.debugPort p
      let (scan, requests) := scan.exploreLink smp.path n p portNum
      .ok ⟨scan, requests, 0⟩

def recvMlnxExtPortInfo (scan : Scan) (smp : ScanSmp) (mad : Bytes) (n : NodeRef) :
    Except Fault Outcome := do
  let portNum := attrModPort mad
  match ← scan.fabric.slot n portNum with
  | none => .ok ⟨scan, [], -1⟩
  | some p =>
      let scan := scan.mapFabric (·.modifyPort p fun port => { port with extInfo := smpData mad })
      scan.debugPort p
      let (scan, requests) := scan.exploreLink smp.path n p portNum
      .ok ⟨scan, requests, 0⟩

/-- `port = node->ports[k]`, allocated when it was NULL. -/
def ensurePort (f : Fabric) (n : NodeRef) (k : Nat) (shell : Port) :
    Except Fault (PortRef × Fabric) := do
  match ← f.slot n k with
  | some p => .ok (p, f)
  | none => .ok (f.portCount, f.newPort n k shell)

/-- The port record filled in from a PortInfo, with the LID of a switch taken from port 0. -/
def storePortInfo (f : Fabric) (n : NodeRef) (p : PortRef) (portNum : Nat) (info : SmpData) :
    Fabric :=
  let baseLid := UInt16.ofNat (info.field .portLid)
  let lmc := UInt8.ofNat (info.field .portLmc)
  let f := f.modifyPort p fun port => { port with info, node := n, portnum := portNum, baseLid, lmc }
  if portNum = 0 then f.modifyNode n fun node => { node with smalid := baseLid, smalmc := lmc }
  else if (f.node n).type = ibNodeSwitch then
    f.modifyPort p fun port => { port with baseLid := (f.node n).smalid, lmc := (f.node n).smalmc }
  else f

/-- The condition for asking a Mellanox device for its extended PortInfo: LinkUp at QDR. -/
def wantsExtPortInfo (scan : Scan) (p : PortRef) : Except Fault Bool := do
  let f := scan.fabric
  if scan.cfg.flags &&& ibndConfigMlxEpi ≠ 0 ∧
      isMlnxExtPortInfoSupported (f.node (f.port p).node) then
    let info := (f.port p).info
    let capInfo ← scan.capInfo p
    let espeed :=
      if capInfo.field .portCapmask &&& ibPortCapHasExtSpeeds ≠ 0 then
        info.field .portLinkSpeedExtActive
      else 0
    .ok (info.field .portPhysState = ibPortPhysStateLinkup &&
      info.field .portLinkSpeedActive = ibLinkSpeedActive10 && espeed = ibLinkSpeedExtActiveNone)
  else .ok false

def recvPortInfo (scan : Scan) (smp : ScanSmp) (mad : Bytes) (n : NodeRef) :
    Except Fault Outcome := do
  let portNum := attrModPort mad
  let (p, f) ← ensurePort scan.fabric n portNum
    { (default : Port) with guid := (scan.fabric.node n).info.field64 .nodePortGuid }
  let f := storePortInfo f n p portNum (smpData mad)
  let (_, f) ← f.addToPortguidHash p
  let f ← f.addToPortlidHash p
  let scan := { scan with fabric := f }
  if ← scan.wantsExtPortInfo p then
    .ok ⟨scan, [queryMlnxExtPortInfo smp.path n portNum], 0⟩
  else
    scan.debugPort p
    let (scan, requests) := scan.exploreLink smp.path n p portNum
    .ok ⟨scan, requests, 0⟩

def recvPort0Info (scan : Scan) (smp : ScanSmp) (mad : Bytes) (n : NodeRef) :
    Except Fault Outcome := do
  let out ← scan.recvPortInfo smp mad n
  let physical := (List.range (out.scan.fabric.node n).numports).map fun i =>
    queryPortInfo smp.path n (i + 1)
  .ok { out with requests := out.requests ++ physical }

def createNode (f : Fabric) (path : PortId) (nodeInfo : SmpData) : NodeRef × Fabric :=
  let n := f.nodeCount
  let node : Node := { (default : Node) with
    guid := nodeInfo.field64 .nodeGuid
    type := nodeInfo.field .nodeType
    numports := nodeInfo.field .nodeNports
    pathPortid := path
    info := nodeInfo }
  let f := { f with node := setAt f.node n node, nodeCount := n + 1 }
  let f := (f.addToNodeguidHash n).2
  let f := { f with nodes := n :: f.nodes }
  (n, f.addToTypeList n)

/-- `ibnd_find_node_guid`, and `create_node` when there is none yet. -/
def findOrCreateNode (f : Fabric) (path : PortId) (nodeInfo : SmpData) :
    NodeRef × Bool × Fabric :=
  match f.ibndFindNodeGuid (nodeInfo.field64 .nodeGuid) with
  | some n => (n, false, f)
  | none => ((createNode f path nodeInfo).1, true, (createNode f path nodeInfo).2)

/-- The SMPs `recv_node_info` issues. `query_switch_info` resets `smaenhsp0` first. -/
def nodeQueries (path : PortId) (n : NodeRef) (isNew : Bool) (type portNum : Nat) :
    List ScanRequest :=
  (if isNew then queryNodeDesc path n ::
      (if type = ibNodeSwitch then [querySwitchInfo path n, queryPortInfo path n 0] else [])
    else []) ++
  (if type ≠ ibNodeSwitch then [queryPortInfo path n portNum] else [])

/-- The end of `recv_node_info`, once the port is linked or is where the scan starts. -/
def finishNodeInfo (scan : Scan) (path : PortId) (n : NodeRef) (isNew : Bool) (portNum : Nat)
    (f : Fabric) : Outcome :=
  let type := (f.node n).type
  let f := if isNew ∧ type = ibNodeSwitch then
      f.modifyNode n fun node => { node with smaenhsp0 := 0 }
    else f
  ⟨{ scan with fabric := f }, nodeQueries path n isNew type portNum, 0⟩

def recvNodeInfo (scan : Scan) (smp : ScanSmp) (mad : Bytes) (cbdata : Option (NodeRef × Nat)) :
    Except Fault Outcome := do
  let nodeInfo := smpData mad
  let portNum := nodeInfo.field .nodeLocalPort
  let (n, isNew, f) := findOrCreateNode scan.fabric smp.path nodeInfo
  let (p, f) ← ensurePort f n portNum { (default : Port) with node := n, portnum := portNum }
  let f := f.modifyPort p fun port => { port with guid := nodeInfo.field64 .nodePortGuid }
  match cbdata with
  | none =>
      let f := { f with fromNode := some n, fromPortnum := portNum }
      .ok (scan.finishNodeInfo smp.path n isNew portNum f)
  | some (remNode, remPortNum) =>
      match ← f.slot remNode remPortNum with
      | none => .ok ⟨{ scan with fabric := f }, [], -1⟩
      | some remPort =>
          .ok (scan.finishNodeInfo smp.path n isNew portNum (f.linkPorts p remPort))

/-- Runs a callback: its SMPs are issued in order. -/
def run : Except Fault Outcome → Prog ScanCb CbData Scan
  | .error fault => .fault fault
  | .ok out => .issueAll out.rc out.scan out.requests

/-- The callback behind a function pointer; one that is handed the wrong kind of data would
read memory as what it is not. -/
def callback (scan : Scan) (cb : ScanCb) (smp : ScanSmp) (mad : Bytes) :
    CbData → Except Fault Outcome
  | .niCbdata cbdata =>
      match cb with
      | .recvNodeInfo => scan.recvNodeInfo smp mad cbdata
      | _ => .error .badCast
  | .node n =>
      match cb with
      | .recvNodeInfo => .error .badCast
      | .recvNodeDesc => .ok (scan.recvNodeDesc mad n)
      | .recvSwitchInfo => .ok (scan.recvSwitchInfo mad n)
      | .recvPort0Info => scan.recvPort0Info smp mad n
      | .recvPortInfo => scan.recvPortInfo smp mad n
      | .recvMlnxExtPortInfo => scan.recvMlnxExtPortInfo smp mad n

def errorCallback (scan : Scan) (smp : ScanSmp) (mad : Bytes) : CbData → Except Fault Outcome
  | .niCbdata _ => .error .badCast
  | .node n => scan.mlnxExtPortInfoErr smp mad n

end Scan

/-- The callbacks of a scan, as the engine calls them. -/
def scanHandlers : Handlers ScanCb CbData Scan where
  call cb smp mad data scan := Scan.run (scan.callback cb smp mad data)
  mlnxExtPortInfoErr smp mad data scan := Scan.run (scan.errorCallback smp mad data)

end InfinibandDiags
