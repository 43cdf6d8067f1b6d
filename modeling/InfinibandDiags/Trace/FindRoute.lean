import InfinibandDiags.Library.Rounds
import InfinibandDiags.Trace.Subnet

/-! The unicast trace of ibtracert.c: `find_route` and what it calls. -/
namespace InfinibandDiags
namespace Ibtracert
open Rounds (Round)

def maxHops : Nat := 63

structure Node where
  type : Nat := 0
  numports : Nat := 0
  nodeguid : UInt64 := 0
  nodedesc : Bytes := SmpData.zero.bytes
  deriving DecidableEq, Inhabited

structure Port where
  portguid : UInt64 := 0
  portnum : Nat := 0
  lid : Nat := 0
  lmc : Nat := 0
  state : Nat := 0
  physstate : Nat := 0
  deriving DecidableEq, Inhabited

structure Switch where
  linearcap : Nat
  linearFDBtop : Nat
  enhsp0 : Nat
  deriving DecidableEq

inductive Prompt
  | from
  | to
  | circle
  deriving DecidableEq, Repr

/-- The lines of `dump_endnode` and `dump_route`, in the simple and in the long format. Names stand
for the node descriptions that they are looked up with. -/
inductive Line
  | endGuid (prompt : Prompt) (nodeguid : UInt64) (portnum : Nat)
  | endNode (prompt : Prompt) (type : Nat) (nodeguid : UInt64) (portnum lid lastLid : Nat)
      (nodename : Bytes)
  | hopGuid (outport : Int) (portguid : UInt64) (portnum : Nat)
  | hopNode (outport : Int) (type : Nat) (portguid : UInt64) (portnum lid lastLid : Nat)
      (nodename : Bytes)
  deriving DecidableEq

/-- The warnings after which `find_route` returns -1, with the values they print. -/
inductive RouteError
  | cantReachToFrom
  | cantReachPort (portid : PortId)
  | cantContinue (portguid : UInt64) (lid : Nat)
  | badPort (nodedesc : Bytes) (portnum state : Nat)
  | badOutPort (nodedesc : Bytes) (outport : Int) (state : Nat)
  | badTbl (nodedesc : Bytes) (lid : Nat) (outport : Int) (top : Nat)
  | badPath
  | noRoute
  deriving DecidableEq

/-- The globals of a run, and what lies on the stack where `find_route` keeps its `sw`. -/
structure Tracer where
  query : SmpQuery
  force : Bool
  verbose : Bool
  stack : Switch

variable (T : Tracer)

def isPortInactive (node : Node) (port : Port) (sw : Switch) : Bool :=
  port.state ≠ 4 &&
    (node.type ≠ ibNodeSwitch || node.type = ibNodeSwitch && sw.enhsp0 ≠ 0)

/-- `isprint` of the C locale. -/
def isPrint (c : UInt8) : Bool := 0x20 ≤ c && c ≤ 0x7e

/-- Blanks for what cannot be printed, up to the end of the string. -/
def cleanDesc : Bytes → Bytes
  | [] => []
  | c :: cs => if c = 0 then c :: cs else (if isPrint c then c else 0x20) :: cleanDesc cs

/-- `get_node`: whether all queries were answered, and the records as it leaves them. -/
def getNode (node : Node) (port : Port) (portid : PortId) : Bool × Node × Port :=
  match T.query portid ibAttrNodeInfo 0 with
  | none => (false, node, port)
  | some ni =>
      match T.query portid ibAttrNodeDesc 0 with
      | none => (false, { node with nodedesc := SmpData.zero.bytes }, port)
      | some nd =>
          let nodedesc := cleanDesc nd.bytes
          match T.query portid ibAttrPortInfo 0 with
          | none => (false, { node with nodedesc }, port)
          | some pi =>
              (true,
                { node with
                  nodedesc
                  nodeguid := ni.field64 .nodeGuid
                  type := ni.field .nodeType
                  numports := ni.field .nodeNports },
                { port with
                  portguid := ni.field64 .nodePortGuid
                  portnum := ni.field .nodeLocalPort
                  lid := pi.field .portLid
                  lmc := pi.field .portLmc
                  state := pi.field .portState })

/-- A table entry is a signed byte. -/
def int8 (b : UInt8) : Int := if b.toNat < 128 then b.toNat else (b.toNat : Int) - 256

def switchLookup (sw : Switch) (portid : PortId) (lid : Nat) : Int × Switch :=
  match T.query portid ibAttrSwitchInfo 0 with
  | none => (-1, sw)
  | some si =>
      let sw := ⟨si.field .swLinearFdbCap, si.field .swLinearFdbTop, si.field .swEnhancedPort0⟩
      if lid ≥ sw.linearcap ∧ lid > sw.linearFDBtop then (-1, sw)
      else
        match T.query portid ibAttrLinearforwtbl (lid / 64) with
        | none => (-1, sw)
        | some fdb => (int8 (byteAt fdb.bytes (lid % 64)), sw)

def sameport (a b : Port) : Bool := a.portguid = b.portguid || T.force && a.lid = b.lid

def extendDpath (path : DrPath) (nextport : Nat) : Option DrPath :=
  if path.cnt + 2 ≥ 64 then none
  else some { path with
    cnt := path.cnt + 1
    p := path.p.setIfInBounds (path.cnt + 1) (UInt8.ofNat nextport) }

def dumpEndnode (dump : Nat) (prompt : Prompt) (node : Node) (port : Port) : List Line :=
  let portnum := if node.type = ibNodeSwitch then 0 else port.portnum
  if dump = 0 then []
  else if dump = 1 then [.endGuid prompt node.nodeguid portnum]
  else [.endNode prompt node.type node.nodeguid portnum port.lid (port.lid + 2 ^ port.lmc - 1)
    node.nodedesc]

def dumpRoute (dump : Nat) (node : Node) (outport : Int) (port : Port) : List Line :=
  if dump = 0 ∧ ¬ T.verbose then []
  else if dump = 1 then [.hopGuid outport port.portguid port.portnum]
  else [.hopNode outport node.type port.portguid port.portnum port.lid
    (port.lid + 2 ^ port.lmc - 1) node.nodedesc]

/-- The locals of `find_route`. `node` and `port` point at the records of the source until
`atNext`, and then at those of the next hop, which every round overwrites. -/
structure RouteState where
  portid : PortId
  fromnode : Node
  fromport : Port
  toport : Port
  nextnode : Node := {}
  nextport : Port := {}
  atNext : Bool := false
  sw : Switch
  portnum : Nat
  outport : Int := 255
  nextSwOutport : Int := 255
  printed : List Line := []

namespace RouteState

def node (st : RouteState) : Node := if st.atNext then st.nextnode else st.fromnode

def port (st : RouteState) : Port := if st.atNext then st.nextport else st.fromport

/-- `goto badtbl`. -/
def badTbl (st : RouteState) (lid : Nat) : RouteError :=
  .badTbl st.node.nodedesc lid st.outport st.sw.linearFDBtop

end RouteState

/-- Where a round stops: the loop is left with `break`, or the function returns -1. -/
abbrev RouteEnd := RouteState × Option RouteError

def fail (st : RouteState) (e : RouteError) : Round RouteState RouteEnd := .leave (st, some e)

/-- `get_node(&nextnode, &nextport, from)`. -/
def getNext (st : RouteState) : Bool × RouteState :=
  let r := getNode T st.nextnode st.nextport st.portid
  (r.1, { st with nextnode := r.2.1, nextport := r.2.2 })

/-- `next_sw_outport = switch_lookup(&sw, from, to->lid)`, done at switches only, and whether the
trace can go on. -/
def lookUp (lid : Nat) (node : Node) (st : RouteState) : Bool × RouteState :=
  if node.type = ibNodeSwitch then
    let look := switchLookup T st.sw st.portid lid
    let st := { st with nextSwOutport := look.1, sw := look.2 }
    if look.1 < 0 ∨ look.1 > node.numports then (false, { st with outport := look.1 })
    else (true, st)
  else (true, st)

/-- The rest of a round once the next port is known. -/
def enterNext (lid dump : Nat) (st : RouteState) : Round RouteState RouteEnd :=
  match lookUp T lid st.nextnode st with
  | (false, st) => fail st (st.badTbl lid)
  | (true, st) =>
      if isPortInactive st.nextnode st.nextport st.sw then
        fail st (.badOutPort st.node.nodedesc st.outport st.nextport.state)
      else
        .again { st with
          atNext := true
          portnum := st.nextport.portnum
          printed := st.printed ++ dumpRoute T dump st.nextnode st.outport st.nextport }

/-- A hop from a switch, to the port that the last lookup gave. -/
def fromSwitch (lid dump : Nat) (st : RouteState) : Round RouteState RouteEnd :=
  let st := { st with outport := st.nextSwOutport }
  match extendDpath st.portid.drpath st.outport.toNat with
  | none => fail st .badPath
  | some drpath =>
      let st := { st with portid := { st.portid with drpath } }
      match getNext T st with
      | (false, st) => fail st (.cantReachPort st.portid)
      | (true, st) =>
          if st.outport = 0 then
            if !sameport T st.nextport st.toport then fail st (st.badTbl lid)
            else .leave (st, none)
          else enterNext T lid dump st

/-- The path from the adapter that the trace starts at: one hop back, or through its port. -/
def leaveEnd (drpath : DrPath) (portnum : Nat) : Option DrPath :=
  if drpath.cnt > 0 then some { drpath with cnt := drpath.cnt - 1 }
  else if portnum ≠ 0 then extendDpath drpath portnum else some drpath

/-- After a hop back, the port number is the one seen from the adapter's side. -/
def fixPortnum (before after : DrPath) (port : Port) : Port :=
  if before.cnt = 0 then port
  else { port with portnum := ((after.p[after.cnt + 1]?).getD 0).toNat }

/-- A hop from a channel adapter or a router. -/
def fromEnd (lid dump : Nat) (st : RouteState) : Round RouteState RouteEnd :=
  let st := { st with outport := st.portnum }
  if !sameport T st.port st.fromport then
    fail st (.cantContinue st.port.portguid st.port.lid)
  else
    let before := st.portid.drpath
    match leaveEnd before st.portnum with
    | none => fail st .badPath
    | some drpath =>
        let st := { st with portid := { st.portid with drpath } }
        match getNext T st with
        | (false, st) => fail st (.cantReachPort st.portid)
        | (true, st) =>
            enterNext T lid dump { st with nextport := fixPortnum before drpath st.nextport }

/-- One round of the loop. -/
def hop (lid dump : Nat) (st : RouteState) : Round RouteState RouteEnd :=
  if isPortInactive st.node st.port st.sw then
    fail st (.badPort st.node.nodedesc st.portnum st.port.state)
  else if sameport T st.port st.toport then .leave (st, none)
  else if st.node.type = ibNodeSwitch then fromSwitch T lid dump st
  else if st.node.type = ibNodeCa ∨ st.node.type = ibNodeRouter then fromEnd T lid dump st
  else enterNext T lid dump st

/-- The records of both ends, or `none` where the function gives up. With `force` it goes on with
what it has. -/
def ends (fromId toId : PortId) : Option (Node × Port × Port) :=
  let src := getNode T {} {} fromId
  if src.1 then
    let dest := getNode T {} {} toId
    if dest.1 then some (src.2.1, src.2.2, dest.2.2)
    else if T.force then
      some (src.2.1, src.2.2, if toId.lid > 0 then { dest.2.2 with lid := toId.lid } else dest.2.2)
    else none
  else if T.force then some (src.2.1, src.2.2, if toId.lid > 0 then { lid := toId.lid } else {})
  else none

/-- What `find_route` leaves behind: the lines it printed, `from`, and its error if it returned
-1. -/
structure RouteResult where
  printed : List Line
  portid : PortId
  error : Option RouteError

/-- At the source, with its line printed. -/
def RouteState.start (fromId : PortId) (dump : Nat) (fromnode : Node) (fromport toport : Port) :
    RouteState :=
  { portid := fromId, fromnode, fromport, toport, sw := T.stack, portnum := fromport.portnum,
    printed := dumpEndnode dump .from fromnode fromport }

def findRoute (fromId toId : PortId) (dump : Nat) : RouteResult :=
  match ends T fromId toId with
  | none => ⟨[], fromId, some .cantReachToFrom⟩
  | some (fromnode, fromport, toport) =>
      match lookUp T toId.lid fromnode (.start T fromId dump fromnode fromport toport) with
      | (false, st) => ⟨st.printed, st.portid, some (st.badTbl toId.lid)⟩
      | (true, st) =>
        match Rounds.run (hop T toId.lid dump) maxHops st with
        | .error st => ⟨st.printed, st.portid, some .noRoute⟩
        | .ok (_, st, some e) => ⟨st.printed, st.portid, some e⟩
        | .ok (maxhops, st, none) =>
            if maxhops = 0 then ⟨st.printed, st.portid, some .noRoute⟩
            else ⟨st.printed ++ dumpEndnode dump .to st.node st.port, st.portid, none⟩

end Ibtracert
end InfinibandDiags
