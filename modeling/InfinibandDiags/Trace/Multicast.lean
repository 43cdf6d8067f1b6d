import InfinibandDiags.Fault
import InfinibandDiags.Trace.FindRoute

/-! The multicast trace of ibtracert.c: the breadth-first search of `find_mcpath`, with the table
and the lists that it keeps in static storage, and the run over the pairs of a ports file. -/
namespace InfinibandDiags
namespace Ibtracert

/-- A port id with the count of its path as the `int` it is: restoring a path can take it below
zero. -/
structure McPath where
  portid : PortId
  cnt : Int
  deriving DecidableEq

namespace McPath

def ofPortId (portid : PortId) : McPath := ⟨portid, portid.drpath.cnt⟩

/-- An SMP carries the low byte of the count. -/
def toPortId (path : McPath) : PortId :=
  { path.portid with drpath := { path.portid.drpath with cnt := (path.cnt % 256).toNat } }

def back (path : McPath) : McPath := { path with cnt := path.cnt - 1 }

/-- `extend_dpath`, whose bound is an unsigned comparison. -/
def extend (path : McPath) (nextport : Nat) : Except Fault (Option McPath) :=
  if path.cnt + 2 < 0 ∨ path.cnt + 2 ≥ 64 then .ok none
  else if path.cnt + 1 < 0 then .error .outOfBounds
  else
    let drpath := { path.portid.drpath with
      p := path.portid.drpath.p.setIfInBounds (path.cnt + 1).toNat (UInt8.ofNat nextport) }
    .ok (some { path with portid := { path.portid with drpath }, cnt := path.cnt + 1 })

/-- `path->drpath.p[path->drpath.cnt]`. -/
def last (path : McPath) : Except Fault Nat :=
  if path.cnt < 0 then .error .outOfBounds
  else
    match path.portid.drpath.p[path.cnt.toNat]? with
    | none => .error .outOfBounds
    | some k => .ok k.toNat

end McPath

/-- A port that is linked to its node, and the port it was reached through. -/
structure McPort extends Port where
  remoteport : Option Port := none
  deriving DecidableEq

structure McNode extends Node where
  ports : Option McPort := none
  path : McPath := ⟨⟨0, .empty⟩, 0⟩
  dist : Int := 0
  upport : Nat := 0
  upnode : Option NodeRef := none
  deriving DecidableEq

/-- The static storage of the search: `nodestbl` of `insert_node`, `nodesdist`, and the nodes that
they point at. -/
structure Statics where
  nodes : List McNode
  nodestbl : Nat → List NodeRef
  nodesdist : Nat → List NodeRef

namespace Statics

def initial : Statics := ⟨[], fun _ => [], fun _ => []⟩

def hasGuid (mc : Statics) (guid : UInt64) (r : NodeRef) : Bool :=
  (mc.nodes[r]?).any fun node => node.nodeguid = guid

/-- The search of `insert_node`. -/
def isKnown (mc : Statics) (guid : UInt64) : Bool :=
  (mc.nodestbl (hashguid guid)).any (mc.hasGuid guid)

def modifyNode (mc : Statics) (r : NodeRef) (g : McNode → McNode) : Statics :=
  { mc with nodes := mc.nodes.modify r g }

end Statics

/-- The three results of `new_node`. -/
inductive Visit
  | target (node : McNode)
  | known
  | inserted

def newNode (target : UInt64) (mc : Statics) (node : McNode) (port : McPort) (path : McPath)
    (dist : Nat) : Except Fault (Visit × Statics) :=
  if port.portguid = target then .ok (.target { node with dist := -1, ports := some port }, mc)
  else if mc.isKnown node.nodeguid then .ok (.known, mc)
  else if dist ≥ maxHops then .error .outOfBounds
  else
    let r := mc.nodes.length
    let idx := hashguid node.nodeguid
    .ok (.inserted,
      { nodes := mc.nodes ++ [{ node with ports := some port, dist, path }]
        nodestbl := setAt mc.nodestbl idx (r :: mc.nodestbl idx)
        nodesdist := setAt mc.nodesdist dist (r :: mc.nodesdist dist) })

variable (T : Tracer)

def getPort (portnum : Nat) (portid : PortId) : Option Port :=
  (T.query portid ibAttrPortInfo portnum).map fun pi =>
    { portnum
      lid := pi.field .portLid
      lmc := pi.field .portLmc
      state := pi.field .portState
      physstate := pi.field .portPhysState }

/-- `ntohs(msets[k])`. -/
def mcMask (mdb : SmpData) (k : Nat) : Nat :=
  (byteAt mdb.bytes (2 * k)).toNat * 256 + (byteAt mdb.bytes (2 * k + 1)).toNat

/-- One block of the table for each 16 ports. -/
def mcSets (portid : PortId) (mlid : Int) : List Nat → (Nat → Bool) →
    Except Fault (Option (Nat → Bool))
  | [], map => .ok (some map)
  | set :: sets, map =>
      let block := BitVec.ofInt 32 (mlid.tdiv 32) ||| BitVec.ofNat 32 (set <<< 28)
      match T.query portid ibAttrMulticastforwtbl block.toNat with
      | none => .ok none
      | some mdb =>
          if mlid.tmod 32 < 0 then .error .outOfBounds
          else
            let mask := mcMask mdb (mlid.tmod 32).toNat
            mcSets portid mlid sets fun k =>
              map k || (k / 16 = set && mask.testBit (k % 16))

/-- `switch_mclookup`: the ports a switch forwards the MLID to. -/
def switchMclookup (node : Node) (portid : PortId) (mlid : Int) :
    Except Fault (Option (Nat → Bool)) :=
  match T.query portid ibAttrSwitchInfo 0 with
  | none => .ok none
  | some si =>
      let mlid := mlid - 0xc000
      if mlid ≥ si.field .swMcastFdbCap then .ok none
      else mcSets T portid mlid (List.range ((node.numports + 15) / 16)) fun _ => false

/-- Where the search stops: with the target or with `NULL`. -/
abbrev Stop := Option McNode

/-- What the loop over the ports of a node changes. `port` is `none` once it has been freed; the
path is the one in the node's record. -/
structure PortLoop where
  mc : Statics
  port : Option Port
  path : McPath
  printed : List Line

/-- What the loop over the ports of a node goes by. -/
structure PortArgs where
  target : UInt64
  fromCnt : Nat
  node : NodeRef
  upport : Nat
  dist : Nat
  leafport : Nat
  map : Nat → Bool

namespace PortLoop

/-- The node behind a port, once the path leads there. -/
def visit (args : PortArgs) (loop : PortLoop) : Except Fault (PortLoop × Option Stop) :=
  match getNode T {} {} loop.path.toPortId with
  | (false, _) => .ok ({ loop with path := loop.path.back }, none)
  | (true, node, port) => do
      let remotenode : McNode :=
        { node with upnode := some args.node, upport := port.portnum }
      let remoteport : McPort := { port with remoteport := loop.port }
      let (visit, mc) ←
        newNode args.target loop.mc remotenode remoteport loop.path (args.dist + 1)
      match visit with
      | .target node => .ok ({ loop with mc }, some (some node))
      | .inserted => .ok ({ loop with mc, path := loop.path.back }, none)
      | .known =>
          let circle :=
            if node.type = ibNodeSwitch then dumpEndnode 2 .circle node port else []
          .ok ({ loop with mc, path := loop.path.back, printed := loop.printed ++ circle }, none)

/-- One round of the loop over the ports of a node. -/
def step (args : PortArgs) (loop : PortLoop) (i : Nat) : Except Fault (PortLoop × Option Stop) :=
  if !args.map i || i = args.upport then .ok (loop, none)
  else if args.dist = 0 ∧ args.leafport ≠ 0 then
    visit T args (if args.fromCnt > 0 then { loop with path := loop.path.back } else loop)
  else
    match getPort T i loop.path.toPortId with
    | none => .ok ({ loop with port := none }, some none)
    | some port =>
        if port.physstate ≠ 5 then .ok ({ loop with port := none }, none)
        else do
          match ← loop.path.extend i with
          | none => .ok ({ loop with port := none }, some none)
          | some path => visit T args { loop with port := some port, path }

def run (args : PortArgs) : List Nat → PortLoop → Except Fault (PortLoop × Option Stop)
  | [], loop => .ok (loop, none)
  | i :: is, loop => do
      let (loop, stop) ← step T args loop i
      match stop with
      | none => run args is loop
      | some stop => .ok (loop, some stop)

end PortLoop

/-- What the search changes from node to node. -/
structure Search where
  mc : Statics
  port : Option Port
  leafport : Nat := 0
  printed : List Line := []

namespace Search
variable (target : UInt64) (fromCnt : Nat) (mlid : Int)

/-- The ports of a node; its path is written back. -/
def ports (s : Search) (r : NodeRef) (node : McNode) (dist : Nat) (map : Nat → Bool) :
    Except Fault (Search × Option Stop) := do
  let args : PortArgs :=
    { target, fromCnt, node := r, upport := node.upport, dist, leafport := s.leafport, map }
  let (loop, stop) ← PortLoop.run T args (List.range' 1 node.numports)
    ⟨s.mc.modifyNode r fun _ => node, s.port, node.path, s.printed⟩
  .ok ({ s with
    mc := loop.mc.modifyNode r fun node => { node with path := loop.path }
    port := loop.port
    printed := loop.printed }, stop)

def node (s : Search) (r : NodeRef) (dist : Nat) : Except Fault (Search × Option Stop) :=
  match s.mc.nodes[r]? with
  | none => .error .nullDeref
  | some node =>
      if node.type ≠ ibNodeSwitch then
        if dist ≠ 0 then .ok (s, none)
        else do
          let leafport ← node.path.last
          match s.port with
          | none => .error .nullDeref
          | some port =>
              ports T target fromCnt { s with leafport } r { node with upport := 0 } dist
                fun k => k = port.portnum
      else do
        let node := if dist = 1 ∧ s.leafport ≠ 0 then { node with upport := s.leafport } else node
        match ← switchMclookup T node.toNode node.path.toPortId mlid with
        | none => .ok ({ s with mc := s.mc.modifyNode r fun _ => node }, none)
        | some map => ports T target fromCnt s r node dist map

/-- The nodes at a distance. A round inserts at the next distance only. -/
def level (dist : Nat) : List NodeRef → Search → Except Fault (Search × Option Stop)
  | [], s => .ok (s, none)
  | r :: rs, s => do
      let (s, stop) ← node T target fromCnt mlid s r dist
      match stop with
      | none => level dist rs s
      | some stop => .ok (s, some stop)

def levels : List Nat → Search → Except Fault (Search × Option Stop)
  | [], s => .ok (s, none)
  | dist :: dists, s => do
      let (s, stop) ← level T target fromCnt mlid dist (s.mc.nodesdist dist) s
      match stop with
      | none => levels dists s
      | some stop => .ok (s, some stop)

end Search

/-- What `find_mcpath` leaves behind. -/
structure McResult where
  mc : Statics
  endnode : Option McNode
  printed : List Line

/-- The target is where the search starts. -/
def targetAtStart (node : McNode) (fromId : PortId) (mlid : Int) : Except Fault (Option McNode) :=
  if node.type ≠ ibNodeSwitch then .ok none
  else do
    match ← switchMclookup T node.toNode fromId mlid with
    | none => .ok none
    | some map => .ok (if map 0 then some node else none)

def findMcpath (target : UInt64) (mc : Statics) (fromId : PortId) (mlid : Int) :
    Except Fault McResult :=
  match getNode T {} {} fromId with
  | (false, _) => .ok ⟨mc, none, []⟩
  | (true, node, port) => do
      let (visit, mc) ← newNode target mc { node with } { port with } (.ofPortId fromId) 0
      match visit with
      | .target node => .ok ⟨mc, ← targetAtStart T node fromId mlid, []⟩
      | _ =>
          let (s, stop) ← Search.levels T target fromId.drpath.cnt mlid (List.range maxHops)
            { mc, port := some port }
          .ok ⟨s.mc, stop.join, s.printed⟩

/-- `find_target_portguid`, with the return value -1 as the GUID it is taken for. -/
def findTargetPortguid (toId : PortId) : UInt64 :=
  match getNode T {} {} toId with
  | (false, _) => UInt64.ofNat (2 ^ 64 - 1)
  | (true, _, port) => port.portguid

/-- The lines of `dump_mcpath`. -/
inductive McLine
  | from (type : Nat) (nodeguid : UInt64) (portnum lid lastLid : Nat) (nodename : Bytes)
  | hop (outport type : Nat) (nodeguid : UInt64) (upport : Nat)
  | hopLong (outport type : Nat) (nodeguid : UInt64) (upport lid : Nat) (nodename : Bytes)
  | to (type : Nat) (nodeguid : UInt64) (portnum lid lastLid : Nat) (nodename : Bytes)
  deriving DecidableEq

/-- The lines for one node of the path. -/
def dumpMcnode (node : McNode) (dumplevel : Nat) : Except Fault (List McLine) :=
  match node.ports with
  | none => .error .nullDeref
  | some port =>
      if node.dist = 0 then
        .ok [.from node.type node.nodeguid port.portnum port.lid (port.lid + 2 ^ port.lmc - 1)
          node.nodedesc]
      else
        match port.remoteport with
        | none => .error .nullDeref
        | some remote =>
            let hop : McLine :=
              if dumplevel = 1 then .hop remote.portnum node.type node.nodeguid node.upport
              else .hopLong remote.portnum node.type node.nodeguid node.upport port.lid
                node.nodedesc
            let last : List McLine :=
              if node.dist < 0 then
                [.to node.type node.nodeguid port.portnum port.lid (port.lid + 2 ^ port.lmc - 1)
                  node.nodedesc]
              else []
            .ok (hop :: last)

/-- `dump_mcpath`, from the source down. Over as many nodes as there are, a path that goes on for
longer never ends. -/
def dumpMcpath (mc : Statics) (dumplevel : Nat) : Nat → McNode → Except Fault (List McLine)
  | fuel, node => do
      let above ←
        match node.upnode, fuel with
        | none, _ => .ok []
        | some _, 0 => .error .endlessLoop
        | some r, fuel + 1 =>
            match mc.nodes[r]? with
            | none => .error .nullDeref
            | some up => dumpMcpath mc dumplevel fuel up
      let own ← dumpMcnode node dumplevel
      .ok (above ++ own)

/-- The options of a run, and the port ids that its addresses resolve to. -/
structure TraceRun extends Tracer where
  resolve : String → Option PortId
  dumplevel : Nat
  /-- The MLID of option `-m`. -/
  mlid : Option Int

inductive PathLine
  | unicast (line : Line)
  | multicast (line : McLine)
  deriving DecidableEq

/-- How `get_route` ends: it returns, or prints the usage and exits. -/
inductive Verdict
  | returned (r : Int)
  | usage
  deriving DecidableEq

/-- What `get_route` comes to: its verdict, the path it prints, and the circles its search reports
on the way. -/
structure Route where
  verdict : Verdict
  path : List PathLine := []
  circles : List Line := []
  deriving DecidableEq

variable (R : TraceRun)

/-- The part of `get_route` behind the direct path to its source. -/
def traceFrom (mc : Statics) (srcPortid destPortid : PortId) : Except Fault (Statics × Route) :=
  match R.mlid with
  | none =>
      let route := findRoute R.toTracer srcPortid destPortid R.dumplevel
      let verdict := .returned (if route.error.isSome then -1 else 0)
      .ok (mc, { verdict, path := route.printed.map .unicast })
  | some mlid =>
      let target := findTargetPortguid R.toTracer destPortid
      if target = 0 then .ok (mc, { verdict := .returned (-1) })
      else do
        let found ← findMcpath R.toTracer target mc srcPortid mlid
        match found.endnode with
        | none => .ok (found.mc, { verdict := .returned (-1), circles := found.printed })
        | some endnode => do
            let lines ← dumpMcpath found.mc R.dumplevel found.mc.nodes.length endnode
            .ok (found.mc,
              { verdict := .returned 0, path := lines.map .multicast, circles := found.printed })

def getRoute (mc : Statics) (srcid dstid : String) : Except Fault (Statics × Route) :=
  match R.resolve srcid, R.resolve dstid with
  | some srcPortid, some destPortid =>
      if destPortid.lid = 0 ∨ srcPortid.lid = 0 then .ok (mc, { verdict := .usage })
      else do
        let toSrc := findRoute R.toTracer ⟨0, .empty⟩ srcPortid 0
        let before := toSrc.printed.map .unicast
        if toSrc.error.isSome then .ok (mc, { verdict := .returned (-1), path := before })
        else
          let (mc, route) ← traceFrom R mc toSrc.portid destPortid
          .ok (mc, { route with path := before ++ route.path })
  | _, _ => .ok (mc, { verdict := .returned (-1) })

/-- The loop of `main` over the pairs of a ports file: the routes of the pairs that are processed.
A pair whose route fails ends the run. -/
def processPairs (mc : Statics) : List (String × String) → Except Fault (List Route)
  | [] => .ok []
  | (srcid, dstid) :: pairs => do
      let (mc, route) ← getRoute R mc srcid dstid
      if route.verdict = .returned 0 then
        let routes ← processPairs mc pairs
        .ok (route :: routes)
      else .ok [route]

end Ibtracert
end InfinibandDiags
