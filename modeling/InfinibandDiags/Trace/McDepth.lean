import InfinibandDiags.Library.Loops
import InfinibandDiags.Trace.McSound

/-! The uses that a multicast search makes of the lists of nodes by distance. -/
namespace InfinibandDiags
namespace Ibtracert

/-- A use of `nodesdist`: its index, and the static storage after it. -/
structure Use where
  index : Nat
  mc : Statics

/-- What `new_node` does to the static storage for a node that it enters. -/
def Statics.enter (mc : Statics) (node : McNode) (port : McPort) (path : McPath) (dist : Nat) :
    Statics where
  nodes := mc.nodes ++ [{ node with ports := some port, dist, path }]
  nodestbl := setAt mc.nodestbl (hashguid node.nodeguid)
    (mc.nodes.length :: mc.nodestbl (hashguid node.nodeguid))
  nodesdist := setAt mc.nodesdist dist (mc.nodes.length :: mc.nodesdist dist)

def newNodeUses (target : UInt64) (mc : Statics) (node : McNode) (port : McPort) (path : McPath)
    (dist : Nat) : List Use :=
  if port.portguid = target then []
  else if mc.isKnown node.nodeguid then []
  else [⟨dist, mc.enter node port path dist⟩]

variable (T : Tracer)

namespace PortLoop

def visitUses (args : PortArgs) (loop : PortLoop) : List Use :=
  match getNode T {} {} loop.path.toPortId with
  | (false, _) => []
  | (true, node, port) =>
      newNodeUses args.target loop.mc
        { node with upnode := some args.node, upport := port.portnum }
        { port with remoteport := loop.port } loop.path (args.dist + 1)

def stepUses (args : PortArgs) (loop : PortLoop) (i : Nat) : List Use :=
  if !args.map i || i = args.upport then []
  else if args.dist = 0 ∧ args.leafport ≠ 0 then
    visitUses T args (if args.fromCnt > 0 then { loop with path := loop.path.back } else loop)
  else
    match getPort T i loop.path.toPortId with
    | none => []
    | some port =>
        if port.physstate ≠ 5 then []
        else
          match loop.path.extend i with
          | .ok (some path) => visitUses T args { loop with port := some port, path }
          | _ => []

def runUses (args : PortArgs) : List Nat → PortLoop → List Use :=
  Loops.events (step T args) (stepUses T args)

end PortLoop

namespace Search
variable (target : UInt64) (fromCnt : Nat) (mlid : Int)

def portsUses (s : Search) (r : NodeRef) (node : McNode) (dist : Nat) (map : Nat → Bool) :
    List Use :=
  PortLoop.runUses T (portArgs target fromCnt s r node dist map) (List.range' 1 node.numports)
    (startLoop s r node)

def nodeUses (s : Search) (r : NodeRef) (dist : Nat) : List Use :=
  match s.mc.nodes[r]? with
  | none => []
  | some node =>
      if node.type ≠ ibNodeSwitch then
        if dist ≠ 0 then []
        else
          match node.path.last, s.port with
          | .ok leafport, some port =>
              portsUses T target fromCnt { s with leafport } r { node with upport := 0 } dist
                fun k => k = port.portnum
          | _, _ => []
      else
        let node := if dist = 1 ∧ s.leafport ≠ 0 then { node with upport := s.leafport } else node
        match switchMclookup T node.toNode node.path.toPortId mlid with
        | .ok (some map) => portsUses T target fromCnt s r node dist map
        | _ => []

def levelUses (dist : Nat) : List NodeRef → Search → List Use :=
  Loops.events (fun s r => node T target fromCnt mlid s r dist)
    fun s r => nodeUses T target fromCnt mlid s r dist

/-- `find_mcpath` reads the list at each distance, and `new_node` writes to those behind it. -/
def levelsUses : List Nat → Search → List Use :=
  Loops.events (fun s dist => level T target fromCnt mlid dist (s.mc.nodesdist dist) s)
    fun s dist =>
      ⟨dist, s.mc⟩ :: levelUses T target fromCnt mlid dist (s.mc.nodesdist dist) s

end Search

/-- The uses of `nodesdist` in a run of `find_mcpath`, in their order. -/
def findMcpathUses (target : UInt64) (mc : Statics) (fromId : PortId) (mlid : Int) : List Use :=
  match getNode T {} {} fromId with
  | (false, _) => []
  | (true, node, port) =>
      newNodeUses target mc { node with } { port with } (.ofPortId fromId) 0 ++
        match newNode target mc { node with } { port with } (.ofPortId fromId) 0 with
        | .error _ => []
        | .ok (.target _, _) => []
        | .ok (_, mc) =>
            Search.levelsUses T target fromId.drpath.cnt mlid (List.range maxHops)
              { mc, port := some port }

/-- Each node is in one list at most, once, at the distance of its parent plus one. Nodes are told
apart by their GUIDs. -/
structure Statics.Entered (mc : Statics) : Prop where
  nodup : ∀ dist, (mc.nodesdist dist).Nodup
  once : ∀ {dist dist' : Nat} {r r' : NodeRef} {node node' : McNode},
    r ∈ mc.nodesdist dist → r' ∈ mc.nodesdist dist' → mc.nodes[r]? = some node →
    mc.nodes[r']? = some node' → node.nodeguid = node'.nodeguid → dist = dist' ∧ r = r'
  parent : ∀ {dist : Nat} {r : NodeRef}, r ∈ mc.nodesdist dist →
    ∃ node, mc.nodes[r]? = some node ∧ node.dist = dist ∧
      (node.upnode = none ∧ dist = 0 ∨
        ∃ up dist', node.upnode = some up ∧ up ∈ mc.nodesdist dist' ∧ dist = dist' + 1)

end Ibtracert
end InfinibandDiags
