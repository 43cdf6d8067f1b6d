import InfinibandDiags.Diff.Fabrics
import InfinibandDiags.Library.Emit

/-! The diff of iblinkinfo (iblinkinfo.c): what it prints, up to the texts of the lines. -/
namespace InfinibandDiags

def ibLinkDown : Nat := 1

namespace Iblinkinfo
open Fabric

/-- The keys of `--diffcheck`. -/
structure DiffFlags where
  portConnection : Bool
  portState : Bool
  lid : Bool
  nodeDescription : Bool
  deriving DecidableEq, Repr

/-- The other options that decide whether a line is printed. -/
structure Options where
  lineMode : Bool
  downLinksOnly : Bool
  filterdownportsFabric : Option Fabric

/-- The options when none is given. -/
def Options.default : Options := ⟨false, false, none⟩

inductive Line
  | header (outPrefix : Option String) (type : Nat) (guid : UInt64)
  | numports (outPrefix : String) (numports : Nat)
  | port (outPrefix : String) (guid : UInt64) (portnum : Nat) (remote : Option (UInt64 × Nat))
  deriving DecidableEq, Repr

def filterdownportCheck (filter : Fabric) (guid : UInt64) (portnum : Nat) : Bool :=
  match filter.ibndFindNodeGuid guid with
  | none => false
  | some fsw =>
      if portnum > (filter.node fsw).numports then false
      else match (filter.node fsw).ports portnum with
        | none => false
        | some fport => (filter.port fport).info.field .portState = ibLinkDown

/-- `print_port`. A port that is down now and is down in the filter is left out. -/
def printPort (opts : Options) (f : Fabric) (n : NodeRef) (p : PortRef) (outPrefix : String) :
    List Line :=
  let filtered := opts.filterdownportsFabric.any fun filter =>
    (f.port p).info.field .portState = ibLinkDown &&
      filterdownportCheck filter (f.node n).guid (f.port p).portnum
  if filtered then [] else [.port outPrefix (f.port p).guid (f.port p).portnum (f.remoteEnd p)]

/-- `print_node_header`, with the value behind `out_header_flag`, which may be `NULL`. -/
def printNodeHeader (opts : Options) (f : Fabric) (n : NodeRef) (outHeaderFlag : Option Nat)
    (outPrefix : Option String) : Except Fault (Option Nat × List Line) :=
  if outHeaderFlag.getD 0 = 0 && !opts.lineMode then
    match outHeaderFlag with
    | none => .error .nullDeref
    | some flag => .ok (some (flag + 1), [.header outPrefix (f.node n).type (f.node n).guid])
  else .ok (outHeaderFlag, [])

/-- One round of `print_node`. -/
def printNodePort (opts : Options) (f : Fabric) (n : NodeRef) (outPrefix : String)
    (headPrint : Option Nat) (k : Nat) : Except Fault (Option Nat × List Line) := do
  let port ← f.slot n k
  match port with
  | none => .ok (headPrint, [])
  | some p =>
      if !opts.downLinksOnly || (f.port p).info.field .portState = ibLinkDown then do
        let (headPrint, head) ← printNodeHeader opts f n headPrint (some outPrefix)
        .ok (headPrint, head ++ printPort opts f n p outPrefix)
      else .ok (headPrint, [])

def printNode (opts : Options) (f : Fabric) (n : NodeRef) (outPrefix : String) :
    Except Fault (Option Nat × List Line) :=
  Emit.run (printNodePort opts f n outPrefix) (some 0) (List.range' 1 (f.node n).numports)

structure IterDiffData where
  diffFlags : DiffFlags
  fabric1 : Fabric
  fabric2 : Fabric
  fabric1Prefix : String
  fabric2Prefix : String

namespace IterDiffData
variable (data : IterDiffData)

def connectionDiffers (p q : Option PortRef) : Bool :=
  match p, q with
  | some _, none => true
  | none, some _ => true
  | none, none => false
  | some p, some q =>
      match data.fabric1.remoteGuid p, data.fabric2.remoteGuid q with
      | some _, none => true
      | none, some _ => true
      | none, none => false
      | some r, some s => r ≠ s

def stateDiffers (p q : Option PortRef) : Bool :=
  match p, q with
  | some p, some q => (data.fabric1.port p).info.field .portState ≠
      (data.fabric2.port q).info.field .portState
  | _, _ => false

def peers (p q : Option PortRef) : Option (PortRef × PortRef) := do
  let r ← data.fabric1.remoteport (← p)
  let s ← data.fabric2.remoteport (← q)
  some (r, s)

def peerLidDiffers (p q : Option PortRef) : Bool :=
  match data.peers p q with
  | some (r, s) => (data.fabric1.port r).baseLid ≠ (data.fabric2.port s).baseLid
  | none => false

def peerDescriptionDiffers (p q : Option PortRef) : Bool :=
  match data.peers p q with
  | some (r, s) => (data.fabric1.node (data.fabric1.port r).node).nodedesc ≠
      (data.fabric2.node (data.fabric2.port s).node).nodedesc
  | none => false

/-- `output_diff`. -/
def outputDiff (p q : Option PortRef) : Nat :=
  let flags := data.diffFlags
  (flags.portConnection && data.connectionDiffers p q).toNat +
    (flags.portState && data.stateDiffers p q).toNat +
    (flags.portConnection && flags.lid && data.peerLidDiffers p q).toNat +
    (flags.portConnection && flags.nodeDescription && data.peerDescriptionDiffers p q).toNat

/-- The header of the node in the first fabric, and the port of either. -/
def printDiffPort (opts : Options) (n : NodeRef) (f : Fabric) (m : NodeRef) (outPrefix : String)
    (headPrint : Option Nat) : Option PortRef → Except Fault (Option Nat × List Line)
  | none => .ok (headPrint, [])
  | some p => do
      let (headPrint, head) ← printNodeHeader opts data.fabric1 n headPrint none
      .ok (headPrint, head ++ printPort opts f m p outPrefix)

/-- One round of `diff_node_ports`. -/
def diffNodePort (opts : Options) (n m : NodeRef) (headPrint : Option Nat) (k : Nat) :
    Except Fault (Option Nat × List Line) := do
  let p ← data.fabric1.slot n k
  let q ← data.fabric2.slot m k
  if p.isNone && q.isNone then .ok (headPrint, [])
  else if data.outputDiff p q ≠ 0 then do
    let out1 ← data.printDiffPort opts n data.fabric1 n data.fabric1Prefix headPrint p
    let out2 ← data.printDiffPort opts n data.fabric2 m data.fabric2Prefix out1.1 q
    .ok (out2.1, out1.2 ++ out2.2)
  else .ok (headPrint, [])

def diffNodePorts (opts : Options) (n m : NodeRef) (headPrint : Option Nat) :
    Except Fault (Option Nat × List Line) :=
  Emit.run (data.diffNodePort opts n m) headPrint (List.range' 1 (data.fabric1.node n).numports)

def nodeDiffers (n m : NodeRef) : Bool :=
  ((data.fabric1.node n).type = ibNodeSwitch && data.diffFlags.lid &&
      (data.fabric1.node n).smalid != (data.fabric2.node m).smalid) ||
    (data.diffFlags.nodeDescription &&
      decide ((data.fabric1.node n).nodedesc ≠ (data.fabric2.node m).nodedesc))

/-- Both headers, with no flag to keep that they were printed, if the nodes differ. -/
def printHeaders (opts : Options) (n m : NodeRef) : Except Fault (List Line) :=
  if data.nodeDiffers n m then do
    let (_, head1) ← printNodeHeader opts data.fabric1 n none (some data.fabric1Prefix)
    let (_, head2) ← printNodeHeader opts data.fabric2 m none (some data.fabric2Prefix)
    .ok (head1 ++ head2)
  else .ok []

def diffNodeIter (opts : Options) (_ : Unit) (n : NodeRef) : Except Fault (Unit × List Line) :=
  let flags := data.diffFlags
  match data.fabric2.ibndFindNodeGuid (data.fabric1.node n).guid with
  | none => do
      let r ← printNode opts data.fabric1 n data.fabric1Prefix
      .ok ((), r.2)
  | some m =>
      if flags.portConnection || flags.portState || flags.lid || flags.nodeDescription then do
        let head ← data.printHeaders opts n m
        let headPrint := some (data.nodeDiffers n m).toNat
        if (data.fabric1.node n).numports ≠ (data.fabric2.node m).numports then do
          let r ← printNodeHeader opts data.fabric1 n headPrint none
          .ok ((), head ++ r.2 ++
            [.numports data.fabric1Prefix (data.fabric1.node n).numports,
              .numports data.fabric2Prefix (data.fabric2.node m).numports])
        else do
          let r ← data.diffNodePorts opts n m headPrint
          .ok ((), head ++ r.2)
      else .ok ((), [])

end IterDiffData

/-- One pass of `diff_node` over all nodes of the first fabric. -/
def iterDiff (opts : Options) (data : IterDiffData) : Except Fault (List Line) := do
  let r ← Emit.run (data.diffNodeIter opts) () data.fabric1.nodes
  .ok r.2

/-- `iter_diff_data` of the first pass of `diff_node`. -/
def firstPass (orig new : Fabric) (flags : DiffFlags) : IterDiffData :=
  ⟨flags, orig, new, "< ", "> "⟩

/-- The second pass exchanges the fabrics and looks for missing nodes only. -/
def secondPass (orig new : Fabric) : IterDiffData :=
  ⟨⟨false, false, false, false⟩, new, orig, "> ", "< "⟩

/-- `diff_node` when no node and no node type is asked for. -/
def diffNode (opts : Options) (flags : DiffFlags) (orig new : Fabric) :
    Except Fault (List Line) := do
  let out ← iterDiff opts (firstPass orig new flags)
  let back ← iterDiff opts (secondPass orig new)
  .ok (out ++ back)

/-- The nodes that `ibnd_iter_nodes` goes through, or `ibnd_iter_nodes_type` for `only_type`. -/
def iterNodes (onlyType : Option Nat) (f : Fabric) : List NodeRef :=
  match onlyType with
  | none => f.nodes
  | some type =>
      if type = ibNodeSwitch then f.switches
      else if type = ibNodeCa then f.chAdapters
      else if type = ibNodeRouter then f.routers else []

/-- The two passes of `diff_node`, each over its nodes. -/
def diffPasses (opts : Options) (first second : IterDiffData) (nodes1 nodes2 : List NodeRef) :
    Except Fault (List Line) := do
  let out ← Emit.run (first.diffNodeIter opts) () nodes1
  let back ← Emit.run (second.diffNodeIter opts) () nodes2
  .ok (out.2 ++ back.2)

/-- `diff_node` with its first argument: all nodes, or one node of the new fabric. The one node
brings its own fabric to both passes, which read nothing of `fabric1` but the node. -/
def diffNodeOf (opts : Options) (onlyType : Option Nat) (flags : DiffFlags)
    (node : Option NodeRef) (orig new : Fabric) : Except Fault (List Line) :=
  match node with
  | none => diffPasses opts (firstPass orig new flags) (secondPass orig new)
      (iterNodes onlyType orig) (iterNodes onlyType new)
  | some n => diffPasses opts { firstPass orig new flags with fabric1 := new }
      (secondPass orig new) [n] [n]

theorem diffNodeOf_none (opts : Options) (flags : DiffFlags) (orig new : Fabric) :
    diffNodeOf opts none flags none orig new = diffNode opts flags orig new := by
  unfold diffNodeOf diffPasses diffNode iterDiff
  dsimp only [iterNodes, firstPass, secondPass]
  cases Emit.run (IterDiffData.diffNodeIter ⟨flags, orig, new, "< ", "> "⟩ opts) () orig.nodes with
  | error e => rfl
  | ok out =>
      cases Emit.run (IterDiffData.diffNodeIter
        ⟨⟨false, false, false, false⟩, new, orig, "> ", "< "⟩ opts) () new.nodes with
      | error e => rfl
      | ok back => rfl

end Iblinkinfo
end InfinibandDiags
