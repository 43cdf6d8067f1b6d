import InfinibandDiags.Diff.Fabrics
import InfinibandDiags.Library.Emit

/-! The diff of ibnetdiscover (ibnetdiscover.c): what it prints, up to the texts of the lines. -/
namespace InfinibandDiags
namespace Ibnetdiscover
open Fabric

/-- The keys of `--diffcheck`. -/
structure DiffFlags where
  switch : Bool
  ca : Bool
  router : Bool
  portConnection : Bool
  lid : Bool
  nodeDescription : Bool
  deriving DecidableEq, Repr

/-- `out_switch` with its detail and port functions, or `out_ca` with those. -/
inductive OutKind
  | switch | ca
  deriving DecidableEq, Repr

/-- A line, or the block of lines, that one call prints, about a node or a port of a node. -/
inductive Line
  | header (kind : OutKind) (idPrefix detailPrefix : Option String) (guid : UInt64)
  | detail (kind : OutKind) (outPrefix : String) (guid : UInt64)
  | numports (outPrefix : String) (numports : Nat)
  | port (kind : OutKind) (outPrefix : String) (portnum : Nat) (remote : UInt64 × Nat)
  deriving DecidableEq, Repr

structure IterDiffData where
  diffFlags : DiffFlags
  fabric1 : Fabric
  fabric2 : Fabric
  fabric1Prefix : String
  fabric2Prefix : String
  out : OutKind

/-- `out_switch_port` and `out_ca_port`, which both print the other end of the cable. -/
def outPort (f : Fabric) (kind : OutKind) (p : PortRef) (outPrefix : String) :
    Except Fault (List Line) :=
  match f.remoteEnd p with
  | some remote => .ok [.port kind outPrefix (f.port p).portnum remote]
  | none => .error .nullDeref

/-- `out_port` of a port that has been chosen for printing. -/
def outChosen (f : Fabric) (kind : OutKind) (outPrefix : String) : Option PortRef →
    Except Fault (List Line)
  | some p => outPort f kind p outPrefix
  | none => .error .nullDeref

namespace IterDiffData
variable (data : IterDiffData)

def outHeader (n : NodeRef) (idPrefix detailPrefix : Option String) : Line :=
  .header data.out idPrefix detailPrefix (data.fabric1.node n).guid

def diffIterOutHeader (n : NodeRef) (outHeaderFlag : Nat) : Nat × List Line :=
  if outHeaderFlag = 0 then (1, [data.outHeader n none none]) else (outHeaderFlag, [])

/-- How often the check of the port connection asks for the port of either fabric. -/
def connectionOut (p q : Option PortRef) : Nat × Nat :=
  match p, q with
  | some _, none => (1, 0)
  | none, some _ => (0, 1)
  | none, none => (0, 0)
  | some p, some q =>
      match data.fabric1.remoteGuid p, data.fabric2.remoteGuid q with
      | some _, none => (1, 0)
      | none, some _ => (0, 1)
      | none, none =>
          if (data.fabric1.port p).guid ≠ (data.fabric2.port q).guid then (1, 1) else (0, 0)
      | some r, some s =>
          if (data.fabric1.port p).guid ≠ (data.fabric2.port q).guid ∨ r ≠ s then (1, 1) else (0, 0)

def lidDiffers (p q : Option PortRef) : Bool :=
  match p, q with
  | some p, some q => (data.fabric1.port p).baseLid ≠ (data.fabric2.port q).baseLid
  | _, _ => false

/-- The ports at the other ends of two cabled ports. -/
def peers (p q : Option PortRef) : Option (PortRef × PortRef) := do
  let r ← data.fabric1.remoteport (← p)
  let s ← data.fabric2.remoteport (← q)
  some (r, s)

def peerDescriptionDiffers (p q : Option PortRef) : Bool :=
  match data.peers p q with
  | some (r, s) => (data.fabric1.node (data.fabric1.port r).node).nodedesc ≠
      (data.fabric2.node (data.fabric2.port s).node).nodedesc
  | none => false

def peerLidDiffers (p q : Option PortRef) : Bool :=
  match data.peers p q with
  | some (r, s) => (data.fabric1.port r).baseLid ≠ (data.fabric2.port s).baseLid
  | none => false

/-- `fabric1_out` and `fabric2_out` after all checks of one port; the check of the node
description of the other end is there twice. -/
def portOut (p q : Option PortRef) : Nat × Nat :=
  let flags := data.diffFlags
  let connection := if flags.portConnection then data.connectionOut p q else (0, 0)
  let lid := (flags.lid && data.lidDiffers p q).toNat
  let desc := (flags.portConnection && flags.nodeDescription &&
    data.peerDescriptionDiffers p q).toNat
  let peerLid := (flags.portConnection && flags.lid && data.peerLidDiffers p q).toNat
  (connection.1 + lid + desc + desc + peerLid, connection.2 + lid + desc + desc + peerLid)

/-- The header, unless it was printed, and the port of one fabric, if a check asked for it. -/
def outSide (n : NodeRef) (f : Fabric) (outPrefix : String) (asked : Nat) (p : Option PortRef)
    (outHeaderFlag : Nat) : Except Fault (Nat × List Line) :=
  if asked ≠ 0 then do
    let out ← outChosen f data.out outPrefix p
    .ok ((data.diffIterOutHeader n outHeaderFlag).1,
      (data.diffIterOutHeader n outHeaderFlag).2 ++ out)
  else .ok (outHeaderFlag, [])

/-- One round of `diff_ports`. -/
def diffPort (n m : NodeRef) (outHeaderFlag : Nat) (k : Nat) : Except Fault (Nat × List Line) := do
  let p ← data.fabric1.slot n k
  let q ← data.fabric2.slot m k
  let out1 ← data.outSide n data.fabric1 data.fabric1Prefix (data.portOut p q).1 p outHeaderFlag
  let out2 ← data.outSide n data.fabric2 data.fabric2Prefix (data.portOut p q).2 q out1.1
  .ok (out2.1, out1.2 ++ out2.2)

def diffPorts (n m : NodeRef) (outHeaderFlag : Nat) : Except Fault (Nat × List Line) :=
  Emit.run (data.diffPort n m) outHeaderFlag (List.range' 1 (data.fabric1.node n).numports)

/-- A port of a node that is not in the second fabric. -/
def outCabledPort (n : NodeRef) (_ : Unit) (k : Nat) : Except Fault (Unit × List Line) := do
  let p ← data.fabric1.slot n k
  match p with
  | none => .ok ((), [])
  | some p =>
      match data.fabric1.remoteport p with
      | none => .ok ((), [])
      | some _ => do
          let out ← outPort data.fabric1 data.out p data.fabric1Prefix
          .ok ((), out)

def nodeDiffers (n m : NodeRef) : Bool :=
  (data.diffFlags.lid && (data.fabric1.node n).smalid != (data.fabric2.node m).smalid) ||
    (data.diffFlags.nodeDescription &&
      decide ((data.fabric1.node n).nodedesc ≠ (data.fabric2.node m).nodedesc))

def diffIterFunc (_ : Unit) (n : NodeRef) : Except Fault (Unit × List Line) :=
  let flags := data.diffFlags
  match data.fabric2.ibndFindNodeGuid (data.fabric1.node n).guid with
  | none => do
      let r ← Emit.run (data.outCabledPort n) () (List.range' 1 (data.fabric1.node n).numports)
      .ok ((), [data.outHeader n (some data.fabric1Prefix) (some data.fabric1Prefix)] ++ r.2)
  | some m =>
      if flags.portConnection || flags.lid || flags.nodeDescription then
        let head := if data.nodeDiffers n m then
          [data.outHeader n none (some data.fabric1Prefix),
            .detail data.out data.fabric2Prefix (data.fabric2.node m).guid] else []
        let outHeaderFlag := (data.nodeDiffers n m).toNat
        if (data.fabric1.node n).numports ≠ (data.fabric2.node m).numports then
          .ok ((), head ++ (data.diffIterOutHeader n outHeaderFlag).2 ++
            [.numports data.fabric1Prefix (data.fabric1.node n).numports,
              .numports data.fabric2Prefix (data.fabric2.node m).numports])
        else if flags.portConnection || flags.lid then do
          let r ← data.diffPorts n m outHeaderFlag
          .ok ((), head ++ r.2)
        else .ok ((), head)
      else .ok ((), [])

end IterDiffData

/-- `ibnd_iter_nodes_type` with `diff_iter_func`, over the list of the type. -/
def iterDiff (data : IterDiffData) (list : List NodeRef) : Except Fault (List Line) := do
  let r ← Emit.run data.diffIterFunc () list
  .ok r.2

/-- `iter_diff_data` of the first pass of `diff_common`. -/
def firstPass (orig new : Fabric) (flags : DiffFlags) (kind : OutKind) : IterDiffData :=
  ⟨flags, orig, new, "< ", "> ", kind⟩

/-- The second pass exchanges the fabrics and looks for missing nodes only. -/
def secondPass (orig new : Fabric) (flags : DiffFlags) (kind : OutKind) : IterDiffData :=
  ⟨{ flags with portConnection := false, lid := false, nodeDescription := false },
    new, orig, "> ", "< ", kind⟩

/-- Both passes over the nodes of one type. -/
def diffCommon (orig new : Fabric) (list : Fabric → List NodeRef) (flags : DiffFlags)
    (kind : OutKind) : Except Fault (List Line) := do
  let out ← iterDiff (firstPass orig new flags kind) (list orig)
  let back ← iterDiff (secondPass orig new flags kind) (list new)
  .ok (out ++ back)

/-- `diff_common` if the type is asked for. -/
def diffType (asked : Bool) (orig new : Fabric) (list : Fabric → List NodeRef) (flags : DiffFlags)
    (kind : OutKind) : Except Fault (List Line) :=
  if asked then diffCommon orig new list flags kind else .ok []

def diff (flags : DiffFlags) (orig new : Fabric) : Except Fault (List Line) := do
  let switches ← diffType flags.switch orig new Fabric.switches flags .switch
  let cas ← diffType flags.ca orig new Fabric.chAdapters flags .ca
  let routers ← diffType flags.router orig new Fabric.routers flags .ca
  .ok (switches ++ (cas ++ routers))

end Ibnetdiscover
end InfinibandDiags
