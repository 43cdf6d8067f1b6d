import InfinibandDiags.Cache.RoundTrip

/-! `ibcacheedit`: GUIDs in a cached fabric replaced by others. -/
namespace InfinibandDiags

theorem length_copyInto (buf : Bytes) (i : Nat) (bs : Bytes) :
    (copyInto buf i bs).length = buf.length := by
  induction bs generalizing buf i with
  | nil => rfl
  | cons b bs ih => rw [copyInto, ih, List.length_set]

/-- `mad_set_field64` on an attribute. -/
def SmpData.setField64 (d : SmpData) (f : MadField) (val : UInt64) : SmpData :=
  ⟨madSetField64 d.bytes 0 f val, (length_copyInto _ _ _).trans d.size⟩

namespace Fabric
variable {σ : Type} (f : Fabric)

def ibndIterNodes (func : NodeRef → σ → σ) (userData : σ) : σ :=
  f.nodes.foldl (fun data n => func n data) userData

/-- The list that `ibnd_iter_nodes_type` picks. -/
def typeList (type : Nat) : List NodeRef :=
  if type = ibNodeSwitch then f.switches
  else if type = ibNodeCa then f.chAdapters
  else if type = ibNodeRouter then f.routers else []

def ibndIterNodesType (func : NodeRef → σ → σ) (type : Nat) (userData : σ) : σ :=
  (f.typeList type).foldl (fun data n => func n data) userData

end Fabric

namespace Cacheedit

/-- `struct guids`. -/
structure Guids where
  searchguid : UInt64
  searchguidFound : Nat
  before : UInt64
  after : UInt64
  found : Nat

def Guids.hit (guids : Guids) : Guids := { guids with found := guids.found + 1 }

/-- A fabric that is being edited, with what was found in it. -/
abbrev Editing := Fabric × Guids

def setNodeGuid (f : Fabric) (n : NodeRef) (guid : UInt64) : Fabric :=
  f.modifyNode n fun node => { node with guid }

def setPortGuid (f : Fabric) (p : PortRef) (guid : UInt64) : Fabric :=
  f.modifyPort p fun port => { port with guid }

def updateSwitchportguids (f : Fabric) (n : NodeRef) : Fabric :=
  (List.range ((f.node n).numports + 1)).foldl
    (fun f k => match (f.node n).ports k with
      | some p => setPortGuid f p (f.node n).guid
      | none => f) f

def replaceNodeGuid (n : NodeRef) : Editing → Editing
  | (f, guids) =>
      if (f.node n).guid = guids.before then
        let f := setNodeGuid f n guids.after
        let f := if (f.node n).type = ibNodeSwitch then updateSwitchportguids f n else f
        (f, guids.hit)
      else (f, guids)

def replaceSysimgguid (n : NodeRef) : Editing → Editing
  | (f, guids) =>
      if (f.node n).info.field64 .nodeSystemGuid = guids.before then
        (f.modifyNode n fun node =>
          { node with info := node.info.setField64 .nodeSystemGuid guids.after }, guids.hit)
      else (f, guids)

/-- The port at which the loop of `replace_portguid` breaks off. Port 0 is not looked at. -/
def firstPort (f : Fabric) (n : NodeRef) (guid : UInt64) : Option PortRef :=
  (List.range (f.node n).numports).findSome? fun i =>
    ((f.node n).ports (i + 1)).filter fun p => (f.port p).guid = guid

def replacePortguid (n : NodeRef) : Editing → Editing
  | (f, guids) =>
      if (f.node n).guid ≠ guids.searchguid then (f, guids)
      else
        let guids := { guids with searchguidFound := guids.searchguidFound + 1 }
        if (f.node n).type = ibNodeSwitch then
          if (f.node n).guid = guids.before then
            (updateSwitchportguids (setNodeGuid f n guids.after) n, guids.hit)
          else (f, guids)
        else
          match firstPort f n guids.before with
          | some p => (setPortGuid f p guids.after, guids.hit)
          | none => (f, guids)

/-- The edits that the options ask for. -/
inductive Edit
  | switchguid (before after : UInt64)
  | caguid (before after : UInt64)
  | sysimgguid (before after : UInt64)
  | portguid (nodeguid before after : UInt64)

def notFound (what : String) (guid : UInt64) : String :=
  what ++ " = " ++ String.ofList (Nat.toDigits 16 guid.toNat) ++ " not found"

/-- `if (!guids.found) IBEXIT(..)`. -/
def Editing.orNotFound (what : String) (guid : UInt64) (editing : Editing) : Except String Fabric :=
  if editing.2.found = 0 then .error (notFound what guid) else .ok editing.1

/-- A part of `main`, with the message that it exits with. -/
def Edit.apply (edit : Edit) (f : Fabric) : Except String Fabric :=
  match edit with
  | .switchguid before after =>
      Editing.orNotFound "switchguid" before
        (f.ibndIterNodesType replaceNodeGuid ibNodeSwitch (f, ⟨0, 0, before, after, 0⟩))
  | .caguid before after =>
      Editing.orNotFound "caguid" before
        (f.ibndIterNodesType replaceNodeGuid ibNodeCa (f, ⟨0, 0, before, after, 0⟩))
  | .sysimgguid before after =>
      Editing.orNotFound "sysimgguid" before
        (f.ibndIterNodes replaceSysimgguid (f, ⟨0, 0, before, after, 0⟩))
  | .portguid nodeguid before after =>
      let editing : Editing := f.ibndIterNodes replacePortguid (f, ⟨nodeguid, 0, before, after, 0⟩)
      if editing.2.searchguidFound = 0 then .error (notFound "nodeguid" nodeguid)
      else editing.orNotFound "portguid" before

/-- What is given on the command line. The last of several options of one kind counts. -/
structure Options where
  switchguid : Option (UInt64 × UInt64)
  caguid : Option (UInt64 × UInt64)
  sysimgguid : Option (UInt64 × UInt64)
  portguid : Option (UInt64 × UInt64 × UInt64)

/-- The edits in the order of `main`. -/
def Options.edits (o : Options) : List Edit :=
  (o.switchguid.map fun (b, a) => Edit.switchguid b a).toList ++
    (o.caguid.map fun (b, a) => Edit.caguid b a).toList ++
    (o.sysimgguid.map fun (b, a) => Edit.sysimgguid b a).toList ++
    (o.portguid.map fun (s, b, a) => Edit.portguid s b a).toList

/-- How `main` ends without a new cache file. -/
inductive Stop
  | exit (message : String)
  | fault (fault : Fault)

/-- The file that `main` writes for the one it is given. -/
def main (o : Options) (orig : Bytes) : Except Stop Bytes :=
  match ibndLoadFabric orig with
  | .error (.fault fault) => .error (.fault fault)
  | .error _ => .error (.exit "loading original cached fabric failed")
  | .ok (f, g) =>
      match o.edits.foldlM (fun f e => e.apply f) f with
      | .error message => .error (.exit message)
      | .ok f =>
          match f.ibndCacheFabric g with
          | .error fault => .error (.fault fault)
          | .ok file => .ok file

end Cacheedit
end InfinibandDiags
