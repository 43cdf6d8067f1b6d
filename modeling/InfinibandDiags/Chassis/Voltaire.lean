import InfinibandDiags.Chassis.Basic

/-! Voltaire chassis: the record of a board is read off the ports at the other ends of its
cables, and a chassis is built around a spine (chassis.c). -/
namespace InfinibandDiags
namespace Fabric
variable (f : Fabric)

/-- The ports of a node that the loops of chassis.c go through. -/
def portNumbers (n : NodeRef) : List Nat := List.range' 1 (f.node n).numports

/-- The node at the other end of a cable. -/
def remoteNode (p : PortRef) : Option NodeRef := (f.remoteport p).map fun r => (f.port r).node

def getSfbSlot (g : Grouping) (n : NodeRef) (lineport : PortRef) : Except Fault Grouping :=
  let g := g.modifyCh n fun info => { info with chSlot := .spineCs }
  match sfbTables (f.node n) with
  | none => .ok g
  | some (chType, slots, anafas) => do
      let chSlotnum ← tableAt slots (f.port lineport).portnum
      let chAnafanum ← tableAt anafas (f.port lineport).portnum
      .ok (g.modifyCh n fun info => { info with chType, chSlotnum, chAnafanum })

def routerAnafanum (spine : Node) (portnum : Nat) : Option SlotTable → Except Fault UInt8
  | some anafas => tableAt anafas portnum
  | none => .ok (guessAnafanum spine.guid)

def getRouterSlot (g : Grouping) (n : NodeRef) (spineport : PortRef) : Except Fault Grouping :=
  let spine := f.node (f.port spineport).node
  let g := g.modifyCh n fun info => { info with chFound := true, chSlot := .srbdCs }
  match routerTables spine with
  | none => .ok g
  | some (chType, slots, anafas) => do
      let chSlotnum ← tableAt slots (f.port spineport).portnum
      let chAnafanum ← routerAnafanum spine (f.port spineport).portnum anafas
      .ok (g.modifyCh n fun info => { info with chType, chSlotnum, chAnafanum })

def getSlbSlot (g : Grouping) (n : NodeRef) (spineport : PortRef) : Except Fault Grouping :=
  let g := g.modifyCh n fun info => { info with chSlot := .lineCs }
  match slbTables (f.node (f.port spineport).node) with
  | none => .ok g
  | some (chType, slots, anafas) => do
      let chSlotnum ← tableAt slots (f.port spineport).portnum
      let chAnafanum ← tableAt anafas (f.port spineport).portnum
      .ok (g.modifyCh n fun info => { info with chType, chSlotnum, chAnafanum })

/-- A round of the loop of a router, which takes for granted that the port is cabled. -/
def routerPort (n : NodeRef) (g : Grouping) (k : Nat) : Except Fault Grouping := do
  match ← f.slot n k with
  | none => .ok g
  | some p =>
      match f.remoteport p with
      | none => .error .nullDeref
      | some r =>
          if (f.node (f.port r).node).isSpine then f.getRouterSlot g n r else .ok g

/-- Ports 19-36 of an ISR4700 double density fabric board are chassis external ports. -/
def externalSpinePort (n : NodeRef) (p : PortRef) : Bool :=
  (f.node n).isSpine4700x2 && (f.port p).portnum > 18

/-- A round of the loop of a spine. -/
def spinePort (n : NodeRef) (g : Grouping) (k : Nat) : Except Fault Grouping := do
  match ← f.slot n k with
  | none => .ok g
  | some p =>
      match f.remoteport p with
      | none => .ok g
      | some r =>
          let remnode := (f.port r).node
          if f.externalSpinePort n p then .ok g
          else if (f.node remnode).type ≠ ibNodeSwitch then
            if (g.ch remnode).chFound then .ok g else f.getRouterSlot g remnode p
          else if (g.ch n).chType = .unresolvedCt then f.getSfbSlot g n r
          else .ok g

/-- Ports from 19 on, or from 13 on of an older board, do not lead to spines. -/
def externalLinePort (n : NodeRef) (p : PortRef) : Bool :=
  ((f.node n).isLine4700 && (f.port p).portnum > 18) ||
    (!(f.node n).isLine4700 && (f.port p).portnum > 12)

/-- The loop of a line, which ends at the first cable to a spine. -/
def linePorts (n : NodeRef) (g : Grouping) : List Nat → Except Fault Grouping
  | [] => .ok g
  | k :: ks => do
      match ← f.slot n k with
      | none => linePorts n g ks
      | some p =>
          match f.remoteport p with
          | none => linePorts n g ks
          | some r => if f.externalLinePort n p then linePorts n g ks else f.getSlbSlot g n r

def portMapAt {ports : Nat} (map : PortMap ports) (chipnum portnum : Nat) : Except Fault Nat := do
  let chip ← tableAt map chipnum
  tableAt chip portnum

/-- The external number of a port, 0 where it has none. -/
def extPortnum (g : Grouping) (p : PortRef) : Except Fault Nat :=
  let portnum := (f.port p).portnum
  let node := f.node (f.port p).node
  let info := g.ch (f.port p).node
  if !info.chFound || (!node.isLine && !node.isSpine4700x2) then .ok 0
  else if ((node.isLine4700 || node.isSpine4700x2) && (portnum < 19 || portnum > 36)) ||
      ((!node.isLine4700 && !node.isSpine4700x2) && (portnum < 13 || portnum > 24)) then .ok 0
  else if info.chAnafanum < 1 || info.chAnafanum > 2 then .ok 0
  else
    let chipnum := info.chAnafanum.toNat - 1
    if node.isLine24 then portMapAt int2extMapSlb24 chipnum portnum
    else if node.isLine2024 then portMapAt int2extMapSlb2024 chipnum portnum
    else if node.isLine4700 then tableAt int2extMapSlb4018 portnum
    else if node.isSpine4700x2 then portMapAt int2extMapSfb4700x2 chipnum portnum
    else portMapAt int2extMapSlb8 chipnum portnum

def voltairePortmap (g : Grouping) (p : PortRef) : Except Fault Grouping := do
  let ext ← f.extPortnum g p
  .ok (g.setExtPortnum p ext)

/-- A round of the loop that maps the ports of a node. -/
def mapPort (n : NodeRef) (g : Grouping) (k : Nat) : Except Fault Grouping := do
  match ← f.slot n k with
  | none => .ok g
  | some p => f.voltairePortmap g p

/-- The part of `fill_voltaire_chassis_record` that looks at the cables. -/
def fillSlot (g : Grouping) (n : NodeRef) : Except Fault Grouping :=
  if (f.node n).isRouter then (f.portNumbers n).foldlM (f.routerPort n) g
  else if (f.node n).isSpine then (f.portNumbers n).foldlM (f.spinePort n) g
  else if (f.node n).isLine then f.linePorts n g (f.portNumbers n)
  else .ok g

def fillVoltaireChassisRecord (g : Grouping) (n : NodeRef) : Except Fault Grouping :=
  if (g.ch n).chFound then .ok g
  else do
    let g ← f.fillSlot (g.modifyCh n fun info => { info with chFound := true }) n
    (f.portNumbers n).foldlM (f.mapPort n) g

/-- `get_line_index`; no index is the return of -1. -/
def getLineIndex (g : Grouping) (n : NodeRef) : Option Nat :=
  let info := g.ch n
  let retval : Int :=
    if (f.node n).isLine4700 then info.chSlotnum.toNat
    else 3 * ((info.chSlotnum.toNat : Int) - 1) + info.chAnafanum.toNat
  if retval > linesMaxNum ∨ retval < 1 then none else some retval.toNat

/-- `get_spine_index`. -/
def getSpineIndex (g : Grouping) (n : NodeRef) : Option Nat :=
  let info := g.ch n
  let retval : Int :=
    if (f.node n).isSpine9288 || (f.node n).isSpine2012 then
      3 * ((info.chSlotnum.toNat : Int) - 1) + info.chAnafanum.toNat
    else if (f.node n).isSpine4700 || (f.node n).isSpine4700x2 then
      2 * ((info.chSlotnum.toNat : Int) - 1) + info.chAnafanum.toNat
    else info.chSlotnum.toNat
  if retval > spinesMaxNum ∨ retval < 1 then none else some retval.toNat

def insertLineRouter (g : Grouping) (n : NodeRef) (c : ChassisRef) : GroupM Grouping :=
  match f.getLineIndex g n with
  | none => .error none
  | some i => .ok (g.insert n c (.line i))

def insertSpine (g : Grouping) (n : NodeRef) (c : ChassisRef) : GroupM Grouping :=
  match f.getSpineIndex g n with
  | none => .error none
  | some i => .ok (g.insert n c (.spine i))

/-- A round over the ports of a line in the chassis. -/
def catchSpine (c : ChassisRef) (n : NodeRef) (g : Grouping) (k : Nat) : GroupM Grouping := do
  match ← orFault (f.slot n k) with
  | none => .ok g
  | some p =>
      match f.remoteNode p with
      | none => .ok g
      | some remnode =>
          if f.externalLinePort n p || !(g.ch remnode).chFound then .ok g
          else f.insertSpine g remnode c

/-- A round over the line slots. -/
def passOnLine (c : ChassisRef) (g : Grouping) (i : Nat) : GroupM Grouping :=
  match (g.chassis c).linenode i with
  | none => .ok g
  | some n =>
      if (f.node n).isLine then (f.portNumbers n).foldlM (f.catchSpine c n) g else .ok g

def passOnLinesCatchSpines (g : Grouping) (c : ChassisRef) : GroupM Grouping :=
  (List.range' 1 linesMaxNum).foldlM (f.passOnLine c) g

/-- A round over the ports of a spine in the chassis. -/
def catchLine (c : ChassisRef) (n : NodeRef) (g : Grouping) (k : Nat) : GroupM Grouping := do
  match ← orFault (f.slot n k) with
  | none => .ok g
  | some p =>
      match f.remoteNode p with
      | none => .ok g
      | some remnode =>
          if f.externalSpinePort n p || !(g.ch remnode).chFound then .ok g
          else f.insertLineRouter g remnode c

/-- A round over the spine slots. -/
def passOnSpine (c : ChassisRef) (g : Grouping) (i : Nat) : GroupM Grouping :=
  match (g.chassis c).spinenode i with
  | none => .ok g
  | some n => (f.portNumbers n).foldlM (f.catchLine c n) g

def passOnSpinesCatchLines (g : Grouping) (c : ChassisRef) : GroupM Grouping :=
  (List.range' 1 spinesMaxNum).foldlM (f.passOnSpine c) g

/-- The GUID of the chassis: one less than that of its first spine. -/
def passOnSpinesInterpolateChguid (g : Grouping) (c : ChassisRef) : Grouping :=
  match (List.range' 1 spinesMaxNum).findSome? (g.chassis c).spinenode with
  | none => g
  | some n => g.modifyChassis c fun chassis => { chassis with chassisguid := (f.node n).guid - 1 }

/-- A round over the ports of the first spine. What `insert_line_router` returns is dropped. -/
def firstLine (c : ChassisRef) (n : NodeRef) (g : Grouping) (k : Nat) : GroupM Grouping := do
  match ← orFault (f.slot n k) with
  | none => .ok g
  | some p =>
      match f.remoteNode p with
      | none => .ok g
      | some remnode =>
          if f.externalSpinePort n p || !(g.ch remnode).chFound then .ok g
          else match f.getLineIndex g remnode with
            | none => .ok g
            | some i => .ok (g.insert remnode c (.line i))

def buildChassis (g : Grouping) (n : NodeRef) (c : ChassisRef) : GroupM Grouping := do
  let g ← f.insertSpine g n c
  let g ← (f.portNumbers n).foldlM (f.firstLine c n) g
  let g ← f.passOnLinesCatchSpines g c
  let g ← f.passOnSpinesCatchLines g c
  let g ← f.passOnLinesCatchSpines g c
  let g ← f.passOnSpinesCatchLines g c
  .ok (f.passOnSpinesInterpolateChguid g c)

end Fabric
end InfinibandDiags
