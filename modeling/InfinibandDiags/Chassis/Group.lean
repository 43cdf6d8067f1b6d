import InfinibandDiags.Chassis.Mellanox

/-! `group_nodes`: four passes over the nodes, the first two over the switches (chassis.c). -/
namespace InfinibandDiags
namespace Fabric
variable (f : Fabric)

/-- A round of the first pass: the chassis record of a switch. -/
def fillRecord (g : Grouping) (n : NodeRef) : Except Fault Grouping :=
  if (f.node n).vendid = vtrVendorId then f.fillVoltaireChassisRecord g n
  else if (f.node n).vendid = mlxVendorId then f.fillMellanoxChassisRecord g n
  else .ok g

/-- The chassis of a node has a number. -/
def numbered (g : Grouping) (n : NodeRef) : Bool :=
  (g.ch n).chassis.any fun c => (g.chassis c).chassisnum ≠ 0

/-- A round of the second pass: a chassis around a spine that is in none yet. -/
def buildRound (g : Grouping) (n : NodeRef) : GroupM Grouping :=
  if (f.node n).vendid ≠ vtrVendorId then .ok g
  else if !(g.ch n).chFound || numbered g n || !(f.node n).isSpine then .ok g
  else
    let (g, c) := g.addChassis
    f.buildChassis (g.numberChassis c) n c

/-- Grouped by the SystemImageGUID: neither a Voltaire node nor one without the GUID. -/
def byGuid (n : NodeRef) : Bool := (f.node n).vendid ≠ vtrVendorId && (f.node n).sysimgguid ≠ 0

/-- A new chassis of one node. -/
def newChassis (g : Grouping) (n : NodeRef) : Except Fault Grouping := do
  let (g, c) := g.addChassis
  let chassisguid ← f.getChassisguid n
  .ok { g.modifyChassis c fun chassis => { chassis with chassisguid, nodecount := 1 } with
    listed := true }

/-- A round of the third pass: count the nodes of a GUID. -/
def countRound (g : Grouping) (n : NodeRef) : Except Fault Grouping :=
  if !f.byGuid n then .ok g
  else do
    match ← f.findChassisguid g n with
    | some c => .ok (g.modifyChassis c fun chassis =>
        { chassis with nodecount := chassis.nodecount + 1 })
    | none => f.newChassis g n

/-- `add_node_to_chassis` of a node that is marked as found. -/
def addNodeToChassis (g : Grouping) (n : NodeRef) (c : ChassisRef) : Grouping :=
  (g.modifyCh n fun info => { info with chFound := true, chassis := some c }).modifyChassis c
    fun chassis => { chassis with nodes := n :: chassis.nodes }

/-- The node goes to the list of the chassis, or a Mellanox board to its slot. -/
def joinChassis (g : Grouping) (n : NodeRef) (c : ChassisRef) : Except Fault Grouping :=
  let g := if (g.chassis c).chassisnum = 0 then g.numberChassis c else g
  if !(g.ch n).chFound then .ok (addNodeToChassis g n c)
  else if (f.node n).vendid = mlxVendorId then insertMellanoxLineAndSpine g n c
  else .ok g

/-- A round of the fourth pass: the chassis with more than one node get their nodes. -/
def groupRound (g : Grouping) (n : NodeRef) : Except Fault Grouping :=
  if !f.byGuid n then .ok g
  else do
    match ← f.findChassisguid g n with
    | none => .ok g
    | some c => if 1 < (g.chassis c).nodecount then f.joinChassis g n c else .ok g

/-- `group_nodes`. A return of -1 frees the chassis. -/
def groupNodes : GroupM Grouping := do
  let g ← orFault (f.switches.foldlM f.fillRecord .blank)
  let g ← f.switches.foldlM f.buildRound g
  let g ← orFault (f.nodes.foldlM f.countRound g)
  let g ← orFault (f.nodes.foldlM f.groupRound g)
  .ok { g with listed := true }

/-- `group_nodes` of a fabric whose ports may have external numbers already. -/
def groupNodesFrom (g : Grouping) : GroupM Grouping := do
  let g ← orFault (f.switches.foldlM f.fillRecord g)
  let g ← f.switches.foldlM f.buildRound g
  let g ← orFault (f.nodes.foldlM f.countRound g)
  let g ← orFault (f.nodes.foldlM f.groupRound g)
  .ok { g with listed := true }

theorem groupNodes_eq : f.groupNodes = f.groupNodesFrom .blank := rfl

end Fabric
end InfinibandDiags
