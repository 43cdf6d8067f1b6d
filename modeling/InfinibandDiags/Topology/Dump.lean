import InfinibandDiags.Chassis.Exclusive

/-! `dump_topology` of ibnetdiscover: the nodes and ports it prints, in order and up to the
texts, over a fabric that `group_nodes` has gone through (ibnetdiscover.c). -/
namespace InfinibandDiags
namespace Topology
open Fabric

/-- A line or a block of lines. -/
inductive Item
  | heading (text : String)
  | chassis (chassisnum : UInt8) (guid : UInt64)
  | hostname (n : NodeRef)
  | switch (n : NodeRef)
  | switchPort (p : PortRef)
  | ca (n : NodeRef)
  | caPort (p : PortRef)
  deriving DecidableEq

section Blocks
variable (f : Fabric) (g : Grouping)

/-- The ports of a node that are cabled. -/
def cabledPorts (n : NodeRef) : List PortRef :=
  ((f.portNumbers n).filterMap (f.node n).ports).filter fun p => (f.remoteport p).isSome

/-- `out_switch` and `out_switch_port` for the ports. -/
def switchBlock (n : NodeRef) : List Item := .switch n :: (cabledPorts f n).map .switchPort

/-- `out_ca` and `out_ca_port` for the ports. -/
def caBlock (n : NodeRef) : List Item := .ca n :: (cabledPorts f n).map .caPort

/-- `ibnd_get_chassis_guid`. -/
def ibndGetChassisGuid (chassisnum : UInt8) : UInt64 :=
  match (List.range g.chassisCount).find? fun c => (g.chassis c).chassisnum = chassisnum with
  | some c => (g.chassis c).chassisguid
  | none => 0

/-- `out_chassis`, and the host names of a Xsigo chassis. -/
def chassisHeader (chassis : Chassis) : List Item :=
  let chguid := ibndGetChassisGuid g chassis.chassisnum
  .chassis chassis.chassisnum chguid ::
    if ibndIsXsigoGuid chguid then
      (chassis.nodes.filter fun n => ibndIsXsigoHca (f.node n).guid).map .hostname
    else []

/-- The boards in the slots from 1 on. -/
def slotBoards (slot : Nat → Option NodeRef) (top : Nat) : List NodeRef :=
  (List.range' 1 top).filterMap slot

/-- One chassis, unless it has no number. -/
def chassisBlock (chassis : Chassis) : List Item :=
  if chassis.chassisnum = 0 then []
  else
    let switches := chassis.nodes.filter fun n => (f.node n).type = ibNodeSwitch
    let cas := chassis.nodes.filter fun n => (f.node n).type = ibNodeCa
    chassisHeader f g chassis ++
      .heading "# Spine Nodes" ::
        (slotBoards chassis.spinenode spinesMaxNum).flatMap (switchBlock f) ++
      .heading "# Line Nodes" :: (slotBoards chassis.linenode linesMaxNum).flatMap (switchBlock f) ++
      .heading "# Chassis Switches" :: switches.flatMap (switchBlock f) ++
      .heading "# Chassis CAs" :: cas.flatMap (caBlock f)

/-- `switch_iter_func` over the switches. -/
def switchPass (skipChassisNodes : Bool) : List Item :=
  (f.switches.filter fun n => !(skipChassisNodes && numbered g n)).flatMap (switchBlock f)

/-- `ca_iter_func` over the channel adapters, `router_iter_func` over the routers. -/
def caPass (group : Bool) (list : List NodeRef) : List Item :=
  (list.filter fun n => !(group && numbered g n)).flatMap (caBlock f)

def dumpTopology (group : Bool) : List Item :=
  (if group then
      (List.range g.chassisCount).flatMap (fun c => chassisBlock f g (g.chassis c)) ++
        .heading "Non-Chassis Nodes" :: switchPass f g true
    else switchPass f g false) ++
    caPass f g group f.chAdapters ++ caPass f g group f.routers

end Blocks

/-- The switches among the printed nodes. -/
def switches (items : List Item) : List NodeRef :=
  items.filterMap fun
    | .switch n => some n
    | _ => none

section Switches
variable {f : Fabric} {g : Grouping} {a b : List Item} {n : NodeRef}

@[simp] theorem switches_append : switches (a ++ b) = switches a ++ switches b :=
  List.filterMap_append

@[simp] theorem switches_heading {text : String} : switches (.heading text :: a) = switches a := rfl

theorem switches_switchBlock : switches (switchBlock f n) = [n] := by
  have hports : ∀ ps : List PortRef, switches (ps.map .switchPort) = [] := by
    intro ps
    induction ps with
    | nil => rfl
    | cons p ps ih => exact ih
  change n :: switches ((cabledPorts f n).map .switchPort) = [n]
  rw [hports]

theorem switches_caBlock : switches (caBlock f n) = [] := by
  have hports : ∀ ps : List PortRef, switches (ps.map .caPort) = [] := by
    intro ps
    induction ps with
    | nil => rfl
    | cons p ps ih => exact ih
  exact hports _

theorem switches_chassisHeader {chassis : Chassis} : switches (chassisHeader f g chassis) = [] := by
  have hnames : ∀ ns : List NodeRef, switches (ns.map .hostname) = [] := by
    intro ns
    induction ns with
    | nil => rfl
    | cons n ns ih => exact ih
  change switches (if _ then _ else _) = []
  split
  · exact hnames _
  · rfl

theorem switches_flatMap_switchBlock {ns : List NodeRef} :
    switches (ns.flatMap (switchBlock f)) = ns := by
  induction ns with
  | nil => rfl
  | cons n ns ih => rw [List.flatMap_cons, switches_append, switches_switchBlock, ih]; rfl

theorem switches_flatMap_caBlock {ns : List NodeRef} :
    switches (ns.flatMap (caBlock f)) = [] := by
  induction ns with
  | nil => rfl
  | cons n ns ih => rw [List.flatMap_cons, switches_append, switches_caBlock, ih]; rfl

/-- The switches of a chassis that has a number. -/
def chassisSwitches (f : Fabric) (chassis : Chassis) : List NodeRef :=
  if chassis.chassisnum = 0 then []
  else slotBoards chassis.spinenode spinesMaxNum ++ slotBoards chassis.linenode linesMaxNum ++
    chassis.nodes.filter fun n => (f.node n).type = ibNodeSwitch

theorem switches_chassisBlock {chassis : Chassis} :
    switches (chassisBlock f g chassis) = chassisSwitches f chassis := by
  unfold chassisBlock chassisSwitches
  split
  · rfl
  · simp only [switches_append, List.cons_append, switches_heading, switches_chassisHeader,
      switches_flatMap_switchBlock, switches_flatMap_caBlock, List.nil_append, List.append_nil,
      List.append_assoc]

theorem switches_dumpTopology : switches (dumpTopology f g true) =
    (List.range g.chassisCount).flatMap (fun c => chassisSwitches f (g.chassis c)) ++
      f.switches.filter fun n => !numbered g n := by
  have hchassis : ∀ cs : List ChassisRef,
      switches (cs.flatMap fun c => chassisBlock f g (g.chassis c)) =
        cs.flatMap fun c => chassisSwitches f (g.chassis c) := by
    intro cs
    induction cs with
    | nil => rfl
    | cons c cs ih =>
        rw [List.flatMap_cons, switches_append, switches_chassisBlock, ih, List.flatMap_cons]
  unfold dumpTopology switchPass caPass
  simp only [if_true, switches_append, switches_heading, hchassis,
    switches_flatMap_switchBlock, switches_flatMap_caBlock, List.append_nil, Bool.true_and]

end Switches
end Topology
end InfinibandDiags
