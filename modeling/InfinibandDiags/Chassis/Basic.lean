import InfinibandDiags.Chassis.Tables

/-! What `group_nodes` builds beside the fabric: chassis records, and the chassis fields of the
nodes (chassis.c). -/
namespace InfinibandDiags

def spinesMaxNum : Nat := 18
def linesMaxNum : Nat := 36

abbrev ChassisRef := Nat

/-- The chassis fields of `ibnd_node_t`. -/
structure ChassisInfo where
  chassis : Option ChassisRef
  chType : ChassisType
  chTypeStr : Bytes
  chAnafanum : UInt8
  chSlotnum : UInt8
  chSlot : ChassisSlotType
  chFound : Bool
  deriving DecidableEq

def ChassisInfo.blank : ChassisInfo := ⟨none, .unresolvedCt, [], 0, 0, .unresolvedCs, false⟩

/-- A place in the arrays `linenode` and `spinenode`. -/
inductive Slot
  | line (i : Nat)
  | spine (i : Nat)
  deriving DecidableEq, Repr

def Slot.index : Slot → Nat
  | .line i => i
  | .spine i => i

/-- The arrays have a slot 0, too. -/
def Slot.InRange : Slot → Prop
  | .line i => i ≤ linesMaxNum
  | .spine i => i ≤ spinesMaxNum

/-- `ibnd_chassis_t`; `nodes` runs along `next_chassis_node`. -/
structure Chassis where
  chassisguid : UInt64
  chassisnum : UInt8
  nodecount : UInt8
  nodes : List NodeRef
  spinenode : Nat → Option NodeRef
  linenode : Nat → Option NodeRef

namespace Chassis

def blank : Chassis := ⟨0, 0, 0, [], fun _ => none, fun _ => none⟩

def board (c : Chassis) : Slot → Option NodeRef
  | .line i => c.linenode i
  | .spine i => c.spinenode i

def setBoard (c : Chassis) (n : NodeRef) : Slot → Chassis
  | .line i => { c with linenode := setAt c.linenode i (some n) }
  | .spine i => { c with spinenode := setAt c.spinenode i (some n) }

theorem board_setBoard (c : Chassis) (n : NodeRef) (s t : Slot) :
    (c.setBoard n s).board t = if t = s then some n else c.board t := by
  cases s with
  | line i =>
      cases t with
      | line j => simp [setBoard, board, Function.update_apply]
      | spine j => simp [setBoard, board]
  | spine i =>
      cases t with
      | line j => simp [setBoard, board]
      | spine j => simp [setBoard, board, Function.update_apply]

@[simp] theorem nodes_setBoard (c : Chassis) (n : NodeRef) (s : Slot) :
    (c.setBoard n s).nodes = c.nodes := by
  cases s <;> rfl

@[simp] theorem chassisnum_setBoard (c : Chassis) (n : NodeRef) (s : Slot) :
    (c.setBoard n s).chassisnum = c.chassisnum := by
  cases s <;> rfl

end Chassis

/-- History of the slots: a board is put in an empty slot, its chassis pointer being `before`. -/
structure Placement where
  board : NodeRef
  chassis : ChassisRef
  slot : Slot
  before : Option ChassisRef
  deriving DecidableEq, Repr

/-- The chassis fields of all nodes, `ext_portnum` of all ports, the list of `chassis_scan` in
the order of its records, the counter `chassisnum`, and whether `fabric->chassis` has been set
to that list. `placed` is history only, the last placement first. -/
structure Grouping where
  ch : NodeRef → ChassisInfo
  extPortnum : PortRef → Nat
  chassis : ChassisRef → Chassis
  chassisCount : Nat
  chassisnum : Nat
  listed : Bool
  placed : List Placement

/-- A fabric as it comes from `calloc`. -/
def Grouping.blank : Grouping where
  ch := fun _ => .blank
  extPortnum := fun _ => 0
  chassis := fun _ => .blank
  chassisCount := 0
  chassisnum := 0
  listed := false
  placed := []

/-- A part of `group_nodes`: `.error none` stands for the return of -1. -/
abbrev GroupM := Except (Option Fault)

/-- A part that has no return value of its own. -/
def orFault {α : Type} : Except Fault α → GroupM α
  | .ok a => .ok a
  | .error fault => .error (some fault)

@[simp] theorem orFault_eq_ok {α : Type} {x : Except Fault α} {a : α} :
    orFault x = .ok a ↔ x = .ok a := by
  cases x <;> simp [orFault]

namespace Grouping

def modifyCh (g : Grouping) (n : NodeRef) (h : ChassisInfo → ChassisInfo) : Grouping :=
  { g with ch := setAt g.ch n (h (g.ch n)) }

def setExtPortnum (g : Grouping) (p : PortRef) (k : Nat) : Grouping :=
  { g with extPortnum := setAt g.extPortnum p k }

def modifyChassis (g : Grouping) (c : ChassisRef) (h : Chassis → Chassis) : Grouping :=
  { g with chassis := setAt g.chassis c (h (g.chassis c)) }

/-- `add_chassis`. The new record is the current one, and the last of the list. -/
def addChassis (g : Grouping) : Grouping × ChassisRef :=
  ({ g with chassis := setAt g.chassis g.chassisCount .blank, chassisCount := g.chassisCount + 1 },
    g.chassisCount)

/-- `chassis->chassisnum = ++chassisnum`, a byte from an `int`. -/
def numberChassis (g : Grouping) (c : ChassisRef) : Grouping :=
  { g.modifyChassis c fun chassis =>
      { chassis with chassisnum := UInt8.ofNat (g.chassisnum + 1) } with
    chassisnum := g.chassisnum + 1 }

/-- A board in its slot, and the chassis it is now in. -/
def place (g : Grouping) (n : NodeRef) (c : ChassisRef) (s : Slot) : Grouping :=
  { (g.modifyChassis c fun chassis => chassis.setBoard n s).modifyCh n fun info =>
      { info with chassis := some c } with
    placed := ⟨n, c, s, (g.ch n).chassis⟩ :: g.placed }

/-- A board goes into a slot unless the slot is already filled. -/
def insert (g : Grouping) (n : NodeRef) (c : ChassisRef) (s : Slot) : Grouping :=
  if ((g.chassis c).board s).isSome then g else g.place n c s

section Place
variable (g : Grouping) (n m : NodeRef) (c d : ChassisRef) (s t : Slot)

theorem ch_place : (g.place n c s).ch m =
    if m = n then { g.ch n with chassis := some c } else g.ch m := rfl

theorem board_place : ((g.place n c s).chassis d).board t =
    if d = c ∧ t = s then some n else (g.chassis d).board t := by
  by_cases hd : d = c
  · subst hd
    have hcell : (g.place n d s).chassis d = (g.chassis d).setBoard n s := if_pos rfl
    rw [hcell, Chassis.board_setBoard]
    simp
  · have hcell : (g.place n c s).chassis d = g.chassis d := if_neg hd
    rw [hcell]
    simp [hd]

@[simp] theorem nodes_place : ((g.place n c s).chassis d).nodes = (g.chassis d).nodes := by
  by_cases hd : d = c
  · subst hd
    have hcell : (g.place n d s).chassis d = (g.chassis d).setBoard n s := if_pos rfl
    rw [hcell, Chassis.nodes_setBoard]
  · have hcell : (g.place n c s).chassis d = g.chassis d := if_neg hd
    rw [hcell]

@[simp] theorem placed_place :
    (g.place n c s).placed = ⟨n, c, s, (g.ch n).chassis⟩ :: g.placed := rfl

@[simp] theorem chassisCount_place : (g.place n c s).chassisCount = g.chassisCount := rfl

end Place

end Grouping

namespace Fabric

/-- The GUIDs that agree with `value` where `mask` is set. -/
def guidIs (mask value guid : UInt64) : Bool := guid &&& mask = value

def ibndIsXsigoGuid : UInt64 → Bool := guidIs 0xffffff0000000000 0x0013970000000000

def isXsigoLeafone : UInt64 → Bool := guidIs 0xffffffffff000000 0x0013970102000000

def ibndIsXsigoHca : UInt64 → Bool := guidIs 0xffffffff00000000 0x0013970200000000

def ibndIsXsigoTca : UInt64 → Bool := guidIs 0xffffffff00000000 0x0013970300000000

def isXsigoCa (guid : UInt64) : Bool := ibndIsXsigoHca guid || ibndIsXsigoTca guid

def isXsigoSwitch : UInt64 → Bool := guidIs 0xffffffff00000000 0x0013970100000000

def xsigoChassisguid (f : Fabric) (n : NodeRef) : Except Fault UInt64 :=
  let sysimgguid := (f.node n).sysimgguid
  if !isXsigoCa sysimgguid then
    .ok (if isXsigoSwitch sysimgguid then sysimgguid &&& 0xffffffff00ffffff else sysimgguid)
  else do
    match ← f.slot n 1 with
    | none => .ok 0
    | some p =>
        match f.remoteport p with
        | none => .ok sysimgguid
        | some r =>
            let remoteSysimgguid := (f.node (f.port r).node).sysimgguid
            .ok (if isXsigoLeafone remoteSysimgguid then remoteSysimgguid &&& 0xffffffff00ffffff
              else sysimgguid)

def topspinChassisguid (guid : UInt64) : UInt64 := guid &&& 0xffffffff00ffffff

def getChassisguid (f : Fabric) (n : NodeRef) : Except Fault UInt64 :=
  let vendid := (f.node n).vendid
  let sysimgguid := (f.node n).sysimgguid
  if vendid = tsVendorId || vendid = ssVendorId then .ok (topspinChassisguid sysimgguid)
  else if vendid = xsVendorId || ibndIsXsigoGuid sysimgguid then f.xsigoChassisguid n
  else .ok sysimgguid

/-- `find_chassisguid`: a search along `fabric->chassis`. -/
def findChassisguid (f : Fabric) (g : Grouping) (n : NodeRef) :
    Except Fault (Option ChassisRef) := do
  let chguid ← f.getChassisguid n
  .ok (if g.listed then
    (List.range g.chassisCount).find? fun c => (g.chassis c).chassisguid = chguid else none)

end Fabric
end InfinibandDiags
