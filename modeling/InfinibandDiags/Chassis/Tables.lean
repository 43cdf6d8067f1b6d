import InfinibandDiags.Fabric.Basic

/-! Vendors, boards and the slot-translation tables of chassis.c and chassis.h. -/
namespace InfinibandDiags

def vtrVendorId : Nat := 0x8f1
def mlxVendorId : Nat := 0x2c9
def tsVendorId : Nat := 0x5ad
def ssVendorId : Nat := 0x66a
def xsVendorId : Nat := 0x1397

def vtrDevidIbFcRouter : Nat := 0x5a00
def vtrDevidIbIpRouter : Nat := 0x5a01
def vtrDevidSlb24 : Nat := 0x5a09
def vtrDevidSfb12 : Nat := 0x5a08
def vtrDevidSfb4 : Nat := 0x5a0b
def vtrDevidSlb8 : Nat := 0x5a0d
def vtrDevidSfb12Ddr : Nat := 0x5a32
def vtrDevidSfb4Ddr : Nat := 0x5a33
def vtrDevidSlb24Ddr : Nat := 0x5a34
def vtrDevidSfb2012 : Nat := 0x5a37
def vtrDevidSlb2024 : Nat := 0x5a38
def vtrDevidSfb2004 : Nat := 0x5a40
def vtrDevidSrb2004 : Nat := 0x5a42
def vtrDevidSlb4018 : Nat := 0x5a5b
def vtrDevidSfb4700 : Nat := 0x5a5c
def vtrDevidSfb4700X2 : Nat := 0x5a5d
def vtrDevidSfb4200 : Nat := 0x5a60
def mlxDevidIs4 : Nat := 0xbd36

namespace Node
variable (n : Node)

def vendid : Nat := n.info.field .nodeVendorid

def devid : Nat := n.info.field .nodeDevid

def sysimgguid : UInt64 := n.info.field64 .nodeSystemGuid

def isRouter : Bool := n.devid = vtrDevidIbFcRouter || n.devid = vtrDevidIbIpRouter

def isSpine9096 : Bool := n.devid = vtrDevidSfb4 || n.devid = vtrDevidSfb4Ddr

def isSpine9288 : Bool := n.devid = vtrDevidSfb12 || n.devid = vtrDevidSfb12Ddr

def isSpine2004 : Bool := n.devid = vtrDevidSfb2004

def isSpine2012 : Bool := n.devid = vtrDevidSfb2012

def isSpine4700 : Bool := n.devid = vtrDevidSfb4700

def isSpine4700x2 : Bool := n.devid = vtrDevidSfb4700X2

def isSpine4200 : Bool := n.devid = vtrDevidSfb4200

def isSpine : Bool :=
  n.isSpine9096 || n.isSpine9288 || n.isSpine2004 || n.isSpine2012 || n.isSpine4700 ||
    n.isSpine4700x2 || n.isSpine4200

def isLine24 : Bool :=
  n.devid = vtrDevidSlb24 || n.devid = vtrDevidSlb24Ddr || n.devid = vtrDevidSrb2004

def isLine8 : Bool := n.devid = vtrDevidSlb8

def isLine2024 : Bool := n.devid = vtrDevidSlb2024

def isLine4700 : Bool := n.devid = vtrDevidSlb4018

def isLine : Bool := n.isLine24 || n.isLine8 || n.isLine2024 || n.isLine4700

end Node

/-- `enum ibnd_chassis_type`. -/
inductive ChassisType
  | unresolvedCt | isr9288Ct | isr9096Ct | isr2012Ct | isr2004Ct | isr4700Ct | isr4200Ct
  deriving DecidableEq, Repr

/-- `enum ibnd_chassis_slot_type`. -/
inductive ChassisSlotType
  | unresolvedCs | lineCs | spineCs | srbdCs
  deriving DecidableEq, Repr

/-- A table over the port numbers of a board, `const char [37]`. -/
abbrev SlotTable := Vector UInt8 37

/-- An access outside a slot-translation table. -/
def tableAt {α : Type} {n : Nat} (table : Vector α n) (i : Nat) : Except Fault α :=
  if h : i < n then .ok table[i] else .error .tableIndex

theorem tableAt_eq_error {α : Type} {n : Nat} {table : Vector α n} {i : Nat} {fault : Fault} :
    tableAt table i = .error fault ↔ n ≤ i ∧ fault = .tableIndex := by
  unfold tableAt
  by_cases h : i < n
  · simp [h]
  · simp [h, Nat.not_lt.mp h, eq_comm]

theorem tableAt_of_lt {α : Type} {n : Nat} {table : Vector α n} {i : Nat} (h : i < n) :
    tableAt table i = .ok table[i] := dif_pos h

def lineSlot2Sfb4 : SlotTable :=
  ⟨#[0, 1, 1, 1, 1, 1, 1, 2, 2, 2, 2, 2, 2, 3, 3, 3, 3, 3, 3, 4, 4, 4, 4, 4, 4, 0, 0, 0, 0, 0,
    0, 0, 0, 0, 0, 0, 0], rfl⟩

def anafaLineSlot2Sfb4 : SlotTable :=
  ⟨#[0, 1, 1, 1, 2, 2, 2, 1, 1, 1, 2, 2, 2, 1, 1, 1, 2, 2, 2, 1, 1, 1, 2, 2, 2, 0, 0, 0, 0, 0,
    0, 0, 0, 0, 0, 0, 0], rfl⟩

def lineSlot2Sfb12 : SlotTable :=
  ⟨#[0, 1, 1, 2, 2, 3, 3, 4, 4, 5, 5, 6, 6, 7, 7, 8, 8, 9, 9, 10, 10, 11, 11, 12, 12, 0, 0, 0,
    0, 0, 0, 0, 0, 0, 0, 0, 0], rfl⟩

def anafaLineSlot2Sfb12 : SlotTable :=
  ⟨#[0, 1, 2, 1, 2, 1, 2, 1, 2, 1, 2, 1, 2, 1, 2, 1, 2, 1, 2, 1, 2, 1, 2, 1, 2, 0, 0, 0, 0, 0,
    0, 0, 0, 0, 0, 0, 0], rfl⟩

def lineSlot2Sfb18 : SlotTable :=
  ⟨#[0, 1, 1, 2, 2, 3, 3, 4, 4, 5, 5, 6, 6, 7, 7, 8, 8, 9, 9, 10, 10, 11, 11, 12, 12, 13, 13,
    14, 14, 15, 15, 16, 16, 17, 17, 18, 18], rfl⟩

def anafaLineSlot2Sfb18 : SlotTable :=
  ⟨#[0, 1, 1, 1, 1, 1, 1, 1, 1, 1, 1, 1, 1, 1, 1, 1, 1, 1, 1, 1, 1, 1, 1, 1, 1, 1, 1, 1, 1, 1,
    1, 1, 1, 1, 1, 1, 1], rfl⟩

def lineSlot2Sfb18x2 : SlotTable :=
  ⟨#[0, 1, 2, 3, 4, 5, 6, 7, 8, 9, 10, 11, 12, 13, 14, 15, 16, 17, 18, 0, 0, 0, 0, 0, 0, 0, 0,
    0, 0, 0, 0, 0, 0, 0, 0, 0, 0], rfl⟩

def anafaLineSlot2Sfb18x2 : SlotTable :=
  ⟨#[0, 1, 1, 1, 1, 1, 1, 1, 1, 1, 1, 1, 1, 1, 1, 1, 1, 1, 1, 0, 0, 0, 0, 0, 0, 0, 0, 0, 0, 0,
    0, 0, 0, 0, 0, 0, 0], rfl⟩

def lineSlot2Sfb4200 : SlotTable :=
  ⟨#[0, 1, 1, 1, 1, 2, 2, 2, 2, 3, 3, 3, 3, 4, 4, 4, 4, 5, 5, 5, 5, 6, 6, 6, 6, 7, 7, 7, 7, 8,
    8, 8, 8, 9, 9, 9, 9], rfl⟩

def anafaLineSlot2Sfb4200 : SlotTable :=
  ⟨#[0, 1, 1, 1, 1, 1, 1, 1, 1, 1, 1, 1, 1, 1, 1, 1, 1, 1, 1, 1, 1, 1, 1, 1, 1, 1, 1, 1, 1, 1,
    1, 1, 1, 1, 1, 1, 1], rfl⟩

def iprSlot2Sfb4Port : SlotTable :=
  ⟨#[0, 3, 2, 1, 3, 2, 1, 3, 2, 1, 3, 2, 1, 3, 2, 1, 3, 2, 1, 3, 2, 1, 3, 2, 1, 0, 0, 0, 0, 0,
    0, 0, 0, 0, 0, 0, 0], rfl⟩

def spine12Slot2Slb : SlotTable :=
  ⟨#[0, 1, 1, 1, 2, 2, 2, 3, 3, 3, 4, 4, 4, 0, 0, 0, 0, 0, 0, 0, 0, 0, 0, 0, 0, 0, 0, 0, 0, 0,
    0, 0, 0, 0, 0, 0, 0], rfl⟩

def anafaSpine12Slot2Slb : SlotTable :=
  ⟨#[0, 1, 2, 3, 1, 2, 3, 1, 2, 3, 1, 2, 3, 0, 0, 0, 0, 0, 0, 0, 0, 0, 0, 0, 0, 0, 0, 0, 0, 0,
    0, 0, 0, 0, 0, 0, 0], rfl⟩

def spine4Slot2Slb : SlotTable :=
  ⟨#[0, 1, 1, 1, 2, 2, 2, 3, 3, 3, 4, 4, 4, 0, 0, 0, 0, 0, 0, 0, 0, 0, 0, 0, 0, 0, 0, 0, 0, 0,
    0, 0, 0, 0, 0, 0, 0], rfl⟩

def anafaSpine4Slot2Slb : SlotTable :=
  ⟨#[0, 1, 1, 1, 1, 1, 1, 1, 1, 1, 1, 1, 1, 0, 0, 0, 0, 0, 0, 0, 0, 0, 0, 0, 0, 0, 0, 0, 0, 0,
    0, 0, 0, 0, 0, 0, 0], rfl⟩

def spine18Slot2Slb : SlotTable :=
  ⟨#[0, 1, 1, 2, 2, 3, 3, 4, 4, 5, 5, 6, 6, 7, 7, 8, 8, 9, 9, 0, 0, 0, 0, 0, 0, 0, 0, 0, 0, 0,
    0, 0, 0, 0, 0, 0, 0], rfl⟩

def anafaSpine18Slot2Slb : SlotTable :=
  ⟨#[0, 1, 1, 1, 1, 1, 1, 1, 1, 1, 1, 1, 1, 1, 1, 1, 1, 1, 1, 0, 0, 0, 0, 0, 0, 0, 0, 0, 0, 0,
    0, 0, 0, 0, 0, 0, 0], rfl⟩

def anafaSpine18x2Slot2Slb : SlotTable :=
  ⟨#[0, 2, 1, 2, 1, 2, 1, 2, 1, 2, 1, 2, 1, 2, 1, 2, 1, 2, 1, 0, 0, 0, 0, 0, 0, 0, 0, 0, 0, 0,
    0, 0, 0, 0, 0, 0, 0], rfl⟩

def sfb4200Slot2Slb : SlotTable :=
  ⟨#[0, 1, 1, 1, 1, 0, 0, 2, 2, 2, 2, 3, 3, 3, 3, 4, 4, 4, 4, 0, 0, 0, 0, 0, 0, 0, 0, 0, 0, 0,
    0, 0, 0, 0, 0, 0, 0], rfl⟩

def anafaSfb4200Slot2Slb : SlotTable :=
  ⟨#[0, 1, 1, 1, 1, 1, 1, 1, 1, 1, 1, 1, 1, 1, 1, 1, 1, 1, 1, 0, 0, 0, 0, 0, 0, 0, 0, 0, 0, 0,
    0, 0, 0, 0, 0, 0, 0], rfl⟩

/-- The external port numbers of a board with two chips. -/
abbrev PortMap (ports : Nat) := Vector (Vector Nat ports) 2

def int2extMapSlb24 : PortMap 25 :=
  ⟨#[⟨#[0, 0, 0, 0, 0, 0, 0, 0, 0, 0, 0, 0, 0, 6, 5, 4, 18, 17, 16, 1, 2, 3, 13, 14, 15], rfl⟩,
    ⟨#[0, 0, 0, 0, 0, 0, 0, 0, 0, 0, 0, 0, 0, 12, 11, 10, 24, 23, 22, 7, 8, 9, 19, 20, 21], rfl⟩], rfl⟩

def int2extMapSlb8 : PortMap 25 :=
  ⟨#[⟨#[0, 0, 0, 0, 0, 0, 0, 0, 0, 0, 0, 0, 0, 2, 2, 2, 6, 6, 6, 1, 1, 1, 5, 5, 5], rfl⟩,
    ⟨#[0, 0, 0, 0, 0, 0, 0, 0, 0, 0, 0, 0, 0, 4, 4, 4, 8, 8, 8, 3, 3, 3, 7, 7, 7], rfl⟩], rfl⟩

def int2extMapSlb2024 : PortMap 25 :=
  ⟨#[⟨#[0, 0, 0, 0, 0, 0, 0, 0, 0, 0, 0, 0, 0, 13, 14, 15, 16, 17, 18, 19, 20, 21, 22, 23, 24], rfl⟩,
    ⟨#[0, 0, 0, 0, 0, 0, 0, 0, 0, 0, 0, 0, 0, 1, 2, 3, 4, 5, 6, 7, 8, 9, 10, 11, 12], rfl⟩], rfl⟩

def int2extMapSfb4700x2 : PortMap 37 :=
  ⟨#[⟨#[0, 0, 0, 0, 0, 0, 0, 0, 0, 0, 0, 0, 0, 0, 0, 0, 0, 0, 0, 7, 7, 7, 8, 8, 8, 9, 9, 9, 10,
    10, 10, 11, 11, 11, 12, 12, 12], rfl⟩,
    ⟨#[0, 0, 0, 0, 0, 0, 0, 0, 0, 0, 0, 0, 0, 0, 0, 0, 0, 0, 0, 1, 1, 1, 2, 2, 2, 3, 3, 3, 4,
    4, 4, 5, 5, 5, 6, 6, 6], rfl⟩], rfl⟩

def int2extMapSlb4018 : Vector Nat 37 :=
  ⟨#[0, 0, 0, 0, 0, 0, 0, 0, 0, 0, 0, 0, 0, 0, 0, 0, 0, 0, 0, 1, 2, 3, 4, 5, 6, 7, 8, 9, 10,
    11, 12, 13, 14, 15, 16, 17, 18], rfl⟩

/-- What the remote line port tells about a spine: the chassis type, and the tables of slot
and chip numbers over the ports of the line. -/
def sfbTables (n : Node) : Option (ChassisType × SlotTable × SlotTable) :=
  if n.isSpine9096 then some (.isr9096Ct, spine4Slot2Slb, anafaSpine4Slot2Slb)
  else if n.isSpine9288 then some (.isr9288Ct, spine12Slot2Slb, anafaSpine12Slot2Slb)
  else if n.isSpine2012 then some (.isr2012Ct, spine12Slot2Slb, anafaSpine12Slot2Slb)
  else if n.isSpine2004 then some (.isr2004Ct, spine4Slot2Slb, anafaSpine4Slot2Slb)
  else if n.isSpine4700 then some (.isr4700Ct, spine18Slot2Slb, anafaSpine18Slot2Slb)
  else if n.isSpine4700x2 then some (.isr4700Ct, spine18Slot2Slb, anafaSpine18x2Slot2Slb)
  else if n.isSpine4200 then some (.isr4200Ct, sfb4200Slot2Slb, anafaSfb4200Slot2Slb)
  else none

/-- What the spine at the other end tells about a line, over the ports of the spine. -/
def slbTables (spine : Node) : Option (ChassisType × SlotTable × SlotTable) :=
  if spine.isSpine9096 then some (.isr9096Ct, lineSlot2Sfb4, anafaLineSlot2Sfb4)
  else if spine.isSpine9288 then some (.isr9288Ct, lineSlot2Sfb12, anafaLineSlot2Sfb12)
  else if spine.isSpine2012 then some (.isr2012Ct, lineSlot2Sfb12, anafaLineSlot2Sfb12)
  else if spine.isSpine2004 then some (.isr2004Ct, lineSlot2Sfb4, anafaLineSlot2Sfb4)
  else if spine.isSpine4700 then some (.isr4700Ct, lineSlot2Sfb18, anafaLineSlot2Sfb18)
  else if spine.isSpine4700x2 then some (.isr4700Ct, lineSlot2Sfb18x2, anafaLineSlot2Sfb18x2)
  else if spine.isSpine4200 then some (.isr4200Ct, lineSlot2Sfb4200, anafaLineSlot2Sfb4200)
  else none

/-- The chip of a router at an sFB-12, guessed from the node GUID of the spine. -/
def guessAnafanum (guid : UInt64) : UInt8 :=
  let guessnum := guid % 4
  if guessnum = 3 then 1 else if guessnum = 1 then 3 else 2

/-- What the spine at the other end tells about a router. Its chip number is read from a table
or, without one, guessed. -/
def routerTables (spine : Node) : Option (ChassisType × SlotTable × Option SlotTable) :=
  if spine.isSpine9096 then some (.isr9096Ct, lineSlot2Sfb4, some iprSlot2Sfb4Port)
  else if spine.isSpine9288 then some (.isr9288Ct, lineSlot2Sfb12, none)
  else if spine.isSpine2012 then some (.isr2012Ct, lineSlot2Sfb12, none)
  else if spine.isSpine2004 then some (.isr2004Ct, lineSlot2Sfb4, some iprSlot2Sfb4Port)
  else none

end InfinibandDiags
