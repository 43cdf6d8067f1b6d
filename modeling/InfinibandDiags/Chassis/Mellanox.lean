import InfinibandDiags.Chassis.Voltaire
import InfinibandDiags.Discover.DirectRoute

/-! Mellanox chassis: the record of a board is read off its node description (chassis.c). -/
namespace InfinibandDiags

/-- What `fill_mellanox_chassis_record` reads from a description
`MF0;<system name>:<system type>/<system slot name>[:board type]/U<node index>`. The texts end
where a separator was overwritten. -/
structure MellanoxDesc where
  systemType : Bytes
  systemSlotName : Bytes
  nodeIndex : UInt8
  deriving DecidableEq, Repr

/-- The text up to a separator or a NUL, that character, and what follows it. The copy of the
description need not hold either. -/
def scanTo (separators : Bytes) : Bytes → Except Fault (Bytes × UInt8 × Bytes)
  | [] => .error .outOfBounds
  | c :: rest =>
      if c ∈ separators ∨ c = 0 then .ok ([], c, rest)
      else do
        let (text, separator, rest) ← scanTo separators rest
        .ok (c :: text, separator, rest)

/-- `(unsigned char) atoi(s)` of a string that need not end before its buffer does. -/
def byteOfString (s : Bytes) : Except Fault UInt8 :=
  let digits (s : Bytes) := s.dropWhile isDigit
  let rest :=
    match s.dropWhile isSpace with
    | 45 :: s => digits s
    | 43 :: s => digits s
    | s => digits s
  if rest = [] then .error .outOfBounds else .ok (UInt8.ofInt (atoi s))

def colon : UInt8 := 58
def slash : UInt8 := 47

/-- After the slot name, and after the board type if there is one: `U` and the node index. -/
def parseNodeIndex (systemType systemSlotName : Bytes) : Bytes →
    Except Fault (Option MellanoxDesc)
  | [] => .error .outOfBounds
  | c :: rest =>
      if c ≠ 85 then .ok none
      else do
        let nodeIndex ← byteOfString rest
        .ok (some ⟨systemType, systemSlotName, nodeIndex⟩)

/-- After the slot name: a board type that is left out, or not. -/
def parseBoardType (systemType systemSlotName : Bytes) (separator : UInt8) (rest : Bytes) :
    Except Fault (Option MellanoxDesc) :=
  if separator = colon then do
    let (_, separator, rest) ← scanTo [slash] rest
    if separator = 0 then .ok none else parseNodeIndex systemType systemSlotName rest
  else parseNodeIndex systemType systemSlotName rest

/-- `none` is an unsupported format. -/
def parseNodeDesc (nodeDesc : Bytes) : Except Fault (Option MellanoxDesc) :=
  if nodeDesc.take 4 ≠ [77, 70, 48, 59] then .ok none
  else do
    let (_, separator, rest) ← scanTo [colon] (nodeDesc.drop 4)
    if separator = 0 then .ok none
    else
      let (systemType, separator, rest) ← scanTo [slash] rest
      if separator = 0 then .ok none
      else
        let (systemSlotName, separator, rest) ← scanTo [slash, colon] rest
        if separator = 0 then .ok none
        else parseBoardType systemType systemSlotName separator rest

/-- `L` or `S` at the start of a slot name. -/
def slotOfName : Bytes → ChassisSlotType
  | 76 :: _ => .lineCs
  | 83 :: _ => .spineCs
  | _ => .unresolvedCs

/-- The highest slot number that is let through, one more than there are slots. -/
def slotLimit : ChassisSlotType → Nat
  | .lineCs => linesMaxNum + 1
  | .spineCs => spinesMaxNum + 1
  | _ => 0

def chassisTypeSize : Nat := 20

namespace Fabric
variable (f : Fabric)

/-- A round of the loop that maps line ports 1-18 to external ports 1-18. -/
def mapMellanoxPort (n : NodeRef) (g : Grouping) (k : Nat) : Except Fault Grouping := do
  match ← f.slot n k with
  | none => .ok g
  | some p => .ok (if k ≤ 18 then g.setExtPortnum p k else g)

/-- The slot of a board whose description was understood. -/
def setMellanoxSlot (g : Grouping) (n : NodeRef) (desc : MellanoxDesc) : Except Fault Grouping :=
  let chSlot := slotOfName desc.systemSlotName
  let number := UInt8.ofInt (atoi desc.systemSlotName.tail)
  let g := g.modifyCh n fun info => { info with chFound := true, chSlot }
  if slotLimit chSlot < number.toNat then
    .ok (g.modifyCh n fun info => { info with chSlotnum := 0 })
  else
    let g := g.modifyCh n fun info =>
      { info with chSlotnum := number, chTypeStr := desc.systemType.take (chassisTypeSize - 1) }
    if chSlot = .lineCs then (f.portNumbers n).foldlM (f.mapMellanoxPort n) g else .ok g

def fillMellanoxChassisRecord (g : Grouping) (n : NodeRef) : Except Fault Grouping :=
  if (g.ch n).chFound then .ok g
  else if (f.node n).devid ≠ mlxDevidIs4 then .ok g
  else do
    match ← parseNodeDesc (f.node n).nodedesc.bytes with
    | none => .ok g
    | some desc =>
        let g := g.modifyCh n fun info => { info with chAnafanum := desc.nodeIndex }
        if slotOfName desc.systemSlotName = .unresolvedCs then .ok g
        else f.setMellanoxSlot g n desc

/-- An index into `linenode` or `spinenode`. -/
def slotIndex (size i : Nat) : Except Fault Nat := if i < size then .ok i else .error .outOfBounds

def insertMellanoxLineAndSpine (g : Grouping) (n : NodeRef) (c : ChassisRef) :
    Except Fault Grouping :=
  let info := g.ch n
  match info.chSlot with
  | .lineCs => do
      let i ← slotIndex (linesMaxNum + 1) info.chSlotnum.toNat
      .ok (g.insert n c (.line i))
  | .spineCs => do
      let i ← slotIndex (spinesMaxNum + 1) info.chSlotnum.toNat
      .ok (g.insert n c (.spine i))
  | _ => .ok g

end Fabric
end InfinibandDiags
