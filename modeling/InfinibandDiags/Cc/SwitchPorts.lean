import InfinibandDiags.Errors.Config
import InfinibandDiags.Library.Paged
import InfinibandDiags.Mad.Layouts

/-! SwitchPortCongestionSetting: how ibccconfig sets the element of a port, and how ibccquery reads
it. -/
namespace InfinibandDiags

def ibCcSwitchPortCongestionSettingElementValid : Nat := 562
def ibCcSwitchPortCongestionSettingElementControlType : Nat := 563
def ibCcSwitchPortCongestionSettingElementThreshold : Nat := 564
def ibCcSwitchPortCongestionSettingElementPacketSize : Nat := 565
def ibCcSwitchPortCongestionSettingElementCongParmMarkingRate : Nat := 566

/-- `SwitchPortCongestionSettingElement`. -/
@[ext]
structure PortElement where
  bytes : Bytes
  length_eq : bytes.length = 4
  deriving DecidableEq

/-- A switch with the elements of its ports, in blocks of 48 that an attribute modifier selects. -/
structure CcSwitch where
  nodeType : Nat
  numPorts : Nat
  table : Nat → PortElement
  /-- The attribute modifiers that requests are answered for. -/
  answers : Nat → Bool
  numPorts_le : numPorts ≤ 254
  answers_own : ∀ b, 48 * b ≤ numPorts → answers b = true

def PortElement.ofBytes (payload : Bytes) (i : Nat) : PortElement where
  bytes := bytesAt payload (4 * i) 4
  length_eq := by rw [bytesAt, List.length_map, List.length_range]

/-- The data of a Get response. -/
def CcSwitch.block (sw : CcSwitch) (b : Nat) : Bytes :=
  (Paged.page 48 sw.table b).flatMap PortElement.bytes

/-- The switch after a Set. -/
def CcSwitch.setBlock (sw : CcSwitch) (b : Nat) (payload : Bytes) : CcSwitch :=
  { sw with
    table := Paged.store 48 sw.table b ((List.range 48).map (PortElement.ofBytes payload)) }

namespace Ibccconfig

/-- `strtoul(arg, &endptr, 0)` up to where it ends: the digits of the numeral, their base, its sign
and what is left at `endptr`. -/
def scanNumeral (arg : Bytes) : Bool × Nat × Bytes × Bytes :=
  let (negative, body) :=
    match arg.dropWhile isSpace with
    | 45 :: body => (true, body)
    | 43 :: body => (false, body)
    | body => (false, body)
  let (base, digits) := numeralBase body
  let numeral := digits.takeWhile (isDigitOf base)
  (negative, base, numeral, if numeral = [] then arg else digits.dropWhile (isDigitOf base))

/-- `parseint`, whose result is kept in a `uint32_t`. -/
def parseint (arg : Bytes) : Except String Nat :=
  let (negative, base, numeral, endptr) := scanNumeral arg
  let value := numeral.foldl (fun v c => base * v + digitValue c) 0
  if value ≥ 2 ^ 64 then .error "value out of range"
  else if endptr ≠ [] then .error "invalid integer input"
  else .ok (unsignedLong negative value % 2 ^ 32)

/-- The parameters of an element. -/
structure PortSetting where
  valid : Nat
  controlType : Nat
  threshold : Nat
  packetSize : Nat
  congParmMarkingRate : Nat
  deriving DecidableEq

def portSettingArgs : List Bytes → Except String (Nat × PortSetting)
  | [portnum, valid, controlType, threshold, packetSize, congParmMarkingRate] => do
      let portnum ← parseint portnum
      let valid ← parseint valid
      let controlType ← parseint controlType
      let threshold ← parseint threshold
      let packetSize ← parseint packetSize
      let congParmMarkingRate ← parseint congParmMarkingRate
      .ok (portnum, ⟨valid, controlType, threshold, packetSize, congParmMarkingRate⟩)
  | _ => .error "invalid number of parameters for SwitchPortCongestion"

/-- `mad_encode_field` with the address of a `uint32_t`. -/
def encodeUint32 (ptr : Bytes) (field value : Nat) : Bytes :=
  madEncodeField ptr field (LittleEndian.toBytes 4 value)

def encodeSetting (ptr : Bytes) (s : PortSetting) : Bytes :=
  let ptr := encodeUint32 ptr ibCcSwitchPortCongestionSettingElementValid s.valid
  let ptr := encodeUint32 ptr ibCcSwitchPortCongestionSettingElementControlType s.controlType
  let ptr := encodeUint32 ptr ibCcSwitchPortCongestionSettingElementThreshold s.threshold
  let ptr := encodeUint32 ptr ibCcSwitchPortCongestionSettingElementPacketSize s.packetSize
  encodeUint32 ptr ibCcSwitchPortCongestionSettingElementCongParmMarkingRate s.congParmMarkingRate

/-- What is done to the buffer from `ptr = payload + offset` on. -/
def atOffset (payload : Bytes) (offset : Nat) (f : Bytes → Bytes) : Bytes :=
  payload.take offset ++ f (payload.drop offset)

/-- The switch afterwards, or the error. -/
def switchPortCongestionSetting (sw : CcSwitch) (argv : List Bytes) : Except String CcSwitch := do
  let (portnum, setting) ← portSettingArgs argv
  if sw.nodeType ≠ ibNodeSwitch then .error "destination not a switch"
  else if portnum > sw.numPorts then .error "invalid port number specified"
  else if sw.answers (portnum / 32) = false then
    .error "switch port congestion setting query failed"
  else
    let payload :=
      atOffset (sw.block (portnum / 32)) (portnum % 32 * 4) fun ptr => encodeSetting ptr setting
    if sw.answers (portnum / 48) = false then
      .error "switch port congestion setting config failed"
    else .ok (sw.setBlock (portnum / 48) payload)

end Ibccconfig

namespace Ibccquery

/-- The fields that `mad_dump_cc_switchportcongestionsettingelement` prints. -/
def elementFields (data : Bytes) : List Nat :=
  madDumpCcSwitchportcongestionsettingelement.map fun e => getField data 0 e.field

/-- The loop over the elements of a block, with what is printed so far: a port and its fields. -/
def portLoop (numports i : Nat) (data : Bytes) :
    Nat → Nat → List (Nat × List Nat) → List (Nat × List Nat)
  | 0, _, out => out
  | left + 1, j, out =>
      if out.length ≤ numports then
        portLoop numports i data left (j + 1)
          (out ++ [(i * 48 + j, elementFields (data.drop (j * 4)))])
      else out

/-- The loop over the blocks. -/
def blockLoop (sw : CcSwitch) :
    Nat → Nat → List (Nat × List Nat) → Except String (List (Nat × List Nat))
  | 0, _, out => .ok out
  | left + 1, i, out =>
      if sw.answers i = false then .error "switch port congestion setting query failed"
      else blockLoop sw left (i + 1) (portLoop sw.numPorts i (sw.block i) 48 0 out)

/-- For a port number that is not negative: the ports that are printed, with their fields. -/
def switchPortCongestionSetting (sw : CcSwitch) (portnum : Nat) :
    Except String (List (Nat × List Nat)) :=
  if sw.nodeType ≠ ibNodeSwitch then .error "destination not a switch"
  else if portnum ≠ 0 then
    if portnum > sw.numPorts then .error "invalid port number specified"
    else if sw.answers (portnum / 48) = false then
      .error "switch port congestion setting query failed"
    else .ok [(portnum, elementFields ((sw.block (portnum / 48)).drop (portnum % 48 * 4)))]
  else blockLoop sw (sw.numPorts / 48 + 1) 0 []

end Ibccquery
end InfinibandDiags
