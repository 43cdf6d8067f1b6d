import InfinibandDiags.Fabric.Basic
import InfinibandDiags.Mad.Codec
import InfinibandDiags.Portstate.Args

/-! What ibportstate makes of a PortInfo before it sets it. -/
namespace InfinibandDiags
namespace Ibportstate

/-- The fields of a PortInfo that are written. -/
inductive PortField
  | mkey | lid | smlid | mkeyLease | linkWidthEnabled | state | physState | mkeyProtBits | lmc
  | linkSpeedEnabled | neighborMtu | operVls | linkSpeedExtEnabled
  deriving DecidableEq

namespace PortField

/-- The numbers of `IB_PORT_MKEY_F` and of the others. -/
def number : PortField → Nat
  | .mkey => 27
  | .lid => 29
  | .smlid => 30
  | .mkeyLease => 33
  | .linkWidthEnabled => 35
  | .state => 39
  | .physState => 40
  | .mkeyProtBits => 42
  | .lmc => 43
  | .linkSpeedEnabled => 45
  | .neighborMtu => 46
  | .operVls => 57
  | .linkSpeedExtEnabled => 326

def field (f : PortField) : IbField := tableField f.number

/-- `mad_get_field`, and `mad_get_field64` for the M_Key. -/
def get (data : Bytes) (f : PortField) : Nat :=
  if f = .mkey then (getField64 data 0 f.field).toNat else getField data 0 f.field

/-- `mad_set_field`, and `mad_set_field64` for the M_Key. -/
def set (data : Bytes) (f : PortField) (val : Nat) : Bytes :=
  if f = .mkey then setField64 data 0 f.field (UInt64.ofNat val) else setField data 0 f.field val

end PortField

/-- A LID that is not set and that the SMA would refuse becomes an unlikely one. -/
def defaultLid (given : Option Nat) (f : PortField) (data : Bytes) : Bytes :=
  let val := f.get data
  if given = none ∧ (val = 0 ∨ val = 0xffff) then f.set data 0x1234 else data

def setGiven (given : Option Nat) (f : PortField) (data : Bytes) : Bytes :=
  given.elim data (f.set data)

/-- The operation's own writes, `none` for a port that is enabled already. -/
def setOp (op : PortOp) (physstate : Nat) (data : Bytes) : Option Bytes :=
  match op with
  | .on => if physstate ≠ 3 then none else some (PortField.physState.set data 2)
  | .enable | .reset => some (PortField.physState.set data 2)
  | .off | .disable => some (PortField.physState.set data 3)
  | .down => some (PortField.state.set data 1)
  | .arm => some (PortField.state.set data 3)
  | .active => some (PortField.state.set data 4)
  | .query => some data

/-- The static of a parameter, 0 as long as it is not given. -/
def Settings.value (s : Settings) (p : PortParam) : Nat := (s.param p).getD 0

/-- In front of the operation: LIDs that the SMA takes, and no change of state. -/
def preparePortInfo (s : Settings) (data : Bytes) : Bytes :=
  let data := defaultLid (s.param .lid) .lid data
  let data := defaultLid (s.param .smlid) .smlid data
  let data := PortField.state.set data 0
  PortField.physState.set data 0

/-- Behind the operation. -/
def setParams (s : Settings) (data : Bytes) : Bytes :=
  -- always set enabled speeds/width
  let data := PortField.linkSpeedEnabled.set data (s.value .speed)
  let data := PortField.linkSpeedExtEnabled.set data (s.value .espeed)
  let data := PortField.linkWidthEnabled.set data (s.value .width)
  let data := setGiven (s.param .vls) .operVls data
  let data := setGiven (s.param .mtu) .neighborMtu data
  let data := setGiven (s.param .lid) .lid data
  let data := setGiven (s.param .smlid) .smlid data
  let data := setGiven (s.param .lmc) .lmc data
  let data := setGiven (s.param .mkey) .mkey data
  let data := setGiven (s.param .mkeylease) .mkeyLease data
  setGiven (s.param .mkeyprot) .mkeyProtBits data

/-- The PortInfo that is sent, for the one that was read. -/
def updatePortInfo (s : Settings) (op : PortOp) (data : Bytes) : Option Bytes :=
  let physstate := PortField.physState.get data
  (setOp op physstate (preparePortInfo s data)).map (setParams s)

/-- `changed` of `main`: a parameter is given. -/
def Settings.changed (s : Settings) : Bool :=
  [PortParam.speed, .espeed, .fdr10, .width, .vls, .mtu, .lid, .smlid, .lmc, .mkey, .mkeylease,
    .mkeyprot].any fun p => (s.param p).isSome

def Settings.setsMkey (s : Settings) : Bool :=
  [PortParam.mkey, .mkeylease, .mkeyprot].any fun p => (s.param p).isSome

/-- `main` behind the queries: the PortInfo that is sent in a Set, if one is. -/
def portInfoSet (args : List Bytes) (pass : Bytes) (isSwitch : Bool) (portnum : Int)
    (data : SmpData) : Except Exit (Option Bytes) := do
  let s ← parseArgs pass args .initial
  let op := s.op.getD .query
  if s.setsMkey && isSwitch && portnum ≠ 0 then .error .mkeyOnSwitchPort
  else if op ≠ .query || s.changed then .ok (updatePortInfo s op data.bytes)
  else .ok none

end Ibportstate
end InfinibandDiags
