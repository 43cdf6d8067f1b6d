import InfinibandDiags.Errors.ConfigExact
import InfinibandDiags.Perf.Aggregate

/-! The port argument of perfquery: how `main` takes it apart, and the ports that are queried and
reset for it. -/
namespace InfinibandDiags
namespace Perfquery

def maxPorts : Nat := 255

/-- What `main` keeps in `info`, with `ports` up to `ports_count`. -/
structure Info where
  port : Int
  ports : List Int
  deriving DecidableEq

/-- A result of `strtoul` that is kept in an `int`. -/
def toInt (value : Nat) : Int := (value : Int).bmod (2 ^ 32)

/-- `info.ports[info.ports_count++] = port`. -/
def storePort (ports : List Int) (port : Int) : Except Fault (List Int) :=
  if ports.length < maxPorts then .ok (ports ++ [port]) else .error .outOfBounds

/-- The loop of `strtok` over a list. -/
def listPorts : Nat → Bytes → List Int → Except Fault (List Int)
  | 0, _, _ => .error .endlessLoop
  | fuel + 1, str, ports =>
      match strtokR comma str with
      | none => .ok ports
      | some (tmpstr, rest) => do
          let ports ← storePort ports (toInt (strtoul tmpstr))
          listPorts fuel rest ports

/-- The loop over a range, whose `pmin++` wraps. -/
def rangePorts (pmax : Int) : Nat → Int → List Int → Except Fault (List Int)
  | 0, _, _ => .error .endlessLoop
  | fuel + 1, pmin, ports =>
      if pmin ≤ pmax then do
        let ports ← storePort ports pmin
        rangePorts pmax fuel ((pmin + 1).bmod (2 ^ 32)) ports
      else .ok ports

def dash : UInt8 := 45

/-- The port argument. There is no result where `main` exits. -/
def portArgument (arg : Bytes) : Except Fault (Option Info) :=
  if comma ∈ arg then do
    let ports ← listPorts (arg.length + 1) arg []
    .ok (some ⟨ports.headD 0, ports⟩)
  else if dash ∈ arg then
    let pmin := toInt (strtoul (arg.takeWhile (· ≠ dash)))
    let pmax := toInt (strtoul (arg.dropWhile (· ≠ dash)).tail)
    if pmin ≥ pmax then .ok none
    else do
      let ports ← rangePorts pmax (maxPorts + 2) pmin []
      .ok (some ⟨ports.headD 0, ports⟩)
  else .ok (some ⟨toInt (strtoul arg), []⟩)

/-- What the options show: the counters, an attribute of `common_func`, or the samples control. -/
inductive Shown
  | counters
  | common
  | samplesControl
  deriving DecidableEq

structure Options where
  shown : Shown
  allPorts : Bool
  loopPorts : Bool
  reset : Bool
  resetOnly : Bool

/-- What the node says of itself: AllPortSelect of its ClassPortInfo, its NodeInfo and, on a switch,
EnhancedPort0. -/
structure Target where
  allPortSelect : Bool
  isSwitch : Bool
  numPorts : Nat
  enhancedPort0 : Nat
  numPorts_lt : numPorts < 256

/-- The PortSelect of the requests, in order. -/
structure Calls where
  queried : List Nat
  reset : List Nat
  deriving DecidableEq

/-- PortSelect as `pma_query_via` and `performance_reset_via` set it. -/
def portSelect (port : Int) : Nat :=
  getField (setField (List.replicate 256 0) 0 (tableField ibPcPortSelect) (port % 2 ^ 32).toNat) 0
    (tableField ibPcPortSelect)

/-- The condition of the loops from `start_port` to `num_ports`, with `all_ports_loop` in it. -/
def everyPort (options : Options) (node : Target) (port : Int) : Bool :=
  !node.allPortSelect && options.allPorts && port = 255 ||
    options.loopPorts && (options.allPorts || port = 255)

def startPort (node : Target) : Nat := if node.isSwitch ∧ node.enhancedPort0 ≠ 0 then 0 else 1

/-- The ports of the loops for the counters and for their reset. -/
def loopedPorts (options : Options) (node : Target) (info : Info) : List Int :=
  if everyPort options node info.port then
    (List.range' (startPort node) (node.numPorts + 1 - startPort node)).map fun (i : Nat) => (i : Int)
  else if info.ports.length > 1 then info.ports
  else [info.port]

def calls (options : Options) (queried reset : List Int) : Calls where
  queried := if options.resetOnly then [] else queried.map portSelect
  reset := if options.resetOnly ∨ options.reset then reset.map portSelect else []

/-- The rest of `main`, with a node that answers. -/
def queryPorts (options : Options) (node : Target) (info : Info) : Option Calls :=
  if !node.allPortSelect ∧ !options.allPorts ∧ info.port = 255 then none
  else
    match options.shown with
    | .common => some (calls options [info.port] [info.port])
    | .samplesControl => some ⟨[portSelect info.port], []⟩
    | .counters =>
        if everyPort options node info.port ∧ node.numPorts = 0 then none
        else some (calls options (loopedPorts options node info) (loopedPorts options node info))

def main (options : Options) (node : Target) (arg : Bytes) : Except Fault (Option Calls) := do
  let info ← portArgument arg
  .ok (info.bind (queryPorts options node))

end Perfquery
end InfinibandDiags
