import InfinibandDiags.Errors.Thresholds
import InfinibandDiags.Fabric.Basic

/-! `print_node` of ibqueryerrors: the ports of a node, or all of them at once where the node has
AllPortSelect. An `.error` is a null pointer, with what was printed by then. -/
namespace InfinibandDiags

structure ErrorSummary where
  nodesChecked : Nat
  badNodes : Nat
  portsChecked : Nat
  badPorts : Nat
  pmaQueryFailures : Nat
  deriving DecidableEq

/-- What has been printed for the node: its header, the line of all ports, the lines of ports with
errors, and those of ports with data counters. -/
structure PrintState where
  headerPrinted : Bool
  allPorts : Option (List CounterText)
  ports : List (Nat × List CounterText)
  dataPorts : List Nat
  summary : ErrorSummary

namespace PrintState
variable (s : PrintState)

def pmaQueryFailures (n : Nat) : PrintState :=
  { s with summary := { s.summary with pmaQueryFailures := s.summary.pmaQueryFailures + n } }

def portsChecked (n : Nat) : PrintState :=
  { s with summary := { s.summary with portsChecked := s.summary.portsChecked + n } }

end PrintState

namespace ErrorOptions
variable (options : ErrorOptions) (pma : Pma) (f : Fabric) (n : NodeRef)

/-- The line `"Errors for .."`, which for a switch takes the GUID of `node->ports[0]`. -/
def printHeader (s : PrintState) : Except PrintState PrintState :=
  if s.headerPrinted then .ok s
  else if (f.node n).type = ibNodeSwitch ∧ (f.node n).ports 0 = none then .error s
  else .ok { s with
    headerPrinted := true
    summary := { s.summary with badNodes := s.summary.badNodes + 1 } }

/-- `print_results`: whether it returns a number other than 0. -/
def printResults (caps : PmCaps) (lid portnum : Nat) (pc : Bytes) (pce : Option Bytes)
    (s : PrintState) : Except PrintState (Bool × PrintState) :=
  match options.checkResults (pma lid portnum) caps pc pce with
  | .error _ => .error s
  | .ok found =>
      let s := s.pmaQueryFailures found.failures
      if found.texts = [] then .ok (false, s)
      else do
        let s ← printHeader f n s
        if portnum = 0xff then
          if (f.node n).type = ibNodeSwitch then .ok (true, { s with allPorts := some found.texts })
          else .ok (true, s)
        else .ok (true, { s with
          ports := s.ports ++ [(portnum, found.texts)]
          summary := { s.summary with badPorts := s.summary.badPorts + 1 } })

/-- PortCounters without a PortXmitWait that the node does not count. -/
def clearedXmitWait (caps : PmCaps) (pc : Bytes) : Bytes :=
  if caps.xmitWait then pc else madEncodeField pc ibPcXmtWait [0, 0, 0, 0]

/-- The counters that `print_errors` asks for: `none` where a query fails. -/
def queryCounters (caps : PmCaps) (lid portnum : Nat) : Option (Bytes × Option Bytes) :=
  match pma lid portnum ibGsiPortCounters with
  | none => none
  | some pc =>
      if caps.extWidth then
        (pma lid portnum ibGsiPortCountersExt).map fun pce =>
          (clearedXmitWait caps pc.toList, some pce.toList)
      else some (clearedXmitWait caps pc.toList, none)

/-- `print_errors`: 0 is also what it returns where a query fails. -/
def printErrors (caps : PmCaps) (lid portnum : Nat) (s : PrintState) : Except PrintState (Bool × PrintState) :=
  match queryCounters pma caps lid portnum with
  | none => .ok (false, s.pmaQueryFailures 1)
  | some (pc, pce) => options.printResults pma f n caps lid portnum pc pce s

/-- The LID that the ports of a node are asked at. -/
def portLid (port : PortRef) : Nat :=
  if (f.node n).type = ibNodeSwitch then (f.node n).smalid.toNat else (f.port port).baseLid.toNat

/-- The loop of `print_node` over the ports. -/
def printPorts (caps : PmCaps) : List Nat → PrintState → Except PrintState PrintState
  | [], s => .ok s
  | p :: rest, s =>
      match (f.node n).ports p with
      | none => printPorts caps rest s
      | some port => do
          let (_, s) ← options.printErrors pma f n caps (portLid f n port) p s
          printPorts caps rest (s.portsChecked 1)

/-- `print_data_cnts`. -/
def printDataCnts (caps : PmCaps) (lid portnum : Nat) (s : PrintState) : PrintState :=
  match pma lid portnum (if caps.extWidth then ibGsiPortCountersExt else ibGsiPortCounters) with
  | none => s.pmaQueryFailures 1
  | some _ => { s with headerPrinted := true, dataPorts := s.dataPorts ++ [portnum] }

/-- The loop of `print_node` over the ports for their data counters. -/
def printDataPorts (caps : PmCaps) (ports : List Nat) (s : PrintState) : PrintState :=
  ports.foldl (fun s p =>
    match (f.node n).ports p with
    | none => s
    | some port => (printDataCnts pma caps (portLid f n port) p s).portsChecked 1) s

/-- `PRINT_SWITCH`, `PRINT_CA` and `PRINT_ROUTER`. -/
def printType (type : Nat) : Nat :=
  if type = ibNodeSwitch then 1 else if type = ibNodeCa then 2 else if type = ibNodeRouter then 4
  else 0

/-- `for (p = startport; p <= node->numports; p++)`. -/
def portsFrom (startport : Nat) : List Nat :=
  List.range' startport ((f.node n).numports + 1 - startport)

def startport : Nat :=
  if (f.node n).type = ibNodeSwitch ∧ (f.node n).smaenhsp0 ≠ 0 then 0 else 1

/-- The port that is asked for the capabilities, and its LID: the zeroed address where there is
none. -/
def queriedPort : Nat × Nat :=
  if (f.node n).type = ibNodeSwitch then (0, (f.node n).smalid.toNat)
  else
    match (portsFrom f n 1).find? fun p => ((f.node n).ports p).isSome with
    | none => ((f.node n).numports + 1, 0)
    | some p => (p, ((f.node n).ports p).elim 0 (portLid f n))

/-- The part of `print_node` that prints, with the capabilities of the node and the LID they come
from. -/
def printCounters (caps : PmCaps) (lid : Nat) (s : PrintState) : Except PrintState PrintState :=
  let ports := portsFrom f n (startport f n)
  if options.dataCountersOnly then .ok (printDataPorts pma f n caps ports s)
  else if caps.allPortSelect then
    match options.printErrors pma f n caps lid 0xff s with
    | .error s => .error s
    | .ok (true, s) => options.printPorts pma f n caps ports s
    | .ok (false, s) => .ok (s.portsChecked (f.node n).numports)
  else options.printPorts pma f n caps ports s

/-- `query_cap_mask` on the node: the masks stay 0 where the query fails. -/
def nodeCaps : PmCaps :=
  (pma (queriedPort f n).2 (queriedPort f n).1 ibClassPortInfo).elim ⟨0, 0⟩ PmaData.capMasks

/-- `print_node`, without clearing counters. -/
def printNode (summary : ErrorSummary) : Except PrintState PrintState :=
  let s : PrintState := ⟨false, none, [], [], summary⟩
  if printType (f.node n).type &&& options.nodeTypeToPrint = 0 then .ok s
  else
    let (p, lid) := queriedPort f n
    let failures := if (pma lid p ibClassPortInfo).isSome then 0 else 1
    (options.printCounters pma f n (nodeCaps pma f n) lid (s.pmaQueryFailures failures)).map fun s =>
      { s with summary := { s.summary with nodesChecked := s.summary.nodesChecked + 1 } }

end ErrorOptions
end InfinibandDiags
