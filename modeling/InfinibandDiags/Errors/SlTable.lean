import InfinibandDiags.Errors.PrintNode
import InfinibandDiags.Fault

/-! The table of SLs by LID that ibqueryerrors fills from PathRecords, and looks up for each query. -/
namespace InfinibandDiags

/-- A PathRecord of the SA, as far as it is read. -/
structure PathRecord where
  dlid : UInt16
  sl : UInt8
  deriving DecidableEq

namespace ErrorOptions
variable (options : ErrorOptions) (pma : Pma) (f : Fabric) (n : NodeRef)

/-- The ports that the loop over the ports asks for their errors, up to a null pointer. -/
def errorPorts (caps : PmCaps) : List Nat → PrintState → List PortRef
  | [], _ => []
  | p :: rest, s =>
      match (f.node n).ports p with
      | none => errorPorts caps rest s
      | some port =>
          port ::
            match options.printErrors pma f n caps (portLid f n port) p s with
            | .error _ => []
            | .ok (_, s) => errorPorts caps rest (s.portsChecked 1)

/-- The ports that the loop asks for their data counters. -/
def dataPorts (ports : List Nat) : List PortRef := ports.filterMap (f.node n).ports

/-- The ports that the loops of `print_node` go over. -/
def loopedPorts (caps : PmCaps) (lid : Nat) (s : PrintState) : List PortRef :=
  let ports := portsFrom f n (startport f n)
  if options.dataCountersOnly then dataPorts f n ports
  else if caps.allPortSelect then
    match options.printErrors pma f n caps lid 0xff s with
    | .error _ => []
    | .ok (true, s) => options.errorPorts pma f n caps ports s
    | .ok (false, _) => []
  else options.errorPorts pma f n caps ports s

/-- `print_node` as far as the loops, with the ports that these go over. -/
def nodePorts (summary : ErrorSummary) : List PortRef :=
  let (p, lid) := queriedPort f n
  let failures := if (pma lid p ibClassPortInfo).isSome then 0 else 1
  options.loopedPorts pma f n (nodeCaps pma f n) lid
    ((⟨false, none, [], [], summary⟩ : PrintState).pmaQueryFailures failures)

/-- `ibnd_iter_nodes` with `print_node`: the nodes, up to a null pointer, each with the summary so
far. -/
def printedNodes : List NodeRef → ErrorSummary → List (NodeRef × ErrorSummary)
  | [], _ => []
  | n :: ns, summary =>
      (n, summary) ::
        match options.printNode pma f n summary with
        | .error _ => []
        | .ok s => printedNodes ns s.summary

end ErrorOptions

/-- What ibqueryerrors is to report: the node of a port GUID, that of a direct route, or all. The LID
that a port GUID resolves to is -1 where the SA does not answer; the PathRecords are those of its
reply, if there is one. -/
inductive ErrorScope
  | portGuid (lid : Int) (found : Option NodeRef)
  | drPath (found : Option NodeRef) (reply : Option (List PathRecord))
  | allNodes (reply : Option (List PathRecord))

namespace ErrorScope
variable (options : ErrorOptions) (pma : Pma) (f : Fabric) (obtainSl : Bool)

/-- The PathRecords that are inserted. -/
def inserted : ErrorScope → List PathRecord
  | .portGuid _ _ => []
  | .drPath none _ => []
  | .drPath (some _) reply | .allNodes reply => if obtainSl then reply.getD [] else []

/-- The nodes that are printed: none where the PathRecords were asked for in vain. -/
def nodes : ErrorScope → List NodeRef
  | .portGuid _ found => found.toList
  | .drPath found reply => if obtainSl ∧ reply = none then [] else found.toList
  | .allNodes reply => if obtainSl ∧ reply = none then [] else f.nodes

def printed (scope : ErrorScope) : List (NodeRef × ErrorSummary) :=
  options.printedNodes pma f (scope.nodes f obtainSl) ⟨0, 0, 0, 0, 0⟩

end ErrorScope
end InfinibandDiags
