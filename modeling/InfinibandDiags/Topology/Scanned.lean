import InfinibandDiags.Diff.Rescan
import InfinibandDiags.Topology.Dump

/-! The topology file of a scan, read back. -/
namespace InfinibandDiags
namespace Topology
open Engine Fabric

/-- The node that the lines below are about. -/
def Item.head : Item → Option NodeRef
  | .switch n => some n
  | .ca n => some n
  | _ => none

def Item.line : Item → Option PortRef
  | .switchPort p => some p
  | .caPort p => some p
  | _ => none

section Reader
variable (f : Fabric)

end Reader

section Blocks
variable {f : Fabric} {g : Grouping} {n : NodeRef} {above : Option NodeRef} {items : List Item}

end Blocks

section Charts
variable {V : Type} {N : Network V} {s : V × Nat} {pg : V × Nat → UInt64} {f : Fabric}
  {g : Grouping} {n : NodeRef} {c : CableEnd × CableEnd}

end Charts

section Scans
variable {V : Type} {N : Network V} {s : V × Nat} {pg : V × Nat → UInt64} {args : DiscoverArgs}
  {rs : List Recv} {e : Engine ScanCb CbData} {scan : Scan} {g : Grouping}

end Scans
end Topology
end InfinibandDiags
