import InfinibandDiags.Discover.Network

/-! A subnet whose subnet manager is done: ports with GUIDs, LIDs and states, switches with
forwarding tables. What its agents say, and where the SMPs sent to a port id arrive. -/
namespace InfinibandDiags

/-- `home` is the port that SMPs leave from; a LID names the port that owns it. -/
structure Subnet (V : Type) extends Network V where
  portGuid : V × Nat → UInt64
  portState : V × Nat → Nat
  linearCap : V → Nat
  linearTop : V → Nat
  enhancedPort0 : V → Nat
  /-- The LinearForwardingTable of a switch, by LID. -/
  fdb : V → Nat → UInt8
  home : V × Nat
  lidOwner : Nat → Option (V × Nat)
  type_known : ∀ v, type v = ibNodeCa ∨ type v = ibNodeSwitch ∨ type v = ibNodeRouter
  portGuid_switch : ∀ v k, type v = ibNodeSwitch → portGuid (v, k) = portGuid (v, 0)
  portGuid_node : ∀ a b, a.2 ≤ numports a.1 → b.2 ≤ numports b.1 → portGuid a = portGuid b →
    a.1 = b.1 ∧ (type a.1 ≠ ibNodeSwitch → a = b)
  home_port : home.2 ≤ numports home.1 ∧ (type home.1 ≠ ibNodeSwitch → 0 < home.2)
  owner_port : ∀ {lid a}, lidOwner lid = some a →
    a.2 ≤ numports a.1 ∧ (type a.1 ≠ ibNodeSwitch → 0 < a.2)

/-- `smp_query_via` sends directed SMPs to such a port id and LID routed ones to others. -/
def PortId.isDirect (portid : PortId) : Bool :=
  portid.lid = 0 || portid.drpath.drslid = 0xffff || portid.drpath.drdlid = 0xffff

namespace Subnet
variable {V : Type} (S : Subnet V)

def IsSwitch (v : V) : Prop := S.type v = ibNodeSwitch

instance : DecidablePred S.IsSwitch := fun v => inferInstanceAs (Decidable (S.type v = _))

/-- A port that its node has; channel adapters and routers have no port 0. -/
def IsPort (a : V × Nat) : Prop := a.2 ≤ S.numports a.1 ∧ (¬ S.IsSwitch a.1 → 0 < a.2)

/-- A directed SMP on its way leaves a switch through `k`; port 0 is the switch itself. -/
def transit (a : V × Nat) (k : Nat) : Option (V × Nat) :=
  if S.IsSwitch a.1 then if k = 0 then some (a.1, 0) else S.peer (a.1, k) else none

/-- Where a directed route starts, an adapter sends through the port it is asked at only. -/
def depart (a : V × Nat) (k : Nat) : Option (V × Nat) :=
  if S.IsSwitch a.1 then S.transit a k else if k = a.2 then S.peer a else none

def directed (a : V × Nat) : List Nat → Option (V × Nat)
  | [] => some a
  | k :: ks => (S.depart a k).bind fun b => ks.foldlM S.transit b

/-- The start of a directed route: a LID in the port id is gone to first, unless the permissive
source LID says otherwise. -/
def base (portid : PortId) : Option (V × Nat) :=
  if portid.drpath.drslid ≠ 0xffff ∧ 0 < portid.lid then S.lidOwner portid.lid else some S.home

/-- The port at which the SMPs sent to a port id arrive. -/
def arrival (portid : PortId) : Option (V × Nat) :=
  if portid.isDirect then
    (S.base portid).bind fun a => S.directed a (portid.drpath.hops 0)
  else S.lidOwner portid.lid

/-- The port whose PortInfo a node gives for port number 0. -/
def asked (b : V × Nat) : V × Nat := if S.IsSwitch b.1 then (b.1, 0) else b

/-- What an attribute of the node at a port says. -/
structure Describes (b : V × Nat) (attrid mod : Nat) (data : SmpData) : Prop where
  nodeInfo : attrid = ibAttrNodeInfo →
    S.NodeInfoOf b data ∧ data.field64 .nodePortGuid = S.portGuid b
  portInfo : attrid = ibAttrPortInfo → mod = 0 → data.field .portState = S.portState (S.asked b)
  switchInfo : attrid = ibAttrSwitchInfo →
    data.field .swLinearFdbCap = S.linearCap b.1 ∧ data.field .swLinearFdbTop = S.linearTop b.1 ∧
      data.field .swEnhancedPort0 = S.enhancedPort0 b.1
  linearForwTbl : attrid = ibAttrLinearforwtbl → ∀ lid, lid / 64 = mod →
    byteAt data.bytes (lid % 64) = S.fdb b.1 lid

end Subnet

/-- `smp_query_via` in a subnet that stays as it is: the attribute, unless the query fails. -/
abbrev SmpQuery := PortId → Nat → Nat → Option SmpData

namespace Subnet
variable {V : Type} (S : Subnet V)

/-- Every answer describes the port where the question arrived. -/
def Truthful (query : SmpQuery) : Prop :=
  ∀ portid attrid mod data, query portid attrid mod = some data →
    ∃ b, S.arrival portid = some b ∧ S.Describes b attrid mod data

end Subnet
end InfinibandDiags
