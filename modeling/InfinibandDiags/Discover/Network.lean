import InfinibandDiags.Discover.Run

/-! The network that a scan explores, apart from any scan: nodes with cabled ports, directed
routes through it, and what a responder says about itself. -/
namespace InfinibandDiags
open Engine

/-- A static fabric. A cable joins two different ports; port 0 and ports that a node does not
have are never cabled. -/
structure Network (V : Type) where
  guid : V → UInt64
  type : V → Nat
  numports : V → Nat
  peer : V × Nat → Option (V × Nat)
  guid_injective : Function.Injective guid
  numports_lt : ∀ v, numports v < 256
  peer_symm : ∀ {a b}, peer a = some b → peer b = some a
  peer_ne : ∀ a, peer a ≠ some a
  peer_port : ∀ {a b}, peer a = some b → 0 < a.2 ∧ a.2 ≤ numports a.1

namespace Network

theorem mem_of_lookup {α β : Type} [BEq α] [LawfulBEq α] {l : List (α × β)} {a : α} {b : β}
    (h : l.lookup a = some b) : (a, b) ∈ l := by
  obtain ⟨l₁, l₂, rfl, -⟩ := List.lookup_eq_some_iff.mp h
  exact List.mem_append_right _ List.mem_cons_self

/-- A fabric given by its cables, each listed from both ends. -/
def ofCables {n : Nat} (guid : Fin n → UInt64) (type numports : Fin n → Nat)
    (cables : List ((Fin n × Nat) × (Fin n × Nat))) (hguid : ∀ v w, guid v = guid w → v = w)
    (hports : ∀ v, numports v < 256)
    (hcables : ∀ c ∈ cables, cables.lookup c.2 = some c.1 ∧ c.1 ≠ c.2 ∧ 0 < c.1.2 ∧
      c.1.2 ≤ numports c.1.1) : Network (Fin n) where
  guid := guid
  type := type
  numports := numports
  peer a := cables.lookup a
  guid_injective v w := hguid v w
  numports_lt := hports
  peer_symm h := (hcables _ (mem_of_lookup h)).1
  peer_ne _ h := (hcables _ (mem_of_lookup h)).2.1 rfl
  peer_port h := (hcables _ (mem_of_lookup h)).2.2

variable {V : Type} (N : Network V) (s : V × Nat)

/-- A port whose cable the scan follows: on a switch, or the port where it starts. -/
def Explores (a : V × Nat) : Prop := N.type a.1 = ibNodeSwitch ∨ a = s

/-- The nodes at a cable distance from the start node, through switches. -/
inductive ReachIn : Nat → V → Prop
  | start : ReachIn 0 s.1
  | hop {d v k b} : ReachIn d v → N.Explores s (v, k) → N.peer (v, k) = some b → ReachIn (d + 1) b.1

def Reach (v : V) : Prop := ∃ d, N.ReachIn s d v

/-- The GUIDs of the nodes within reach. -/
def nodeGuids : Set UInt64 := { g | ∃ v, N.Reach s v ∧ N.guid v = g }

/-- The cables with one end on a switch within reach or on the start port, by GUID and port. -/
def cabling : Set ((UInt64 × Nat) × (UInt64 × Nat)) :=
  { c | ∃ a b, N.peer a = some b ∧ N.Reach s a.1 ∧ N.Reach s b.1 ∧
    (N.Explores s a ∨ N.Explores s b) ∧ c = ((N.guid a.1, a.2), (N.guid b.1, b.2)) }

/-- The port at which a route of exit ports ends. -/
def walk (ks : List Nat) : Option (V × Nat) := ks.foldlM (fun a k => N.peer (a.1, k)) s

@[simp] theorem walk_nil : N.walk s [] = some s := rfl

theorem walk_concat (ks : List Nat) (k : Nat) :
    N.walk s (ks ++ [k]) = (N.walk s ks).bind fun a => N.peer (a.1, k) := by
  unfold walk
  rw [List.foldlM_append]
  cases ks.foldlM (fun a k => N.peer (a.1, k)) s with
  | none => rfl
  | some a => simp

theorem ReachIn.reach {d : Nat} {v : V} (h : N.ReachIn s d v) : N.Reach s v := ⟨d, h⟩

end Network

/-- The exit ports of a directed path behind its first `skip` hops. -/
def DrPath.hops (path : DrPath) (skip : Nat) : List Nat :=
  (List.range' skip (path.cnt - skip)).map fun i => ((path.p[i + 1]?).getD 0).toNat

theorem DrPath.hops_of_le {path : DrPath} {skip : Nat} (h : path.cnt ≤ skip) :
    path.hops skip = [] := by
  rw [hops, Nat.sub_eq_zero_of_le h]
  rfl

/-- One more hop. -/
theorem hops_addPortToDpath {path path' : DrPath} {skip k : Nat} (hskip : skip ≤ path.cnt)
    (hk : k < 256) (h : Scan.addPortToDpath path k = some path') :
    path'.cnt = path.cnt + 1 ∧ path'.hops skip = path.hops skip ++ [k] := by
  unfold Scan.addPortToDpath at h
  split at h
  · cases h
  · next hroom =>
      obtain rfl := Option.some.inj h
      refine ⟨rfl, ?_⟩
      have hlen : path.cnt + 1 - skip = path.cnt - skip + 1 := Nat.succ_sub hskip
      have hlast : skip + (path.cnt - skip) = path.cnt := Nat.add_sub_cancel' hskip
      have hbound : path.cnt + 1 < 64 := by omega
      unfold DrPath.hops
      dsimp only
      rw [hlen, List.range'_concat, List.map_append, Nat.one_mul, hlast]
      congr 1
      · refine List.map_congr_left fun i hi => ?_
        have hlt : i < path.cnt := by
          have := (List.mem_range'_1.mp hi).2
          omega
        rw [Vector.getElem?_setIfInBounds_ne (by omega)]
      · rw [List.map_singleton, Vector.getElem?_setIfInBounds_self_of_lt hbound]
        simp [Nat.mod_eq_of_lt hk]

section Responders
variable {V : Type} (N : Network V) (s : V × Nat) (origin : PortId)

/-- The node an SMP reaches and the port it arrives at, when `origin` leads to the start port. -/
def Network.arrival (portid : PortId) : Option (V × Nat) :=
  N.walk s (portid.drpath.hops origin.drpath.cnt)

/-- The NodeInfo of a node, asked for through one of its ports. -/
def Network.NodeInfoOf (b : V × Nat) (info : SmpData) : Prop :=
  info.field64 .nodeGuid = N.guid b.1 ∧ info.field .nodeType = N.type b.1 ∧
    info.field .nodeNports = N.numports b.1 ∧ info.field .nodeLocalPort = b.2

/-- The PortInfo of a port, asked for through another port of its node. -/
def Network.PortInfoOf (b : V × Nat) (k : Nat) (info : SmpData) : Prop :=
  info.field .portLocalPort = b.2 ∧ (k ≠ 0 →
    (info.field .portPhysState = ibPortPhysStateLinkup ↔ (N.peer (b.1, k)).isSome))

/-- A reply without error status that says what the network is like where the SMP arrived. -/
def Network.Answers (smp : ScanSmp) (r : Recv) : Prop :=
  isClean r ∧ madGetField r.mad 0 .madAttrmod = smp.rpc.attrMod ∧
    ∀ b ∈ N.arrival s origin smp.path,
      (smp.rpc.attrId = ibAttrNodeInfo → N.NodeInfoOf b (smpData r.mad)) ∧
      (smp.rpc.attrId = ibAttrPortInfo → N.PortInfoOf b smp.rpc.attrMod (smpData r.mad))

instance decidableNodeInfoOf (b : V × Nat) (info : SmpData) : Decidable (N.NodeInfoOf b info) :=
  inferInstanceAs (Decidable (_ ∧ _ ∧ _ ∧ _))

instance decidablePortInfoOf (b : V × Nat) (k : Nat) (info : SmpData) :
    Decidable (N.PortInfoOf b k info) :=
  inferInstanceAs (Decidable (_ ∧ (_ → (_ ↔ _))))

instance decidableAnswers (smp : ScanSmp) (r : Recv) : Decidable (N.Answers s origin smp r) :=
  inferInstanceAs (Decidable (_ ∧ _ ∧ ∀ b ∈ N.arrival s origin smp.path, (_ → _) ∧ (_ → _)))

end Responders
end InfinibandDiags
