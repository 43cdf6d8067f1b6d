import InfinibandDiags.Trace.Steps

/-! Routes by the forwarding tables, directed paths that follow them, and what the answers of a
truthful subnet leave in the records of a trace. -/
namespace InfinibandDiags
namespace Subnet
variable {V : Type} (S : Subnet V)

/-- What is printed of a hop: the port it leaves by and the port it enters. -/
structure Hop where
  outport : Int
  portguid : UInt64
  portnum : Nat
  deriving DecidableEq

/-- A switch sends on by its table, and the adapter at the source through its own port. -/
def Leaves (src : V × Nat) (lid : Nat) (a : V × Nat) (o : Nat) : Prop :=
  if S.IsSwitch a.1 then o = (S.fdb a.1 lid).toNat else a = src ∧ o = a.2

/-- The hops that the forwarding tables make for a LID from a port on. -/
inductive Route (src : V × Nat) (lid : Nat) : List Hop → V × Nat → Prop
  | nil : Route src lid [] src
  | hop {hops a o b} : Route src lid hops a → S.Leaves src lid a o → S.peer (a.1, o) = some b →
      Route src lid (hops ++ [⟨o, S.portGuid b, b.2⟩]) b

variable {S}

theorem Leaves.unique {src a : V × Nat} {lid o o' : Nat} (h : S.Leaves src lid a o)
    (h' : S.Leaves src lid a o') : o = o' := by
  unfold Leaves at h h'
  split at h
  · next hsw =>
      rw [if_pos hsw] at h'
      exact h.trans h'.symm
  · next hsw =>
      rw [if_neg hsw] at h'
      exact h.2.trans h'.2.symm

theorem peer_isPort {a b : V × Nat} (h : S.peer a = some b) : S.IsPort b :=
  have hb := S.peer_port (S.peer_symm h)
  ⟨hb.2, fun _ => hb.1⟩

theorem portGuid_eq {a b : V × Nat} (ha : S.IsPort a) (hb : S.IsPort b)
    (h : S.portGuid a = S.portGuid b) : a.1 = b.1 ∧ (¬ S.IsSwitch a.1 → a = b) :=
  S.portGuid_node a b ha.1 hb.1 h

theorem portGuid_congr {a b : V × Nat} (hnode : b.1 = a.1) (hend : ¬ S.IsSwitch a.1 → b = a) :
    S.portGuid b = S.portGuid a := by
  by_cases hsw : S.IsSwitch a.1
  · have hsw' : S.IsSwitch b.1 := by rwa [hnode]
    calc S.portGuid b = S.portGuid (b.1, 0) := S.portGuid_switch _ _ hsw'
      _ = S.portGuid (a.1, 0) := by rw [hnode]
      _ = S.portGuid a := (S.portGuid_switch _ _ hsw).symm
  · rw [hend hsw]

/-- A hop of a directed route ends at port 0 of a switch or at the end of a cable. -/
theorem transit_ends {P : V × Nat → Prop} (hzero : ∀ v, S.IsSwitch v → P (v, 0))
    (hpeer : ∀ a b, S.peer a = some b → P b) {a b : V × Nat} {k : Nat}
    (h : S.transit a k = some b) : P b := by
  unfold transit at h
  split at h
  · next hsw =>
      split at h
      · cases h
        exact hzero _ hsw
      · exact hpeer _ _ h
  · cases h

theorem depart_ends {P : V × Nat → Prop} (hzero : ∀ v, S.IsSwitch v → P (v, 0))
    (hpeer : ∀ a b, S.peer a = some b → P b) {a b : V × Nat} {k : Nat}
    (h : S.depart a k = some b) : P b := by
  unfold depart at h
  split at h
  · exact transit_ends hzero hpeer h
  · split at h
    · exact hpeer _ _ h
    · cases h

theorem directed_singleton (a : V × Nat) (k : Nat) : S.directed a [k] = S.depart a k := by
  cases h : S.depart a k with
  | none => simp [directed, h]
  | some b => simp [directed, h]

/-- All hops but the first are made by switches. -/
theorem directed_concat {a : V × Nat} {ks : List Nat} (hks : ks ≠ []) (k : Nat) :
    S.directed a (ks ++ [k]) = (S.directed a ks).bind fun b => S.transit b k := by
  cases ks with
  | nil => exact absurd rfl hks
  | cons i is =>
      rw [List.cons_append, directed, directed]
      cases S.depart a i with
      | none => rfl
      | some b =>
          simp only [Option.bind_some, List.foldlM_append]
          cases List.foldlM S.transit b is with
          | none => rfl
          | some c => simp

theorem directed_extend {a b : V × Nat} {ks : List Nat} {k : Nat}
    (h : S.directed a ks = some b) (hsw : S.IsSwitch b.1) :
    S.directed a (ks ++ [k]) = S.transit b k := by
  by_cases hks : ks = []
  · cases hks
    cases h
    rw [List.nil_append, directed_singleton, depart, if_pos hsw]
  · rw [directed_concat hks, h]
    rfl

/-- An adapter is entered through a cable. The hop back is the other way round. -/
theorem directed_back {a b : V × Nat} {ks : List Nat} {k : Nat}
    (h : S.directed a (ks ++ [k]) = some b) (hend : ¬ S.IsSwitch b.1) :
    ∃ c, S.directed a ks = some c ∧ S.peer (c.1, k) = some b ∧ (¬ S.IsSwitch c.1 → c.2 = k) := by
  have htransit : ∀ c, S.transit c k = some b → S.peer (c.1, k) = some b ∧ S.IsSwitch c.1 := by
    intro c hc
    unfold transit at hc
    split at hc
    · next hsw =>
        split at hc
        · cases hc
          exact absurd hsw hend
        · exact ⟨hc, hsw⟩
    · cases hc
  by_cases hks : ks = []
  · cases hks
    rw [List.nil_append, directed_singleton, depart] at h
    refine ⟨a, rfl, ?_⟩
    split at h
    · obtain ⟨hpeer, hsw⟩ := htransit a h
      exact ⟨hpeer, fun hne => absurd hsw hne⟩
    · split at h
      · next hk =>
          cases hk
          exact ⟨h, fun _ => rfl⟩
      · cases h
  · rw [directed_concat hks] at h
    obtain ⟨c, hc, hstep⟩ := Option.bind_eq_some_iff.mp h
    obtain ⟨hpeer, hsw⟩ := htransit c hstep
    exact ⟨c, hc, hpeer, fun hne => absurd hsw hne⟩

theorem foldlM_ends {P : V × Nat → Prop} (hzero : ∀ v, S.IsSwitch v → P (v, 0))
    (hpeer : ∀ a b, S.peer a = some b → P b) {ks : List Nat} {a b : V × Nat} (ha : P a)
    (h : ks.foldlM S.transit a = some b) : P b := by
  induction ks generalizing a with
  | nil =>
      cases h
      exact ha
  | cons k ks ih =>
      rw [List.foldlM_cons] at h
      obtain ⟨c, hc, hrest⟩ := Option.bind_eq_some_iff.mp h
      exact ih (transit_ends hzero hpeer hc) hrest

/-- What holds of the ports where SMPs can start, of port 0 of every switch and of all ends of
cables holds wherever they arrive. -/
theorem arrival_ends {P : V × Nat → Prop} (hhome : P S.home)
    (howner : ∀ lid a, S.lidOwner lid = some a → P a) (hzero : ∀ v, S.IsSwitch v → P (v, 0))
    (hpeer : ∀ a b, S.peer a = some b → P b) {portid : PortId} {a : V × Nat}
    (h : S.arrival portid = some a) : P a := by
  unfold arrival at h
  split at h
  · obtain ⟨c, hc, hrest⟩ := Option.bind_eq_some_iff.mp h
    have hstart : P c := by
      unfold base at hc
      split at hc
      · exact howner _ _ hc
      · cases hc
        exact hhome
    cases hks : portid.drpath.hops 0 with
    | nil =>
        rw [hks] at hrest
        cases hrest
        exact hstart
    | cons k ks =>
        rw [hks] at hrest
        obtain ⟨d, hd, hrest⟩ := Option.bind_eq_some_iff.mp hrest
        exact foldlM_ends hzero hpeer (depart_ends hzero hpeer hd) hrest
  · exact howner _ _ h

theorem arrival_isPort {portid : PortId} {a : V × Nat} (h : S.arrival portid = some a) :
    S.IsPort a :=
  arrival_ends S.home_port (fun _ _ howner => S.owner_port howner)
    (fun _ hsw => ⟨Nat.zero_le _, fun hend => absurd hsw hend⟩) (fun _ _ => peer_isPort) h

end Subnet

/-- Two port ids that differ in the hops of their paths only. -/
structure PortId.SameStart (p q : PortId) : Prop where
  lid : q.lid = p.lid
  drslid : q.drpath.drslid = p.drpath.drslid
  drdlid : q.drpath.drdlid = p.drpath.drdlid

namespace Subnet
variable {V : Type} {S : Subnet V} {p q : PortId}

theorem isDirect_congr (h : p.SameStart q) : q.isDirect = p.isDirect := by
  unfold PortId.isDirect
  rw [h.lid, h.drslid, h.drdlid]

theorem base_congr (h : p.SameStart q) : S.base q = S.base p := by
  unfold base
  rw [h.lid, h.drslid]

theorem arrival_direct (h : p.isDirect = true) :
    S.arrival p = (S.base p).bind fun a => S.directed a (p.drpath.hops 0) := by
  rw [arrival, if_pos h]

/-- LID routed SMPs ignore the path. -/
theorem arrival_routed (h : p.SameStart q) (hdirect : p.isDirect = false) :
    S.arrival q = S.arrival p := by
  have hq := isDirect_congr h
  rw [hdirect] at hq
  rw [arrival, arrival, hdirect, hq, h.lid]
  rfl

/-- Where SMPs arrive depends on the hops of the path and not on what stands behind them. -/
theorem arrival_congr (h : p.SameStart q) (hhops : q.drpath.hops 0 = p.drpath.hops 0) :
    S.arrival q = S.arrival p := by
  cases hdirect : p.isDirect with
  | false => exact arrival_routed h hdirect
  | true =>
      rw [arrival_direct hdirect, arrival_direct ((isDirect_congr h).trans hdirect), base_congr h,
        hhops]

/-- A directed path, extended at a switch. -/
theorem arrival_extend {a : V × Nat} {k : Nat} (h : p.SameStart q) (hdirect : p.isDirect = true)
    (hhops : q.drpath.hops 0 = p.drpath.hops 0 ++ [k]) (ha : S.arrival p = some a)
    (hsw : S.IsSwitch a.1) : S.arrival q = S.transit a k := by
  rw [arrival_direct hdirect] at ha
  obtain ⟨c, hc, hrest⟩ := Option.bind_eq_some_iff.mp ha
  rw [arrival_direct ((isDirect_congr h).trans hdirect), base_congr h, hc, Option.bind_some, hhops]
  exact directed_extend hrest hsw

/-- A directed path without hops, extended where it starts. -/
theorem arrival_depart {a : V × Nat} {k : Nat} (h : p.SameStart q) (hdirect : p.isDirect = true)
    (hempty : p.drpath.hops 0 = []) (hhops : q.drpath.hops 0 = [k]) (ha : S.arrival p = some a) :
    S.arrival q = S.depart a k := by
  rw [arrival_direct hdirect, hempty] at ha
  obtain ⟨c, hc, hrest⟩ := Option.bind_eq_some_iff.mp ha
  cases hrest
  rw [arrival_direct ((isDirect_congr h).trans hdirect), base_congr h, hc, Option.bind_some, hhops]
  exact directed_singleton a k

/-- A directed path to an adapter, one hop shorter. -/
theorem arrival_back {a : V × Nat} {k : Nat} (h : p.SameStart q) (hdirect : p.isDirect = true)
    (hhops : p.drpath.hops 0 = q.drpath.hops 0 ++ [k]) (ha : S.arrival p = some a)
    (hend : ¬ S.IsSwitch a.1) :
    ∃ c, S.arrival q = some c ∧ S.peer (c.1, k) = some a ∧ (¬ S.IsSwitch c.1 → c.2 = k) := by
  rw [arrival_direct hdirect, hhops] at ha
  obtain ⟨s, hs, hrest⟩ := Option.bind_eq_some_iff.mp ha
  obtain ⟨c, hc, hpeer, hport⟩ := directed_back hrest hend
  refine ⟨c, ?_, hpeer, hport⟩
  rw [arrival_direct ((isDirect_congr h).trans hdirect), base_congr h, hs]
  exact hc

end Subnet

namespace Ibtracert
variable {V : Type} {S : Subnet V} {T : Tracer}

/-- The records that a node at a port leaves, whatever the number its port was given. -/
structure Records (S : Subnet V) (b : V × Nat) (node : Node) (port : Port) : Prop where
  nodeguid : node.nodeguid = S.guid b.1
  type : node.type = S.type b.1
  numports : node.numports = S.numports b.1
  portguid : port.portguid = S.portGuid b
  state : port.state = S.portState (S.asked b)

theorem getNode_records (hT : S.Truthful T.query) {node node' : Node} {port port' : Port}
    {portid : PortId} (h : getNode T node port portid = (true, node', port')) :
    ∃ b, S.arrival portid = some b ∧ Records S b node' port' ∧ port'.portnum = b.2 := by
  obtain ⟨ni, pi, hni, hpi, hguid, htype, hnumports, hportguid, hportnum, hstate⟩ := getNode_true h
  obtain ⟨b, hb, hdesc⟩ := hT _ _ _ _ hni
  obtain ⟨c, hc, hdesc'⟩ := hT _ _ _ _ hpi
  obtain rfl : b = c := Option.some.inj (hb.symm.trans hc)
  obtain ⟨⟨hguid', htype', hnumports', hportnum'⟩, hportguid'⟩ := hdesc.nodeInfo rfl
  exact ⟨b, hb,
    ⟨hguid.trans hguid', htype.trans htype', hnumports.trans hnumports', hportguid.trans hportguid',
      hstate.trans (hdesc'.portInfo rfl rfl)⟩, hportnum.trans hportnum'⟩

/-- An entry that the trace goes on with. -/
structure Entry (S : Subnet V) (v : V) (lid : Nat) (o : Int) : Prop where
  value : o = int8 (S.fdb v lid)
  inTable : lid < S.linearCap v ∨ lid ≤ S.linearTop v
  nonneg : 0 ≤ o
  isPort : o ≤ S.numports v

theorem lookup_entry (hT : S.Truthful T.query) {sw sw' : Switch} {portid : PortId} {lid : Nat}
    {o : Int} (h : switchLookup T sw portid lid = (o, sw')) (ho : 0 ≤ o) :
    ∃ b, S.arrival portid = some b ∧ o = int8 (S.fdb b.1 lid) ∧
      (lid < S.linearCap b.1 ∨ lid ≤ S.linearTop b.1) ∧ sw'.enhsp0 = S.enhancedPort0 b.1 := by
  obtain ⟨si, fdb, hsi, hfdb, hrange, hvalue, henh⟩ := switchLookup_nonneg h ho
  obtain ⟨b, hb, hdesc⟩ := hT _ _ _ _ hsi
  obtain ⟨c, hc, hdesc'⟩ := hT _ _ _ _ hfdb
  obtain rfl : b = c := Option.some.inj (hb.symm.trans hc)
  obtain ⟨hcap, htop, henh'⟩ := hdesc.switchInfo rfl
  refine ⟨b, hb, ?_, ?_, henh.trans henh'⟩
  · rw [hvalue, hdesc'.linearForwTbl rfl lid rfl]
  · rw [← hcap, ← htop]
    exact hrange

theorem int8_nonneg {b : UInt8} (h : 0 ≤ int8 b) : int8 b = b.toNat ∧ b.toNat < 128 := by
  unfold int8 at h ⊢
  split at h
  · next hlt =>
      rw [if_pos hlt]
      exact ⟨rfl, hlt⟩
  · have := b.toNat_lt
    omega

end Ibtracert
end InfinibandDiags
