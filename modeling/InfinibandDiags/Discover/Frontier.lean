import InfinibandDiags.Discover.Network
import InfinibandDiags.Discover.NodeTable

/-! The frontier of a scan. What the fabric holds is part of the network, and every cable end
that the scan should follow is linked already or is the business of a request that has not
been answered yet. -/
namespace InfinibandDiags
open Engine

namespace Fabric

/-- Updates that fill slots and keep the links. -/
structure Fills (f f' : Fabric) : Prop extends SameNodes f f' where
  slots : ∀ {n k p}, (f.node n).ports k = some p → (f'.node n).ports k = some p
  remoteport : f'.remoteport = f.remoteport
  origin : f'.fromNode = f.fromNode ∧ f'.fromPortnum = f.fromPortnum

theorem Fills.trans {f₁ f₂ f₃ : Fabric} (h₁ : Fills f₁ f₂) (h₂ : Fills f₂ f₃) : Fills f₁ f₃ where
  toSameNodes := h₁.toSameNodes.trans h₂.toSameNodes
  slots h := h₂.slots (h₁.slots h)
  remoteport := h₂.remoteport.trans h₁.remoteport
  origin := ⟨h₂.origin.1.trans h₁.origin.1, h₂.origin.2.trans h₁.origin.2⟩

theorem fills_modifyPort (f : Fabric) (p : PortRef) {g : Port → Port}
    (hg : ∀ x, (g x).remoteport = x.remoteport) : Fills f (f.modifyPort p g) := by
  refine ⟨.of_node rfl rfl rfl rfl, id, ?_, rfl, rfl⟩
  rw [remoteport_modifyPort, hg]
  exact Function.update_eq_self _ _

theorem fills_modifyNode (f : Fabric) (n : NodeRef) {g : Node → Node}
    (hg : ∀ x, (g x).SameShape x) : Fills f (f.modifyNode n g) := by
  refine ⟨sameNodes_modifyNode f n hg, fun {m k p} hp => ?_, rfl, rfl, rfl⟩
  by_cases hm : m = n
  · subst hm
    simpa [modifyNode, (hg _).1] using hp
  · simpa [modifyNode, hm] using hp

theorem fills_hops (f : Fabric) (m : UInt32) : Fills f { f with maxhopsDiscovered := m } :=
  ⟨.of_node rfl rfl rfl rfl, id, rfl, rfl, rfl⟩

theorem fills_newPort {f : Fabric} (h : Linked f) {n : NodeRef} {k : Nat} {port : Port}
    (hnone : (f.node n).ports k = none) (hport : port.remoteport = none) :
    Fills f (f.newPort n k port) := by
  refine ⟨sameNodes_newPort f n k port, fun {m j p} hp => ?_, ?_, rfl, rfl⟩
  · rw [ports_newPort, if_neg]
    · exact hp
    · rintro ⟨rfl, rfl⟩
      rw [hnone] at hp
      cases hp
  · rw [remoteport_newPort, hport, ← h.unused f.portCount (Nat.le_refl _)]
    exact Function.update_eq_self _ _

theorem fills_addToPortguidHash {f f' : Fabric} {p : PortRef} {rc : Int}
    (h : f.addToPortguidHash p = .ok (rc, f')) :
    Fills f f' ∧ ∀ x, (f'.port x).info = (f.port x).info := by
  obtain ⟨dup, -, rfl⟩ := addToPortguidHash_ok h
  cases dup with
  | true => exact ⟨⟨.of_node rfl rfl rfl rfl, id, rfl, rfl, rfl⟩, fun _ => rfl⟩
  | false =>
      have hpush := fills_modifyPort f p
        (g := fun port => { port with htnext := f.portstbl (f.bucket p) }) fun _ => rfl
      refine ⟨⟨.of_node rfl rfl rfl rfl, id, hpush.remoteport, rfl, rfl⟩, fun x => ?_⟩
      by_cases hx : x = p <;> simp [modifyPort, hx]

/-- The port record that a PortInfo fills in, and nothing else. -/
theorem fills_portStored {scan : Scan} {mad : Bytes} {n : NodeRef} {p : PortRef} {f : Fabric}
    (hl : Linked scan.fabric) (h : Scan.PortStored scan mad n p f) :
    Fills scan.fabric f ∧ (f.node n).ports (Scan.attrModPort mad) = some p ∧
      (f.port p).info = smpData mad ∧
      ∀ x, scan.fabric.IsPort x → x ≠ p → (f.port x).info = (scan.fabric.port x).info := by
  obtain ⟨f₁, rc, f₂, hensure, hhash, hlid⟩ := h.steps
  obtain ⟨m, rfl⟩ := addToPortlidHash_ok hlid
  obtain ⟨hfill₂, hinfo₂⟩ := fills_addToPortguidHash hhash
  obtain ⟨hother, -, -, hinfo, hrem, hsame, -, hfrom⟩ :=
    Scan.storePortInfo_spec f₁ n p (Scan.attrModPort mad) (smpData mad)
  have hports := fun m => (Scan.storePortInfo_ports f₁ n p (Scan.attrModPort mad) (smpData mad) m).1
  have hfill₁ : Fills scan.fabric f₁ ∧ ∀ x, scan.fabric.IsPort x →
      (f₁.port x).info = (scan.fabric.port x).info := by
    obtain ⟨-, ⟨-, rfl⟩ | ⟨hnone, -, rfl⟩⟩ := Scan.ensurePort_ok hensure
    · exact ⟨⟨.of_node rfl rfl rfl rfl, id, rfl, rfl, rfl⟩, fun _ _ => rfl⟩
    · refine ⟨fills_newPort hl hnone rfl, fun x hx => ?_⟩
      rw [port_newPort, if_neg (Nat.ne_of_lt (hl.isPort hx))]
  have hstore : Fills f₁ (Scan.storePortInfo f₁ n p (Scan.attrModPort mad) (smpData mad)) := by
    refine ⟨hsame, fun {m j x} hx => by rw [hports]; exact hx, ?_, hfrom.1, hfrom.2⟩
    funext x
    by_cases hx : x = p
    · subst hx
      exact hrem
    · exact congrArg Port.remoteport (hother x hx)
  have hlids : Fills f₂ { f₂ with lid2guid := m } :=
    ⟨.of_node rfl rfl rfl rfl, id, rfl, rfl, rfl⟩
  refine ⟨hfill₁.1.trans (hstore.trans (hfill₂.trans hlids)), ?_, (hinfo₂ p).trans hinfo,
    fun x hx hxp => ?_⟩
  · refine hfill₂.slots ?_
    rw [hports]
    exact Scan.ensurePort_slot hensure
  · exact (hinfo₂ x).trans ((congrArg Port.info (hother x hxp)).trans (hfill₁.2 x hx))

end Fabric

namespace Network
variable {V : Type} (N : Network V) (s : V × Nat) (origin : PortId) (f : Fabric)

/-- A node record that stands for a node of the network. -/
def Knows (n : NodeRef) (v : V) : Prop := n < f.nodeCount ∧ (f.node n).guid = N.guid v

/-- A port record that stands for a port of the network. -/
def PortAt (p : PortRef) (a : V × Nat) : Prop :=
  ∃ n, N.Knows f n a.1 ∧ (f.node n).ports a.2 = some p

def Joined (a : V × Nat) : Prop := ∃ p q, N.PortAt f p a ∧ f.remoteport p = some q

/-- A route whose cables are all linked, and the port it ends at. -/
inductive Trail : List Nat → V × Nat → Prop
  | nil : Trail [] s
  | snoc {ks a k b} : Trail ks a → N.peer (a.1, k) = some b → N.Joined f (a.1, k) →
      Trail (ks ++ [k]) b

/-- A port through which its node is asked: its own cable is known, and a scan that starts at
an adapter has entered the first node by the cable of the start port. -/
def Entered (a : V × Nat) : Prop :=
  (a = s ∨ N.Joined f a) ∧
    (N.type s.1 ≠ ibNodeSwitch → ∀ b, N.peer s = some b → b.1 = a.1 → b = a)

/-- A port record whose PortInfo is the one the network would give. -/
def Reported (p : PortRef) (a : V × Nat) : Prop :=
  N.PortAt f p a ∧
    (a.2 ≠ 0 → ((f.port p).info.field .portPhysState = ibPortPhysStateLinkup ↔
      (N.peer a).isSome)) ∧
    (N.type a.1 = ibNodeSwitch → N.Entered s f (a.1, (f.port p).info.field .portLocalPort))

/-- The fabric is part of the network, links included. -/
structure Mapped : Prop where
  node : ∀ n < f.nodeCount, ∃ v, (f.node n).guid = N.guid v ∧ (f.node n).type = N.type v ∧
    (f.node n).numports = N.numports v ∧ N.Reach s v
  origin : ∃ n, N.Knows f n s.1 ∧ f.fromNode = some n ∧ f.fromPortnum = s.2
  links : ∀ {p q}, f.remoteport p = some q → ∃ a b, N.peer a = some b ∧
    (N.Explores s a ∨ N.Explores s b) ∧ N.PortAt f p a ∧ N.PortAt f q b
  /-- from an adapter the scan gets nowhere but through its start port -/
  gate : N.type s.1 ≠ ibNodeSwitch → ∀ n v, N.Knows f n v → v ≠ s.1 →
    ∃ b m, N.peer s = some b ∧ N.Knows f m b.1

/-- The route of a request ends at a port. -/
structure Routed (portid : PortId) (b : V × Nat) : Prop where
  arrival : N.arrival s origin portid = some b
  cnt : origin.drpath.cnt ≤ portid.drpath.cnt
  lid : portid.lid = origin.lid

/-- A NodeInfo asked for through port `k` of node `n`, on its way to `b`. -/
structure LinkTask (t : ScanRequest) (n : NodeRef) (a b : V × Nat) : Prop where
  cb : t.cb = .recvNodeInfo
  attrId : t.attrId = ibAttrNodeInfo
  knows : N.Knows f n a.1
  port : ∃ p, N.PortAt f p a
  explores : N.Explores s a
  peer : N.peer a = some b
  routed : N.Routed s origin t.portid b
  trail : ∃ ks c, t.portid.drpath.hops origin.drpath.cnt = ks ++ [a.2] ∧ N.Trail s f ks c ∧
    c.1 = a.1
  onward : N.type s.1 ≠ ibNodeSwitch → b ≠ s

/-- A request about node `n` that arrives there through `b`. -/
structure NodeTask (t : ScanRequest) (n : NodeRef) (b : V × Nat) : Prop where
  cb : t.cb ≠ .recvNodeInfo
  attrId : t.cb = .recvPortInfo ∨ t.cb = .recvPort0Info → t.attrId = ibAttrPortInfo
  knows : N.Knows f n b.1
  routed : N.Routed s origin t.portid b
  trail : N.Trail s f (t.portid.drpath.hops origin.drpath.cnt) b
  port : t.attrMod ≤ N.numports b.1
  entered : N.type b.1 = ibNodeSwitch → N.Entered s f b
  home : N.type s.1 ≠ ibNodeSwitch → b.1 = s.1 → (b.1, t.attrMod) = s ∨ t.cb = .recvPort0Info →
    t.portid.drpath.cnt = origin.drpath.cnt
  reported : t.cb = .recvMlnxExtPortInfo → ∃ p, N.Reported s f p (b.1, t.attrMod)

def TaskOk (t : ScanRequest) : Prop :=
  match t.cbData with
  | .niCbdata none => False
  | .niCbdata (some (n, k)) => ∃ v b, N.LinkTask s origin f t n (v, k) b
  | .node n => ∃ b, N.NodeTask s origin f t n b

/-- The request that will see to a cable end: the NodeInfo sent through it, the PortInfo that
leads to that, or the PortInfo of port 0 that leads to all others. -/
def Covers (t : ScanRequest) (a : V × Nat) : Prop :=
  ∃ n, N.Knows f n a.1 ∧ (t.cbData = .niCbdata (some (n, a.2)) ∨
    (t.cbData = .node n ∧ (t.cb = .recvPort0Info ∨
      ((t.cb = .recvPortInfo ∨ t.cb = .recvMlnxExtPortInfo) ∧ t.attrMod = a.2))))

/-- The scan invariant, complete for the nodes that are `near`. -/
structure Frontier (near : V → Prop) (T : Multiset ScanRequest) : Prop where
  mapped : N.Mapped s f
  tasks : ∀ t ∈ T, N.TaskOk s origin f t
  paths : ∀ n < f.nodeCount, ∃ b, N.Knows f n b.1 ∧
    N.Trail s f ((f.node n).pathPortid.drpath.hops origin.drpath.cnt) b
  covered : ∀ a, near a.1 → (∃ n, N.Knows f n a.1) → N.Explores s a → (N.peer a).isSome →
    N.Joined f a ∨ ∃ t ∈ T, N.Covers f t a

section Growth
variable {N s origin f} {f' : Fabric} {n m : NodeRef} {v : V} {p q : PortRef} {a b : V × Nat}

theorem Knows.unique (h : N.Knows f n v) {w : V} (h' : N.Knows f n w) : v = w :=
  N.guid_injective (h.2.symm.trans h'.2)

theorem Knows.inj (hnt : f.NodeTable) (h : N.Knows f n v) (h' : N.Knows f m v) : n = m :=
  hnt.distinct h.1 h'.1 (h.2.trans h'.2.symm)

theorem PortAt.port_inj (hnt : f.NodeTable) (hp : N.PortAt f p a) (hq : N.PortAt f q a) :
    p = q := by
  obtain ⟨n, hn, hslot⟩ := hp
  obtain ⟨m, hm, hslot'⟩ := hq
  obtain rfl := hn.inj hnt hm
  exact Option.some.inj (hslot.symm.trans hslot')

theorem PortAt.unique (hnt : f.NodeTable) (ha : N.PortAt f p a) (hb : N.PortAt f p b) : a = b := by
  obtain ⟨n, hn, hslot⟩ := ha
  obtain ⟨m, hm, hslot'⟩ := hb
  obtain ⟨rfl, hk⟩ := hnt.slot_unique hslot hslot'
  exact Prod.ext (hn.unique hm) hk

theorem PortAt.isPort (h : N.PortAt f p a) : f.IsPort p := by
  obtain ⟨n, -, hslot⟩ := h
  exact ⟨n, a.2, hslot⟩

/-- Everything known stays known. -/
structure Extends (N : Network V) (s : V × Nat) (f f' : Fabric) : Prop where
  knows : ∀ {n v}, N.Knows f n v → N.Knows f' n v
  portAt : ∀ {p a}, N.PortAt f p a → N.PortAt f' p a
  joined : ∀ {a}, N.Joined f a → N.Joined f' a
  reported : ∀ {p a}, N.Reported s f p a → N.Reported s f' p a

theorem Entered.mono (h : N.Entered s f a) (hjoined : ∀ {a}, N.Joined f a → N.Joined f' a) :
    N.Entered s f' a :=
  ⟨h.1.imp_right hjoined, h.2⟩

theorem Trail.mono {ks : List Nat} (h : N.Trail s f ks a)
    (hjoined : ∀ {a}, N.Joined f a → N.Joined f' a) : N.Trail s f' ks a := by
  induction h with
  | nil => exact .nil
  | snoc _ hpeer hlinked ih => exact .snoc ih hpeer (hjoined hlinked)

theorem Trail.walk {ks : List Nat} (h : N.Trail s f ks a) : N.walk s ks = some a := by
  induction h with
  | nil => exact N.walk_nil s
  | snoc _ hpeer _ ih =>
      rw [walk_concat, ih]
      exact hpeer

theorem TaskOk.mono (he : Extends N s f f') {t : ScanRequest} (h : N.TaskOk s origin f t) :
    N.TaskOk s origin f' t := by
  unfold TaskOk at h ⊢
  cases hdata : t.cbData with
  | niCbdata rem =>
      cases rem with
      | none => rw [hdata] at h; exact h
      | some at_ =>
          rw [hdata] at h
          obtain ⟨v, b, ht⟩ := h
          obtain ⟨p, hp⟩ := ht.port
          obtain ⟨ks, c, hhops, htrail, hc⟩ := ht.trail
          exact ⟨v, b, ⟨ht.cb, ht.attrId, he.knows ht.knows, ⟨p, he.portAt hp⟩, ht.explores,
            ht.peer, ht.routed, ⟨ks, c, hhops, htrail.mono he.joined, hc⟩, ht.onward⟩⟩
  | node n =>
      rw [hdata] at h
      obtain ⟨b, ht⟩ := h
      refine ⟨b, ⟨ht.cb, ht.attrId, he.knows ht.knows, ht.routed, ht.trail.mono he.joined, ht.port,
        fun hsw => (ht.entered hsw).mono he.joined, ht.home, fun hcb => ?_⟩⟩
      obtain ⟨p, hp⟩ := ht.reported hcb
      exact ⟨p, he.reported hp⟩

theorem Covers.mono (he : Extends N s f f') {t : ScanRequest} (h : N.Covers f t a) :
    N.Covers f' t a := by
  obtain ⟨n, hn, ht⟩ := h
  exact ⟨n, he.knows hn, ht⟩

/-- One request answered: what it covered is joined or covered by the requests it leads to,
and so are the ends at nodes found with it. -/
theorem Frontier.step {near : V → Prop} {t : ScanRequest} {T reqs : Multiset ScanRequest}
    (h : N.Frontier s origin f near (t ::ₘ T)) (he : Extends N s f f') (hm : N.Mapped s f')
    (htasks : ∀ r ∈ reqs, N.TaskOk s origin f' r)
    (hpaths : ∀ n < f'.nodeCount, (n < f.nodeCount ∧ (f'.node n).pathPortid = (f.node n).pathPortid) ∨
      ∃ b, N.Knows f' n b.1 ∧
        N.Trail s f' ((f'.node n).pathPortid.drpath.hops origin.drpath.cnt) b)
    (hold : ∀ a, near a.1 → N.Explores s a → (N.peer a).isSome → N.Covers f t a →
      N.Joined f' a ∨ ∃ r ∈ reqs, N.Covers f' r a)
    (hnew : ∀ a n, N.Knows f' n a.1 → (∀ m, ¬ N.Knows f m a.1) → N.Explores s a →
      (N.peer a).isSome → N.Joined f' a ∨ ∃ r ∈ reqs, N.Covers f' r a) :
    N.Frontier s origin f' near (reqs + T) := by
  refine ⟨hm, fun r hr => ?_, fun n hn => ?_, fun a hnear hknown hexp hpeer => ?_⟩
  · rcases Multiset.mem_add.mp hr with hr | hr
    · exact htasks r hr
    · exact (h.tasks r (Multiset.mem_cons_of_mem hr)).mono he
  · rcases hpaths n hn with ⟨hlt, hsame⟩ | hnew
    · obtain ⟨b, hb, htrail⟩ := h.paths n hlt
      exact ⟨b, he.knows hb, hsame ▸ htrail.mono he.joined⟩
    · exact hnew
  · have hlift : (N.Joined f' a ∨ ∃ r ∈ reqs, N.Covers f' r a) →
        N.Joined f' a ∨ ∃ r ∈ reqs + T, N.Covers f' r a :=
      Or.imp_right fun ⟨r, hr, hcov⟩ => ⟨r, Multiset.mem_add.mpr (.inl hr), hcov⟩
    by_cases hwas : ∃ n, N.Knows f n a.1
    · rcases h.covered a hnear hwas hexp hpeer with hjoined | ⟨r, hr, hcov⟩
      · exact .inl (he.joined hjoined)
      · rcases Multiset.mem_cons.mp hr with rfl | hr
        · exact hlift (hold a hnear hexp hpeer hcov)
        · exact .inr ⟨r, Multiset.mem_add.mpr (.inr hr), hcov.mono he⟩
    · obtain ⟨n, hn⟩ := hknown
      exact hlift (hnew a n hn (not_exists.mp hwas) hexp hpeer)

/-! ### Updates that fill slots -/

variable (hf : Fabric.Fills f f')
include hf

theorem knows_fills : N.Knows f' n v ↔ N.Knows f n v := by
  rw [Knows, Knows, hf.nodeCount, hf.guid]

theorem portAt_fills (h : N.PortAt f p a) : N.PortAt f' p a := by
  obtain ⟨n, hn, hslot⟩ := h
  exact ⟨n, (knows_fills hf).mpr hn, hf.slots hslot⟩

theorem joined_fills (h : N.Joined f a) : N.Joined f' a := by
  obtain ⟨p, q, hp, hq⟩ := h
  exact ⟨p, q, portAt_fills hf hp, by rw [hf.remoteport]; exact hq⟩

theorem reported_fills (h : N.Reported s f p a) (hinfo : (f'.port p).info = (f.port p).info) :
    N.Reported s f' p a := by
  obtain ⟨hp, hphys, hlocal⟩ := h
  refine ⟨portAt_fills hf hp, ?_, fun hsw => ?_⟩
  · rw [hinfo]
    exact hphys
  · rw [hinfo]
    exact (hlocal hsw).mono fun h => joined_fills hf h

theorem extends_fills (hrep : ∀ {p a}, N.Reported s f p a → N.Reported s f' p a) :
    Extends N s f f' :=
  ⟨(knows_fills hf).mpr, portAt_fills hf, joined_fills hf, hrep⟩

theorem mapped_fills (h : N.Mapped s f) : N.Mapped s f' := by
  refine ⟨fun n hn => ?_, ?_, fun {p q} hpq => ?_, fun hca n v hn hv => ?_⟩
  · rw [hf.nodeCount] at hn
    obtain ⟨v, hguid, htype, hports, hreach⟩ := h.node n hn
    exact ⟨v, (hf.guid n).trans hguid, (hf.type n).trans htype, (hf.numports n).trans hports, hreach⟩
  · obtain ⟨n, hn, hfrom, hport⟩ := h.origin
    exact ⟨n, (knows_fills hf).mpr hn, hf.origin.1.trans hfrom, hf.origin.2.trans hport⟩
  · rw [hf.remoteport] at hpq
    obtain ⟨a, b, hpeer, hexp, hp, hq⟩ := h.links hpq
    exact ⟨a, b, hpeer, hexp, portAt_fills hf hp, portAt_fills hf hq⟩
  · obtain ⟨b, m, hb, hm⟩ := h.gate hca n v ((knows_fills hf).mp hn) hv
    exact ⟨b, m, hb, (knows_fills hf).mpr hm⟩

end Growth
end Network
end InfinibandDiags
