import InfinibandDiags.Discover.Arrive
import InfinibandDiags.Mad.Reply
import InfinibandDiags.Smp.Loss

/-! What a scan has found once no request is pending any more, in whatever order the replies
were delivered. -/
namespace InfinibandDiags
open Engine

namespace Scan
variable {scan : Scan} {smp : ScanSmp} {r : Recv} {out : Outcome}

theorem exploreLink_cfg (scan : Scan) (path : PortId) (n : NodeRef) (p : PortRef) (k : Nat) :
    (scan.exploreLink path n p k).1.cfg = scan.cfg := by
  obtain ⟨⟨m, hm⟩, -⟩ := exploreLink_cases scan path n p k
  rw [hm]
  rfl

/-- No callback changes the configuration. -/
theorem reply_cfg (h : scan.reply smp r = .ok out) : out.scan.cfg = scan.cfg := by
  have hport : ∀ n out, scan.recvPortInfo smp r.mad n = .ok out → out.scan.cfg = scan.cfg := by
    intro n out h
    obtain ⟨p, f, -, ⟨-, rfl⟩ | ⟨-, -, rfl⟩⟩ := recvPortInfo_ok h
    · rfl
    · exact exploreLink_cfg _ _ _ _ _
  cases reply_ok h with
  | ignored h => rw [h]
  | nodeInfo cbdata _ _ h =>
      obtain ⟨p, f, -, ⟨-, rfl⟩ | ⟨_, _, -, ⟨-, rfl⟩ | ⟨q, -, rfl⟩⟩⟩ := recvNodeInfo_ok h <;> rfl
  | nodeDesc n _ h => rw [h]; rfl
  | switchInfo n _ h => rw [h]; rfl
  | port0Info n _ h =>
      obtain ⟨out₁, h₁, rfl⟩ := recvPort0Info_ok h
      exact hport n out₁ h₁
  | portInfo n _ h => exact hport n out h
  | extPortInfo n _ h =>
      obtain ⟨-, ⟨-, rfl⟩ | ⟨p, -, -, rfl⟩⟩ := recvMlnxExtPortInfo_ok h
      · rfl
      · exact exploreLink_cfg _ _ _ _ _
  | extPortInfoErr n _ h =>
      obtain ⟨-, ⟨-, rfl⟩ | ⟨p, -, -, rfl⟩⟩ := mlnxExtPortInfoErr_ok h
      · rfl
      · exact exploreLink_cfg _ _ _ _ _

end Scan

namespace Network
variable {V : Type} {N : Network V} {s : V × Nat} {origin : PortId} {scan : Scan} {f : Fabric}
  {smp : ScanSmp} {r : Recv} {out : Outcome} {near : V → Prop} {T : Multiset ScanRequest}

/-- The hop limit does not stand against the cable that a PortInfo reply leads to, when its node
is `near`. -/
def Unhindered (N : Network V) (s : V × Nat) (near : V → Prop) (scan : Scan) (smp : ScanSmp) :
    Prop :=
  ∀ n v, smp.cbData = .node n → smp.cb = .recvPortInfo ∨ smp.cb = .recvMlnxExtPortInfo →
    N.Knows scan.fabric n v → near v → N.Explores s (v, smp.rpc.attrMod) →
    (N.peer (v, smp.rpc.attrMod)).isSome → scan.hopLimitReached = false

/-- The frontier after a reply that only fills in data of a node. -/
theorem Frontier.nodeData {t : ScanRequest} {n : NodeRef} {g : Node → Node} {b : V × Nat}
    (h : N.Frontier s origin f near (t ::ₘ T)) (hdata : t.cbData = .node n) (hn : N.Knows f n b.1)
    (hcb : t.cb = .recvNodeDesc ∨ t.cb = .recvSwitchInfo) (hg : ∀ x, (g x).SameShape x) :
    N.Frontier s origin (f.modifyNode n g) near (([] : List ScanRequest) + T) := by
  refine h.nodeReply hdata hn (expanded_modifyNode hg h.mapped _) (fun hcb' => ?_) fun hcb' => ?_
  · rcases hcb with hcb | hcb <;> rw [hcb] at hcb' <;> rcases hcb' with h | h <;> cases h
  · rcases hcb with hcb | hcb <;> rw [hcb] at hcb' <;> cases hcb'

/-- The frontier after any reply about what lies behind the first node. -/
theorem Frontier.reply (hnt : scan.fabric.NodeTable) (hstart : N.LocalStart s origin)
    (h : N.Frontier s origin scan.fabric near (smp.request ::ₘ T))
    (hans : N.Answers s origin smp r) (hcnt : ∀ v, near v → smp.path.drpath.cnt < 63)
    (hfree : N.Unhindered s near scan smp) (hok : scan.reply smp r = .ok out) :
    N.Frontier s origin out.scan.fabric near (out.requests + T) := by
  obtain ⟨hclean, hmod, hreport⟩ := hans
  rw [Scan.reply_of_clean hclean] at hok
  have htask := h.tasks smp.request (Multiset.mem_cons_self _ _)
  unfold TaskOk at htask
  cases hdata : smp.request.cbData with
  | niCbdata rem =>
      rw [hdata] at htask
      cases rem with
      | none => exact htask.elim
      | some rem =>
          obtain ⟨n, k⟩ := rem
          obtain ⟨v, b, ht⟩ := htask
          have hcb : smp.cb = .recvNodeInfo := ht.cb
          rw [show smp.cbData = _ from hdata, hcb] at hok
          exact h.linkReply hnt hdata ht ((hreport b ht.routed.arrival).1 ht.attrId) hok
  | node n =>
      rw [hdata] at htask
      obtain ⟨b, ht⟩ := htask
      have hk : Scan.attrModPort r.mad = smp.rpc.attrMod := by
        rw [Scan.attrModPort, hmod]
        exact Nat.mod_eq_of_lt (Nat.lt_of_le_of_lt ht.port (N.numports_lt b.1))
      have hinfo : smp.rpc.attrId = ibAttrPortInfo →
          N.PortInfoOf b smp.rpc.attrMod (smpData r.mad) := (hreport b ht.routed.arrival).2
      have hroom : ∀ v, near v → smp.path.drpath.cnt ≤ 62 :=
        fun v hv => Nat.le_of_lt_succ (hcnt v hv)
      have hlimit := hfree n b.1 hdata
      rw [show smp.cbData = _ from hdata] at hok
      cases hcb : smp.cb with
      | recvNodeInfo => exact absurd hcb ht.cb
      | recvNodeDesc =>
          rw [hcb] at hok
          obtain rfl := Except.ok.inj hok
          exact h.nodeData (g := fun node => { node with nodedesc := smpData r.mad }) hdata ht.knows
            (.inl hcb) fun _ => ⟨rfl, rfl, rfl, rfl, rfl, rfl⟩
      | recvSwitchInfo =>
          rw [hcb] at hok
          obtain rfl := Except.ok.inj hok
          refine h.nodeData (g := fun node => { node with
            switchinfo := smpData r.mad
            smaenhsp0 := (smpData r.mad).field .swEnhancedPort0 }) hdata ht.knows (.inr hcb) ?_
          exact fun _ => ⟨rfl, rfl, rfl, rfl, rfl, rfl⟩
      | recvPort0Info =>
          rw [hcb] at hok
          obtain ⟨hexp, hall⟩ := expanded_recvPort0Info hnt h.mapped hstart ht hcb hk
            (hinfo (ht.attrId (.inr hcb))) hok
          refine h.nodeReply hdata ht.knows hexp (fun hcb' => ?_) fun _ => hall
          rcases hcb' with hcb' | hcb' <;> exact nomatch hcb.symm.trans hcb'
      | recvPortInfo =>
          rw [hcb] at hok
          have hexp := expanded_recvPortInfo hnt h.mapped hstart ht hk
            (hinfo (ht.attrId (.inl hcb))) hok
          refine h.nodeReply hdata ht.knows hexp (fun hcb' hv ha hp =>
            ⟨hlimit hcb' ht.knows hv ha hp, hroom b.1 hv⟩) fun hcb' => ?_
          exact nomatch hcb.symm.trans hcb'
      | recvMlnxExtPortInfo =>
          rw [hcb] at hok
          have hexp := expanded_recvMlnxExtPortInfo hnt h.mapped hstart ht hcb hk hok
          refine h.nodeReply hdata ht.knows hexp (fun hcb' hv ha hp =>
            ⟨hlimit hcb' ht.knows hv ha hp, hroom b.1 hv⟩) fun hcb' => ?_
          exact nomatch hcb.symm.trans hcb'

/-- Before the first reply there is only its request, from then on a frontier. -/
def Underway (N : Network V) (s : V × Nat) (origin : PortId) (near : V → Prop) (scan : Scan)
    (T : Multiset ScanRequest) : Prop :=
  (scan.fabric = allocateFabricInternal ∧ T = {queryNodeInfo origin none}) ∨
    N.Frontier s origin scan.fabric near T

theorem Underway.reply (hnt : scan.fabric.NodeTable) (hstart : N.LocalStart s origin)
    (h : N.Underway s origin near scan (smp.request ::ₘ T)) (hans : N.Answers s origin smp r)
    (hcnt : ∀ v, near v → smp.path.drpath.cnt < 63) (hfree : N.Unhindered s near scan smp)
    (hok : scan.reply smp r = .ok out) :
    N.Underway s origin near out.scan (out.requests + T) := by
  rcases h with ⟨hinit, hone⟩ | hfrontier
  · refine .inr ?_
    obtain ⟨hreq, rfl⟩ := (Multiset.singleton_eq_cons_iff T).mp hone.symm
    have hpath : smp.path = origin := congrArg Request.portid hreq.symm
    have hdata : smp.cbData = .niCbdata none := congrArg Request.cbData hreq.symm
    have hcb : smp.cb = .recvNodeInfo := congrArg Request.cb hreq.symm
    have hid : smp.rpc.attrId = ibAttrNodeInfo := congrArg Request.attrId hreq.symm
    have harrival : N.arrival s origin smp.path = some s := by
      rw [hpath, arrival, DrPath.hops_of_le (Nat.le_refl _), walk_nil]
    obtain ⟨hclean, -, hreport⟩ := hans
    rw [Scan.reply_of_clean hclean, hdata, hcb] at hok
    rw [Multiset.add_zero]
    refine frontier_start hinit ⟨harrival, ?_, ?_⟩ ?_ ((hreport s harrival).1 hid) hok
    · rw [hpath]
    · rw [hpath]
    · rw [hpath]
  · exact .inr (hfrontier.reply hnt hstart hans hcnt hfree hok)

/-- What is left when a run has lost nothing: a frontier without requests. -/
theorem frontier_of_processMads {args : DiscoverArgs} {rs : List Recv}
    {e : Engine ScanCb CbData} (hstart : N.LocalStart s args.origin)
    (hC : Along (fun scan smp r => N.Answers s args.origin smp r ∧ smp.path.drpath.cnt < 63 ∧
      N.Unhindered s near scan smp) args.start.engine args.start.scan rs)
    (h : processMads scanHandlers args.start.engine args.start.scan rs = .ok (some 0, e, scan))
    (hcomplete : e.Complete) : N.Frontier s args.origin scan.fabric near 0 := by
  have ha : Accounted e := accounted_stable.processMads
    (accounted_stable.issueSmp _ (accounted_init _ _ _)) h
  have hok : noLoss e := (complete_iff_noLoss ha hcomplete.queue hcomplete.wire).mp hcomplete
  have hfirst : noLoss args.start.engine := noLoss_of_subset hok fun ev hev =>
    (mem_log_stable ev).processMads hev h
  have hinit : N.Underway s args.origin near args.start.scan args.start.engine.pending :=
    .inl ⟨rfl, pending_start_eq args hfirst⟩
  have hlast := tasks_of_processMads (I := N.Underway s args.origin near) (fun hreached hI hc hout =>
    hI.reply (nodeTable_of_reached hreached) hstart hc.1 (fun _ _ => hc.2.1) hc.2.2 hout) .start hinit hC h hok
  rw [hcomplete.pending] at hlast
  rcases hlast with ⟨-, hnone⟩ | hfrontier
  · exact absurd hnone.symm (Multiset.singleton_ne_zero _)
  · exact hfrontier

section Settled
variable {n m : NodeRef} {v : V} {p q : PortRef} {a b : V × Nat}

/-- With no request pending, every cable end that the scan should follow is linked. -/
theorem Frontier.joined (h : N.Frontier s origin f near 0) (hnear : near a.1)
    (hn : N.Knows f n a.1) (hexp : N.Explores s a) (hpeer : (N.peer a).isSome) : N.Joined f a := by
  rcases h.covered a hnear ⟨n, hn⟩ hexp hpeer with hjoined | ⟨t, ht, -⟩
  · exact hjoined
  · exact absurd ht (Multiset.notMem_zero t)

theorem Mapped.far_end (hm : N.Mapped s f) (hnt : f.NodeTable) (hjoined : N.Joined f a)
    (hpeer : N.peer a = some b) : ∃ p q, N.PortAt f p a ∧ N.PortAt f q b ∧
      f.remoteport p = some q := by
  obtain ⟨p, q, hp, hpq⟩ := hjoined
  obtain ⟨a', b', hpeer', -, hp', hq⟩ := hm.links hpq
  obtain rfl := hp.unique hnt hp'
  obtain rfl := Option.some.inj (hpeer'.symm.trans hpeer)
  exact ⟨p, q, hp, hq, hpq⟩

/-- Every node is found whose way from the start goes through nodes that are `near`. -/
theorem Frontier.found (h : N.Frontier s origin f near 0) (hnt : f.NodeTable) {d : Nat}
    (hv : N.ReachIn s d v) (hnear : ∀ d' < d, ∀ w, N.ReachIn s d' w → near w) :
    ∃ n, N.Knows f n v := by
  induction hv with
  | start =>
      obtain ⟨n, hn, -⟩ := h.mapped.origin
      exact ⟨n, hn⟩
  | @hop d v k b hv hexp hpeer ih =>
      obtain ⟨n, hn⟩ := ih fun d' hd => hnear d' (Nat.lt_succ_of_lt hd)
      have hjoined := h.joined (a := (v, k)) (hnear d (Nat.lt_succ_self d) v hv) hn hexp
        (Option.isSome_of_eq_some hpeer)
      obtain ⟨-, q, -, ⟨m, hm, -⟩, -⟩ := h.mapped.far_end hnt hjoined hpeer
      exact ⟨m, hm⟩

end Settled

/-- A port whose cable belongs to the scan: on a switch within reach, or the start port. -/
def Followed (N : Network V) (s a : V × Nat) : Prop :=
  (N.type a.1 = ibNodeSwitch ∧ N.Reach s a.1) ∨ a = s

end Network

namespace Fabric

/-- The GUIDs on the list of all nodes. -/
def nodeGuids (f : Fabric) : Set UInt64 := { g | ∃ n ∈ f.nodes, (f.node n).guid = g }

/-- The links between ports of listed nodes, by GUID and port. -/
def cabling (f : Fabric) : Set ((UInt64 × Nat) × (UInt64 × Nat)) :=
  { c | ∃ m ∈ f.nodes, ∃ n ∈ f.nodes, ∃ j k p q, (f.node m).ports j = some p ∧
    (f.node n).ports k = some q ∧ f.remoteport p = some q ∧
    c = (((f.node m).guid, j), ((f.node n).guid, k)) }

end Fabric

namespace Network
variable {V : Type} {N : Network V} {s : V × Nat} {origin : PortId} {f : Fabric} {a b : V × Nat}
  {p q : PortRef}

/-- The fabric is the part of the network within reach of the start port: every node once, and
the ports linked that a cable joins. -/
structure Discovered (N : Network V) (s : V × Nat) (f : Fabric) : Prop where
  nodup : (f.nodes.map fun n => (f.node n).guid).Nodup
  nodes : f.nodeGuids = N.nodeGuids s
  links : ∀ p q, f.IsPort p → f.IsPort q → (f.remoteport p = some q ↔ ∃ a b,
    N.PortAt f p a ∧ N.PortAt f q b ∧ N.peer a = some b ∧ (N.Followed s a ∨ N.Followed s b))
  cabling : f.cabling = N.cabling s

theorem Mapped.followed (hm : N.Mapped s f) (hp : N.PortAt f p a) :
    N.Followed s a ↔ N.Explores s a := by
  obtain ⟨n, hn, -⟩ := hp
  exact or_congr_left (and_iff_left (hm.knows hn).2.2)

/-- The two ends of a followed cable point at each other. -/
theorem Frontier.linked (h : N.Frontier s origin f (fun _ => True) 0) (hnt : f.NodeTable)
    (hp : N.PortAt f p a) (hq : N.PortAt f q b) (hpeer : N.peer a = some b)
    (hexp : N.Explores s a) : f.remoteport p = some q ∧ f.remoteport q = some p := by
  obtain ⟨n, hn, -⟩ := id hp
  have hjoined := h.joined trivial hn hexp (Option.isSome_of_eq_some hpeer)
  obtain ⟨p', q', hp', hq', hlink⟩ := h.mapped.far_end hnt hjoined hpeer
  obtain rfl := hp'.port_inj hnt hp
  obtain rfl := hq'.port_inj hnt hq
  exact ⟨hlink, hnt.symmetric _ _ hlink⟩

theorem Frontier.discovered (h : N.Frontier s origin f (fun _ => True) 0) (hnt : f.NodeTable) :
    N.Discovered s f := by
  have hlisted : ∀ {n v}, N.Knows f n v → n ∈ f.nodes ∧ (f.node n).guid = N.guid v :=
    fun hn => ⟨(hnt.mem_nodes _).mpr hn.1, hn.2⟩
  have hfound : ∀ {v}, N.Reach s v → ∃ n, N.Knows f n v :=
    fun ⟨d, hd⟩ => h.found hnt hd fun _ _ _ _ => trivial
  refine ⟨?_, ?_, fun p q hp hq => ⟨fun hpq => ?_, ?_⟩, ?_⟩
  · refine hnt.nodup.map_on fun m hm n hn heq => ?_
    exact hnt.distinct ((hnt.mem_nodes m).mp hm) ((hnt.mem_nodes n).mp hn) heq
  · ext g
    constructor
    · rintro ⟨n, hn, rfl⟩
      obtain ⟨v, hguid, -, -, hv⟩ := h.mapped.node n ((hnt.mem_nodes n).mp hn)
      exact ⟨v, hv, hguid.symm⟩
    · rintro ⟨v, hv, rfl⟩
      obtain ⟨n, hn⟩ := hfound hv
      exact ⟨n, hlisted hn⟩
  · obtain ⟨a, b, hpeer, hexp, hpa, hqb⟩ := h.mapped.links hpq
    refine ⟨a, b, hpa, hqb, hpeer, ?_⟩
    rw [h.mapped.followed hpa, h.mapped.followed hqb]
    exact hexp
  · rintro ⟨a, b, hpa, hqb, hpeer, hexp⟩
    rw [h.mapped.followed hpa, h.mapped.followed hqb] at hexp
    rcases hexp with hexp | hexp
    · exact (h.linked hnt hpa hqb hpeer hexp).1
    · exact (h.linked hnt hqb hpa (N.peer_symm hpeer) hexp).2
  · ext c
    constructor
    · rintro ⟨m, hm, n, hn, j, k, p, q, hp, hq, hpq, rfl⟩
      obtain ⟨a, b, hpeer, hexp, ⟨m', hm', hp'⟩, n', hn', hq'⟩ := h.mapped.links hpq
      obtain ⟨rfl, rfl⟩ := hnt.slot_unique hp hp'
      obtain ⟨rfl, rfl⟩ := hnt.slot_unique hq hq'
      exact ⟨a, b, hpeer, (h.mapped.knows hm').2.2, (h.mapped.knows hn').2.2, hexp,
        by rw [hm'.2, hn'.2]⟩
    · rintro ⟨a, b, hpeer, ha, hb, hexp, rfl⟩
      obtain ⟨m, hm⟩ := hfound ha
      obtain ⟨n, hn⟩ := hfound hb
      have hends : ∃ p q, N.PortAt f p a ∧ N.PortAt f q b ∧ f.remoteport p = some q := by
        rcases hexp with hexp | hexp
        · have hjoined := h.joined trivial hm hexp (Option.isSome_of_eq_some hpeer)
          exact h.mapped.far_end hnt hjoined hpeer
        · have hback := N.peer_symm hpeer
          have hjoined := h.joined trivial hn hexp (Option.isSome_of_eq_some hback)
          obtain ⟨q, p, hq, hp, hqp⟩ := h.mapped.far_end hnt hjoined hback
          exact ⟨p, q, hp, hq, hnt.symmetric _ _ hqp⟩
      obtain ⟨p, q, ⟨m', hm', hp⟩, ⟨n', hn', hq⟩, hpq⟩ := hends
      exact ⟨m', (hlisted hm').1, n', (hlisted hn').1, a.2, b.2, p, q, hp, hq, hpq,
        by rw [hm'.2, hn'.2]⟩

end Network

/-- A scan from the local port of a network, without hop limit, that ended with nothing lost:
whatever was asked was answered in accordance with the network, in some order. -/
structure Scanned {V : Type} (N : Network V) (s : V × Nat) (args : DiscoverArgs) (rs : List Recv)
    (e : Engine ScanCb CbData) (scan : Scan) : Prop where
  home : args.origin.lid = 0 ∧ args.origin.drpath.cnt = 0
  unlimited : args.cfg.maxHops = 0
  answers : Along (fun _ smp r => N.Answers s args.origin smp r ∧ smp.path.drpath.cnt < 63)
    args.start.engine args.start.scan rs
  returned : processMads scanHandlers args.start.engine args.start.scan rs = .ok (some 0, e, scan)
  complete : e.Complete

section Scans
variable {V : Type} {N : Network V} {s : V × Nat} {args args' : DiscoverArgs} {rs rs' : List Recv}
  {e e' : Engine ScanCb CbData} {scan scan' : Scan}

theorem cfg_of_reached {st : ScanState} (h : Reached args.start st) :
    st.scan.cfg = setConfig args.cfg := by
  have hinv : ScanInvariant (fun scan => scan.cfg = setConfig args.cfg) fun _ _ => True :=
    ⟨fun hcfg _ hout => ⟨(Scan.reply_cfg hout).trans hcfg, fun _ _ => trivial, fun _ _ => trivial⟩⟩
  exact (hinv.reached rfl (fun _ _ => trivial) h).1

theorem Scanned.discovered (h : Scanned N s args rs e scan) : N.Discovered s scan.fabric := by
  have hfree : ∀ st : ScanState, Reached args.start st → st.scan.hopLimitReached = false := by
    intro st hst
    have hmax : st.scan.cfg.maxHops = 0 := by
      rw [cfg_of_reached hst]
      exact h.unlimited
    simp [Scan.hopLimitReached, hmax]
  have hanswers := along_mono (fun scan smp r => N.Answers s args.origin smp r ∧
    smp.path.drpath.cnt < 63 ∧ N.Unhindered s (fun _ => True) scan smp) (fun st smp r hst hC =>
      ⟨hC.1, hC.2, fun _ _ _ _ _ _ _ _ => hfree st hst⟩) .start h.answers
  have hfrontier := Network.frontier_of_processMads (.inr h.home) hanswers h.returned h.complete
  have hreached : Reached args.start ⟨e, scan⟩ := processMads_reached .start h.returned
  exact hfrontier.discovered (nodeTable_of_reached hreached)

/-- The scan finds the nodes within reach and their cables, and nothing else; in particular two
scans find the same, however the replies were ordered. -/
theorem scan_discovers (h : Scanned N s args rs e scan) :
    N.Discovered s scan.fabric ∧
      ∀ args' rs' e' scan', Scanned N s args' rs' e' scan' →
        scan'.fabric.nodeGuids = scan.fabric.nodeGuids ∧
          scan'.fabric.cabling = scan.fabric.cabling := by
  have hd := h.discovered
  refine ⟨hd, fun args' rs' e' scan' h' => ?_⟩
  have hd' := h'.discovered
  exact ⟨hd'.nodes.trans hd.nodes.symm, hd'.cabling.trans hd.cabling.symm⟩

/-- Two adapters behind a switch. -/
def twoAdapters : Network (Fin 3) :=
  .ofCables (fun v => v.val.toUInt64 + 1) (fun v => if v = 1 then ibNodeSwitch else ibNodeCa)
    (fun v => if v = 1 then 2 else 1)
    [((0, 1), (1, 1)), ((1, 1), (0, 1)), ((1, 2), (2, 1)), ((2, 1), (1, 2))]
    (by decide) (by decide) (by decide)

def localScan : DiscoverArgs :=
  ⟨⟨0, .empty⟩, ⟨0, 0, 0, 0, 0, 0⟩, 0, ⟨0, 5⟩, fun _ => 0⟩

/-- Replies to a scan from the first adapter, not in the order of the questions. -/
def twoAdaptersReplies : List Recv :=
  [⟨0, 0, responseMad 6 0 (nodeInfoData 1 1 ibNodeCa 1 1)⟩,
    ⟨0, 0, responseMad 7 0 []⟩,
    ⟨0, 0, responseMad 8 1 (portInfoData 1 5 3)⟩,
    ⟨0, 0, responseMad 9 0 (nodeInfoData 2 2 ibNodeSwitch 2 1)⟩,
    ⟨0, 0, responseMad 11 0 []⟩,
    ⟨0, 0, responseMad 10 0 []⟩,
    ⟨0, 0, responseMad 12 0 (portInfoData 1 0 5)⟩,
    ⟨0, 0, responseMad 14 2 (portInfoData 1 5 0)⟩,
    ⟨0, 0, responseMad 13 1 (portInfoData 1 5 0)⟩,
    ⟨0, 0, responseMad 15 0 (nodeInfoData 3 3 ibNodeCa 1 1)⟩,
    ⟨0, 0, responseMad 16 0 []⟩,
    ⟨0, 0, responseMad 17 1 (portInfoData 1 5 7)⟩]

theorem scan_discovers_twoAdapters : ∃ e scan,
    Scanned twoAdapters (0, 1) localScan twoAdaptersReplies e scan ∧
      twoAdapters.Discovered (0, 1) scan.fabric := by
  have hrun : (processMads scanHandlers localScan.start.engine localScan.start.scan
      twoAdaptersReplies).toOption.any (fun x => x.1 = some 0 ∧ x.2.1.Complete) = true := by
    decide +kernel
  obtain ⟨⟨res, e, scan⟩, hres, hend⟩ := (Option.any_eq_true _ _).mp hrun
  obtain ⟨rfl, hcomplete⟩ := of_decide_eq_true hend
  have hscanned : Scanned twoAdapters (0, 1) localScan twoAdaptersReplies e scan :=
    ⟨⟨rfl, rfl⟩, rfl, by decide +kernel, toOption_eq_some.mp hres, hcomplete⟩
  exact ⟨e, scan, hscanned, (scan_discovers hscanned).1⟩

end Scans
end InfinibandDiags
