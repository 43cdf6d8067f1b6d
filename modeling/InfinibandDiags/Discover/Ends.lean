import Mathlib.Algebra.Order.BigOperators.Group.Finset
import InfinibandDiags.Discover.Ports

/-! A scan ends: how many SMPs it can take. -/
namespace InfinibandDiags
open Engine

namespace Fabric

/-- Whether a PortInfo of this port may send the scan on. -/
def Follows (f : Fabric) (n : NodeRef) (k : Nat) : Prop :=
  (f.node n).type = ibNodeSwitch ∨ (some n = f.fromNode ∧ k = f.fromPortnum)

instance decidableFollows (f : Fabric) (n : NodeRef) (k : Nat) : Decidable (f.Follows n k) :=
  inferInstanceAs (Decidable (_ ∨ _))

/-- The SMPs that the extended PortInfo of a port can take, with those behind the port. -/
def portCost (f : Fabric) (n : NodeRef) (k : Nat) : Nat := if f.Follows n k then 4 else 1

/-- The SMPs that a request can take, as long as no new node is found. -/
def cost (f : Fabric) (t : ScanRequest) : Nat :=
  match t.cbData with
  | .niCbdata _ => 3
  | .node n =>
      match t.cb with
      | .recvMlnxExtPortInfo => f.portCost n t.attrMod
      | .recvPortInfo => f.portCost n t.attrMod + 1
      | .recvPort0Info => f.portCost n t.attrMod + 1 + 5 * (f.node n).numports
      | _ => 1

/-- The SMPs that a new node can take. -/
def nodeCost (numports : Nat) : Nat := 7 + 5 * numports

/-- What the nodes found so far could take. -/
def credit (f : Fabric) : Nat := ∑ n ∈ Finset.range f.nodeCount, nodeCost (f.node n).numports

def costs (f : Fabric) (T : Multiset ScanRequest) : Nat := (T.map f.cost).sum

variable {f f' : Fabric} {n : NodeRef} {k : Nat} {T T' : Multiset ScanRequest} {t : ScanRequest}
  {path : PortId}

@[simp] theorem costs_zero : f.costs 0 = 0 := rfl

@[simp] theorem costs_cons : f.costs (t ::ₘ T) = f.cost t + f.costs T := by
  rw [costs, Multiset.map_cons, Multiset.sum_cons]
  rfl

@[simp] theorem costs_add : f.costs (T + T') = f.costs T + f.costs T' := by
  rw [costs, Multiset.map_add, Multiset.sum_add]
  rfl

theorem portCost_pos : 0 < f.portCost n k := by
  unfold portCost
  split <;> decide

theorem portCost_le : f.portCost n k ≤ 4 := by
  unfold portCost
  split <;> decide

theorem portCost_follows (h : f.Follows n k) : f.portCost n k = 4 := if_pos h

theorem cost_pos : 0 < f.cost t := by
  unfold cost
  split
  · decide
  · split
    · exact portCost_pos
    · exact Nat.succ_pos _
    · exact Nat.lt_of_lt_of_le (Nat.succ_pos _) (Nat.le_add_right _ _)
    · decide

theorem cost_queryPortInfo (hk : k ≠ 0) :
    f.cost (queryPortInfo path n k) = f.portCost n k + 1 := by
  unfold queryPortInfo
  rw [if_pos hk]
  rfl

theorem cost_queryPortInfo_zero : f.cost (queryPortInfo path n 0) =
    f.portCost n 0 + 1 + 5 * (f.node n).numports := rfl

theorem cost_queryPortInfo_le (path : PortId) (n : NodeRef) (k : Nat) :
    f.cost (queryPortInfo path n k) ≤ 5 + 5 * (f.node n).numports := by
  have hle : f.portCost n k + 1 ≤ 5 := Nat.succ_le_succ portCost_le
  by_cases hk : k = 0
  · subst hk
    rw [cost_queryPortInfo_zero]
    exact Nat.add_le_add_right hle _
  · rw [cost_queryPortInfo hk]
    exact hle.trans (Nat.le_add_right _ _)

/-- Updates that keep the nodes there are, and where the scan began. -/
structure Continues (f f' : Fabric) : Prop where
  nodeCount : f.nodeCount ≤ f'.nodeCount
  type : ∀ n < f.nodeCount, (f'.node n).type = (f.node n).type
  numports : ∀ n < f.nodeCount, (f'.node n).numports = (f.node n).numports
  origin : f'.fromNode = f.fromNode ∧ f'.fromPortnum = f.fromPortnum

theorem Continues.portCost (h : Continues f f') (hn : n < f.nodeCount) :
    f'.portCost n k = f.portCost n k := by
  have hfollows : f'.Follows n k ↔ f.Follows n k := by
    rw [Follows, Follows, h.type n hn, h.origin.1, h.origin.2]
  simp only [Fabric.portCost, hfollows]

theorem Continues.cost (h : Continues f f') (ht : ∀ n, t.cbData = .node n → n < f.nodeCount) :
    f'.cost t = f.cost t := by
  unfold Fabric.cost
  cases hdata : t.cbData with
  | niCbdata rem => rfl
  | node n =>
      have hn := ht n hdata
      dsimp only
      rw [h.portCost hn, h.numports n hn]

theorem Continues.costs (h : Continues f f')
    (hT : ∀ t ∈ T, ∀ n, t.cbData = .node n → n < f.nodeCount) : f'.costs T = f.costs T :=
  congrArg Multiset.sum (Multiset.map_congr rfl fun t ht => h.cost (hT t ht))

theorem Continues.trans {f₁ f₂ f₃ : Fabric} (h₁ : Continues f₁ f₂) (h₂ : Continues f₂ f₃) :
    Continues f₁ f₃ where
  nodeCount := h₁.nodeCount.trans h₂.nodeCount
  type n hn := (h₂.type n (Nat.lt_of_lt_of_le hn h₁.nodeCount)).trans (h₁.type n hn)
  numports n hn := (h₂.numports n (Nat.lt_of_lt_of_le hn h₁.nodeCount)).trans (h₁.numports n hn)
  origin := ⟨h₂.origin.1.trans h₁.origin.1, h₂.origin.2.trans h₁.origin.2⟩

theorem SameNodes.continues (h : SameNodes f f')
    (horigin : f'.fromNode = f.fromNode ∧ f'.fromPortnum = f.fromPortnum) : Continues f f' :=
  ⟨Nat.le_of_eq h.nodeCount.symm, fun n _ => h.type n, fun n _ => h.numports n, horigin⟩

theorem SameNodes.credit (h : SameNodes f f') : f'.credit = f.credit := by
  unfold Fabric.credit
  rw [h.nodeCount]
  exact Finset.sum_congr rfl fun n _ => by rw [h.numports]

/-- A reply to a request that may take `c` SMPs: it is one of them, and what it leads to takes the
others and what the nodes found with it allow. -/
structure Paid (f f' : Fabric) (reqs : List ScanRequest) (c : Nat) : Prop where
  continues : Continues f f'
  balance : f'.costs reqs + 1 + f.credit ≤ c + f'.credit

theorem Paid.of_same {reqs : List ScanRequest} {c : Nat} (h : SameNodes f f')
    (horigin : f'.fromNode = f.fromNode ∧ f'.fromPortnum = f.fromPortnum)
    (hcosts : f'.costs reqs + 1 ≤ c) : Paid f f' reqs c := by
  refine ⟨h.continues horigin, ?_⟩
  rw [h.credit]
  exact Nat.add_le_add_right hcosts _

theorem Paid.after {f₀ : Fabric} {reqs : List ScanRequest} {c : Nat} (hp : Paid f f' reqs c)
    (h : SameNodes f₀ f) (horigin : f.fromNode = f₀.fromNode ∧ f.fromPortnum = f₀.fromPortnum) :
    Paid f₀ f' reqs c := by
  refine ⟨(h.continues horigin).trans hp.continues, ?_⟩
  rw [← h.credit]
  exact hp.balance

theorem Paid.mono {reqs : List ScanRequest} {c c' : Nat} (h : Paid f f' reqs c) (hc : c ≤ c') :
    Paid f f' reqs c' :=
  ⟨h.continues, h.balance.trans (Nat.add_le_add_right hc _)⟩

end Fabric

namespace Scan
variable {scan : Scan} {smp : ScanSmp} {mad : Bytes} {n : NodeRef} {p : PortRef} {k : Nat}
  {path : PortId} {out : Outcome} {f : Fabric}

theorem follows_of_worthFollowing (h : scan.worthFollowing n p k = true) :
    scan.fabric.Follows n k := by
  unfold worthFollowing at h
  simp only [Bool.and_eq_true, Bool.or_eq_true, decide_eq_true_eq] at h
  exact h.2.imp And.left id

/-- A link leads to one NodeInfo, and only where the scan goes on. -/
theorem costs_exploreLink (f : Fabric) (scan : Scan) (path : PortId) (n : NodeRef) (p : PortRef)
    (k : Nat) :
    f.costs (scan.exploreLink path n p k).2 + 1 ≤ scan.fabric.portCost n k := by
  by_cases hworth : scan.worthFollowing n p k = true
  · rw [Fabric.portCost_follows (follows_of_worthFollowing hworth)]
    obtain ⟨-, hnone | ⟨path', hone⟩⟩ := exploreLink_cases scan path n p k
    · rw [hnone]
      exact Nat.succ_le_succ (Nat.zero_le 3)
    · rw [hone]
      exact Nat.le_refl 4
  · unfold exploreLink
    rw [if_neg hworth]
    exact Fabric.portCost_pos

/-- The end of the three PortInfo callbacks. -/
theorem paid_exploreLink (scan : Scan) (path : PortId) (n : NodeRef) (p : PortRef) (k : Nat) :
    scan.fabric.Paid (scan.exploreLink path n p k).1.fabric (scan.exploreLink path n p k).2
      (scan.fabric.portCost n k) := by
  have hcosts := costs_exploreLink (scan.exploreLink path n p k).1.fabric scan path n p k
  obtain ⟨⟨m, hm⟩, -⟩ := exploreLink_cases scan path n p k
  rw [hm] at hcosts ⊢
  exact .of_same (.of_node rfl rfl rfl rfl) ⟨rfl, rfl⟩ hcosts

theorem paid_recvPortInfo (hl : scan.fabric.Linked) (hn : n < scan.fabric.nodeCount)
    (hok : scan.recvPortInfo smp mad n = .ok out) :
    scan.fabric.Paid out.scan.fabric out.requests
      (scan.fabric.portCost n (attrModPort mad) + 1) := by
  obtain ⟨p, f, hstored, hcase⟩ := recvPortInfo_ok hok
  obtain ⟨hfill, -⟩ := Fabric.fills_portStored hl hstored
  have hport : f.portCost n (attrModPort mad) = scan.fabric.portCost n (attrModPort mad) :=
    (hfill.toSameNodes.continues hfill.origin).portCost hn
  rw [← hport]
  rcases hcase with ⟨-, rfl⟩ | ⟨-, -, rfl⟩
  · exact .of_same hfill.toSameNodes hfill.origin (Nat.le_refl _)
  · have hexplored := paid_exploreLink { scan with fabric := f } smp.path n p (attrModPort mad)
    exact (hexplored.after hfill.toSameNodes hfill.origin).mono (Nat.le_succ _)

/-- A PortInfo of port 0 is charged with those of all other ports. -/
theorem paid_recvPort0Info (hl : scan.fabric.Linked) (hn : n < scan.fabric.nodeCount)
    (hok : scan.recvPort0Info smp mad n = .ok out) :
    scan.fabric.Paid out.scan.fabric out.requests
      (scan.fabric.portCost n (attrModPort mad) + 1 + 5 * (scan.fabric.node n).numports) := by
  obtain ⟨out₁, h₁, rfl⟩ := recvPort0Info_ok hok
  have hpaid := paid_recvPortInfo hl hn h₁
  refine ⟨hpaid.continues, ?_⟩
  have hnum := hpaid.continues.numports n hn
  have hphysical : ∀ ks : List Nat, out₁.scan.fabric.costs
      (ks.map fun i => queryPortInfo smp.path n (i + 1)) ≤ 5 * ks.length := by
    intro ks
    induction ks with
    | nil => exact Nat.le_refl 0
    | cons i ks ih =>
        rw [List.map_cons, ← Multiset.cons_coe, Fabric.costs_cons, List.length_cons, Nat.mul_succ,
          Nat.add_comm, Fabric.cost_queryPortInfo (Nat.succ_ne_zero i)]
        exact Nat.add_le_add ih (Nat.succ_le_succ Fabric.portCost_le)
  have hall := hphysical (List.range (out₁.scan.fabric.node n).numports)
  rw [List.length_range, hnum] at hall
  have hbalance := hpaid.balance
  dsimp only
  rw [← Multiset.coe_add, Fabric.costs_add]
  rw [hnum]
  omega

theorem paid_recvMlnxExtPortInfo (hok : scan.recvMlnxExtPortInfo smp mad n = .ok out) :
    scan.fabric.Paid out.scan.fabric out.requests (scan.fabric.portCost n (attrModPort mad)) := by
  obtain ⟨-, ⟨-, rfl⟩ | ⟨p, -, -, rfl⟩⟩ := recvMlnxExtPortInfo_ok hok
  · exact .of_same (.of_node rfl rfl rfl rfl) ⟨rfl, rfl⟩ Fabric.portCost_pos
  · have hpaid := paid_exploreLink (scan.mapFabric
      (·.modifyPort p fun port => { port with extInfo := smpData mad })) smp.path n p
        (attrModPort mad)
    exact hpaid.after (.of_node rfl rfl rfl rfl) ⟨rfl, rfl⟩

theorem paid_mlnxExtPortInfoErr (hok : scan.mlnxExtPortInfoErr smp mad n = .ok out) :
    scan.fabric.Paid out.scan.fabric out.requests (scan.fabric.portCost n (attrModPort mad)) := by
  obtain ⟨-, ⟨-, rfl⟩ | ⟨p, -, -, rfl⟩⟩ := mlnxExtPortInfoErr_ok hok
  · exact .of_same (.of_node rfl rfl rfl rfl) ⟨rfl, rfl⟩ Fabric.portCost_pos
  · exact paid_exploreLink scan smp.path n p _

/-- What is asked about a switch that a NodeInfo reached. -/
theorem costs_nodeQueries_switch {f : Fabric} {path : PortId} {n : NodeRef} {k : Nat}
    {isNew : Bool} (hsw : (f.node n).type = ibNodeSwitch) :
    f.costs (nodeQueries path n isNew (f.node n).type k) =
      if isNew then Fabric.nodeCost (f.node n).numports else 0 := by
  have hport : f.portCost n 0 = 4 := Fabric.portCost_follows (.inl hsw)
  unfold nodeQueries
  rw [if_pos hsw, if_neg (not_not_intro hsw), List.append_nil]
  cases isNew with
  | false => rfl
  | true =>
      rw [if_pos rfl, if_pos rfl]
      simp only [← Multiset.cons_coe, Multiset.coe_nil, Fabric.costs_cons, Fabric.costs_zero,
        Fabric.cost_queryPortInfo_zero, hport, Fabric.nodeCost]
      have hdesc : f.cost (queryNodeDesc path n) = 1 := rfl
      have hinfo : f.cost (querySwitchInfo path n) = 1 := rfl
      rw [hdesc, hinfo]
      omega

/-- What is asked about any other node. -/
theorem costs_nodeQueries_end {f : Fabric} {path : PortId} {n : NodeRef} {k : Nat} {isNew : Bool}
    (hend : (f.node n).type ≠ ibNodeSwitch) :
    f.costs (nodeQueries path n isNew (f.node n).type k) =
      (if isNew then 1 else 0) + f.cost (queryPortInfo path n k) := by
  unfold nodeQueries
  rw [if_neg hend, if_pos hend, ← Multiset.coe_add, Fabric.costs_add]
  cases isNew <;> rfl

/-- The node of a NodeInfo, counted when it is new. -/
theorem credit_findOrCreateNode (f : Fabric) (path : PortId) (info : SmpData) :
    let found := findOrCreateNode f path info
    found.2.2.credit = f.credit +
        (if found.2.1 then Fabric.nodeCost (found.2.2.node found.1).numports else 0) ∧
      f.nodeCount ≤ found.2.2.nodeCount ∧
      ∀ n < f.nodeCount, found.2.2.node n = f.node n := by
  unfold findOrCreateNode
  split
  · exact ⟨rfl, Nat.le_refl _, fun _ _ => rfl⟩
  · obtain ⟨hfirst, hcount, hnode, -⟩ := Fabric.createNode_node f path info
    have hold : ∀ n < f.nodeCount, (createNode f path info).2.node n = f.node n := by
      intro n hn
      rw [hnode, Function.update_of_ne (Nat.ne_of_lt hn)]
    refine ⟨?_, Nat.le_of_lt (hcount ▸ Nat.lt_succ_self _), hold⟩
    dsimp only
    rw [Fabric.credit, hcount, Finset.sum_range_succ, if_pos rfl, hfirst]
    congr 1
    refine Finset.sum_congr rfl fun n hn => ?_
    rw [hold n (Finset.mem_range.mp hn)]

end Scan

namespace Network
variable {V : Type} {N : Network V} {s : V × Nat} {origin : PortId} {scan : Scan} {smp : ScanSmp}
  {r : Recv} {out : Outcome} {f f' : Fabric} {n : NodeRef} {v : V} {k : Nat} {b : V × Nat}
  {T : Multiset ScanRequest}

/-- The node and the port where the scan began stay the same. -/
theorem Mapped.origin_eq (hm : N.Mapped s f) (hm' : N.Mapped s f') (hnt' : f'.NodeTable)
    (hknows : ∀ n, N.Knows f n s.1 → N.Knows f' n s.1) :
    f'.fromNode = f.fromNode ∧ f'.fromPortnum = f.fromPortnum := by
  obtain ⟨n, hn, hfrom, hport⟩ := hm.origin
  obtain ⟨m, hm₀, hfrom', hport'⟩ := hm'.origin
  obtain rfl := (hknows n hn).inj hnt' hm₀
  exact ⟨hfrom'.trans hfrom.symm, hport'.trans hport.symm⟩

/-- A NodeInfo that comes through a cable leads to a PortInfo at most, when its node is known. -/
theorem paid_linkReply (hnt : scan.fabric.NodeTable) (hnt' : out.scan.fabric.NodeTable)
    (hm : N.Mapped s scan.fabric) (hm' : N.Mapped s out.scan.fabric)
    (ht : N.LinkTask s origin scan.fabric smp.request n (v, k) b)
    (hinfo : N.NodeInfoOf b (smpData r.mad))
    (hok : scan.recvNodeInfo smp r.mad (some (n, k)) = .ok out)
    (hrem : (out.scan.fabric.node n).ports k ≠ none) :
    scan.fabric.Paid out.scan.fabric out.requests 3 := by
  obtain ⟨p, he, hreqs⟩ := Scan.recvNodeInfo_entered hok
  have hfound := found_findOrCreateNode smp.path hnt hm hinfo ht.knows ht.explores ht.peer
  obtain ⟨hcredit, hcount, hold⟩ :=
    Scan.credit_findOrCreateNode scan.fabric smp.path (smpData r.mad)
  rw [hinfo.2.2.2] at hreqs
  generalize Scan.findOrCreateNode scan.fabric smp.path (smpData r.mad) = found
    at he hreqs hfound hcredit hcount hold
  have hsame := he.touched.toSameNodes
  have hknows : ∀ {m w}, N.Knows scan.fabric m w → N.Knows out.scan.fabric m w :=
    fun h => (knows_touched he.touched).mpr (hfound.grows.knows h)
  have hnode : N.Knows out.scan.fabric found.1 b.1 := (knows_touched he.touched).mpr hfound.knows
  have horigin := hm.origin_eq hm' hnt' fun _ => hknows
  have hreqs' : out.requests = Scan.nodeQueries smp.path found.1 found.2.1
      (out.scan.fabric.node found.1).type b.2 := by
    rw [hsame.type]
    refine hreqs.resolve_right ?_
    rintro ⟨m, j, hsome, hnone⟩
    obtain ⟨rfl, rfl⟩ := Prod.mk.inj (Option.some.inj hsome)
    exact hrem hnone
  refine ⟨⟨hsame.nodeCount ▸ hcount, fun m hm => ?_, fun m hm => ?_, horigin⟩, ?_⟩
  · rw [hsame.type, hold m hm]
  · rw [hsame.numports, hold m hm]
  · rw [hsame.credit, hcredit, ← hsame.numports, hreqs']
    have hcost : out.scan.fabric.costs (Scan.nodeQueries smp.path found.1 found.2.1
        (out.scan.fabric.node found.1).type b.2) ≤ 2 +
          if found.2.1 then Fabric.nodeCost (out.scan.fabric.node found.1).numports else 0 := by
      by_cases hsw : (out.scan.fabric.node found.1).type = ibNodeSwitch
      · rw [Scan.costs_nodeQueries_switch hsw]
        exact Nat.le_add_left _ _
      · -- the start port itself is not arrived at when it is on an adapter
        have hnot : ¬ out.scan.fabric.Follows found.1 b.2 := by
          rintro (hsw' | ⟨hfrom, hport⟩)
          · exact hsw hsw'
          · obtain ⟨m, hm₀, hfrom', hport'⟩ := hm'.origin
            obtain rfl := Option.some.inj (hfrom.trans hfrom')
            have hs : b = s := Prod.ext (hnode.unique hm₀) (hport.trans hport')
            exact ht.onward ((hm'.knows hm₀).1 ▸ hsw) hs
        have hpos : b.2 ≠ 0 := Nat.ne_of_gt (N.peer_port (N.peer_symm ht.peer)).1
        rw [Scan.costs_nodeQueries_end hsw, Fabric.cost_queryPortInfo hpos, Fabric.portCost,
          if_neg hnot, Nat.add_comm]
        refine Nat.add_le_add_left ?_ 2
        cases found.2.1 with
        | false => exact Nat.le_refl 0
        | true => exact Nat.le_trans (by decide : 1 ≤ 7) (Nat.le_add_right _ _)
    omega

section Costs
variable {t : ScanRequest} (hdata : t.cbData = .node n)
include hdata

theorem cost_extPortInfo (hcb : t.cb = .recvMlnxExtPortInfo) :
    f.cost t = f.portCost n t.attrMod := by
  unfold Fabric.cost
  rw [hdata, hcb]

theorem cost_portInfo (hcb : t.cb = .recvPortInfo) :
    f.cost t = f.portCost n t.attrMod + 1 := by
  unfold Fabric.cost
  rw [hdata, hcb]

theorem cost_port0Info (hcb : t.cb = .recvPort0Info) :
    f.cost t = f.portCost n t.attrMod + 1 + 5 * (f.node n).numports := by
  unfold Fabric.cost
  rw [hdata, hcb]

end Costs

/-- What an answered request has led to is paid for, whatever the answer. -/
theorem Frontier.paid {near : V → Prop} (hnt : scan.fabric.NodeTable)
    (hnt' : out.scan.fabric.NodeTable) (hattr : smp.rpc.attrId = smp.cb.attrId)
    (h : N.Frontier s origin scan.fabric near (smp.request ::ₘ T))
    (hm' : N.Mapped s out.scan.fabric) (htrue : N.Truthful s origin smp r)
    (hok : scan.reply smp r = .ok out) :
    scan.fabric.Paid out.scan.fabric out.requests (scan.fabric.cost smp.request) := by
  obtain ⟨hmod, hanswers⟩ := htrue
  have hok' := hok
  have htask := h.tasks smp.request (Multiset.mem_cons_self _ _)
  unfold TaskOk at htask
  have hport : ∀ {n b}, N.NodeTask s origin scan.fabric smp.request n b →
      Scan.attrModPort r.mad = smp.request.attrMod := by
    intro n b ht
    rw [Scan.attrModPort, hmod]
    exact Nat.mod_eq_of_lt (Nat.lt_of_le_of_lt ht.port (N.numports_lt b.1))
  have hignored : ∀ g : Fabric, Fabric.SameNodes scan.fabric g →
      g.fromNode = scan.fabric.fromNode ∧ g.fromPortnum = scan.fabric.fromPortnum →
      scan.fabric.Paid g [] (scan.fabric.cost smp.request) :=
    fun g hg horigin => .of_same hg horigin Fabric.cost_pos
  by_cases hclean : isClean r
  · obtain ⟨-, -, hreport⟩ := hanswers hclean
    rw [Scan.reply_of_clean hclean] at hok'
    cases hdata : smp.request.cbData with
    | niCbdata rem =>
        rw [hdata] at htask
        cases rem with
        | none => exact htask.elim
        | some rem =>
            obtain ⟨n, k⟩ := rem
            obtain ⟨v, b, ht⟩ := htask
            have hcb : smp.cb = .recvNodeInfo := ht.cb
            rw [show smp.cbData = _ from hdata, hcb] at hok'
            have hcost : scan.fabric.cost smp.request = 3 := by
              unfold Fabric.cost
              rw [hdata]
            rw [hcost]
            refine paid_linkReply hnt hnt' h.mapped hm' ht
              ((hreport b ht.routed.arrival).1 ht.attrId) hok' fun hnone => ?_
            obtain ⟨p, m, hm, hslot⟩ := ht.port
            obtain rfl : m = n := hm.inj hnt ht.knows
            have hslot' := (KnownSlot.reply ⟨hm, hslot⟩ hok).2
            rw [hnone] at hslot'
            cases hslot'
    | node n =>
        rw [hdata] at htask
        obtain ⟨b, ht⟩ := htask
        have hk := hport ht
        have hn := ht.knows.1
        rw [show smp.cbData = _ from hdata] at hok'
        cases hcb : smp.cb with
        | recvNodeInfo => exact absurd hcb ht.cb
        | recvNodeDesc =>
            rw [hcb] at hok'
            obtain rfl := Except.ok.inj hok'
            have hdesc := Fabric.sameNodes_modifyNode scan.fabric n
              (g := fun node => { node with nodedesc := smpData r.mad })
              fun _ => ⟨rfl, rfl, rfl, rfl, rfl, rfl⟩
            exact hignored _ hdesc ⟨rfl, rfl⟩
        | recvSwitchInfo =>
            rw [hcb] at hok'
            obtain rfl := Except.ok.inj hok'
            have hinfo := Fabric.sameNodes_modifyNode scan.fabric n
              (g := fun node => { node with
                switchinfo := smpData r.mad
                smaenhsp0 := (smpData r.mad).field .swEnhancedPort0 })
              fun _ => ⟨rfl, rfl, rfl, rfl, rfl, rfl⟩
            exact hignored _ hinfo ⟨rfl, rfl⟩
        | recvPort0Info =>
            rw [hcb] at hok'
            have hpaid := Scan.paid_recvPort0Info hnt.toLinked hn hok'
            rwa [hk, ← cost_port0Info hdata hcb] at hpaid
        | recvPortInfo =>
            rw [hcb] at hok'
            have hpaid := Scan.paid_recvPortInfo hnt.toLinked hn hok'
            rwa [hk, ← cost_portInfo hdata hcb] at hpaid
        | recvMlnxExtPortInfo =>
            rw [hcb] at hok'
            have hpaid := Scan.paid_recvMlnxExtPortInfo hok'
            rwa [hk, ← cost_extPortInfo hdata hcb] at hpaid
  · rw [Scan.reply_of_not_clean hclean] at hok'
    by_cases hext : smp.rpc.attrId = ibAttrMlnxExtPortInfo
    · rw [if_pos hext] at hok'
      have hcb : smp.cb = .recvMlnxExtPortInfo := cb_of_attrId (hattr.symm.trans hext)
      cases hdata : smp.request.cbData with
      | niCbdata rem =>
          rw [show smp.cbData = _ from hdata] at hok'
          cases hok'
      | node n =>
          rw [hdata] at htask
          obtain ⟨b, ht⟩ := htask
          rw [show smp.cbData = _ from hdata] at hok'
          have hpaid := Scan.paid_mlnxExtPortInfoErr hok'
          rwa [hport ht, ← cost_extPortInfo hdata hcb] at hpaid
    · rw [if_neg hext] at hok'
      obtain rfl := Except.ok.inj hok'
      exact hignored _ (.of_node rfl rfl rfl rfl) ⟨rfl, rfl⟩

/-- The first NodeInfo is about a node that is new. -/
theorem paid_startReply (hinit : scan.fabric = allocateFabricInternal)
    (hok : scan.recvNodeInfo smp r.mad none = .ok out) :
    out.scan.fabric.costs out.requests + 1 ≤ 3 + out.scan.fabric.credit := by
  obtain ⟨p, he, hreqs⟩ := Scan.recvNodeInfo_entered hok
  obtain ⟨hcredit, -⟩ := Scan.credit_findOrCreateNode scan.fabric smp.path (smpData r.mad)
  have hfound : (Scan.findOrCreateNode scan.fabric smp.path (smpData r.mad)).2.1 = true := by
    rw [hinit]
    rfl
  have hzero : scan.fabric.credit = 0 := by
    rw [hinit]
    rfl
  generalize Scan.findOrCreateNode scan.fabric smp.path (smpData r.mad) = found
    at he hreqs hcredit hfound
  have hsame := he.touched.toSameNodes
  have hreqs' : out.requests = Scan.nodeQueries smp.path found.1 true
      (out.scan.fabric.node found.1).type ((smpData r.mad).field .nodeLocalPort) := by
    rw [hsame.type, ← hfound]
    refine hreqs.resolve_right ?_
    rintro ⟨m, j, hsome, -⟩
    exact absurd hsome (Option.some_ne_none (m, j)).symm
  rw [hsame.credit, hcredit, hzero, if_pos hfound, ← hsame.numports, hreqs', Fabric.nodeCost]
  by_cases hsw : (out.scan.fabric.node found.1).type = ibNodeSwitch
  · rw [Scan.costs_nodeQueries_switch hsw, if_pos rfl, Fabric.nodeCost]
    omega
  · rw [Scan.costs_nodeQueries_end hsw, if_pos rfl]
    have hport := Fabric.cost_queryPortInfo_le (f := out.scan.fabric) smp.path found.1
      ((smpData r.mad).field .nodeLocalPort)
    omega

theorem Frontier.truthfulReply (hnt : scan.fabric.NodeTable) (hstart : N.LocalStart s origin)
    (hattr : smp.rpc.attrId = smp.cb.attrId)
    (h : N.Frontier s origin scan.fabric (fun _ => False) (smp.request ::ₘ T))
    (htrue : N.Truthful s origin smp r) (hok : scan.reply smp r = .ok out) :
    N.Frontier s origin out.scan.fabric (fun _ => False) (out.requests + T) := by
  obtain ⟨hmod, hanswers⟩ := htrue
  by_cases hclean : isClean r
  · exact h.reply hnt hstart (hanswers hclean) (fun _ hnear => hnear.elim)
      (fun _ _ _ _ _ hnear => hnear.elim) hok
  · exact h.errorReply hnt hstart hattr hmod hclean hok

/-- Every reply uses up one SMP of what the scan may take. -/
theorem OnTrail.balance (hnt : scan.fabric.NodeTable) (hnt' : out.scan.fabric.NodeTable)
    (hstart : N.LocalStart s origin) (hattr : smp.rpc.attrId = smp.cb.attrId)
    (h : N.OnTrail s origin scan (smp.request ::ₘ T)) (htrue : N.Truthful s origin smp r)
    (hok : scan.reply smp r = .ok out) :
    out.scan.fabric.costs (out.requests + T) + 1 + scan.fabric.credit ≤
      scan.fabric.costs (smp.request ::ₘ T) + out.scan.fabric.credit := by
  rw [Fabric.costs_add, Fabric.costs_cons]
  rcases h with ⟨hinit, hle⟩ | hfrontier
  · have hcard := Multiset.card_le_card hle
    rw [Multiset.card_cons, Multiset.card_singleton] at hcard
    obtain rfl : T = 0 :=
      Multiset.card_eq_zero.mp (Nat.le_zero.mp (Nat.le_of_succ_le_succ hcard))
    have hreq : smp.request = queryNodeInfo origin none :=
      Multiset.mem_singleton.mp (Multiset.mem_of_le hle (Multiset.mem_cons_self _ _))
    have hcost : scan.fabric.cost smp.request = 3 := by
      rw [hreq]
      rfl
    have hzero : scan.fabric.credit = 0 := by
      rw [hinit]
      rfl
    rw [hcost, hzero, Fabric.costs_zero, Fabric.costs_zero]
    by_cases hclean : isClean r
    · have hdata : smp.cbData = .niCbdata none := congrArg Request.cbData hreq
      have hcb : smp.cb = .recvNodeInfo := congrArg Request.cb hreq
      rw [Scan.reply_of_clean hclean, hdata, hcb] at hok
      exact paid_startReply hinit hok
    · have hid : smp.rpc.attrId = ibAttrNodeInfo := congrArg Request.attrId hreq
      rw [Scan.reply_of_not_clean hclean, hid, if_neg (by decide)] at hok
      obtain rfl := Except.ok.inj hok
      rw [Multiset.coe_nil, Fabric.costs_zero, hzero]
      decide
  · have hfrontier' := hfrontier.truthfulReply hnt hstart hattr htrue hok
    have hpaid := hfrontier.paid hnt hnt' hattr hfrontier'.mapped htrue hok
    have hkept : out.scan.fabric.costs T = scan.fabric.costs T := by
      refine hpaid.continues.costs fun t ht n hdata => ?_
      have htask := hfrontier.tasks t (Multiset.mem_cons_of_mem ht)
      unfold TaskOk at htask
      rw [hdata] at htask
      obtain ⟨b, ht⟩ := htask
      exact ht.knows.1
    have hbalance := hpaid.balance
    rw [hkept]
    omega

end Network

section Run
variable {V : Type} {N : Network V} {s : V × Nat} {args : DiscoverArgs} {rs : List Recv}
  {e : Engine ScanCb CbData} {scan : Scan} {R : Finset V}

end Run
end InfinibandDiags
