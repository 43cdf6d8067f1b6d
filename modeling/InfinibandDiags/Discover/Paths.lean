import InfinibandDiags.Discover.NodeTable

/-! The directed paths of a scan: where a reply gets the paths from that it leaves behind, and
how they compare with `maxhops_discovered`. -/
namespace InfinibandDiags
open Engine

namespace Fabric

/-- Updates that leave the nodes as they are, their paths included, and the hop count too. -/
structure SamePaths (f f' : Fabric) : Prop extends SameNodes f f' where
  hops : f'.maxhopsDiscovered = f.maxhopsDiscovered

variable {f f' : Fabric} {p : PortRef}

theorem SamePaths.trans {f₁ f₂ f₃ : Fabric} (h₁ : SamePaths f₁ f₂) (h₂ : SamePaths f₂ f₃) :
    SamePaths f₁ f₃ :=
  ⟨h₁.toSameNodes.trans h₂.toSameNodes, h₂.hops.trans h₁.hops⟩

theorem SamePaths.of_node (hnode : f'.node = f.node) (hnodes : f'.nodes = f.nodes)
    (hcount : f'.nodeCount = f.nodeCount) (htbl : f'.nodestbl = f.nodestbl)
    (hhops : f'.maxhopsDiscovered = f.maxhopsDiscovered) : SamePaths f f' :=
  ⟨.of_node hnode hnodes hcount htbl, hhops⟩

theorem samePaths_linkPorts (f : Fabric) (p q : PortRef) : SamePaths f (f.linkPorts p q) := by
  have hrelease : ∀ (f : Fabric) r, (f.release r).maxhopsDiscovered = f.maxhopsDiscovered := by
    intro f r
    unfold release
    split <;> rfl
  exact ⟨sameNodes_linkPorts f p q, (hrelease _ q).trans (hrelease f p)⟩

theorem samePaths_addToPortguidHash {rc : Int} (h : f.addToPortguidHash p = .ok (rc, f')) :
    SamePaths f f' := by
  obtain ⟨dup, -, rfl⟩ := addToPortguidHash_ok h
  cases dup <;> exact .of_node rfl rfl rfl rfl rfl

theorem samePaths_addToPortlidHash (h : f.addToPortlidHash p = .ok f') : SamePaths f f' := by
  obtain ⟨m, rfl⟩ := addToPortlidHash_ok h
  exact .of_node rfl rfl rfl rfl rfl

theorem samePaths_storePortInfo (f : Fabric) (n : NodeRef) (p : PortRef) (k : Nat) (info : SmpData) :
    SamePaths f (Scan.storePortInfo f n p k info) := by
  obtain ⟨-, -, -, -, -, hsame, -⟩ := Scan.storePortInfo_spec f n p k info
  refine ⟨hsame, ?_⟩
  unfold Scan.storePortInfo
  dsimp only
  split_ifs <;> rfl

theorem samePaths_ensurePort {n : NodeRef} {k : Nat} {shell : Port}
    (h : Scan.ensurePort f n k shell = .ok (p, f')) : SamePaths f f' := by
  obtain ⟨-, ⟨-, rfl⟩ | ⟨-, -, rfl⟩⟩ := Scan.ensurePort_ok h
  · exact .of_node rfl rfl rfl rfl rfl
  · exact ⟨sameNodes_newPort f n k shell, rfl⟩

end Fabric

namespace Scan
open Fabric
variable {scan : Scan} {smp : ScanSmp} {mad : Bytes} {n : NodeRef} {out : Outcome}

/-- Where a path is retracted: at an adapter that the scan started at, seen from far away. -/
def Retracts (scan : Scan) (n : NodeRef) (path : PortId) : Prop :=
  (scan.fabric.node n).type ≠ ibNodeSwitch ∧ some n = scan.fabric.fromNode ∧ 1 < path.drpath.cnt

/-- The path to the other end of a link, with the hop count that goes with it: one hop back or
one hop ahead. -/
inductive Stepped (scan : Scan) (n : NodeRef) (path path' : PortId) (m : UInt32) : Prop
  | back (hfar : Retracts scan n path) (hcnt : path'.drpath.cnt + 1 = path.drpath.cnt)
      (hm : m = scan.fabric.maxhopsDiscovered + 1)
  | ahead (hcnt : path'.drpath.cnt = path.drpath.cnt + 1) (hroom : path.drpath.cnt ≤ 62)
      (hm : m = if UInt32.ofNat path'.drpath.cnt - scan.initialHops > scan.fabric.maxhopsDiscovered
        then scan.fabric.maxhopsDiscovered + 1 else scan.fabric.maxhopsDiscovered)

theorem retractDpath_stepped (scan : Scan) {path : PortId} (hfar : Retracts scan n path) :
    scan.retractDpath path = (0, scan, path) ∨
      (scan.hopLimitReached = false ∧ ∃ path' m, Stepped scan n path path' m ∧
        scan.retractDpath path =
          (1, scan.mapFabric fun f => { f with maxhopsDiscovered := m }, path')) := by
  unfold retractDpath
  cases hlimit : scan.hopLimitReached with
  | true => exact .inl rfl
  | false =>
      exact .inr ⟨rfl, _, _, .back hfar (Nat.sub_add_cancel (Nat.le_of_lt hfar.2.2)) rfl, rfl⟩

theorem extendDpath_stepped (scan : Scan) (n : NodeRef) (path : PortId) (k : Nat) :
    (∃ rc path', rc ≤ 0 ∧ scan.extendDpath path k = (rc, scan, path')) ∨
      (scan.hopLimitReached = false ∧ ∃ path' m, Stepped scan n path path' m ∧
        scan.extendDpath path k =
          (1, scan.mapFabric fun f => { f with maxhopsDiscovered := m }, path')) := by
  unfold extendDpath
  cases hlimit : scan.hopLimitReached with
  | true => exact .inl ⟨0, path, Int.le_refl 0, rfl⟩
  | false =>
      dsimp only
      rw [if_neg Bool.false_ne_true]
      set path₁ : PortId := if path.lid ≠ 0 then { path with drpath := { path.drpath with
        drslid := scan.selfLid % 2 ^ 16, drdlid := 0xffff } } else path with hpath₁
      have hcnt : path₁.drpath.cnt = path.drpath.cnt := by
        rw [hpath₁]
        split <;> rfl
      cases hadd : addPortToDpath path₁.drpath k with
      | none => exact .inl ⟨-1, path₁, by decide, rfl⟩
      | some drpath =>
          unfold addPortToDpath at hadd
          split at hadd
          · cases hadd
          · next hroom =>
              have hdrpath : drpath.cnt = path.drpath.cnt + 1 := by
                rw [← Option.some.inj hadd, ← hcnt]
              refine .inr ⟨rfl, { path₁ with drpath }, _, .ahead hdrpath ?_ rfl, rfl⟩
              rw [← hcnt]
              exact Nat.not_lt.mp hroom

/-- Following a link either changes nothing or takes one step. -/
theorem exploreLink_stepped (scan : Scan) (path : PortId) (n : NodeRef) (p : PortRef) (k : Nat) :
    scan.exploreLink path n p k = (scan, []) ∨
      (scan.hopLimitReached = false ∧ ∃ path' m, Stepped scan n path path' m ∧
        scan.exploreLink path n p k =
          (scan.mapFabric fun f => { f with maxhopsDiscovered := m },
            [queryNodeInfo path' (some (n, k))])) := by
  unfold exploreLink
  by_cases hworth : scan.worthFollowing n p k = true
  · rw [if_pos hworth]
    dsimp only
    by_cases hback : (scan.fabric.node n).type ≠ ibNodeSwitch ∧ some n = scan.fabric.fromNode ∧
        path.drpath.cnt > 1
    · rw [if_pos hback]
      rcases retractDpath_stepped scan hback with h | ⟨hlimit, path', m, hstep, h⟩
      · rw [h]
        exact .inl rfl
      · rw [h]
        exact .inr ⟨hlimit, path', m, hstep, rfl⟩
    · rw [if_neg hback]
      by_cases hahead : path.lid = 0 ∨ (scan.fabric.node n).type = ibNodeSwitch
      · rw [if_pos hahead]
        rcases extendDpath_stepped scan n path k with ⟨rc, path', hrc, h⟩ | ⟨hlimit, path', m, hstep, h⟩
        · rw [h]
          refine .inl ?_
          dsimp only
          rw [if_neg (Int.not_lt.mpr hrc)]
        · rw [h]
          exact .inr ⟨hlimit, path', m, hstep, rfl⟩
      · rw [if_neg hahead]
        exact .inl rfl
  · rw [if_neg hworth]
    exact .inl rfl

/-- The paths that a reply leaves behind. -/
structure Moved (scan : Scan) (smp : ScanSmp) (out : Outcome) : Prop where
  cfg : out.scan.cfg = scan.cfg
  initialHops : out.scan.initialHops = scan.initialHops
  nodes : ∀ n < out.scan.fabric.nodeCount,
    (n < scan.fabric.nodeCount ∧
      (out.scan.fabric.node n).pathPortid = (scan.fabric.node n).pathPortid) ∨
    (out.scan.fabric.node n).pathPortid = smp.path
  hops : (out.scan.fabric.maxhopsDiscovered = scan.fabric.maxhopsDiscovered ∧
      ∀ req ∈ out.requests, req.portid = smp.path) ∨
    (scan.hopLimitReached = false ∧ ∃ n path', smp.cbData = .node n ∧
      Stepped scan n smp.path path' out.scan.fabric.maxhopsDiscovered ∧
      ∀ req ∈ out.requests, req.portid = smp.path ∨ req.portid = path')

theorem moved_of_samePaths {f : Fabric} {reqs : List ScanRequest} (rc : Int)
    (h : SamePaths scan.fabric f) (hreqs : ∀ req ∈ reqs, req.portid = smp.path) :
    Moved scan smp ⟨{ scan with fabric := f }, reqs, rc⟩ where
  cfg := rfl
  initialHops := rfl
  nodes n hn := .inl ⟨h.nodeCount ▸ hn, h.path n⟩
  hops := .inl ⟨h.hops, hreqs⟩

/-- The end of the PortInfo callbacks. -/
theorem moved_exploreLink {f : Fabric} (h : SamePaths scan.fabric f)
    (hfrom : f.fromNode = scan.fabric.fromNode) (hdata : smp.cbData = .node n) (p : PortRef)
    (k : Nat) (rc : Int) :
    let explored := { scan with fabric := f }.exploreLink smp.path n p k
    Moved scan smp ⟨explored.1, explored.2, rc⟩ := by
  intro explored
  have hlimit : { scan with fabric := f }.hopLimitReached = scan.hopLimitReached := by
    unfold hopLimitReached
    rw [h.hops]
  rcases exploreLink_stepped { scan with fabric := f } smp.path n p k with
    hnone | ⟨hfree, path', m, hstep, hone⟩
  · have hexp : explored = ({ scan with fabric := f }, []) := hnone
    rw [hexp]
    exact moved_of_samePaths rc h fun _ hreq => absurd hreq List.not_mem_nil
  · have hexp : explored = ({ scan with fabric := { f with maxhopsDiscovered := m } },
        [queryNodeInfo path' (some (n, k))]) := hone
    rw [hexp]
    refine ⟨rfl, rfl, fun n hn => .inl ⟨h.nodeCount ▸ hn, h.path n⟩,
      .inr ⟨hlimit ▸ hfree, n, path', hdata, ?_, ?_⟩⟩
    · cases hstep with
      | back hfar hcnt hm =>
          obtain ⟨htype, hnode, hcnt'⟩ := hfar
          exact .back ⟨(h.type n).symm.trans_ne htype, hnode.trans hfrom, hcnt'⟩ hcnt
            (hm.trans (congrArg (· + 1) h.hops))
      | ahead hcnt hroom hm =>
          refine .ahead hcnt hroom ?_
          rw [← h.hops]
          exact hm
    · intro req hreq
      rw [List.mem_singleton.mp hreq]
      exact .inr rfl

theorem PortStored.samePaths {f : Fabric} {p : PortRef} (h : PortStored scan mad n p f) :
    SamePaths scan.fabric f := by
  obtain ⟨f₁, rc, f₂, hensure, hhash, hlid⟩ := h.steps
  exact (samePaths_ensurePort hensure).trans ((samePaths_storePortInfo f₁ n p _ _).trans
    ((samePaths_addToPortguidHash hhash).trans (samePaths_addToPortlidHash hlid)))

theorem PortStored.fromNode {f : Fabric} {p : PortRef} (h : PortStored scan mad n p f) :
    f.fromNode = scan.fabric.fromNode := by
  obtain ⟨f₁, rc, f₂, hensure, hhash, hlid⟩ := h.steps
  obtain ⟨m, rfl⟩ := addToPortlidHash_ok hlid
  have hhashed : f₂.fromNode = (storePortInfo f₁ n p (attrModPort mad) (smpData mad)).fromNode := by
    obtain ⟨dup, -, rfl⟩ := addToPortguidHash_ok hhash
    cases dup <;> rfl
  have hstored : (storePortInfo f₁ n p (attrModPort mad) (smpData mad)).fromNode = f₁.fromNode := by
    unfold storePortInfo
    dsimp only
    split_ifs <;> rfl
  refine hhashed.trans (hstored.trans ?_)
  obtain ⟨-, ⟨-, rfl⟩ | ⟨-, -, rfl⟩⟩ := ensurePort_ok hensure <;> rfl

theorem moved_recvPortInfo (hdata : smp.cbData = .node n)
    (h : scan.recvPortInfo smp mad n = .ok out) : Moved scan smp out := by
  obtain ⟨p, f, hstored, ⟨-, rfl⟩ | ⟨-, -, rfl⟩⟩ := recvPortInfo_ok h
  · refine moved_of_samePaths 0 hstored.samePaths fun req hreq => ?_
    rw [List.mem_singleton.mp hreq]
    rfl
  · exact moved_exploreLink hstored.samePaths hstored.fromNode hdata p _ 0

theorem moved_recvPort0Info (hdata : smp.cbData = .node n)
    (h : scan.recvPort0Info smp mad n = .ok out) : Moved scan smp out := by
  obtain ⟨out₁, h₁, rfl⟩ := recvPort0Info_ok h
  obtain ⟨hcfg, hinit, hnodes, hhops⟩ := moved_recvPortInfo hdata h₁
  have hmore : ∀ (P : ScanRequest → Prop), (∀ req ∈ out₁.requests, P req) →
      (∀ k, P (queryPortInfo smp.path n k)) →
      ∀ req ∈ out₁.requests ++ (List.range (out₁.scan.fabric.node n).numports).map fun i =>
        queryPortInfo smp.path n (i + 1), P req := by
    intro P hold hnew req hreq
    rcases List.mem_append.mp hreq with hreq | hreq
    · exact hold req hreq
    · obtain ⟨i, -, rfl⟩ := List.mem_map.mp hreq
      exact hnew (i + 1)
  refine ⟨hcfg, hinit, hnodes, hhops.imp (fun h => ⟨h.1, ?_⟩) fun h => ⟨h.1, ?_⟩⟩
  · exact hmore (fun req => req.portid = smp.path) h.2 fun _ => rfl
  · obtain ⟨-, n', path', hdata', hstep, hreqs⟩ := h
    exact ⟨n', path', hdata', hstep,
      hmore (fun req => req.portid = smp.path ∨ req.portid = path') hreqs fun _ => .inl rfl⟩

/-- A node is found with its path, or created with the path at hand. -/
theorem findOrCreateNode_paths (f : Fabric) (path : PortId) (info : SmpData) :
    (findOrCreateNode f path info).2.2.maxhopsDiscovered = f.maxhopsDiscovered ∧
      ∀ n < (findOrCreateNode f path info).2.2.nodeCount,
        (n < f.nodeCount ∧ ((findOrCreateNode f path info).2.2.node n).pathPortid =
          (f.node n).pathPortid) ∨
        ((findOrCreateNode f path info).2.2.node n).pathPortid = path := by
  unfold findOrCreateNode
  cases f.ibndFindNodeGuid (info.field64 .nodeGuid) with
  | some x => exact ⟨rfl, fun n hn => .inl ⟨hn, rfl⟩⟩
  | none =>
      obtain ⟨-, hcount, hnode, -, -⟩ := createNode_node f path info
      refine ⟨?_, fun n hn => ?_⟩
      · unfold createNode addToTypeList addToNodeguidHash
        dsimp only
        split_ifs <;> rfl
      · dsimp only at hn ⊢
        rw [hcount] at hn
        rw [hnode]
        rcases Nat.lt_succ_iff_lt_or_eq.mp hn with hlt | rfl
        · rw [Function.update_of_ne (Nat.ne_of_lt hlt)]
          exact .inl ⟨hlt, rfl⟩
        · rw [Function.update_self]
          exact .inr rfl

theorem samePaths_finishNodeInfo (scan : Scan) (path : PortId) (n : NodeRef) (isNew : Bool) (k : Nat)
    (f : Fabric) : SamePaths f (scan.finishNodeInfo path n isNew k f).scan.fabric := by
  unfold finishNodeInfo
  dsimp only
  split
  · exact ⟨sameNodes_modifyNode f n fun _ => ⟨rfl, rfl, rfl, rfl, rfl, rfl⟩, rfl⟩
  · exact .of_node rfl rfl rfl rfl rfl

theorem moved_recvNodeInfo {cbdata : Option (NodeRef × Nat)}
    (h : scan.recvNodeInfo smp mad cbdata = .ok out) : Moved scan smp out := by
  obtain ⟨p, f, hport, hcase⟩ := recvNodeInfo_ok h
  obtain ⟨hhops, hnodes⟩ := findOrCreateNode_paths scan.fabric smp.path (smpData mad)
  have hport' := samePaths_ensurePort (h := hport)
  set f₁ := withPortGuid f p ((smpData mad).field64 .nodePortGuid)
  have hguid : SamePaths f f₁ := .of_node rfl rfl rfl rfl rfl
  have hmoved : ∀ f', SamePaths f₁ f' → ∀ reqs rc, (∀ req ∈ reqs, req.portid = smp.path) →
      Moved scan smp ⟨{ scan with fabric := f' }, reqs, rc⟩ := by
    intro f' hf' reqs rc hreqs
    have hsame : SamePaths _ f' := (hport'.trans hguid).trans hf'
    refine ⟨rfl, rfl, fun n hn => ?_, .inl ⟨hsame.hops.trans hhops, hreqs⟩⟩
    dsimp only at hn ⊢
    rw [hsame.nodeCount] at hn
    rw [hsame.path]
    exact hnodes n hn
  have hfinish : ∀ f', SamePaths f₁ f' → ∀ m isNew k,
      Moved scan smp (scan.finishNodeInfo smp.path m isNew k f') := by
    intro f' hf' m isNew k
    refine hmoved _ (hf'.trans (samePaths_finishNodeInfo scan smp.path m isNew k f')) _ 0 ?_
    intro req hreq
    rcases mem_nodeQueries.mp hreq with ⟨-, rfl | ⟨-, rfl | rfl⟩⟩ | ⟨-, rfl⟩ <;> rfl
  rcases hcase with ⟨-, rfl⟩ | ⟨rn, rk, -, ⟨-, rfl⟩ | ⟨q, -, rfl⟩⟩
  · refine hfinish _ ?_ _ _ _
    exact .of_node rfl rfl rfl rfl rfl
  · exact hmoved f₁ (.of_node rfl rfl rfl rfl rfl) [] (-1) fun _ hreq => absurd hreq List.not_mem_nil
  · exact hfinish _ (samePaths_linkPorts f₁ p q) _ _ _

/-- Whatever is replied, all paths come from the path of the SMP. -/
theorem reply_moved {r : Recv} (h : scan.reply smp r = .ok out) : Moved scan smp out := by
  have hnone : ∀ req ∈ ([] : List ScanRequest), req.portid = smp.path :=
    fun _ hreq => absurd hreq List.not_mem_nil
  have hsame : SamePaths scan.fabric scan.fabric := .of_node rfl rfl rfl rfl rfl
  cases reply_ok h with
  | ignored h =>
      rw [h]
      exact moved_of_samePaths 0 hsame hnone
  | nodeInfo cbdata _ _ h => exact moved_recvNodeInfo h
  | nodeDesc n _ h =>
      rw [h]
      refine moved_of_samePaths 0 ⟨sameNodes_modifyNode scan.fabric n ?_, rfl⟩ hnone
      exact fun _ => ⟨rfl, rfl, rfl, rfl, rfl, rfl⟩
  | switchInfo n _ h =>
      rw [h]
      refine moved_of_samePaths 0 ⟨sameNodes_modifyNode scan.fabric n ?_, rfl⟩ hnone
      exact fun _ => ⟨rfl, rfl, rfl, rfl, rfl, rfl⟩
  | port0Info n hdata h => exact moved_recvPort0Info hdata h
  | portInfo n hdata h => exact moved_recvPortInfo hdata h
  | extPortInfo n hdata h =>
      obtain ⟨-, ⟨-, rfl⟩ | ⟨p, -, -, rfl⟩⟩ := recvMlnxExtPortInfo_ok h
      · exact moved_of_samePaths (-1) hsame hnone
      · exact moved_exploreLink (f := scan.fabric.modifyPort p fun port =>
          { port with extInfo := smpData r.mad }) (.of_node rfl rfl rfl rfl rfl) rfl hdata p _ 0
  | extPortInfoErr n hdata h =>
      obtain ⟨-, ⟨-, rfl⟩ | ⟨p, -, -, rfl⟩⟩ := mlnxExtPortInfoErr_ok h
      · exact moved_of_samePaths (-1) hsame hnone
      · exact moved_exploreLink hsame rfl hdata p _ 0

end Scan
end InfinibandDiags
