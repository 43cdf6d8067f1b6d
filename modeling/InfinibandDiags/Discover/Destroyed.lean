import InfinibandDiags.Cache.Destroy
import InfinibandDiags.Discover.Ports

/-! After a scan, wherever it has got to, `ibnd_destroy_fabric` frees every node and every port. -/
namespace InfinibandDiags
namespace Fabric
open Scan
variable {f f' : Fabric} {p : PortRef} {n : NodeRef} {k : Nat}

/-- Every port that was allocated is in a slot of a node that was. -/
def Housed (f : Fabric) : Prop :=
  ∀ p < f.portCount, ∃ n < f.nodeCount, ∃ k, (f.node n).ports k = some p

/-- Updates that keep the slots that are filled, and fill one for each port they allocate. -/
structure Houses (f f' : Fabric) : Prop where
  nodeCount : f.nodeCount ≤ f'.nodeCount
  kept : ∀ {n k p}, n < f.nodeCount → (f.node n).ports k = some p → (f'.node n).ports k = some p
  fresh : ∀ p < f'.portCount, f.portCount ≤ p →
    ∃ n < f'.nodeCount, ∃ k, (f'.node n).ports k = some p

theorem Houses.housed (h : Houses f f') (hf : f.Housed) : f'.Housed := by
  intro p hp
  by_cases hold : p < f.portCount
  · obtain ⟨n, hn, k, hk⟩ := hf p hold
    exact ⟨n, Nat.lt_of_lt_of_le hn h.nodeCount, k, h.kept hn hk⟩
  · exact h.fresh p hp (Nat.le_of_not_lt hold)

theorem Houses.of_same (hnodes : f'.nodeCount = f.nodeCount) (hcount : f'.portCount = f.portCount)
    (hports : ∀ n, (f'.node n).ports = (f.node n).ports) : Houses f f' where
  nodeCount := Nat.le_of_eq hnodes.symm
  kept _ hk := by rwa [hports]
  fresh p hp hnew := absurd (hcount ▸ hp) (Nat.not_lt_of_le hnew)

theorem Houses.refl (f : Fabric) : Houses f f := .of_same rfl rfl fun _ => rfl

theorem Houses.trans {f₁ f₂ f₃ : Fabric} (h₁ : Houses f₁ f₂) (h₂ : Houses f₂ f₃) :
    Houses f₁ f₃ where
  nodeCount := h₁.nodeCount.trans h₂.nodeCount
  kept hn hk := h₂.kept (Nat.lt_of_lt_of_le hn h₁.nodeCount) (h₁.kept hn hk)
  fresh p hp hnew := by
    by_cases hold : p < f₂.portCount
    · obtain ⟨n, hn, k, hk⟩ := h₁.fresh p hold hnew
      exact ⟨n, Nat.lt_of_lt_of_le hn h₂.nodeCount, k, h₂.kept hn hk⟩
    · exact h₂.fresh p hp (Nat.le_of_not_lt hold)

theorem houses_newPort (hn : n < f.nodeCount) (hnone : (f.node n).ports k = none) (port : Port) :
    Houses f (f.newPort n k port) where
  nodeCount := Nat.le_refl _
  kept {m j p} _ hj := by
    rw [ports_newPort, if_neg]
    · exact hj
    · rintro ⟨rfl, rfl⟩
      rw [hnone] at hj
      cases hj
  fresh p hp hnew := by
    obtain rfl : p = f.portCount := Nat.le_antisymm (Nat.le_of_lt_succ hp) hnew
    exact ⟨n, hn, k, by rw [ports_newPort, if_pos ⟨rfl, rfl⟩]⟩

theorem houses_ensurePort {shell : Port} (hn : n < f.nodeCount)
    (hok : ensurePort f n k shell = .ok (p, f')) : Houses f f' := by
  obtain ⟨-, ⟨-, rfl⟩ | ⟨hnone, -, rfl⟩⟩ := ensurePort_ok hok
  · exact .refl _
  · exact houses_newPort hn hnone shell

theorem houses_modifyNode (f : Fabric) (n : NodeRef) {g : Node → Node}
    (hg : ∀ x, (g x).SameShape x) : Houses f (f.modifyNode n g) := by
  refine .of_same rfl rfl fun m => ?_
  by_cases hm : m = n
  · subst hm
    simpa [modifyNode] using (hg _).1
  · simp [modifyNode, hm]

theorem houses_createNode (f : Fabric) (path : PortId) (info : SmpData) :
    Houses f (createNode f path info).2 := by
  obtain ⟨-, hcount, hnode, -, hports⟩ := createNode_node f path info
  refine ⟨hcount ▸ Nat.le_succ _, fun {m j p} hm hj => ?_, fun p hp hnew => ?_⟩
  · rw [hnode, Function.update_of_ne (Nat.ne_of_lt hm)]
    exact hj
  · rw [hports] at hp
    exact absurd hp (Nat.not_lt_of_le hnew)

theorem houses_linkPorts (f : Fabric) (p q : PortRef) : Houses f (f.linkPorts p q) := by
  obtain ⟨hnode, hcount⟩ := node_linkPorts f p q
  exact .of_same (sameNodes_linkPorts f p q).nodeCount hcount fun m => by rw [hnode]

end Fabric

namespace Scan
open Fabric Engine
variable {scan : Scan} {smp : ScanSmp} {mad : Bytes} {n : NodeRef} {p : PortRef} {out : Outcome}
  {r : Recv} {f : Fabric}

theorem houses_exploreLink (scan : Scan) (path : PortId) (n : NodeRef) (p : PortRef) (k : Nat) :
    Houses scan.fabric (scan.exploreLink path n p k).1.fabric := by
  obtain ⟨⟨m, hm⟩, -⟩ := exploreLink_cases scan path n p k
  rw [hm]
  exact .of_same rfl rfl fun _ => rfl

theorem PortStored.houses (h : PortStored scan mad n p f) (hn : n < scan.fabric.nodeCount) :
    Houses scan.fabric f := by
  obtain ⟨f₁, rc, f₂, hensure, hhash, hlid⟩ := h.steps
  obtain ⟨-, -, -, -, -, hsame, hcount, -⟩ :=
    storePortInfo_spec f₁ n p (attrModPort mad) (smpData mad)
  have hstore : Houses f₁ (storePortInfo f₁ n p (attrModPort mad) (smpData mad)) :=
    .of_same hsame.nodeCount hcount fun m => (storePortInfo_ports f₁ n p _ _ m).1
  have htable : Houses (storePortInfo f₁ n p (attrModPort mad) (smpData mad)) f₂ := by
    obtain ⟨dup, -, rfl⟩ := addToPortguidHash_ok hhash
    cases dup <;> exact .of_same rfl rfl fun _ => rfl
  have hlids : Houses f₂ f := by
    obtain ⟨m, rfl⟩ := addToPortlidHash_ok hlid
    exact .of_same rfl rfl fun _ => rfl
  exact (houses_ensurePort hn hensure).trans (hstore.trans (htable.trans hlids))

theorem houses_recvPortInfo (hn : n < scan.fabric.nodeCount)
    (hok : scan.recvPortInfo smp mad n = .ok out) : Houses scan.fabric out.scan.fabric := by
  obtain ⟨p, f, hstored, ⟨-, rfl⟩ | ⟨-, -, rfl⟩⟩ := recvPortInfo_ok hok
  · exact hstored.houses hn
  · exact (hstored.houses hn).trans (houses_exploreLink { scan with fabric := f } _ _ _ _)

theorem houses_finishNodeInfo (scan : Scan) (path : PortId) (n : NodeRef) (isNew : Bool) (k : Nat)
    (f : Fabric) : Houses f (scan.finishNodeInfo path n isNew k f).scan.fabric := by
  unfold finishNodeInfo
  dsimp only
  split
  · exact houses_modifyNode f n fun _ => ⟨rfl, rfl, rfl, rfl, rfl, rfl⟩
  · exact .refl f

theorem houses_findOrCreateNode (f : Fabric) (path : PortId) (info : SmpData) :
    Houses f (findOrCreateNode f path info).2.2 := by
  unfold findOrCreateNode
  cases f.ibndFindNodeGuid (info.field64 .nodeGuid) with
  | some n => exact .refl f
  | none => exact houses_createNode f path info

theorem houses_recvNodeInfo {cbdata : Option (NodeRef × Nat)} (hf : HashedNodes scan.fabric)
    (hok : scan.recvNodeInfo smp mad cbdata = .ok out) : Houses scan.fabric out.scan.fabric := by
  obtain ⟨p, f, hensure, hcase⟩ := recvNodeInfo_ok hok
  have hknown := (findOrCreateNode_spec hf smp.path (smpData mad)).2.1
  have hset : Houses f (withPortGuid f p ((smpData mad).field64 .nodePortGuid)) :=
    .of_same rfl rfl fun _ => rfl
  have hport := (houses_findOrCreateNode scan.fabric smp.path (smpData mad)).trans
    ((houses_ensurePort hknown hensure).trans hset)
  rcases hcase with ⟨-, rfl⟩ | ⟨m, j, -, ⟨-, rfl⟩ | ⟨q, -, rfl⟩⟩
  · refine (hport.trans ?_).trans (houses_finishNodeInfo scan _ _ _ _ _)
    exact .of_same rfl rfl fun _ => rfl
  · exact hport
  · exact (hport.trans (houses_linkPorts _ p q)).trans (houses_finishNodeInfo scan _ _ _ _ _)

/-- One reply, whatever it says. -/
theorem houses_reply (hf : HashedNodes scan.fabric) (ht : WellTyped scan.fabric smp.request)
    (hok : scan.reply smp r = .ok out) : Houses scan.fabric out.scan.fabric := by
  have hnode : ∀ {n}, smp.cbData = .node n → n < scan.fabric.nodeCount := by
    intro n hdata
    have hd : smp.request.cbData = .node n := hdata
    unfold WellTyped at ht
    rw [hd] at ht
    exact ht.2
  cases reply_ok hok with
  | ignored h =>
      rw [h]
      exact .refl _
  | nodeInfo cbdata _ _ hok => exact houses_recvNodeInfo hf hok
  | nodeDesc n _ h =>
      rw [h]
      exact houses_modifyNode (g := fun node => { node with nodedesc := smpData r.mad })
        scan.fabric n fun _ => ⟨rfl, rfl, rfl, rfl, rfl, rfl⟩
  | switchInfo n _ h =>
      rw [h]
      exact houses_modifyNode (g := fun node => { node with
        switchinfo := smpData r.mad
        smaenhsp0 := (smpData r.mad).field .swEnhancedPort0 })
        scan.fabric n fun _ => ⟨rfl, rfl, rfl, rfl, rfl, rfl⟩
  | port0Info n hdata hok =>
      obtain ⟨out₁, h₁, rfl⟩ := recvPort0Info_ok hok
      have hout := houses_recvPortInfo (hnode hdata) h₁
      exact hout
  | portInfo n hdata hok => exact houses_recvPortInfo (hnode hdata) hok
  | extPortInfo n _ hok =>
      obtain ⟨-, ⟨-, rfl⟩ | ⟨p, -, -, rfl⟩⟩ := recvMlnxExtPortInfo_ok hok
      · exact .refl _
      · refine Houses.trans ?_ (houses_exploreLink _ _ _ _ _)
        exact .of_same rfl rfl fun _ => rfl
  | extPortInfoErr n _ hok =>
      obtain ⟨-, ⟨-, rfl⟩ | ⟨p, -, -, rfl⟩⟩ := mlnxExtPortInfoErr_ok hok
      · exact .refl _
      · exact houses_exploreLink scan _ _ _ _

theorem housed_invariant : ScanInvariant
    (fun scan => HashedNodes scan.fabric ∧ scan.fabric.Housed)
    fun scan req => WellTyped scan.fabric req where
  reply h ht hok := by
    obtain ⟨hf, hkeep, hnew⟩ := wellTyped_invariant.reply h.1 ht hok
    exact ⟨⟨hf, (houses_reply h.1 ht hok).housed h.2⟩, hkeep, hnew⟩

end Scan

section Destroyed
variable {args : DiscoverArgs} {st : ScanState}

theorem housed_of_reached (h : Reached args.start st) : st.scan.fabric.Housed := by
  have hinit : ∀ t ∈ args.start.engine.pending, Scan.WellTyped args.start.scan.fabric t := by
    intro t ht
    rw [pending_start args t ht]
    rfl
  exact (Scan.housed_invariant.reached
    ⟨Scan.hashedNodes_init, fun _ hp => absurd hp (Nat.not_lt_zero _)⟩ hinit h).1.2

/-- Whatever has been replied so far, `ibnd_destroy_fabric` frees every node and every port that
the scan has allocated, and none of them twice. -/
theorem scan_destroyed (h : Reached args.start st) :
    st.scan.fabric.ibndDestroyFabric st.scan.fabric.heap = .ok ∅ := by
  have hnt := nodeTable_of_reached h
  have hbase := tableBase_of_reached h
  have hhoused := housed_of_reached h
  generalize st.scan.fabric = f at hnt hbase hhoused ⊢
  have howning : f.Owning := ⟨hnt.nodup, fun hj hk => hnt.slot_unique hj hk⟩
  have hlive : ∀ b ∈ f.blocks, b ∈ f.heap := by
    intro b hb
    cases b with
    | node n => exact Fabric.node_mem_heap.mpr ((hnt.mem_nodes n).mp (Fabric.node_mem_blocks.mp hb))
    | port p =>
        obtain ⟨n, -, hp⟩ := Fabric.port_mem_blocks.mp hb
        obtain ⟨k, -, hk⟩ := Fabric.mem_presentPorts.mp hp
        exact Fabric.port_mem_heap.mpr (hbase.slots hk)
  obtain ⟨heap, hok, hrest⟩ := Release.freeAll_ok howning.nodup_blocks hlive
  have hempty : heap = ∅ := by
    refine Finset.eq_empty_iff_forall_notMem.mpr fun b hb => ?_
    obtain ⟨hin, hout⟩ := (hrest b).mp hb
    cases b with
    | node n =>
        have hn := (hnt.mem_nodes n).mpr (Fabric.node_mem_heap.mp hin)
        exact hout (Fabric.node_mem_blocks.mpr hn)
    | port p =>
        obtain ⟨n, hn, k, hk⟩ := hhoused p (Fabric.port_mem_heap.mp hin)
        exact hout (Fabric.port_mem_blocks.mpr ⟨n, (hnt.mem_nodes n).mpr hn,
          Fabric.mem_presentPorts.mpr ⟨k, hbase.inArray hk, hk⟩⟩)
  rw [Fabric.ibndDestroyFabric_eq, hok, hempty]

theorem scan_destroyed_twoAdapters : ∃ e scan,
    ScannedPorts twoAdapters (0, 1) twoAdaptersGuids localScan twoAdaptersReplies e scan ∧
      scan.fabric.nodeCount = 3 ∧ scan.fabric.portCount = 5 ∧
      scan.fabric.ibndDestroyFabric scan.fabric.heap = .ok ∅ := by
  obtain ⟨e, scan, h, hnodes, hports⟩ := twoAdapters_scanned
  exact ⟨e, scan, h, hnodes, hports, scan_destroyed (processMads_reached .start h.returned)⟩

end Destroyed
end InfinibandDiags
