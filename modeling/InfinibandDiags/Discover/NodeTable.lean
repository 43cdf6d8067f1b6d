import InfinibandDiags.Discover.Links

/-! The nodes of a fabric: every one is listed once and found under its GUID, and every port
knows the slot it lies in. -/
namespace InfinibandDiags
namespace Fabric
variable {f f' : Fabric} {p : PortRef} {n : NodeRef} {k : Nat}

/-- The representation invariant of the node list, the node hash and the port arrays. -/
structure NodeTable (f : Fabric) : Prop extends Linked f where
  nodup : f.nodes.Nodup
  mem_nodes : ∀ n, n ∈ f.nodes ↔ n < f.nodeCount
  distinct : ∀ {n m}, n < f.nodeCount → m < f.nodeCount → (f.node n).guid = (f.node m).guid → n = m
  inBucket : ∀ idx n, n ∈ f.nodestbl idx ↔ n < f.nodeCount ∧ hashguid (f.node n).guid = idx
  owned : ∀ {n k p}, (f.node n).ports k = some p → (f.port p).node = n ∧ (f.port p).portnum = k

theorem nodeTable_init : NodeTable allocateFabricInternal where
  toLinked := linked_init
  nodup := List.nodup_nil
  mem_nodes := by simp [allocateFabricInternal]
  distinct h := absurd h (Nat.not_lt_zero _)
  inBucket := by simp [allocateFabricInternal]
  owned h := (nomatch h)

theorem NodeTable.slot_unique (h : NodeTable f) {n m : NodeRef} {j k : Nat} {p : PortRef}
    (hn : (f.node n).ports j = some p) (hm : (f.node m).ports k = some p) : n = m ∧ j = k := by
  obtain ⟨hnode, hnum⟩ := h.owned hn
  obtain ⟨hnode', hnum'⟩ := h.owned hm
  exact ⟨hnode.symm.trans hnode', hnum.symm.trans hnum'⟩

/-- The node found under a GUID is the node with that GUID. -/
theorem NodeTable.find_iff (h : NodeTable f) {guid : UInt64} :
    f.ibndFindNodeGuid guid = some n ↔ n < f.nodeCount ∧ (f.node n).guid = guid := by
  unfold ibndFindNodeGuid
  constructor
  · intro hfind
    have hmem := List.mem_of_find?_eq_some hfind
    exact ⟨((h.inBucket _ n).mp hmem).1, by simpa using List.find?_some hfind⟩
  · rintro ⟨hn, rfl⟩
    have hmem := (h.inBucket _ n).mpr ⟨hn, rfl⟩
    cases hfind : (f.nodestbl (hashguid (f.node n).guid)).find?
        (fun m => (f.node m).guid = (f.node n).guid) with
    | none =>
        have hnot := List.find?_eq_none.mp hfind n hmem
        exact absurd (decide_eq_true rfl) hnot
    | some m =>
        have hm := ((h.inBucket _ m).mp (List.mem_of_find?_eq_some hfind)).1
        have hguid : (f.node m).guid = (f.node n).guid := by simpa using List.find?_some hfind
        rw [h.distinct hm hn hguid]

theorem NodeTable.find_none (h : NodeTable f) {guid : UInt64}
    (hfind : f.ibndFindNodeGuid guid = none) (hn : n < f.nodeCount) : (f.node n).guid ≠ guid := by
  intro hguid
  rw [h.find_iff.mpr ⟨hn, hguid⟩] at hfind
  cases hfind

/-- Updates that leave the nodes as they are, apart from what is filled into their slots. -/
structure SameNodes (f f' : Fabric) : Prop where
  nodes : f'.nodes = f.nodes
  nodeCount : f'.nodeCount = f.nodeCount
  nodestbl : f'.nodestbl = f.nodestbl
  guid : ∀ n, (f'.node n).guid = (f.node n).guid
  type : ∀ n, (f'.node n).type = (f.node n).type
  numports : ∀ n, (f'.node n).numports = (f.node n).numports
  path : ∀ n, (f'.node n).pathPortid = (f.node n).pathPortid

theorem SameNodes.of_node (hnode : f'.node = f.node) (hnodes : f'.nodes = f.nodes)
    (hcount : f'.nodeCount = f.nodeCount) (htbl : f'.nodestbl = f.nodestbl) : SameNodes f f' :=
  ⟨hnodes, hcount, htbl, fun _ => by rw [hnode], fun _ => by rw [hnode], fun _ => by rw [hnode],
    fun _ => by rw [hnode]⟩

theorem SameNodes.trans {f₁ f₂ f₃ : Fabric} (h₁ : SameNodes f₁ f₂) (h₂ : SameNodes f₂ f₃) :
    SameNodes f₁ f₃ where
  nodes := h₂.nodes.trans h₁.nodes
  nodeCount := h₂.nodeCount.trans h₁.nodeCount
  nodestbl := h₂.nodestbl.trans h₁.nodestbl
  guid n := (h₂.guid n).trans (h₁.guid n)
  type n := (h₂.type n).trans (h₁.type n)
  numports n := (h₂.numports n).trans (h₁.numports n)
  path n := (h₂.path n).trans (h₁.path n)

theorem sameNodes_modifyNode (f : Fabric) (n : NodeRef) {g : Node → Node}
    (hg : ∀ x, (g x).SameShape x) : SameNodes f (f.modifyNode n g) := by
  have hshape : ∀ m, ((f.modifyNode n g).node m).SameShape (f.node m) := by
    intro m
    by_cases hm : m = n
    · subst hm
      simpa [modifyNode] using hg _
    · simp [modifyNode, hm, Node.SameShape]
  exact ⟨rfl, rfl, rfl, fun m => (hshape m).2.2.1, fun m => (hshape m).2.2.2.1,
    fun m => (hshape m).2.1, fun m => (hshape m).2.2.2.2.2⟩

theorem sameNodes_newPort (f : Fabric) (n : NodeRef) (k : Nat) (port : Port) :
    SameNodes f (f.newPort n k port) := by
  refine ⟨rfl, rfl, rfl, fun m => ?_, fun m => ?_, fun m => ?_, fun m => ?_⟩ <;>
    by_cases hm : m = n <;> simp [newPort, hm]

theorem sameNodes_linkPorts (f : Fabric) (p q : PortRef) : SameNodes f (f.linkPorts p q) := by
  have hrelease : ∀ (f : Fabric) r, SameNodes f (f.release r) := by
    intro f r
    unfold release
    split <;> exact .of_node rfl rfl rfl rfl
  exact ((hrelease f p).trans (hrelease _ q)).trans (.of_node rfl rfl rfl rfl)

theorem NodeTable.of_sameNodes (h : NodeTable f) (hl : Linked f') (hs : SameNodes f f')
    (howned : ∀ {n k p}, (f'.node n).ports k = some p →
      (f'.port p).node = n ∧ (f'.port p).portnum = k) : NodeTable f' where
  toLinked := hl
  nodup := hs.nodes ▸ h.nodup
  mem_nodes n := by rw [hs.nodes, hs.nodeCount]; exact h.mem_nodes n
  distinct {n m} hn hm hguid := by
    rw [hs.nodeCount] at hn hm
    rw [hs.guid, hs.guid] at hguid
    exact h.distinct hn hm hguid
  inBucket idx n := by rw [hs.nodestbl, hs.nodeCount, hs.guid]; exact h.inBucket idx n
  owned := howned

/-- Only the owner fields of ports in a slot matter. -/
theorem NodeTable.owned_of (h : NodeTable f) (f' : Fabric)
    (hports : ∀ n, (f'.node n).ports = (f.node n).ports)
    (hport : ∀ x, (f'.port x).node = (f.port x).node ∧ (f'.port x).portnum = (f.port x).portnum)
    {n : NodeRef} {k : Nat} {p : PortRef} (hp : (f'.node n).ports k = some p) :
    (f'.port p).node = n ∧ (f'.port p).portnum = k := by
  rw [hports] at hp
  rw [(hport p).1, (hport p).2]
  exact h.owned hp

theorem NodeTable.modifyPort (h : NodeTable f) {g : Port → Port}
    (hrem : ∀ x, (g x).remoteport = x.remoteport)
    (hown : ∀ x, (g x).node = x.node ∧ (g x).portnum = x.portnum) : NodeTable (f.modifyPort p g) := by
  refine h.of_sameNodes (h.toLinked.modifyPort hrem) (.of_node rfl rfl rfl rfl) fun hp => ?_
  refine h.owned_of (f.modifyPort p g) (fun _ => rfl) (fun x => ?_) hp
  by_cases hx : x = p
  · subst hx
    simpa [Fabric.modifyPort] using hown _
  · simp [Fabric.modifyPort, hx]

theorem NodeTable.modifyNode (h : NodeTable f) {g : Node → Node} (hg : ∀ x, (g x).SameShape x) :
    NodeTable (f.modifyNode n g) := by
  refine h.of_sameNodes (h.toLinked.modifyNode fun x => (hg x).1) (sameNodes_modifyNode f n hg)
    fun hp => h.owned_of (f.modifyNode n g) (fun m => ?_) (fun _ => ⟨rfl, rfl⟩) hp
  by_cases hm : m = n
  · subst hm
    simpa [Fabric.modifyNode] using (hg _).1
  · simp [Fabric.modifyNode, hm]

/-- The slots after one more port has been allocated. -/
theorem ports_newPort (f : Fabric) (n : NodeRef) (k : Nat) (port : Port) (m : NodeRef) (j : Nat) :
    ((f.newPort n k port).node m).ports j =
      if m = n ∧ j = k then some f.portCount else (f.node m).ports j := by
  by_cases hm : m = n
  · subst hm
    by_cases hj : j = k
    · subst hj
      simp [Fabric.newPort]
    · simp [Fabric.newPort, hj]
  · simp [Fabric.newPort, hm]

theorem port_newPort (f : Fabric) (n : NodeRef) (k : Nat) (port : Port) (x : PortRef) :
    (f.newPort n k port).port x = if x = f.portCount then port else f.port x := by
  by_cases hx : x = f.portCount <;> simp [Fabric.newPort, hx]

/-- A new port in a slot, whatever owner it is given, leaves the owners of the others alone. -/
theorem NodeTable.owned_newPort (h : NodeTable f) {port : Port} {m : NodeRef} {j : Nat}
    (hp : ((f.newPort n k port).node m).ports j = some p) :
    (p = f.portCount ∧ m = n ∧ j = k ∧ (f.newPort n k port).port p = port) ∨
      (p < f.portCount ∧ (f.node m).ports j = some p ∧
        (f.newPort n k port).port p = f.port p) := by
  rw [ports_newPort] at hp
  by_cases hslot : m = n ∧ j = k
  · rw [if_pos hslot] at hp
    obtain rfl := Option.some.inj hp
    exact .inl ⟨rfl, hslot.1, hslot.2, by rw [port_newPort, if_pos rfl]⟩
  · rw [if_neg hslot] at hp
    have hlt := h.slots hp
    exact .inr ⟨hlt, hp, by rw [port_newPort, if_neg (Nat.ne_of_lt hlt)]⟩

theorem NodeTable.newPort (h : NodeTable f) {port : Port} (hport : port.remoteport = none)
    (hnode : port.node = n) (hnum : port.portnum = k) : NodeTable (f.newPort n k port) := by
  refine h.of_sameNodes (h.toLinked.newPort n k hport) (sameNodes_newPort f n k port) fun hp => ?_
  rcases h.owned_newPort hp with ⟨-, rfl, rfl, heq⟩ | ⟨-, hold, heq⟩
  · rw [heq]
    exact ⟨hnode, hnum⟩
  · rw [heq]
    exact h.owned hold

theorem NodeTable.createNode (h : NodeTable f) {path : PortId} {info : SmpData}
    (hnone : f.ibndFindNodeGuid (info.field64 .nodeGuid) = none) :
    NodeTable (Scan.createNode f path info).2 := by
  obtain ⟨href, hcount, hnode, hport, -⟩ := createNode_node f path info
  have hold : ∀ m, m < f.nodeCount → (Scan.createNode f path info).2.node m = f.node m := by
    intro m hm
    rw [hnode, Function.update_of_ne (Nat.ne_of_lt hm)]
  have hguid : ((Scan.createNode f path info).2.node f.nodeCount).guid = info.field64 .nodeGuid := by
    rw [hnode, Function.update_self]
  have hfresh : f.nodeCount ∉ f.nodestbl (hashguid (info.field64 .nodeGuid)) := fun hmem =>
    Nat.lt_irrefl _ ((h.inBucket _ _).mp hmem).1
  have hlists : (Scan.createNode f path info).2.nodes = f.nodeCount :: f.nodes ∧
      (Scan.createNode f path info).2.nodestbl = Function.update f.nodestbl
        (hashguid (info.field64 .nodeGuid))
        (f.nodeCount :: f.nodestbl (hashguid (info.field64 .nodeGuid))) := by
    unfold Scan.createNode addToTypeList addToNodeguidHash
    dsimp only
    simp only [setAt_eq_update, Function.update_self, hfresh, if_false]
    split_ifs <;> exact ⟨rfl, rfl⟩
  refine ⟨h.toLinked.createNode path info, ?_, fun n => ?_, fun {n m} hn hm heq => ?_,
    fun idx n => ?_, fun {n k p} hp => ?_⟩
  · rw [hlists.1]
    exact List.nodup_cons.mpr ⟨fun hmem => Nat.lt_irrefl _ ((h.mem_nodes _).mp hmem), h.nodup⟩
  · rw [hlists.1, hcount, List.mem_cons, h.mem_nodes]
    exact (Nat.lt_succ_iff_lt_or_eq.trans or_comm).symm
  · rw [hcount] at hn hm
    rcases Nat.lt_succ_iff_lt_or_eq.mp hn with hn | rfl <;>
      rcases Nat.lt_succ_iff_lt_or_eq.mp hm with hm | rfl
    · rw [hold n hn, hold m hm] at heq
      exact h.distinct hn hm heq
    · rw [hold n hn, hguid] at heq
      exact absurd heq (h.find_none hnone hn)
    · rw [hold m hm, hguid] at heq
      exact absurd heq.symm (h.find_none hnone hm)
    · rfl
  · rw [hlists.2, hcount]
    by_cases hn : n = f.nodeCount
    · subst hn
      rw [hguid]
      by_cases hidx : idx = hashguid (info.field64 .nodeGuid)
      · subst hidx
        simp
      · rw [Function.update_of_ne hidx, h.inBucket]
        simp [Ne.symm hidx]
    · have hlt : n < f.nodeCount + 1 ↔ n < f.nodeCount :=
        Nat.lt_succ_iff_lt_or_eq.trans (or_iff_left hn)
      have hsame : (Scan.createNode f path info).2.node n = f.node n := by
        rw [hnode, Function.update_of_ne hn]
      rw [hlt, hsame]
      by_cases hidx : idx = hashguid (info.field64 .nodeGuid)
      · subst hidx
        rw [Function.update_self, List.mem_cons, or_iff_right hn, h.inBucket]
      · rw [Function.update_of_ne hidx, h.inBucket]
  · rw [hnode] at hp
    rw [hport]
    by_cases hn : n = f.nodeCount
    · subst hn
      simp [default] at hp
    · rw [Function.update_of_ne hn] at hp
      exact h.owned hp

end Fabric

namespace Scan
open Fabric

/-- What a PortInfo leaves in the port record and elsewhere. -/
theorem storePortInfo_spec (f : Fabric) (n : NodeRef) (p : PortRef) (k : Nat) (info : SmpData) :
    let f' := storePortInfo f n p k info
    (∀ x, x ≠ p → f'.port x = f.port x) ∧ (f'.port p).node = n ∧ (f'.port p).portnum = k ∧
      (f'.port p).info = info ∧ (f'.port p).remoteport = (f.port p).remoteport ∧
      SameNodes f f' ∧ f'.portCount = f.portCount ∧ f'.fromNode = f.fromNode ∧
      f'.fromPortnum = f.fromPortnum := by
  set g : Port → Port := fun port => { port with
    info, node := n, portnum := k, baseLid := UInt16.ofNat (info.field .portLid)
    lmc := UInt8.ofNat (info.field .portLmc) }
  have hfill : SameNodes f (f.modifyPort p g) := .of_node rfl rfl rfl rfl
  have hother : ∀ (f : Fabric) (g : Port → Port) x, x ≠ p → (f.modifyPort p g).port x = f.port x :=
    fun f g x hx => by simp [modifyPort, hx]
  have hself : ∀ (f : Fabric) (g : Port → Port), (f.modifyPort p g).port p = g (f.port p) :=
    fun f g => by simp [modifyPort]
  unfold storePortInfo
  dsimp only
  split
  · refine ⟨hother f g, ?_, ?_, ?_, ?_, hfill.trans (sameNodes_modifyNode _ n ?_), rfl, rfl, rfl⟩
    · exact congrArg Port.node (hself f g)
    · exact congrArg Port.portnum (hself f g)
    · exact congrArg Port.info (hself f g)
    · have hrem := congrArg Port.remoteport (hself f g)
      exact hrem
    · exact fun _ => ⟨rfl, rfl, rfl, rfl, rfl, rfl⟩
  · split
    · refine ⟨fun x hx => ?_, ?_, ?_, ?_, ?_, hfill.trans (.of_node rfl rfl rfl rfl), rfl, rfl, rfl⟩
      · exact (hother _ _ x hx).trans (hother f g x hx)
      · rw [hself, hself]
      · rw [hself, hself]
      · rw [hself, hself]
      · rw [hself, hself]
    · refine ⟨hother f g, ?_, ?_, ?_, ?_, hfill, rfl, rfl, rfl⟩
      · exact congrArg Port.node (hself f g)
      · exact congrArg Port.portnum (hself f g)
      · exact congrArg Port.info (hself f g)
      · have hrem := congrArg Port.remoteport (hself f g)
        exact hrem

theorem nodeTable_withPortGuid {f : Fabric} {p : PortRef} (guid : UInt64) (h : NodeTable f) :
    NodeTable (withPortGuid f p guid) :=
  h.modifyPort (fun _ => rfl) fun _ => ⟨rfl, rfl⟩

theorem nodeTable_stable : FabricStable NodeTable where
  node h hg := h.modifyNode hg
  extInfo _ h := h.modifyPort (fun _ => rfl) fun _ => ⟨rfl, rfl⟩
  nodeInfoPort {f f' n k p} h hok := by
    refine ensurePort_rule h (fun _ _ => ?_) hok
    exact h.newPort rfl rfl rfl
  portInfo {f f' n k p guid} info h hok := by
    have hl := linked_stable.portInfo info h.toLinked hok
    obtain ⟨hother, hnode, hnum, -, -, hsame, -⟩ := storePortInfo_spec f' n p k info
    have hports := fun m => (storePortInfo_ports f' n p k info m).1
    obtain ⟨-, ⟨hslot, rfl⟩ | ⟨hnone, rfl, rfl⟩⟩ := ensurePort_ok hok
    · refine h.of_sameNodes hl hsame fun {m j x} hx => ?_
      rw [hports] at hx
      by_cases hxp : x = p
      · subst hxp
        obtain ⟨hm, hj⟩ := h.owned hx
        obtain ⟨hn, hk⟩ := h.owned hslot
        exact ⟨hnode.trans (hn.symm.trans hm), hnum.trans (hk.symm.trans hj)⟩
      · rw [hother x hxp]
        exact h.owned hx
    · refine h.of_sameNodes hl ((sameNodes_newPort f n k _).trans hsame) fun {m j x} hx => ?_
      rw [hports] at hx
      rcases h.owned_newPort hx with ⟨rfl, rfl, rfl, -⟩ | ⟨hlt, hold, heq⟩
      · exact ⟨hnode, hnum⟩
      · rw [hother x (Nat.ne_of_lt hlt), heq]
        exact h.owned hold
  hash {f f' p rc} h hp hok := by
    have hl := linked_stable.hash h.toLinked hp hok
    obtain ⟨dup, -, rfl⟩ := addToPortguidHash_ok hok
    cases dup with
    | true => exact h.of_sameNodes hl (.of_node rfl rfl rfl rfl) fun hx => h.owned hx
    | false =>
        have hpush : NodeTable (f.modifyPort p
            fun port => { port with htnext := f.portstbl (f.bucket p) }) :=
          h.modifyPort (fun _ => rfl) fun _ => ⟨rfl, rfl⟩
        exact hpush.of_sameNodes hl (.of_node rfl rfl rfl rfl) fun hx => hpush.owned hx
  lids m h := h.of_sameNodes (linked_stable.lids m h.toLinked) (.of_node rfl rfl rfl rfl)
    fun hx => h.owned hx
  link {f p q} h hp hq := by
    have howner : ∀ (f : Fabric) r x, ((f.release r).port x).node = (f.port x).node ∧
        ((f.release r).port x).portnum = (f.port x).portnum := by
      intro f r x
      unfold release
      split
      · next y _ =>
          by_cases hx : x = y <;> simp [modifyPort, hx]
      · exact ⟨rfl, rfl⟩
    have hset : ∀ (f : Fabric) r v x,
        ((f.modifyPort r fun port => { port with remoteport := v }).port x).node =
          (f.port x).node ∧
        ((f.modifyPort r fun port => { port with remoteport := v }).port x).portnum =
          (f.port x).portnum := by
      intro f r v x
      by_cases hx : x = r <;> simp [modifyPort, hx]
    refine h.of_sameNodes (linked_stable.link h.toLinked hp hq) (sameNodes_linkPorts f p q)
      fun hx => h.owned_of _ (fun m => by rw [(node_linkPorts f p q).1]) (fun x => ?_) hx
    unfold linkPorts
    dsimp only
    rw [(hset _ q _ x).1, (hset _ q _ x).2, (hset _ p _ x).1, (hset _ p _ x).2,
      (howner _ q x).1, (howner _ q x).2]
    exact howner f p x
  create h hnone := h.createNode hnone
  origin n k h := h.of_sameNodes (linked_stable.origin n k h.toLinked) (.of_node rfl rfl rfl rfl)
    fun hx => h.owned hx
  hops m h := h.of_sameNodes (linked_stable.hops m h.toLinked) (.of_node rfl rfl rfl rfl)
    fun hx => h.owned hx

end Scan

theorem nodeTable_of_reached {args : DiscoverArgs} {st : ScanState} (h : Reached args.start st) :
    st.scan.fabric.NodeTable :=
  ((Scan.nodeTable_stable.invariant Scan.nodeTable_withPortGuid).reached
    Fabric.nodeTable_init (fun _ _ => trivial) h).1

end InfinibandDiags
