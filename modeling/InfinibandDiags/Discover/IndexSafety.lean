import InfinibandDiags.Discover.Links

/-! Indices into `node->ports`. The array has the size that the first NodeInfo of the node
reported; the index comes from the reply at hand. -/
namespace InfinibandDiags
open Engine

namespace Fabric
variable {f f' : Fabric} {p : PortRef}

theorem addToPortguidHash_error {fault : Fault} (h : f.addToPortguidHash p = .error fault) :
    fault = .endlessLoop := by
  have hchain : ∀ fuel head, f.onChain p fuel head = .error fault → fault = .endlessLoop := by
    intro fuel
    induction fuel with
    | zero =>
        intro head h
        cases head with
        | none => cases h
        | some r => exact (Except.error.inj h).symm
    | succ fuel ih =>
        intro head h
        cases head with
        | none => cases h
        | some r =>
            unfold onChain at h
            split at h
            · cases h
            · exact ih _ h
  rcases bind_eq_error.mp h with h | ⟨dup, -, h⟩
  · exact hchain _ _ h
  · cases dup <;> cases h

theorem lidLoop_error {limit left lid : Nat} {m : Qmap PortRef} {fault : Fault}
    (h : lidLoop p limit left lid m = .error fault) : fault = .endlessLoop := by
  induction left generalizing lid m with
  | zero => exact (Except.error.inj h).symm
  | succ left ih =>
      unfold lidLoop at h
      split at h
      · exact ih h
      · cases h

theorem addToPortlidHash_error {fault : Fault} (h : f.addToPortlidHash p = .error fault) :
    fault = .badShift ∨ fault = .endlessLoop := by
  unfold addToPortlidHash at h
  dsimp only at h
  split at h
  · exact .inl (Except.error.inj h).symm
  · split at h
    · rcases bind_eq_error.mp h with h | ⟨m, -, h⟩
      · exact .inr (lidLoop_error h)
      · cases h
    · cases h

/-- Nodes never change their size, and the hash holds allocated nodes only. -/
structure Grows (f f' : Fabric) : Prop where
  nodeCount : f.nodeCount ≤ f'.nodeCount
  numports : ∀ n < f.nodeCount, (f'.node n).numports = (f.node n).numports
  nodestbl : ∀ idx, ∀ n ∈ f'.nodestbl idx, n ∈ f.nodestbl idx ∨ n < f'.nodeCount

theorem Grows.refl (f : Fabric) : Grows f f :=
  ⟨Nat.le_refl _, fun _ _ => rfl, fun _ _ h => .inl h⟩

theorem Grows.trans {f₁ f₂ f₃ : Fabric} (h₁ : Grows f₁ f₂) (h₂ : Grows f₂ f₃) : Grows f₁ f₃ := by
  refine ⟨h₁.nodeCount.trans h₂.nodeCount, fun n hn => ?_, fun idx n hn => ?_⟩
  · rw [h₂.numports n (Nat.lt_of_lt_of_le hn h₁.nodeCount), h₁.numports n hn]
  · rcases h₂.nodestbl idx n hn with h | h
    · rcases h₁.nodestbl idx n h with h | h
      · exact .inl h
      · exact .inr (Nat.lt_of_lt_of_le h h₂.nodeCount)
    · exact .inr h

theorem Grows.of_same (hcount : f'.nodeCount = f.nodeCount)
    (hnode : ∀ n, (f'.node n).numports = (f.node n).numports)
    (htbl : f'.nodestbl = f.nodestbl) : Grows f f' :=
  ⟨Nat.le_of_eq hcount.symm, fun n _ => hnode n, fun _ _ h => .inl (htbl ▸ h)⟩

theorem grows_modifyPort (f : Fabric) (p : PortRef) (g : Port → Port) : Grows f (f.modifyPort p g) :=
  .of_same rfl (fun _ => rfl) rfl

theorem grows_modifyNode (f : Fabric) (n : NodeRef) {g : Node → Node}
    (hg : ∀ node, (g node).numports = node.numports) : Grows f (f.modifyNode n g) := by
  refine .of_same rfl (fun m => ?_) rfl
  by_cases hm : m = n
  · subst hm; simp [modifyNode, hg]
  · simp [modifyNode, hm]

theorem grows_newPort (f : Fabric) (n : NodeRef) (k : Nat) (port : Port) :
    Grows f (f.newPort n k port) := by
  refine .of_same rfl (fun m => ?_) rfl
  by_cases hm : m = n
  · subst hm; simp [newPort]
  · simp [newPort, hm]

theorem grows_addToPortguidHash {rc : Int} (h : f.addToPortguidHash p = .ok (rc, f')) :
    Grows f f' := by
  obtain ⟨dup, -, rfl⟩ := addToPortguidHash_ok h
  cases dup <;> exact .of_same rfl (fun _ => rfl) rfl

theorem grows_addToPortlidHash (h : f.addToPortlidHash p = .ok f') : Grows f f' := by
  obtain ⟨m, rfl⟩ := addToPortlidHash_ok h
  exact .of_same rfl (fun _ => rfl) rfl

theorem grows_linkPorts (f : Fabric) (p q : PortRef) : Grows f (f.linkPorts p q) := by
  have hrelease : ∀ (f : Fabric) r, Grows f (f.release r) := by
    intro f r
    unfold release
    split
    · exact grows_modifyPort _ _ _
    · exact .refl f
  exact ((hrelease f p).trans (hrelease _ q)).trans
    ((grows_modifyPort _ p fun port => { port with remoteport := some q }).trans
      (grows_modifyPort _ q fun port => { port with remoteport := some p }))

theorem grows_createNode (f : Fabric) (path : PortId) (info : SmpData) :
    Grows f (Scan.createNode f path info).2 := by
  obtain ⟨-, hcount, hnode, -, -⟩ := createNode_node f path info
  refine ⟨hcount ▸ Nat.le_succ _, fun n hn => ?_, fun idx n hn => ?_⟩
  · rw [hnode, Function.update_of_ne (Nat.ne_of_lt hn)]
  · have htbl : ∀ m ∈ (Scan.createNode f path info).2.nodestbl idx,
        m ∈ f.nodestbl idx ∨ m = f.nodeCount := by
      unfold Scan.createNode addToTypeList addToNodeguidHash
      dsimp only
      intro m hm
      have hcases : m ∈ f.nodestbl idx ∨ m ∈ Function.update f.nodestbl
          (hashguid (info.field64 .nodeGuid)) (f.nodeCount ::
            f.nodestbl (hashguid (info.field64 .nodeGuid))) idx := by
        revert hm
        split_ifs <;> simp_all
      rcases hcases with h | h
      · exact .inl h
      · by_cases hidx : idx = hashguid (info.field64 .nodeGuid)
        · subst hidx
          rw [Function.update_self] at h
          exact (List.mem_cons.mp h).symm
        · rw [Function.update_of_ne hidx] at h
          exact .inl h
    rcases htbl n hn with h | h
    · exact .inl h
    · refine .inr ?_
      rw [h, hcount]
      exact Nat.lt_succ_self _

end Fabric

namespace Scan
open Fabric
variable {scan : Scan} {smp : ScanSmp} {mad : Bytes} {n : NodeRef} {out : Outcome}

/-- The nodes in the hash are allocated. -/
def HashedNodes (f : Fabric) : Prop := ∀ idx, ∀ n ∈ f.nodestbl idx, n < f.nodeCount

theorem hashedNodes_init : HashedNodes allocateFabricInternal :=
  fun _ _ hn => absurd hn List.not_mem_nil

theorem HashedNodes.mono {f f' : Fabric} (h : HashedNodes f) (hg : Grows f f') :
    HashedNodes f' := by
  intro idx n hn
  rcases hg.nodestbl idx n hn with hold | hnew
  · exact Nat.lt_of_lt_of_le (h idx n hold) hg.nodeCount
  · exact hnew

/-- A request whose data is of the kind its callback expects, about an allocated node; the
port a NodeInfo was sent through is a slot of that node. -/
def WellTyped (f : Fabric) (req : ScanRequest) : Prop :=
  match req.cbData with
  | .niCbdata none => req.cb = .recvNodeInfo
  | .niCbdata (some (n, k)) =>
      req.cb = .recvNodeInfo ∧ n < f.nodeCount ∧ k ≤ (f.node n).numports
  | .node n => req.cb ≠ .recvNodeInfo ∧ n < f.nodeCount

theorem WellTyped.mono {f f' : Fabric} {req : ScanRequest} (h : WellTyped f req)
    (hg : Grows f f') : WellTyped f' req := by
  unfold WellTyped at h ⊢
  cases hdata : req.cbData with
  | niCbdata from? =>
      rw [hdata] at h
      cases from? with
      | none => exact h
      | some rem =>
          obtain ⟨hcb, hn, hk⟩ := h
          exact ⟨hcb, Nat.lt_of_lt_of_le hn hg.nodeCount, (hg.numports _ hn).symm ▸ hk⟩
  | node n =>
      rw [hdata] at h
      exact ⟨h.1, Nat.lt_of_lt_of_le h.2 hg.nodeCount⟩

theorem wellTyped_queryPortInfo {f : Fabric} (hn : n < f.nodeCount) (path : PortId) (k : Nat) :
    WellTyped f (queryPortInfo path n k) := by
  refine ⟨?_, hn⟩
  unfold queryPortInfo
  dsimp only
  split <;> exact fun h => (nomatch h)

theorem wellTyped_nodeQueries {f : Fabric} (hn : n < f.nodeCount) (path : PortId)
    (isNew : Bool) (type k : Nat) : ∀ req ∈ nodeQueries path n isNew type k, WellTyped f req := by
  intro req hreq
  rcases mem_nodeQueries.mp hreq with ⟨-, rfl | ⟨-, rfl | rfl⟩⟩ | ⟨-, rfl⟩
  · exact ⟨fun h => (nomatch h), hn⟩
  · exact ⟨fun h => (nomatch h), hn⟩
  · exact wellTyped_queryPortInfo hn path 0
  · exact wellTyped_queryPortInfo hn path k

theorem ensurePort_grows {f f' : Fabric} {k : Nat} {shell : Port} {p : PortRef}
    (h : ensurePort f n k shell = .ok (p, f')) : Grows f f' := by
  obtain ⟨-, ⟨-, rfl⟩ | ⟨-, -, rfl⟩⟩ := ensurePort_ok h
  · exact .refl _
  · exact grows_newPort _ _ _ _

theorem grows_storePortInfo (f : Fabric) (n : NodeRef) (p : PortRef) (k : Nat) (info : SmpData) :
    Grows f (storePortInfo f n p k info) := by
  have hfill := grows_modifyPort f p fun port => { port with
    info, node := n, portnum := k, baseLid := UInt16.ofNat (info.field .portLid)
    lmc := UInt8.ofNat (info.field .portLmc) }
  unfold storePortInfo
  dsimp only
  split
  · refine hfill.trans (grows_modifyNode _ n ?_)
    exact fun _ => rfl
  · split
    · exact hfill.trans (grows_modifyPort _ p _)
    · exact hfill

theorem PortStored.grows {f : Fabric} {p : PortRef} (h : PortStored scan mad n p f) :
    Grows scan.fabric f := by
  obtain ⟨f₁, rc, f₂, hensure, hhash, hlid⟩ := h.steps
  exact (ensurePort_grows hensure).trans ((grows_storePortInfo f₁ n p _ _).trans
    ((grows_addToPortguidHash hhash).trans (grows_addToPortlidHash hlid)))

theorem exploreLink_grows (scan : Scan) (path : PortId) (n : NodeRef) (p : PortRef) (k : Nat) :
    Grows scan.fabric (scan.exploreLink path n p k).1.fabric := by
  obtain ⟨⟨m, hm⟩, -⟩ := exploreLink_cases scan path n p k
  rw [hm]
  exact .of_same rfl (fun _ => rfl) rfl

theorem exploreLink_wellTyped {f : Fabric} (hn : n < f.nodeCount) {k : Nat}
    (hk : k ≤ (f.node n).numports) (path : PortId) (p : PortRef) :
    ∀ req ∈ (scan.exploreLink path n p k).2, WellTyped f req := by
  obtain ⟨-, h | ⟨path', h⟩⟩ := exploreLink_cases scan path n p k
  · rw [h]
    exact fun _ hreq => (nomatch hreq)
  · rw [h]
    intro req hreq
    rw [List.mem_singleton.mp hreq]
    exact ⟨rfl, hn, hk⟩

theorem recvPortInfo_grows (hn : n < scan.fabric.nodeCount)
    (h : scan.recvPortInfo smp mad n = .ok out) :
    Grows scan.fabric out.scan.fabric ∧ ∀ req ∈ out.requests, WellTyped out.scan.fabric req := by
  obtain ⟨p, f, hstored, hcase⟩ := recvPortInfo_ok h
  have hgrows := hstored.grows
  have hn' := Nat.lt_of_lt_of_le hn hgrows.nodeCount
  have hk : attrModPort mad ≤ (f.node n).numports := by
    obtain ⟨f₁, rc, f₂, hensure, -, -⟩ := hstored.steps
    rw [hgrows.numports n hn]
    exact (ensurePort_ok hensure).1
  rcases hcase with ⟨-, rfl⟩ | ⟨-, -, rfl⟩
  · refine ⟨hgrows, fun req hreq => ?_⟩
    rw [List.mem_singleton.mp hreq]
    exact ⟨fun h => (nomatch h), hn'⟩
  · have hexplore := exploreLink_grows { scan with fabric := f } smp.path n p (attrModPort mad)
    refine ⟨hgrows.trans hexplore, fun req hreq => ?_⟩
    exact (exploreLink_wellTyped hn' hk smp.path p req hreq).mono hexplore

/-- The node a NodeInfo is about is allocated once it has been looked up or created. -/
theorem findOrCreateNode_spec {f : Fabric} (hf : HashedNodes f) (path : PortId) (info : SmpData) :
    Grows f (findOrCreateNode f path info).2.2 ∧
      (findOrCreateNode f path info).1 < (findOrCreateNode f path info).2.2.nodeCount ∧
      ((findOrCreateNode f path info).2.2.node (findOrCreateNode f path info).1).numports =
        match f.ibndFindNodeGuid (info.field64 .nodeGuid) with
        | some n => (f.node n).numports
        | none => info.field .nodeNports := by
  unfold findOrCreateNode
  cases hfind : f.ibndFindNodeGuid (info.field64 .nodeGuid) with
  | some n => exact ⟨.refl f, hf _ _ (List.mem_of_find?_eq_some hfind), rfl⟩
  | none =>
      obtain ⟨href, hcount, hnode, -, -⟩ := createNode_node f path info
      refine ⟨grows_createNode f path info, ?_, ?_⟩
      · rw [href, hcount]
        exact Nat.lt_succ_self _
      · simp only [href, hnode, Function.update_self]

theorem finishNodeInfo_grows (scan : Scan) {f : Fabric} (hn : n < f.nodeCount) (path : PortId) (isNew : Bool)
    (k : Nat) : Grows f (scan.finishNodeInfo path n isNew k f).scan.fabric ∧
      ∀ req ∈ (scan.finishNodeInfo path n isNew k f).requests,
        WellTyped (scan.finishNodeInfo path n isNew k f).scan.fabric req := by
  have hgrows : Grows f (scan.finishNodeInfo path n isNew k f).scan.fabric := by
    unfold finishNodeInfo
    dsimp only
    split
    · exact grows_modifyNode f n fun _ => rfl
    · exact .refl f
  exact ⟨hgrows, wellTyped_nodeQueries (Nat.lt_of_lt_of_le hn hgrows.nodeCount) _ _ _ _⟩

theorem recvNodeInfo_grows {cbdata : Option (NodeRef × Nat)} (hf : HashedNodes scan.fabric)
    (h : scan.recvNodeInfo smp mad cbdata = .ok out) :
    Grows scan.fabric out.scan.fabric ∧ ∀ req ∈ out.requests, WellTyped out.scan.fabric req := by
  obtain ⟨p, f, hensure, hcase⟩ := recvNodeInfo_ok h
  obtain ⟨hfound, hn, -⟩ := findOrCreateNode_spec hf smp.path (smpData mad)
  have h₁ : Grows scan.fabric (withPortGuid f p ((smpData mad).field64 .nodePortGuid)) :=
    hfound.trans ((ensurePort_grows hensure).trans (grows_modifyPort f p _))
  have hn₁ : (findOrCreateNode scan.fabric smp.path (smpData mad)).1 < f.nodeCount :=
    Nat.lt_of_lt_of_le hn (ensurePort_grows hensure).nodeCount
  rcases hcase with ⟨-, rfl⟩ | ⟨rn, rk, -, ⟨-, rfl⟩ | ⟨q, -, rfl⟩⟩
  · set f₁ : Fabric := { withPortGuid f p ((smpData mad).field64 .nodePortGuid) with
      fromNode := some (findOrCreateNode scan.fabric smp.path (smpData mad)).1
      fromPortnum := (smpData mad).field .nodeLocalPort }
    have hfrom : Grows scan.fabric f₁ := h₁.trans (.of_same rfl (fun _ => rfl) rfl)
    obtain ⟨hfin, hreqs⟩ := finishNodeInfo_grows scan (f := f₁) hn₁ smp.path
      (findOrCreateNode scan.fabric smp.path (smpData mad)).2.1
      ((smpData mad).field .nodeLocalPort)
    exact ⟨hfrom.trans hfin, hreqs⟩
  · exact ⟨h₁, fun _ hreq => (nomatch hreq)⟩
  · have hlink := grows_linkPorts (withPortGuid f p ((smpData mad).field64 .nodePortGuid)) p q
    have hn₂ := Nat.lt_of_lt_of_le hn₁ hlink.nodeCount
    obtain ⟨hfin, hreqs⟩ := finishNodeInfo_grows scan hn₂ smp.path
      (findOrCreateNode scan.fabric smp.path (smpData mad)).2.1
      ((smpData mad).field .nodeLocalPort)
    exact ⟨(h₁.trans hlink).trans hfin, hreqs⟩

/-- Requests stay well typed, whatever is replied. -/
theorem wellTyped_invariant :
    ScanInvariant (fun scan => HashedNodes scan.fabric) fun scan req => WellTyped scan.fabric req where
  reply {scan smp r out} hf ht h := by
    have key : Grows scan.fabric out.scan.fabric ∧
        ∀ req ∈ out.requests, WellTyped out.scan.fabric req := by
      have hnode : ∀ {n}, smp.cbData = .node n → n < scan.fabric.nodeCount := by
        intro n hdata
        unfold WellTyped at ht
        have hd : smp.request.cbData = .node n := hdata
        rw [hd] at ht
        exact ht.2
      cases reply_ok h with
      | ignored h => rw [h]; exact ⟨.refl _, fun _ hreq => (nomatch hreq)⟩
      | nodeInfo cbdata _ _ h => exact recvNodeInfo_grows hf h
      | nodeDesc n _ h =>
          rw [h]
          exact ⟨grows_modifyNode scan.fabric n
            (g := fun node => { node with nodedesc := smpData r.mad }) fun _ => rfl,
            fun _ hreq => (nomatch hreq)⟩
      | switchInfo n _ h =>
          rw [h]
          exact ⟨grows_modifyNode scan.fabric n (g := fun node => { node with
            switchinfo := smpData r.mad
            smaenhsp0 := (smpData r.mad).field .swEnhancedPort0 }) fun _ => rfl,
            fun _ hreq => (nomatch hreq)⟩
      | port0Info n hdata h =>
          obtain ⟨out₁, h₁, rfl⟩ := recvPort0Info_ok h
          obtain ⟨hgrows, hreqs⟩ := recvPortInfo_grows (hnode hdata) h₁
          refine ⟨hgrows, fun req hreq => ?_⟩
          rcases List.mem_append.mp hreq with hold | hnew
          · exact hreqs req hold
          · obtain ⟨i, -, rfl⟩ := List.mem_map.mp hnew
            exact wellTyped_queryPortInfo (Nat.lt_of_lt_of_le (hnode hdata) hgrows.nodeCount) _ _
      | portInfo n hdata h => exact recvPortInfo_grows (hnode hdata) h
      | extPortInfo n hdata h =>
          obtain ⟨hk, ⟨-, rfl⟩ | ⟨p, -, -, rfl⟩⟩ := recvMlnxExtPortInfo_ok h
          · exact ⟨.refl _, fun _ hreq => (nomatch hreq)⟩
          · have hext := grows_modifyPort scan.fabric p
              fun port => { port with extInfo := smpData r.mad }
            have hexplore := exploreLink_grows (scan.mapFabric
              (·.modifyPort p fun port => { port with extInfo := smpData r.mad })) smp.path n p
                (attrModPort r.mad)
            refine ⟨hext.trans hexplore, fun req hreq => ?_⟩
            exact (exploreLink_wellTyped (hnode hdata) hk _ _ req hreq).mono (hext.trans hexplore)
      | extPortInfoErr n hdata h =>
          obtain ⟨hk, ⟨-, rfl⟩ | ⟨p, -, -, rfl⟩⟩ := mlnxExtPortInfoErr_ok h
          · exact ⟨.refl _, fun _ hreq => (nomatch hreq)⟩
          · have hexplore := exploreLink_grows scan smp.path n p (attrModPort r.mad)
            refine ⟨hexplore, fun req hreq => ?_⟩
            exact (exploreLink_wellTyped (hnode hdata) hk _ _ req hreq).mono hexplore
    exact ⟨hf.mono key.1, fun t ht => ht.mono key.1, key.2⟩

/-! ### Where an access leaves the array -/

theorem ensurePort_error {f : Fabric} {k : Nat} {shell : Port} {fault : Fault} :
    ensurePort f n k shell = .error fault ↔
      (f.node n).numports < k ∧ fault = .outOfBounds := by
  unfold ensurePort
  rw [bind_eq_error]
  constructor
  · rintro (h | ⟨r, -, h⟩)
    · exact slot_eq_error.mp h
    · cases r <;> cases h
  · exact fun h => .inl (slot_eq_error.mpr h)

theorem capInfo_error {p : PortRef} {fault : Fault} (h : scan.capInfo p = .error fault) :
    fault = .nullDeref := by
  unfold capInfo at h
  dsimp only at h
  split at h
  · split at h
    · exact (Except.error.inj h).symm
    · cases h
  · cases h

theorem debugPort_error {p : PortRef} {fault : Fault} (h : scan.debugPort p = .error fault) :
    fault = .nullDeref := by
  rcases bind_eq_error.mp h with h | ⟨_, -, h⟩
  · exact capInfo_error h
  · cases h

theorem wantsExtPortInfo_error {p : PortRef} {fault : Fault}
    (h : scan.wantsExtPortInfo p = .error fault) : fault = .nullDeref := by
  unfold wantsExtPortInfo at h
  dsimp only at h
  split at h
  · rcases bind_eq_error.mp h with h | ⟨_, -, h⟩
    · exact capInfo_error h
    · cases h
  · cases h

/-- The only access of `recv_port_info` that can leave the array is the first one. -/
theorem recvPortInfo_outOfBounds :
    scan.recvPortInfo smp mad n = .error .outOfBounds ↔
      (scan.fabric.node n).numports < attrModPort mad := by
  constructor
  · intro h
    rcases bind_eq_error.mp h with h | ⟨⟨p, f₁⟩, -, h⟩
    · exact (ensurePort_error.mp h).1
    · rcases bind_eq_error.mp h with h | ⟨⟨rc, f₂⟩, -, h⟩
      · cases addToPortguidHash_error h
      · rcases bind_eq_error.mp h with h | ⟨f, -, h⟩
        · rcases addToPortlidHash_error h with h | h <;> cases h
        · rcases bind_eq_error.mp h with h | ⟨wants, -, h⟩
          · cases wantsExtPortInfo_error h
          · cases wants with
            | true => cases h
            | false =>
                rcases bind_eq_error.mp h with h | ⟨_, -, h⟩
                · cases debugPort_error h
                · cases h
  · exact fun h => bind_eq_error.mpr (.inl (ensurePort_error.mpr ⟨h, rfl⟩))

theorem recvPort0Info_outOfBounds :
    scan.recvPort0Info smp mad n = .error .outOfBounds ↔
      (scan.fabric.node n).numports < attrModPort mad := by
  have hsame : scan.recvPortInfo smp mad n = .error .outOfBounds ↔ _ := recvPortInfo_outOfBounds
  rw [← hsame, recvPort0Info, bind_eq_error]
  constructor
  · rintro (h | ⟨out, -, h⟩)
    · exact h
    · cases h
  · exact .inl

theorem recvMlnxExtPortInfo_outOfBounds :
    scan.recvMlnxExtPortInfo smp mad n = .error .outOfBounds ↔
      (scan.fabric.node n).numports < attrModPort mad := by
  unfold recvMlnxExtPortInfo
  dsimp only
  rw [bind_eq_error, slot_eq_error]
  constructor
  · rintro (h | ⟨r, -, h⟩)
    · exact h.1
    · cases r with
      | none => cases h
      | some p =>
          rcases bind_eq_error.mp h with h | ⟨_, -, h⟩
          · cases debugPort_error h
          · cases h
  · exact fun h => .inl ⟨h, rfl⟩

theorem mlnxExtPortInfoErr_outOfBounds :
    scan.mlnxExtPortInfoErr smp mad n = .error .outOfBounds ↔
      (scan.fabric.node n).numports < attrModPort mad := by
  unfold mlnxExtPortInfoErr
  dsimp only
  rw [bind_eq_error, slot_eq_error]
  constructor
  · rintro (h | ⟨r, -, h⟩)
    · exact h.1
    · cases r with
      | none => cases h
      | some p =>
          rcases bind_eq_error.mp h with h | ⟨_, -, h⟩
          · cases debugPort_error h
          · cases h
  · exact fun h => .inl ⟨h, rfl⟩

/-- The size of the port array of the node that a NodeInfo is about: the one reported first. -/
def portsSize (scan : Scan) (nodeInfo : SmpData) : Nat :=
  match scan.fabric.ibndFindNodeGuid (nodeInfo.field64 .nodeGuid) with
  | some n => (scan.fabric.node n).numports
  | none => nodeInfo.field .nodeNports

theorem recvNodeInfo_outOfBounds {cbdata : Option (NodeRef × Nat)} (hf : HashedNodes scan.fabric)
    (hrem : ∀ rn rk, cbdata = some (rn, rk) →
      rn < scan.fabric.nodeCount ∧ rk ≤ (scan.fabric.node rn).numports) :
    scan.recvNodeInfo smp mad cbdata = .error .outOfBounds ↔
      scan.portsSize (smpData mad) < (smpData mad).field .nodeLocalPort := by
  obtain ⟨hfound, -, hsize⟩ := findOrCreateNode_spec hf smp.path (smpData mad)
  have hensure : ∀ shell fault, ensurePort (findOrCreateNode scan.fabric smp.path (smpData mad)).2.2
      (findOrCreateNode scan.fabric smp.path (smpData mad)).1 ((smpData mad).field .nodeLocalPort)
      shell = .error fault ↔
        scan.portsSize (smpData mad) < (smpData mad).field .nodeLocalPort ∧
          fault = .outOfBounds := by
    intro shell fault
    rw [ensurePort_error, hsize, portsSize]
  constructor
  · intro h
    rcases bind_eq_error.mp h with h | ⟨⟨p, f⟩, hok, h⟩
    · exact ((hensure _ _).mp h).1
    · cases cbdata with
      | none => cases h
      | some rem =>
          obtain ⟨hn, hk⟩ := hrem rem.1 rem.2 rfl
          have hgrows := hfound.trans (ensurePort_grows hok)
          rcases bind_eq_error.mp h with h | ⟨r, -, h⟩
          · have hlt := (slot_eq_error.mp h).1
            change (f.node rem.1).numports < rem.2 at hlt
            rw [hgrows.numports _ hn] at hlt
            exact absurd hk (Nat.not_le.mpr hlt)
          · cases r <;> cases h
  · exact fun h => bind_eq_error.mpr (.inl ((hensure _ _).mpr ⟨h, rfl⟩))

/-- Whether the reply runs a callback that looks up the port in the attribute modifier. -/
def readsPort (smp : ScanSmp) (r : Recv) : Bool :=
  if isClean r then
    smp.cb = .recvPort0Info || smp.cb = .recvPortInfo || smp.cb = .recvMlnxExtPortInfo
  else smp.rpc.attrId = ibAttrMlnxExtPortInfo

/-- A reply that keeps to the size of the node it is about: the local port of a NodeInfo is one
of the ports that the first NodeInfo of this GUID announced, and so is the attribute modifier
of a reply about one port. -/
def IndexOk (scan : Scan) (smp : ScanSmp) (r : Recv) : Prop :=
  match smp.cbData with
  | .niCbdata _ => isClean r →
      (smpData r.mad).field .nodeLocalPort ≤ scan.portsSize (smpData r.mad)
  | .node n => readsPort smp r → attrModPort r.mad ≤ (scan.fabric.node n).numports

theorem reply_outOfBounds {r : Recv} (hf : HashedNodes scan.fabric)
    (ht : WellTyped scan.fabric smp.request) :
    scan.reply smp r = .error .outOfBounds ↔ ¬ IndexOk scan smp r := by
  unfold WellTyped at ht
  unfold IndexOk
  cases hdata : smp.cbData with
  | niCbdata cbdata =>
      have hreq : smp.request.cbData = .niCbdata cbdata := hdata
      rw [hreq] at ht
      dsimp only
      by_cases hclean : isClean r
      · have hcb : smp.cb = .recvNodeInfo := by
          cases cbdata with
          | none => exact ht
          | some rem => exact ht.1
        have hrem : ∀ rn rk, cbdata = some (rn, rk) →
            rn < scan.fabric.nodeCount ∧ rk ≤ (scan.fabric.node rn).numports := by
          rintro rn rk rfl
          exact ht.2
        rw [reply_of_clean hclean, hdata, hcb]
        change scan.recvNodeInfo smp r.mad cbdata = _ ↔ _
        rw [recvNodeInfo_outOfBounds hf hrem]
        simp [hclean]
      · rw [reply_of_not_clean hclean, hdata]
        split <;> simp [errorCallback, hclean]
  | node n =>
      have hreq : smp.request.cbData = .node n := hdata
      rw [hreq] at ht
      have hcb : smp.cb ≠ .recvNodeInfo := ht.1
      dsimp only
      by_cases hclean : isClean r
      · rw [reply_of_clean hclean, hdata]
        cases hcase : smp.cb with
        | recvNodeInfo => exact absurd hcase hcb
        | recvNodeDesc => simp [callback, readsPort, hclean, hcase]
        | recvSwitchInfo => simp [callback, readsPort, hclean, hcase]
        | recvPort0Info => simp [callback, readsPort, hclean, hcase, recvPort0Info_outOfBounds]
        | recvPortInfo => simp [callback, readsPort, hclean, hcase, recvPortInfo_outOfBounds]
        | recvMlnxExtPortInfo =>
            simp [callback, readsPort, hclean, hcase, recvMlnxExtPortInfo_outOfBounds]
      · rw [reply_of_not_clean hclean, hdata]
        by_cases hattr : smp.rpc.attrId = ibAttrMlnxExtPortInfo
        · simp [errorCallback, readsPort, hclean, hattr, mlnxExtPortInfoErr_outOfBounds]
        · simp [readsPort, hclean, hattr]

end Scan

/-- What is known of the SMP whose reply is handled. -/
theorem wellTyped_of_handled {args : DiscoverArgs} {st : ScanState} {r : Recv} {smp : ScanSmp}
    (h : Reached args.start st) (hsmp : handledSmp st.engine r = some smp) :
    Scan.HashedNodes st.scan.fabric ∧ Scan.WellTyped st.scan.fabric smp.request := by
  have hinit : ∀ t ∈ args.start.engine.pending, Scan.WellTyped args.start.scan.fabric t := by
    intro t ht
    rw [pending_start args t ht]
    rfl
  obtain ⟨hf, ht⟩ := Scan.wellTyped_invariant.reached Scan.hashedNodes_init hinit h
  obtain ⟨-, e₁, htake, -⟩ := handledSmp_eq_some.mp hsmp
  refine ⟨hf, ht _ ?_⟩
  rw [pending_takeReply htake]
  exact Multiset.mem_cons_self _ _

theorem inBounds_iff_of_reached {args : DiscoverArgs} {st : ScanState}
    (h : Reached args.start st) (rs : List Recv) :
    processMads scanHandlers st.engine st.scan rs ≠ .error .outOfBounds ↔
      Along Scan.IndexOk st.engine st.scan rs := by
  induction rs generalizing st with
  | nil => simp [processMads, Along]
  | cons r rs ih =>
      unfold processMads Along
      by_cases hwire : clQmapCount st.engine.smpsOnWire = 0
      · simp [hwire]
      · rw [if_neg hwire]
        have hone : processOneRecv scanHandlers st.engine st.scan r ≠ .error .outOfBounds ↔
            ∀ smp, handledSmp st.engine r = some smp → Scan.IndexOk st.scan smp r := by
          rw [Ne, processOneRecv_error]
          push Not
          refine forall₂_congr fun smp hsmp => ?_
          obtain ⟨hf, htyped⟩ := wellTyped_of_handled h hsmp
          rw [Ne, Scan.reply_outOfBounds hf htyped, not_not]
        cases hrecv : processOneRecv scanHandlers st.engine st.scan r with
        | error fault =>
            rw [hrecv] at hone
            simp [hwire, ← hone]
        | ok res =>
            obtain ⟨rc, e', scan'⟩ := res
            rw [hrecv] at hone
            have hall := hone.mp (by simp)
            dsimp only
            by_cases hrc : rc = 0
            · subst hrc
              have hreached : Reached args.start ⟨e', scan'⟩ := .recv h hrecv
              have hnext := ih hreached
              simp only [ne_eq, not_true_eq_false, if_false]
              refine hnext.trans ⟨fun hrest _ => ⟨hall, ?_⟩, fun hrest => ?_⟩
              · rintro e₂ scan₂ heq
                simp only [Except.ok.injEq, Prod.mk.injEq, true_and] at heq
                rw [← heq.1, ← heq.2]
                exact hrest
              · exact (hrest hwire).2 e' scan' rfl
            · simp only [ne_eq, hrc, not_false_eq_true, if_true, reduceCtorEq, true_iff]
              refine fun _ => ⟨hall, fun e₂ scan₂ heq => ?_⟩
              exact absurd (Prod.mk.inj (Except.ok.inj heq)).1 hrc

/-- A scan stays inside every port array exactly as long as every reply keeps to the size of
the node it is about. -/
theorem processMads_inBounds_iff (args : DiscoverArgs) (rs : List Recv) :
    processMads scanHandlers args.start.engine args.start.scan rs ≠ .error .outOfBounds ↔
      Along Scan.IndexOk args.start.engine args.start.scan rs :=
  inBounds_iff_of_reached .start rs

/-- A single port adapter that calls the port it was reached through number 2. -/
theorem processMads_outOfBounds :
    let args : DiscoverArgs := ⟨⟨0, .empty⟩, ⟨0, 0, 0, 0, 0, 0⟩, 0, ⟨0, 5⟩, fun _ => 0⟩
    processMads scanHandlers args.start.engine args.start.scan
      [⟨0, 0, responseMad 6 0 (nodeInfoData 1 1 ibNodeCa 1 2)⟩] = .error .outOfBounds :=
  faultOf_eq_some.mp (by decide +kernel)

end InfinibandDiags
