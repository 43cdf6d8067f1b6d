import InfinibandDiags.Discover.Run
import InfinibandDiags.Fabric.Updates

/-! Everything a callback can do, said once: the steps it is made of, taken apart. -/
namespace InfinibandDiags
open Engine

namespace Fabric

/-- Everything `create_node` sets up. -/
theorem createNode_node (f : Fabric) (path : PortId) (info : SmpData) :
    (Scan.createNode f path info).1 = f.nodeCount ∧
    (Scan.createNode f path info).2.nodeCount = f.nodeCount + 1 ∧
    (Scan.createNode f path info).2.node = Function.update f.node f.nodeCount
      { (default : Node) with
        guid := info.field64 .nodeGuid
        type := info.field .nodeType
        numports := info.field .nodeNports
        pathPortid := path
        info := info } ∧
    (Scan.createNode f path info).2.port = f.port ∧
    (Scan.createNode f path info).2.portCount = f.portCount := by
  unfold Scan.createNode addToTypeList addToNodeguidHash
  dsimp only
  split_ifs <;> exact ⟨rfl, rfl, setAt_eq_update _ _ _, rfl, rfl⟩

end Fabric

namespace Scan
variable {scan : Scan} {smp : ScanSmp} {mad : Bytes} {n : NodeRef} {out : Outcome}

/-- A port slot was filled already, or is filled now. -/
theorem ensurePort_ok {f f' : Fabric} {k : Nat} {shell : Port} {p : PortRef}
    (h : ensurePort f n k shell = .ok (p, f')) :
    k ≤ (f.node n).numports ∧
      (((f.node n).ports k = some p ∧ f' = f) ∨
        ((f.node n).ports k = none ∧ p = f.portCount ∧ f' = f.newPort n k shell)) := by
  obtain ⟨r, hslot, hrest⟩ := bind_eq_ok.mp h
  obtain ⟨hk, hr⟩ := Fabric.slot_eq_ok.mp hslot
  refine ⟨hk, ?_⟩
  cases r with
  | none =>
      obtain ⟨rfl, rfl⟩ := by simpa using hrest
      exact .inr ⟨hr, rfl, rfl⟩
  | some q =>
      obtain ⟨rfl, rfl⟩ := by simpa using hrest
      exact .inl ⟨hr, rfl⟩

theorem retractDpath_cases (scan : Scan) (path : PortId) :
    ∃ m, (scan.retractDpath path).2.1 =
      scan.mapFabric fun f => { f with maxhopsDiscovered := m } := by
  unfold retractDpath
  split
  · exact ⟨scan.fabric.maxhopsDiscovered, rfl⟩
  · exact ⟨_, rfl⟩

theorem extendDpath_cases (scan : Scan) (path : PortId) (k : Nat) :
    ∃ m, (scan.extendDpath path k).2.1 =
      scan.mapFabric fun f => { f with maxhopsDiscovered := m } := by
  unfold extendDpath
  split
  · exact ⟨scan.fabric.maxhopsDiscovered, rfl⟩
  · dsimp only
    split
    · exact ⟨scan.fabric.maxhopsDiscovered, rfl⟩
    · exact ⟨_, rfl⟩

/-- Following a link changes the hop count only, and asks for one NodeInfo at most. -/
theorem exploreLink_cases (scan : Scan) (path : PortId) (n : NodeRef) (p : PortRef) (k : Nat) :
    (∃ m, (scan.exploreLink path n p k).1 =
      scan.mapFabric fun f => { f with maxhopsDiscovered := m }) ∧
    ((scan.exploreLink path n p k).2 = [] ∨
      ∃ path', (scan.exploreLink path n p k).2 = [queryNodeInfo path' (some (n, k))]) := by
  have hlist : ∀ (rc : Int) (path' : PortId),
      (if rc > 0 then [queryNodeInfo path' (some (n, k))] else []) = [] ∨
        ∃ path'', (if rc > 0 then [queryNodeInfo path' (some (n, k))] else []) =
          [queryNodeInfo path'' (some (n, k))] := by
    intro rc path'
    split
    · exact .inr ⟨path', rfl⟩
    · exact .inl rfl
  unfold exploreLink
  split
  · dsimp only
    split
    · exact ⟨retractDpath_cases scan path, hlist _ _⟩
    · split
      · exact ⟨extendDpath_cases scan path k, hlist _ _⟩
      · exact ⟨⟨scan.fabric.maxhopsDiscovered, rfl⟩, hlist _ _⟩
  · exact ⟨⟨scan.fabric.maxhopsDiscovered, rfl⟩, .inl rfl⟩

/-- The port record of a PortInfo, in the hash and in the LID map. -/
structure PortStored (scan : Scan) (mad : Bytes) (n : NodeRef) (p : PortRef) (f : Fabric) :
    Prop where
  steps : ∃ f₁ rc f₂,
    ensurePort scan.fabric n (attrModPort mad)
      { (default : Port) with guid := (scan.fabric.node n).info.field64 .nodePortGuid } =
        .ok (p, f₁) ∧
    (storePortInfo f₁ n p (attrModPort mad) (smpData mad)).addToPortguidHash p = .ok (rc, f₂) ∧
    f₂.addToPortlidHash p = .ok f

theorem recvPortInfo_ok (h : scan.recvPortInfo smp mad n = .ok out) :
    ∃ p f, PortStored scan mad n p f ∧
      let scan' := { scan with fabric := f }
      ((scan'.wantsExtPortInfo p = .ok true ∧
          out = ⟨scan', [queryMlnxExtPortInfo smp.path n (attrModPort mad)], 0⟩) ∨
        (scan'.wantsExtPortInfo p = .ok false ∧ scan'.debugPort p = .ok () ∧
          out = ⟨(scan'.exploreLink smp.path n p (attrModPort mad)).1,
            (scan'.exploreLink smp.path n p (attrModPort mad)).2, 0⟩)) := by
  obtain ⟨⟨p, f₁⟩, hensure, h⟩ := bind_eq_ok.mp h
  obtain ⟨⟨rc, f₂⟩, hhash, h⟩ := bind_eq_ok.mp h
  obtain ⟨f, hlid, h⟩ := bind_eq_ok.mp h
  obtain ⟨wants, hwants, h⟩ := bind_eq_ok.mp h
  refine ⟨p, f, ⟨f₁, rc, f₂, hensure, hhash, hlid⟩, ?_⟩
  cases wants with
  | true => exact .inl ⟨hwants, (Except.ok.inj h).symm⟩
  | false =>
      obtain ⟨⟨⟩, hdebug, h⟩ := bind_eq_ok.mp h
      exact .inr ⟨hwants, hdebug, (Except.ok.inj h).symm⟩

theorem recvPort0Info_ok (h : scan.recvPort0Info smp mad n = .ok out) :
    ∃ out₁, scan.recvPortInfo smp mad n = .ok out₁ ∧ out = { out₁ with
      requests := out₁.requests ++ (List.range (out₁.scan.fabric.node n).numports).map fun i =>
        queryPortInfo smp.path n (i + 1) } := by
  obtain ⟨out₁, h₁, h⟩ := bind_eq_ok.mp h
  exact ⟨out₁, h₁, (Except.ok.inj h).symm⟩

theorem mlnxExtPortInfoErr_ok (h : scan.mlnxExtPortInfoErr smp mad n = .ok out) :
    attrModPort mad ≤ (scan.fabric.node n).numports ∧
      (((scan.fabric.node n).ports (attrModPort mad) = none ∧ out = ⟨scan, [], -1⟩) ∨
        ∃ p, (scan.fabric.node n).ports (attrModPort mad) = some p ∧ scan.debugPort p = .ok () ∧
          out = ⟨(scan.exploreLink smp.path n p (attrModPort mad)).1,
            (scan.exploreLink smp.path n p (attrModPort mad)).2, 0⟩) := by
  obtain ⟨r, hslot, h⟩ := bind_eq_ok.mp h
  obtain ⟨hk, hr⟩ := Fabric.slot_eq_ok.mp hslot
  refine ⟨hk, ?_⟩
  cases r with
  | none => exact .inl ⟨hr, (Except.ok.inj h).symm⟩
  | some p =>
      obtain ⟨⟨⟩, hdebug, h⟩ := bind_eq_ok.mp h
      exact .inr ⟨p, hr, hdebug, (Except.ok.inj h).symm⟩

theorem recvMlnxExtPortInfo_ok (h : scan.recvMlnxExtPortInfo smp mad n = .ok out) :
    attrModPort mad ≤ (scan.fabric.node n).numports ∧
      (((scan.fabric.node n).ports (attrModPort mad) = none ∧ out = ⟨scan, [], -1⟩) ∨
        ∃ p, (scan.fabric.node n).ports (attrModPort mad) = some p ∧
          let scan' := scan.mapFabric
            (·.modifyPort p fun port => { port with extInfo := smpData mad })
          scan'.debugPort p = .ok () ∧
          out = ⟨(scan'.exploreLink smp.path n p (attrModPort mad)).1,
            (scan'.exploreLink smp.path n p (attrModPort mad)).2, 0⟩) := by
  obtain ⟨r, hslot, h⟩ := bind_eq_ok.mp h
  obtain ⟨hk, hr⟩ := Fabric.slot_eq_ok.mp hslot
  refine ⟨hk, ?_⟩
  cases r with
  | none => exact .inl ⟨hr, (Except.ok.inj h).symm⟩
  | some p =>
      obtain ⟨⟨⟩, hdebug, h⟩ := bind_eq_ok.mp h
      exact .inr ⟨p, hr, hdebug, (Except.ok.inj h).symm⟩

/-- The SMPs of `recv_node_info`, one by one. -/
theorem mem_nodeQueries {path : PortId} {isNew : Bool} {type k : Nat} {req : ScanRequest} :
    req ∈ nodeQueries path n isNew type k ↔
      (isNew = true ∧ (req = queryNodeDesc path n ∨ (type = ibNodeSwitch ∧
        (req = querySwitchInfo path n ∨ req = queryPortInfo path n 0)))) ∨
      (type ≠ ibNodeSwitch ∧ req = queryPortInfo path n k) := by
  unfold nodeQueries
  cases isNew <;> by_cases htype : type = ibNodeSwitch <;> simp [htype]

/-- The fabric when `recv_node_info` has its port, with the GUID just reported. -/
def withPortGuid (f : Fabric) (p : PortRef) (guid : UInt64) : Fabric :=
  f.modifyPort p fun port => { port with guid }

/-- The port that a NodeInfo is about, and the fabric once node and port are there. -/
def nodeInfoPort (scan : Scan) (path : PortId) (info : SmpData) :
    Except Fault (PortRef × Fabric) :=
  let found := findOrCreateNode scan.fabric path info
  let k := info.field .nodeLocalPort
  ensurePort found.2.2 found.1 k { (default : Port) with node := found.1, portnum := k }

theorem recvNodeInfo_ok {cbdata : Option (NodeRef × Nat)}
    (h : scan.recvNodeInfo smp mad cbdata = .ok out) :
    let info := smpData mad
    let k := info.field .nodeLocalPort
    let found := findOrCreateNode scan.fabric smp.path info
    ∃ p f, scan.nodeInfoPort smp.path info = .ok (p, f) ∧
      let f := withPortGuid f p (info.field64 .nodePortGuid)
      ((cbdata = none ∧ out = scan.finishNodeInfo smp.path found.1 found.2.1 k
          { f with fromNode := some found.1, fromPortnum := k }) ∨
        ∃ remNode remPortNum, cbdata = some (remNode, remPortNum) ∧
          ((f.slot remNode remPortNum = .ok none ∧ out = ⟨{ scan with fabric := f }, [], -1⟩) ∨
            ∃ q, f.slot remNode remPortNum = .ok (some q) ∧
              out = scan.finishNodeInfo smp.path found.1 found.2.1 k (f.linkPorts p q))) := by
  obtain ⟨⟨p, f⟩, hensure, h⟩ := bind_eq_ok.mp h
  refine ⟨p, f, hensure, ?_⟩
  cases cbdata with
  | none => exact .inl ⟨rfl, (Except.ok.inj h).symm⟩
  | some rem =>
      obtain ⟨r, hslot, h⟩ := bind_eq_ok.mp h
      refine .inr ⟨rem.1, rem.2, rfl, ?_⟩
      cases r with
      | none => exact .inl ⟨hslot, (Except.ok.inj h).symm⟩
      | some q => exact .inr ⟨q, hslot, (Except.ok.inj h).symm⟩

/-- The callbacks a reply can run. -/
inductive Ran (scan : Scan) (smp : ScanSmp) (r : Recv) (out : Outcome) : Prop
  | ignored (h : out = ⟨scan, [], 0⟩)
  | nodeInfo (cbdata : Option (NodeRef × Nat)) (hdata : smp.cbData = .niCbdata cbdata)
      (hclean : isClean r) (h : scan.recvNodeInfo smp r.mad cbdata = .ok out)
  | nodeDesc (n : NodeRef) (hdata : smp.cbData = .node n) (h : out = scan.recvNodeDesc r.mad n)
  | switchInfo (n : NodeRef) (hdata : smp.cbData = .node n) (h : out = scan.recvSwitchInfo r.mad n)
  | port0Info (n : NodeRef) (hdata : smp.cbData = .node n) (h : scan.recvPort0Info smp r.mad n = .ok out)
  | portInfo (n : NodeRef) (hdata : smp.cbData = .node n) (h : scan.recvPortInfo smp r.mad n = .ok out)
  | extPortInfo (n : NodeRef) (hdata : smp.cbData = .node n)
      (h : scan.recvMlnxExtPortInfo smp r.mad n = .ok out)
  | extPortInfoErr (n : NodeRef) (hdata : smp.cbData = .node n)
      (h : scan.mlnxExtPortInfoErr smp r.mad n = .ok out)

theorem reply_of_clean {r : Recv} (h : isClean r) :
    scan.reply smp r = scan.callback smp.cb smp r.mad smp.cbData := by
  have hstatus : r.status = 0 ∧ madGetField r.mad 0 .drsmpStatus = 0 := by
    simpa [isClean] using h
  rw [reply, if_neg]
  rintro (h | h)
  · exact h hstatus.1
  · exact h hstatus.2

theorem reply_of_not_clean {r : Recv} (h : ¬ isClean r) :
    scan.reply smp r = if smp.rpc.attrId = ibAttrMlnxExtPortInfo then
      scan.errorCallback smp r.mad smp.cbData else .ok ⟨scan, [], 0⟩ := by
  rw [reply, if_pos]
  by_contra hnot
  rw [not_or, not_not, not_not] at hnot
  exact h (by simp [isClean, hnot.1, hnot.2])

theorem reply_ok {r : Recv} (h : scan.reply smp r = .ok out) : Ran scan smp r out := by
  by_cases hclean : isClean r
  · rw [reply_of_clean hclean] at h
    cases hdata : smp.cbData with
    | niCbdata cbdata =>
        rw [hdata] at h
        cases hcb : smp.cb <;> rw [hcb] at h <;> try cases h
        exact .nodeInfo cbdata hdata hclean h
    | node n =>
        rw [hdata] at h
        cases hcb : smp.cb <;> rw [hcb] at h
        · cases h
        · exact .nodeDesc n hdata (Except.ok.inj h).symm
        · exact .switchInfo n hdata (Except.ok.inj h).symm
        · exact .port0Info n hdata h
        · exact .portInfo n hdata h
        · exact .extPortInfo n hdata h
  · rw [reply_of_not_clean hclean] at h
    split at h
    · cases hdata : smp.cbData with
      | niCbdata cbdata => rw [hdata] at h; cases h
      | node n =>
          rw [hdata] at h
          exact .extPortInfoErr n hdata h
    · exact .ignored (Except.ok.inj h).symm

end Scan
end InfinibandDiags
