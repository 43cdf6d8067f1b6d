import InfinibandDiags.Discover.Effects

/-! What every update of the fabric preserves, every reply preserves. -/
namespace InfinibandDiags
open Engine

/-- A port in some slot of some node. -/
def Fabric.IsPort (f : Fabric) (p : PortRef) : Prop := ∃ n k, (f.node n).ports k = some p

/-- The fields of a node that are set when it is created and never again. -/
def Node.SameShape (x y : Node) : Prop :=
  x.ports = y.ports ∧ x.numports = y.numports ∧ x.guid = y.guid ∧ x.type = y.type ∧
    x.info = y.info ∧ x.pathPortid = y.pathPortid

namespace Scan
open Fabric

/-- A property of the fabric that no update made by a callback destroys, apart from the GUID
that `recv_node_info` writes. -/
structure FabricStable (P : Fabric → Prop) : Prop where
  node : ∀ {f n} {g : Node → Node}, P f → (∀ x, (g x).SameShape x) → P (f.modifyNode n g)
  extInfo : ∀ {f p} (d : SmpData), P f → P (f.modifyPort p fun port => { port with extInfo := d })
  nodeInfoPort : ∀ {f f' n k p}, P f →
    ensurePort f n k { (default : Port) with node := n, portnum := k } = .ok (p, f') → P f'
  portInfo : ∀ {f f' n k p guid} (info : SmpData), P f →
    ensurePort f n k { (default : Port) with guid } = .ok (p, f') → P (storePortInfo f' n p k info)
  hash : ∀ {f f' p rc}, P f → f.IsPort p → f.addToPortguidHash p = .ok (rc, f') → P f'
  lids : ∀ {f} m, P f → P { f with lid2guid := m }
  link : ∀ {f p q}, P f → f.IsPort p → f.IsPort q → P (f.linkPorts p q)
  create : ∀ {f path info}, P f → f.ibndFindNodeGuid (info.field64 .nodeGuid) = none →
    P (createNode f path info).2
  origin : ∀ {f} n k, P f → P { f with fromNode := n, fromPortnum := k }
  hops : ∀ {f} m, P f → P { f with maxhopsDiscovered := m }

variable {P : Fabric → Prop} {scan : Scan} {smp : ScanSmp} {mad : Bytes} {n : NodeRef} {out : Outcome}

theorem ensurePort_slot {f f' : Fabric} {k : Nat} {shell : Port} {p : PortRef}
    (h : ensurePort f n k shell = .ok (p, f')) : (f'.node n).ports k = some p := by
  obtain ⟨-, ⟨hslot, rfl⟩ | ⟨-, rfl, rfl⟩⟩ := ensurePort_ok h
  · exact hslot
  · simp [Fabric.newPort]

theorem storePortInfo_ports (f : Fabric) (n : NodeRef) (p : PortRef) (k : Nat) (info : SmpData)
    (m : NodeRef) : ((storePortInfo f n p k info).node m).SameShape (f.node m) := by
  unfold storePortInfo
  dsimp only
  split
  · by_cases hm : m = n
    · subst hm; simp [modifyNode, modifyPort, Node.SameShape]
    · simp [modifyNode, modifyPort, Node.SameShape, hm]
  · split <;> simp [modifyPort, Node.SameShape]

namespace FabricStable

theorem exploreLink (hP : FabricStable P) (scan : Scan) (h : P scan.fabric) (path : PortId) (p : PortRef)
    (k : Nat) : P (scan.exploreLink path n p k).1.fabric := by
  obtain ⟨⟨m, hm⟩, -⟩ := exploreLink_cases scan path n p k
  rw [hm]
  exact hP.hops m h

theorem portStored (hP : FabricStable P) {f : Fabric} {p : PortRef} (h : P scan.fabric)
    (hs : PortStored scan mad n p f) : P f := by
  obtain ⟨f₁, rc, f₂, hensure, hhash, hlid⟩ := hs.steps
  obtain ⟨m, rfl⟩ := addToPortlidHash_ok hlid
  have hslot : ((storePortInfo f₁ n p (attrModPort mad) (smpData mad)).node n).ports
      (attrModPort mad) = some p :=
    (congrFun (storePortInfo_ports f₁ n p _ _ n).1 _).trans (ensurePort_slot hensure)
  exact hP.lids m (hP.hash (hP.portInfo _ h hensure) ⟨n, _, hslot⟩ hhash)

theorem recvPortInfo (hP : FabricStable P) (h : P scan.fabric)
    (hok : scan.recvPortInfo smp mad n = .ok out) : P out.scan.fabric := by
  obtain ⟨p, f, hstored, ⟨-, rfl⟩ | ⟨-, -, rfl⟩⟩ := recvPortInfo_ok hok
  · exact hP.portStored h hstored
  · exact hP.exploreLink { scan with fabric := f } (hP.portStored h hstored) _ _ _

theorem finishNodeInfo (hP : FabricStable P) {f : Fabric} (h : P f) (path : PortId) (n : NodeRef)
    (isNew : Bool) (k : Nat) : P (scan.finishNodeInfo path n isNew k f).scan.fabric := by
  unfold Scan.finishNodeInfo
  dsimp only
  split
  · exact hP.node h fun _ => ⟨rfl, rfl, rfl, rfl, rfl, rfl⟩
  · exact h

theorem findOrCreateNode (hP : FabricStable P) {f : Fabric} (h : P f) (path : PortId)
    (info : SmpData) : P (findOrCreateNode f path info).2.2 := by
  unfold Scan.findOrCreateNode
  cases hfind : f.ibndFindNodeGuid (info.field64 .nodeGuid) with
  | some n => exact h
  | none => exact hP.create h hfind

theorem recvNodeInfo (hP : FabricStable P) {cbdata : Option (NodeRef × Nat)} (h : P scan.fabric)
    (hguid : ∀ p f, scan.nodeInfoPort smp.path (smpData mad) = .ok (p, f) → P f →
      P (withPortGuid f p ((smpData mad).field64 .nodePortGuid)))
    (hok : scan.recvNodeInfo smp mad cbdata = .ok out) : P out.scan.fabric := by
  obtain ⟨p, f, hensure, hcase⟩ := recvNodeInfo_ok hok
  have hslot := ensurePort_slot (h := hensure)
  have h₁ : P f := hP.nodeInfoPort (hP.findOrCreateNode h _ _) hensure
  have h₂ := hguid p f hensure h₁
  rcases hcase with ⟨-, rfl⟩ | ⟨rn, rk, -, ⟨-, rfl⟩ | ⟨q, hq, rfl⟩⟩
  · exact hP.finishNodeInfo (hP.origin _ _ h₂) _ _ _ _
  · exact h₂
  · exact hP.finishNodeInfo (hP.link h₂ ⟨_, _, hslot⟩ ⟨_, _, (slot_eq_ok.mp hq).2⟩) _ _ _ _

/-- One reply, whatever it says, under a condition on the GUID that a NodeInfo reports. -/
theorem reply (hP : FabricStable P) {r : Recv} (h : P scan.fabric)
    (hguid : ∀ p f, scan.nodeInfoPort smp.path (smpData r.mad) = .ok (p, f) → P f →
      (∃ cbdata, smp.cbData = .niCbdata cbdata) → isClean r →
        P (withPortGuid f p ((smpData r.mad).field64 .nodePortGuid)))
    (hok : scan.reply smp r = .ok out) : P out.scan.fabric := by
  cases reply_ok hok with
  | ignored h => rw [h]; assumption
  | nodeInfo cbdata hdata hclean hok =>
      exact hP.recvNodeInfo h (fun p f hp hf => hguid p f hp hf ⟨cbdata, hdata⟩ hclean) hok
  | nodeDesc n _ h =>
      rw [h]
      exact hP.node (g := fun node => { node with nodedesc := smpData r.mad }) ‹_›
        fun _ => ⟨rfl, rfl, rfl, rfl, rfl, rfl⟩
  | switchInfo n _ h =>
      rw [h]
      exact hP.node (g := fun node => { node with
        switchinfo := smpData r.mad
        smaenhsp0 := (smpData r.mad).field .swEnhancedPort0 }) ‹_›
        fun _ => ⟨rfl, rfl, rfl, rfl, rfl, rfl⟩
  | port0Info n _ hok =>
      obtain ⟨out₁, h₁, rfl⟩ := recvPort0Info_ok hok
      have hout := hP.recvPortInfo h h₁
      exact hout
  | portInfo n _ hok => exact hP.recvPortInfo h hok
  | extPortInfo n _ hok =>
      obtain ⟨-, ⟨-, rfl⟩ | ⟨p, -, -, rfl⟩⟩ := recvMlnxExtPortInfo_ok hok
      · exact h
      · exact hP.exploreLink { scan with fabric := _ }
          (hP.extInfo (p := p) (smpData r.mad) h) _ _ _
  | extPortInfoErr n _ hok =>
      obtain ⟨-, ⟨-, rfl⟩ | ⟨p, -, -, rfl⟩⟩ := mlnxExtPortInfoErr_ok hok
      · exact h
      · exact hP.exploreLink scan h _ _ _

/-- A property that no update destroys holds after every reply. -/
theorem invariant (hP : FabricStable P)
    (hguid : ∀ {f p} guid, P f → P (withPortGuid f p guid)) :
    ScanInvariant (fun scan => P scan.fabric) (fun _ _ => True) where
  reply h _ hok :=
    ⟨hP.reply h (fun _ _ _ hf _ _ => hguid _ hf) hok, fun _ _ => trivial, fun _ _ => trivial⟩

end FabricStable

/-- For properties that a new port without links and changes elsewhere in a port keep. -/
theorem ensurePort_rule {f f' : Fabric} {k : Nat} {shell : Port} {p : PortRef} (h : P f)
    (hnew : (f.node n).ports k = none → k ≤ (f.node n).numports → P (f.newPort n k shell))
    (hok : ensurePort f n k shell = .ok (p, f')) : P f' := by
  obtain ⟨hk, ⟨-, rfl⟩ | ⟨hnone, -, rfl⟩⟩ := ensurePort_ok hok
  · exact h
  · exact hnew hnone hk

theorem storePortInfo_rule {f : Fabric} {p : PortRef} {k : Nat} {info : SmpData} (h : P f)
    (hport : ∀ {f} (g : Port → Port), P f →
      (∀ x, (g x).remoteport = x.remoteport ∧ (g x).htnext = x.htnext ∧ (g x).guid = x.guid) →
        P (f.modifyPort p g))
    (hnode : ∀ {f} (g : Node → Node), P f → (∀ x, (g x).SameShape x) → P (f.modifyNode n g)) :
    P (storePortInfo f n p k info) := by
  have hfill := hport (fun port => { port with
    info, node := n, portnum := k, baseLid := UInt16.ofNat (info.field .portLid)
    lmc := UInt8.ofNat (info.field .portLmc) }) h fun _ => ⟨rfl, rfl, rfl⟩
  unfold storePortInfo
  dsimp only
  split
  · exact hnode _ hfill fun _ => ⟨rfl, rfl, rfl, rfl, rfl, rfl⟩
  · split
    · exact hport _ hfill fun _ => ⟨rfl, rfl, rfl⟩
    · exact hfill

end Scan
end InfinibandDiags
