import InfinibandDiags.Discover.Preserve
import InfinibandDiags.Mad.Reply

/-! Links: `remoteport` is a partial involution whatever the replies say. -/
namespace InfinibandDiags
namespace Fabric
variable {f f' : Fabric} {p q : PortRef} {n : NodeRef} {k : Nat}

/-- The link invariant, with what keeps a port just allocated free of links. -/
structure Linked (f : Fabric) : Prop where
  symmetric : Pairing.Symmetric f.remoteport
  unused : ∀ p, f.portCount ≤ p → f.remoteport p = none
  slots : ∀ {n k p}, (f.node n).ports k = some p → p < f.portCount

theorem linked_init : Linked allocateFabricInternal :=
  ⟨fun _ _ h => (nomatch h), fun _ _ => rfl, fun h => (nomatch h)⟩

theorem Linked.congr (h : Linked f) (hrem : f'.remoteport = f.remoteport)
    (hcount : f'.portCount = f.portCount) (hports : ∀ n, (f'.node n).ports = (f.node n).ports) :
    Linked f' := by
  refine ⟨hrem ▸ h.symmetric, ?_, fun {n k p} hp => ?_⟩
  · rw [hrem, hcount]
    exact h.unused
  · rw [hports] at hp
    rw [hcount]
    exact h.slots hp

theorem Linked.modifyPort (h : Linked f) {g : Port → Port}
    (hg : ∀ x, (g x).remoteport = x.remoteport) : Linked (f.modifyPort p g) := by
  refine h.congr ?_ rfl fun _ => rfl
  rw [remoteport_modifyPort, hg]
  exact Function.update_eq_self _ _

theorem Linked.modifyNode (h : Linked f) {g : Node → Node} (hg : ∀ x, (g x).ports = x.ports) :
    Linked (f.modifyNode n g) := by
  refine h.congr rfl rfl fun m => ?_
  by_cases hm : m = n
  · subst hm; simp [Fabric.modifyNode, hg]
  · simp [Fabric.modifyNode, hm]

theorem Linked.isPort (h : Linked f) (hp : f.IsPort p) : p < f.portCount := by
  obtain ⟨n, k, hslot⟩ := hp
  exact h.slots hslot

theorem Linked.newPort (h : Linked f) (n : NodeRef) (k : Nat) {port : Port}
    (hport : port.remoteport = none) : Linked (f.newPort n k port) := by
  have hsame : (f.newPort n k port).remoteport = f.remoteport := by
    rw [remoteport_newPort, hport, ← h.unused f.portCount (Nat.le_refl _)]
    exact Function.update_eq_self _ _
  refine ⟨hsame ▸ h.symmetric, fun p hp => ?_, fun {m j p} hp => ?_⟩
  · rw [hsame]
    exact h.unused p (Nat.le_of_succ_le hp)
  · change p < f.portCount + 1
    by_cases hm : m = n
    · subst hm
      by_cases hj : j = k
      · subst hj
        have heq : f.portCount = p := by simpa [Fabric.newPort] using hp
        exact heq ▸ Nat.lt_succ_self _
      · exact Nat.lt_succ_of_lt (h.slots (n := m) (k := j) (by simpa [Fabric.newPort, hj] using hp))
    · exact Nat.lt_succ_of_lt (h.slots (n := m) (k := j) (by simpa [Fabric.newPort, hm] using hp))

theorem Linked.linkPorts (h : Linked f) (hp : p < f.portCount) (hq : q < f.portCount) :
    Linked (f.linkPorts p q) := by
  obtain ⟨hnode, hcount⟩ := node_linkPorts f p q
  refine ⟨?_, fun x hx => ?_, fun {m j x} hx => ?_⟩
  · rw [remoteport_linkPorts]
    exact Pairing.relink_symmetric h.symmetric p q
  · rw [hcount] at hx
    have hxp : x ≠ p := Nat.ne_of_gt (Nat.lt_of_lt_of_le hp hx)
    have hxq : x ≠ q := Nat.ne_of_gt (Nat.lt_of_lt_of_le hq hx)
    rw [remoteport_linkPorts, Pairing.relink_apply h.symmetric, if_neg hxq, if_neg hxp,
      h.unused x hx]
    simp
  · rw [hnode] at hx
    rw [hcount]
    exact h.slots hx

theorem Linked.createNode (h : Linked f) (path : PortId) (info : SmpData) :
    Linked (Scan.createNode f path info).2 := by
  obtain ⟨-, -, hnode, hport, hcount⟩ := createNode_node f path info
  have hrem : (Scan.createNode f path info).2.remoteport = f.remoteport := by
    funext x
    simp only [Fabric.remoteport, hport]
  refine ⟨hrem ▸ h.symmetric, ?_, fun {m j x} hx => ?_⟩
  · rw [hrem, hcount]
    exact h.unused
  · rw [hcount]
    rw [hnode] at hx
    by_cases hm : m = f.nodeCount
    · subst hm
      simp [default] at hx
    · rw [Function.update_of_ne hm] at hx
      exact h.slots hx

end Fabric

namespace Scan
open Fabric

theorem linked_withPortGuid {f : Fabric} {p : PortRef} (guid : UInt64) (h : Linked f) :
    Linked (withPortGuid f p guid) :=
  h.modifyPort fun _ => rfl

/-- No reply, whatever it says, breaks the links. -/
theorem linked_stable : FabricStable Linked where
  node h hg := h.modifyNode fun x => (hg x).1
  extInfo _ h := h.modifyPort fun _ => rfl
  nodeInfoPort h hok := ensurePort_rule h (fun _ _ => h.newPort _ _ rfl) hok
  portInfo info h hok := storePortInfo_rule (ensurePort_rule h (fun _ _ => h.newPort _ _ rfl) hok)
    (fun _ h hg => h.modifyPort fun x => (hg x).1) fun _ h hg => h.modifyNode fun x => (hg x).1
  hash {f f' p rc} h _ hok := by
    obtain ⟨dup, -, rfl⟩ := addToPortguidHash_ok hok
    cases dup with
    | true => exact h.congr rfl rfl fun _ => rfl
    | false =>
        have hpush : Linked (f.modifyPort p
            fun port => { port with htnext := f.portstbl (f.bucket p) }) := h.modifyPort fun _ => rfl
        exact hpush.congr rfl rfl fun _ => rfl
  lids _ h := h.congr rfl rfl fun _ => rfl
  link h hp hq := h.linkPorts (h.isPort hp) (h.isPort hq)
  create h _ := h.createNode _ _
  origin _ _ h := h.congr rfl rfl fun _ => rfl
  hops _ h := h.congr rfl rfl fun _ => rfl

end Scan

/-- Link symmetry: in every state of every scan a remote port points back, so no port is the
remote port of two. -/
theorem remoteport_symmetric {args : DiscoverArgs} {st : ScanState} (h : Reached args.start st) :
    (∀ p q, st.scan.fabric.remoteport p = some q → st.scan.fabric.remoteport q = some p) ∧
    ∀ p q r, st.scan.fabric.remoteport p = some r → st.scan.fabric.remoteport q = some r →
      p = q := by
  have hlinked := ((Scan.linked_stable.invariant Scan.linked_withPortGuid).reached
    Fabric.linked_init (fun _ _ => trivial) h).1
  exact ⟨hlinked.symmetric, fun p q r hp hq => hlinked.symmetric.inj hp hq⟩

/-- Two adapters cabled together, scanned from the first one. -/
theorem remoteport_symmetric_pair :
    let args : DiscoverArgs := ⟨⟨0, .empty⟩, ⟨0, 0, 0, 0, 0, 0⟩, 0, ⟨0, 5⟩, fun _ => 0⟩
    let replies : List Recv := [⟨0, 0, responseMad 6 0 (nodeInfoData 1 1 ibNodeCa 1 1)⟩,
      ⟨0, 0, responseMad 8 1 (portInfoData 1 ibPortPhysStateLinkup 3)⟩,
      ⟨0, 0, responseMad 9 0 (nodeInfoData 2 2 ibNodeCa 1 1)⟩]
    ∃ st, args.runTo replies = some st ∧ st.scan.fabric.remoteport 0 = some 1 ∧
      (∀ p q, st.scan.fabric.remoteport p = some q → st.scan.fabric.remoteport q = some p) ∧
      ∀ p q r, st.scan.fabric.remoteport p = some r → st.scan.fabric.remoteport q = some r →
        p = q := by
  intro args replies
  have hrun : (args.runTo replies).map (fun st => st.scan.fabric.remoteport 0) = some (some 1) := by
    decide +kernel
  obtain ⟨st, hst, hlink⟩ := Option.map_eq_some_iff.mp hrun
  exact ⟨st, hst, hlink, remoteport_symmetric (reached_of_runTo hst)⟩

end InfinibandDiags
