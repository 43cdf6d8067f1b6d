import InfinibandDiags.Discover.NodeTable
import InfinibandDiags.Discover.PortTable
import InfinibandDiags.Fabric.LidMap

/-! What a reply leaves alone: at most one port is new or says something else than before. -/
namespace InfinibandDiags
open Engine

/-- The fields of a node that a cache file has one byte for. -/
def Node.FitsBytes (x : Node) : Prop := x.type < 256 ∧ x.smaenhsp0 < 256

/-- The fields of a port by which it is found. -/
def Port.SameEntry (x y : Port) : Prop := x.guid = y.guid ∧ x.baseLid = y.baseLid ∧ x.lmc = y.lmc

namespace Fabric
variable {f f' : Fabric} {p q : PortRef} {n : NodeRef} {k : Nat}

/-- Updates that concern port `p` alone. -/
structure Touched (f f' : Fabric) (p : PortRef) : Prop extends SameNodes f f' where
  info : ∀ m, (f'.node m).info = (f.node m).info
  kept : ∀ {m k x}, (f.node m).ports k = some x → (f'.node m).ports k = some x
  slots : ∀ {m k x}, (f'.node m).ports k = some x → x ≠ p → (f.node m).ports k = some x
  portCount : f.portCount ≤ f'.portCount
  port : ∀ x < f.portCount, x ≠ p → (f'.port x).SameEntry (f.port x)
  bytes : ∀ m, (f.node m).FitsBytes → (f'.node m).FitsBytes

theorem Touched.trans {f₁ f₂ f₃ : Fabric} (h₁ : Touched f₁ f₂ p) (h₂ : Touched f₂ f₃ p) :
    Touched f₁ f₃ p where
  toSameNodes := h₁.toSameNodes.trans h₂.toSameNodes
  info m := (h₂.info m).trans (h₁.info m)
  kept h := h₂.kept (h₁.kept h)
  slots h hx := h₁.slots (h₂.slots h hx) hx
  portCount := h₁.portCount.trans h₂.portCount
  port x hx hne := by
    obtain ⟨hguid, hlid, hlmc⟩ := h₂.port x (Nat.lt_of_lt_of_le hx h₁.portCount) hne
    obtain ⟨hguid', hlid', hlmc'⟩ := h₁.port x hx hne
    exact ⟨hguid.trans hguid', hlid.trans hlid', hlmc.trans hlmc'⟩
  bytes m h := h₂.bytes m (h₁.bytes m h)

/-- Updates that leave the nodes as they are. -/
theorem Touched.of_node (hnode : f'.node = f.node)
    (hcounts : f'.nodes = f.nodes ∧ f'.nodeCount = f.nodeCount ∧ f'.nodestbl = f.nodestbl)
    (hports : f'.portCount = f.portCount)
    (hport : ∀ x, x ≠ p → (f'.port x).SameEntry (f.port x)) : Touched f f' p where
  toSameNodes := .of_node hnode hcounts.1 hcounts.2.1 hcounts.2.2
  info m := by rw [hnode]
  kept h := by rwa [hnode]
  slots h _ := by rwa [hnode] at h
  portCount := Nat.le_of_eq hports.symm
  port x _ hx := hport x hx
  bytes m h := by rwa [hnode]

theorem Touched.refl (f : Fabric) (p : PortRef) : Touched f f p :=
  .of_node rfl ⟨rfl, rfl, rfl⟩ rfl fun _ _ => ⟨rfl, rfl, rfl⟩

theorem touched_modifyPort (f : Fabric) (p : PortRef) (g : Port → Port) :
    Touched f (f.modifyPort p g) p := by
  refine .of_node rfl ⟨rfl, rfl, rfl⟩ rfl fun x hx => ?_
  simp [modifyPort, hx, Port.SameEntry]

/-- Links and extended PortInfo are no part of an entry. -/
theorem sameEntry_modifyPort (f : Fabric) (q x : PortRef) {g : Port → Port}
    (hg : ∀ y, (g y).SameEntry y) : ((f.modifyPort q g).port x).SameEntry (f.port x) := by
  by_cases hx : x = q
  · subst hx
    simpa [modifyPort] using hg (f.port x)
  · simp [modifyPort, hx, Port.SameEntry]

theorem sameEntry_linkPorts (f : Fabric) (p q x : PortRef) :
    ((f.linkPorts p q).port x).SameEntry (f.port x) := by
  have hset : ∀ (f : Fabric) r v,
      ((f.modifyPort r fun port => { port with remoteport := v }).port x).SameEntry (f.port x) :=
    fun f r v => sameEntry_modifyPort f r x fun _ => ⟨rfl, rfl, rfl⟩
  have hrelease : ∀ (f : Fabric) r, ((f.release r).port x).SameEntry (f.port x) := by
    intro f r
    unfold release
    split
    · exact hset f _ none
    · exact ⟨rfl, rfl, rfl⟩
  have htrans : ∀ {a b c : Port}, a.SameEntry b → b.SameEntry c → a.SameEntry c :=
    fun h h' => ⟨h.1.trans h'.1, h.2.1.trans h'.2.1, h.2.2.trans h'.2.2⟩
  exact htrans (hset _ q _) (htrans (hset _ p _) (htrans (hrelease _ q) (hrelease f p)))

theorem touched_linkPorts (f : Fabric) (p q x : PortRef) : Touched f (f.linkPorts p q) x := by
  obtain ⟨hnode, hcount⟩ := node_linkPorts f p q
  have hs := sameNodes_linkPorts f p q
  exact .of_node hnode ⟨hs.nodes, hs.nodeCount, hs.nodestbl⟩ hcount
    fun y _ => sameEntry_linkPorts f p q y

theorem touched_modifyNode (f : Fabric) (n : NodeRef) (p : PortRef) {g : Node → Node}
    (hg : ∀ x, (g x).SameShape x) (hbytes : ∀ x, x.FitsBytes → (g x).FitsBytes) :
    Touched f (f.modifyNode n g) p := by
  have hnode : ∀ m, ((f.modifyNode n g).node m).SameShape (f.node m) := by
    intro m
    by_cases hm : m = n
    · subst hm
      simpa [modifyNode] using hg (f.node m)
    · simp [modifyNode, hm, Node.SameShape]
  refine ⟨sameNodes_modifyNode f n hg, fun m => (hnode m).2.2.2.2.1, fun {m k x} hx => ?_,
    fun {m k x} hx _ => ?_, Nat.le_refl _, fun _ _ _ => ⟨rfl, rfl, rfl⟩, fun m hm => ?_⟩
  · rwa [(hnode m).1]
  · rwa [(hnode m).1] at hx
  · by_cases hmn : m = n
    · subst hmn
      simpa [modifyNode] using hbytes _ hm
    · simpa [modifyNode, hmn] using hm

theorem touched_newPort {port : Port} (hnone : (f.node n).ports k = none) :
    Touched f (f.newPort n k port) f.portCount := by
  refine ⟨sameNodes_newPort f n k port, fun m => ?_, fun {m j x} hx => ?_, fun {m j x} hx hne => ?_,
    Nat.le_succ _, fun x _ hne => ?_, fun m hm => ?_⟩
  · by_cases hm : m = n <;> simp [newPort, hm]
  · rw [ports_newPort, if_neg]
    · exact hx
    · rintro ⟨rfl, rfl⟩
      rw [hnone] at hx
      cases hx
  · rw [ports_newPort] at hx
    split at hx
    · exact absurd (Option.some.inj hx).symm hne
    · exact hx
  · rw [port_newPort, if_neg hne]
    exact ⟨rfl, rfl, rfl⟩
  · by_cases hmn : m = n
    · subst hmn
      simpa [newPort, Node.FitsBytes] using hm
    · simpa [newPort, hmn] using hm

theorem touched_ensurePort {shell : Port} (h : Scan.ensurePort f n k shell = .ok (p, f')) :
    Touched f f' p := by
  obtain ⟨-, ⟨-, rfl⟩ | ⟨hnone, rfl, rfl⟩⟩ := Scan.ensurePort_ok h
  · exact .refl f' p
  · exact touched_newPort hnone

/-- The port enters the table, and that is all. -/
theorem touched_addToPortguidHash {rc : Int} (h : f.addToPortguidHash p = .ok (rc, f')) :
    Touched f f' p ∧ f'.hashed = p :: f.hashed ∧ ∀ x, (f'.port x).SameEntry (f.port x) := by
  obtain ⟨dup, -, rfl⟩ := addToPortguidHash_ok h
  cases dup with
  | true =>
      exact ⟨.of_node rfl ⟨rfl, rfl, rfl⟩ rfl fun _ _ => ⟨rfl, rfl, rfl⟩, rfl,
        fun _ => ⟨rfl, rfl, rfl⟩⟩
  | false =>
      have hsame : ∀ x, ((f.modifyPort p
          fun port => { port with htnext := f.portstbl (f.bucket p) }).port x).SameEntry (f.port x) :=
        fun x => sameEntry_modifyPort f p x fun _ => ⟨rfl, rfl, rfl⟩
      exact ⟨.of_node rfl ⟨rfl, rfl, rfl⟩ rfl fun x _ => hsame x, rfl, hsame⟩

theorem touched_storePortInfo (f : Fabric) (n : NodeRef) (p : PortRef) (k : Nat) (info : SmpData) :
    Touched f (Scan.storePortInfo f n p k info) p ∧
      (Scan.storePortInfo f n p k info).hashed = f.hashed ∧
      ((Scan.storePortInfo f n p k info).port p).guid = (f.port p).guid := by
  set g : Port → Port := fun port => { port with
    info, node := n, portnum := k, baseLid := UInt16.ofNat (info.field .portLid)
    lmc := UInt8.ofNat (info.field .portLmc) }
  have hself : ∀ (f : Fabric) (g : Port → Port), (f.modifyPort p g).port p = g (f.port p) :=
    fun f g => by simp [modifyPort]
  have hguid : ((f.modifyPort p g).port p).guid = (f.port p).guid := by rw [hself]
  have hfill := touched_modifyPort f p g
  unfold Scan.storePortInfo
  dsimp only
  split
  · refine ⟨hfill.trans (touched_modifyNode _ n p ?_ fun _ hx => hx), rfl, hguid⟩
    exact fun _ => ⟨rfl, rfl, rfl, rfl, rfl, rfl⟩
  · split
    · refine ⟨hfill.trans (touched_modifyPort _ p _), rfl, ?_⟩
      rw [hself]
      exact hguid
    · exact ⟨hfill, rfl, hguid⟩

end Fabric

namespace Scan
open Fabric
variable {scan : Scan} {smp : ScanSmp} {mad : Bytes} {n : NodeRef} {p : PortRef} {out : Outcome}
  {f : Fabric}

/-- What a PortInfo reply enters. A port that was there keeps its GUID, a new one has the port
GUID of the NodeInfo of its node. -/
structure PortEntered (f f' : Fabric) (n : NodeRef) (p : PortRef) (k : Nat) : Prop where
  touched : Touched f f' p
  hashed : f'.hashed = p :: f.hashed
  slot : (f'.node n).ports k = some p
  inArray : k ≤ (f.node n).numports
  lids : LidsEnd (f'.port p).baseLid (f'.port p).lmc
  guid : ((f.node n).ports k = some p ∧ (f'.port p).guid = (f.port p).guid) ∨
    ((f.node n).ports k = none ∧ (f'.port p).guid = (f.node n).info.field64 .nodePortGuid)

theorem portEntered (h : PortStored scan mad n p f) :
    PortEntered scan.fabric f n p (attrModPort mad) := by
  obtain ⟨f₁, rc, f₂, hensure, hhash, hlid⟩ := h.steps
  obtain ⟨hstored, hsame, hguid⟩ :=
    touched_storePortInfo f₁ n p (attrModPort mad) (smpData mad)
  obtain ⟨htable, hhashed, hentry⟩ := touched_addToPortguidHash hhash
  have hend : LidsEnd (f₂.port p).baseLid (f₂.port p).lmc :=
    (addToPortlidHash_ok_iff f₂ p).mp ⟨f, hlid⟩
  obtain ⟨m, rfl⟩ := addToPortlidHash_ok hlid
  have hlids : Touched f₂ { f₂ with lid2guid := m } p :=
    .of_node rfl ⟨rfl, rfl, rfl⟩ rfl fun _ _ => ⟨rfl, rfl, rfl⟩
  have hensured := touched_ensurePort hensure
  have hrest := hstored.trans (htable.trans hlids)
  have hfirst : f₁.hashed = scan.fabric.hashed := by
    obtain ⟨-, ⟨-, rfl⟩ | ⟨-, -, rfl⟩⟩ := ensurePort_ok hensure <;> rfl
  refine ⟨hensured.trans hrest, ?_, hrest.kept (ensurePort_slot hensure),
    (ensurePort_ok hensure).1, hend, ?_⟩
  · change f₂.hashed = _
    rw [hhashed, hsame, hfirst]
  · have hlast : (f₂.port p).guid = (f₁.port p).guid := (hentry p).1.trans hguid
    obtain ⟨-, ⟨hslot, rfl⟩ | ⟨hnone, rfl, rfl⟩⟩ := ensurePort_ok hensure
    · exact .inl ⟨hslot, hlast⟩
    · refine .inr ⟨hnone, hlast.trans ?_⟩
      rw [port_newPort, if_pos rfl]

/-- What a NodeInfo reply enters, once its node is there: the port that the reply came through,
with the GUID reported. It is not in the table yet. -/
structure NodeEntered (f f' : Fabric) (n : NodeRef) (p : PortRef) (k : Nat) (guid : UInt64) :
    Prop where
  touched : Touched f f' p
  hashed : f'.hashed = f.hashed
  slot : (f'.node n).ports k = some p
  inArray : k ≤ (f.node n).numports
  lids : ∀ x < f.portCount, (f'.port x).baseLid = (f.port x).baseLid ∧
    (f'.port x).lmc = (f.port x).lmc
  guid : (f'.port p).guid = guid

theorem NodeEntered.then {f f₁ f₂ : Fabric} {k : Nat} {guid : UInt64}
    (h : NodeEntered f f₁ n p k guid) (ht : Touched f₁ f₂ p) (hhashed : f₂.hashed = f₁.hashed)
    (hport : ∀ x, (f₂.port x).SameEntry (f₁.port x)) : NodeEntered f f₂ n p k guid where
  touched := h.touched.trans ht
  hashed := hhashed.trans h.hashed
  slot := ht.kept h.slot
  inArray := h.inArray
  lids x hx := ⟨(hport x).2.1.trans (h.lids x hx).1, (hport x).2.2.trans (h.lids x hx).2⟩
  guid := (hport p).1.trans h.guid

theorem NodeEntered.finish {f f₁ : Fabric} {k : Nat} {guid : UInt64}
    (h : NodeEntered f f₁ n p k guid) (scan : Scan) (path : PortId) (m : NodeRef) (isNew : Bool)
    (j : Nat) : NodeEntered f (scan.finishNodeInfo path m isNew j f₁).scan.fabric n p k guid := by
  unfold finishNodeInfo
  dsimp only
  split
  · refine h.then (touched_modifyNode f₁ m p ?_ ?_) rfl fun _ => ⟨rfl, rfl, rfl⟩
    · exact fun _ => ⟨rfl, rfl, rfl, rfl, rfl, rfl⟩
    · exact fun x hx => ⟨hx.1, Nat.zero_lt_succ 255⟩
  · exact h

theorem nodeEntered {info : SmpData} {path : PortId}
    (h : scan.nodeInfoPort path info = .ok (p, f)) :
    NodeEntered (findOrCreateNode scan.fabric path info).2.2
      (withPortGuid f p (info.field64 .nodePortGuid))
      (findOrCreateNode scan.fabric path info).1 p (info.field .nodeLocalPort)
      (info.field64 .nodePortGuid) := by
  unfold nodeInfoPort at h
  generalize findOrCreateNode scan.fabric path info = found at h ⊢
  dsimp only at h
  have hset := touched_modifyPort f p fun port => { port with guid := info.field64 .nodePortGuid }
  have hensured := touched_ensurePort h
  refine ⟨hensured.trans hset, ?_, hset.kept (ensurePort_slot h), (ensurePort_ok h).1,
    fun x hx => ?_, ?_⟩
  · obtain ⟨-, ⟨-, rfl⟩ | ⟨-, -, rfl⟩⟩ := ensurePort_ok h <;> rfl
  · have hsame : (f.port x).baseLid = (found.2.2.port x).baseLid ∧
        (f.port x).lmc = (found.2.2.port x).lmc := by
      obtain ⟨-, ⟨-, rfl⟩ | ⟨-, rfl, rfl⟩⟩ := ensurePort_ok h
      · exact ⟨rfl, rfl⟩
      · rw [port_newPort, if_neg (Nat.ne_of_lt hx)]
        exact ⟨rfl, rfl⟩
    by_cases hxp : x = p
    · subst hxp
      simpa [withPortGuid, modifyPort] using hsame
    · simpa [withPortGuid, modifyPort, hxp] using hsame
  · simp [withPortGuid, modifyPort]

theorem recvNodeInfo_entered {cbdata : Option (NodeRef × Nat)}
    (h : scan.recvNodeInfo smp mad cbdata = .ok out) :
    let info := smpData mad
    let found := findOrCreateNode scan.fabric smp.path info
    ∃ p, NodeEntered found.2.2 out.scan.fabric found.1 p (info.field .nodeLocalPort)
        (info.field64 .nodePortGuid) ∧
      (out.requests = nodeQueries smp.path found.1 found.2.1 (found.2.2.node found.1).type
          (info.field .nodeLocalPort) ∨
        ∃ m j, cbdata = some (m, j) ∧ (out.scan.fabric.node m).ports j = none) := by
  obtain ⟨p, f, hport, hcase⟩ := recvNodeInfo_ok h
  have hentered := nodeEntered hport
  dsimp only
  generalize findOrCreateNode scan.fabric smp.path (smpData mad) = found at hentered hcase ⊢
  have hfinish : ∀ f₁, NodeEntered found.2.2 f₁ found.1 p ((smpData mad).field .nodeLocalPort)
      ((smpData mad).field64 .nodePortGuid) →
        (scan.finishNodeInfo smp.path found.1 found.2.1 ((smpData mad).field .nodeLocalPort)
          f₁).requests = nodeQueries smp.path found.1 found.2.1 (found.2.2.node found.1).type
            ((smpData mad).field .nodeLocalPort) := by
    intro f₁ hf₁
    rw [← hf₁.touched.type found.1]
    rfl
  refine ⟨p, ?_⟩
  rcases hcase with ⟨-, rfl⟩ | ⟨m, j, hrem, ⟨hnone, rfl⟩ | ⟨q, -, rfl⟩⟩
  · have horigin : NodeEntered found.2.2 { withPortGuid f p ((smpData mad).field64 .nodePortGuid)
        with fromNode := some found.1, fromPortnum := (smpData mad).field .nodeLocalPort }
        found.1 p ((smpData mad).field .nodeLocalPort) ((smpData mad).field64 .nodePortGuid) :=
      hentered.then (.of_node rfl ⟨rfl, rfl, rfl⟩ rfl fun _ _ => ⟨rfl, rfl, rfl⟩) rfl
        fun _ => ⟨rfl, rfl, rfl⟩
    exact ⟨horigin.finish scan _ _ _ _, .inl (hfinish _ horigin)⟩
  · exact ⟨hentered, .inr ⟨m, j, hrem, (slot_eq_ok.mp hnone).2⟩⟩
  · have hlinked := hentered.then (touched_linkPorts _ p q p) (sameTable_linkPorts _ p q).hashed
      (sameEntry_linkPorts _ p q)
    exact ⟨hlinked.finish scan _ _ _ _, .inl (hfinish _ hlinked)⟩

end Scan
end InfinibandDiags
