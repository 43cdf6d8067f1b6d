import InfinibandDiags.Library.Ascent
import InfinibandDiags.Trace.McPath

/-! The tree of the nodes that the multicast search has put down: how packets of the group get to
each of them, and what a new node changes. -/
namespace InfinibandDiags
namespace Ibtracert
variable {V : Type}

/-- A node sends the packets of a group on through a port: a switch by its table, though not back,
and an adapter only if they start at it. -/
def Spreads (S : McSubnet V) (m : Nat) (node : McNode) (a : V × Nat) (i : Nat) : Prop :=
  if S.IsSwitch a.1 then S.forwards a.1 m i = true ∧ (node.upnode ≠ none → i ≠ a.2)
  else node.upnode = none ∧ i = a.2

/-- The nodes of a search by `upnode`, each with the port that the packets come in by; those of the
source are sent at `src`. -/
def groupLinks (S : McSubnet V) (m : Nat) (src : V × Nat) : Links McNode (V × Nat) where
  up := McNode.upnode
  root node a := node.nodeguid = S.guid a.1 ∧ a = src
  edge u a node b :=
    node.nodeguid = S.guid b.1 ∧ ∃ i, S.peer (a.1, i) = some b ∧ Spreads S m u a i

/-- The way from the source to a node that a search has found. No node is on it twice, but that the
target can be another port of the adapter that it starts at. -/
structure FoundAt (S : McSubnet V) (m : Nat) (src : V × Nat) (target : UInt64)
    (nodes : List McNode) (t : McNode) (refs : List NodeRef) (b : V × Nat) : Prop where
  way : (groupLinks S m src).Ascent nodes refs t b
  nodup : refs.Nodup
  guids : ∀ r ∈ refs, ∀ r' ∈ refs, ∀ u u', nodes[r]? = some u → nodes[r']? = some u' →
    u.nodeguid = u'.nodeguid → r = r'
  again : ∀ r ∈ refs, ∀ u, nodes[r]? = some u → u.nodeguid = t.nodeguid →
    u.upnode = none ∧ ¬ S.IsSwitch b.1
  portguid : t.ports.map (fun port => port.portguid) = some target
  target : S.portGuid b = target

/-- What a record says that the search has put down for a port. -/
structure Known (S : McSubnet V) (fromId : PortId) (target : UInt64) (leafport : Nat)
    (node : McNode) (a : V × Nat) : Prop where
  nodeguid : node.nodeguid = S.guid a.1
  type : node.type = S.type a.1
  numports : node.numports = S.numports a.1
  other : S.portGuid a ≠ target
  leads : node.dist ≠ 0 → Leads S.toSubnet fromId node.path a.1
  /-- Behind an adapter, the port is the last hop of its path, and not the one it came by. -/
  entered : node.dist ≠ 0 → if node.dist = 1 ∧ leafport ≠ 0 then a.2 = leafport else node.upport = a.2

/-- The records at any time of the search, and the table and the lists that name them. -/
structure SearchTree (S : McSubnet V) (m : Nat) (src : V × Nat) (fromId : PortId) (target : UInt64)
    (leafport : Nat) (mc : Statics) : Prop where
  known : ∀ (r : NodeRef) node, mc.nodes[r]? = some node →
    ∃ refs a, (groupLinks S m src).Ascent mc.nodes refs node a ∧
      Known S fromId target leafport node a
  earlier : (groupLinks S m src).Earlier mc.nodes
  guids : (mc.nodes.map fun node => node.nodeguid).Nodup
  tabled : ∀ (r : NodeRef) node, mc.nodes[r]? = some node → r ∈ mc.nodestbl (hashguid node.nodeguid)
  levels : ∀ dist r, r ∈ mc.nodesdist dist → ∃ node, mc.nodes[r]? = some node ∧ node.dist = dist
  source : ∃ (r : NodeRef) (node : McNode), mc.nodes[r]? = some node ∧ node.nodeguid = S.guid src.1

variable {S : McSubnet V} {m : Nat} {src : V × Nat} {fromId : PortId} {target : UInt64}
  {leafport : Nat} {mc : Statics} {refs : List NodeRef} {r : NodeRef} {node t : McNode} {a b : V × Nat}

/-- A way ends at the node that the record is about. -/
theorem way_guid (h : (groupLinks S m src).Ascent mc.nodes refs node a) :
    node.nodeguid = S.guid a.1 := by
  cases h with
  | root _ hroot => exact hroot.1
  | link _ _ _ hedge => exact hedge.1

/-- Two records of one node, as far as the tree and its levels go. -/
structure SameNode (node node' : McNode) : Prop where
  nodeguid : node'.nodeguid = node.nodeguid
  upnode : node'.upnode = node.upnode
  type : node'.type = node.type
  numports : node'.numports = node.numports
  dist : node'.dist = node.dist

theorem SameNode.refl (node : McNode) : SameNode node node := ⟨rfl, rfl, rfl, rfl, rfl⟩

theorem SameNode.alike {node' : McNode} (h : SameNode node node') :
    (groupLinks S m src).Alike node node' where
  up := h.upnode
  root a hroot := ⟨h.nodeguid.trans hroot.1, hroot.2⟩
  edge a y b hedge := by
    obtain ⟨hy, i, hpeer, hspreads⟩ := hedge
    refine ⟨hy, i, hpeer, ?_⟩
    unfold Spreads at hspreads ⊢
    rwa [h.upnode]
  enters y a b hedge := ⟨h.nodeguid.trans hedge.1, hedge.2⟩

namespace Statics

theorem nodes_modifyNode (mc : Statics) (r s : NodeRef) (g : McNode → McNode) :
    (mc.modifyNode r g).nodes[s]? = (mc.nodes[s]?).map fun node => if r = s then g node else node := by
  simp only [modifyNode, List.getElem?_modify]
  split <;> simp

theorem isKnown_iff {guid : UInt64} : mc.isKnown guid = true ↔
    ∃ r ∈ mc.nodestbl (hashguid guid), ∃ node, mc.nodes[r]? = some node ∧ node.nodeguid = guid := by
  simp only [isKnown, hasGuid, List.any_eq_true, Option.any_eq_true, decide_eq_true_eq]

end Statics

section Changes
variable {g : McNode → McNode}
  (hsame : ∀ node, mc.nodes[r]? = some node → SameNode node (g node))
include hsame

/-- Records after a change are still those of the same nodes. -/
theorem sameNode_modifyNode {s : NodeRef} (hs : mc.nodes[s]? = some node) :
    ∃ node', (mc.modifyNode r g).nodes[s]? = some node' ∧ SameNode node node' := by
  refine ⟨if r = s then g node else node, by rw [Statics.nodes_modifyNode, hs]; rfl, ?_⟩
  split
  · next hrs => exact hsame node (hrs ▸ hs)
  · exact .refl node

theorem sameNode_of_modifyNode {s : NodeRef} {node' : McNode}
    (hs : (mc.modifyNode r g).nodes[s]? = some node') :
    ∃ node, mc.nodes[s]? = some node ∧ SameNode node node' := by
  have hs' := hs
  rw [Statics.nodes_modifyNode] at hs'
  obtain ⟨node, hnode, -⟩ := Option.map_eq_some_iff.mp hs'
  obtain ⟨node'', hget, hnode'⟩ := sameNode_modifyNode hsame hnode
  rw [hs] at hget
  cases hget
  exact ⟨node, hnode, hnode'⟩

/-- Ways stay when a record is changed beside its links. -/
theorem way_modifyNode {node' : McNode} (h : (groupLinks S m src).Ascent mc.nodes refs node a)
    (hnode : SameNode node node') :
    (groupLinks S m src).Ascent (mc.modifyNode r g).nodes refs node' a := by
  refine h.mono (fun s y hy => ?_) hnode.alike
  obtain ⟨y', hget, hy'⟩ := sameNode_modifyNode hsame hy
  exact ⟨y', hget, hy'.alike⟩

theorem FoundAt.modifyNode (h : FoundAt S m src target mc.nodes t refs b) :
    FoundAt S m src target (mc.modifyNode r g).nodes t refs b := by
  refine ⟨way_modifyNode hsame h.way (.refl t), h.nodup, ?_, ?_, h.portguid, h.target⟩
  · intro s hs s' hs' u u' hu hu' heq
    obtain ⟨u₀, hu₀, hsu⟩ := sameNode_of_modifyNode hsame hu
    obtain ⟨u₀', hu₀', hsu'⟩ := sameNode_of_modifyNode hsame hu'
    exact h.guids s hs s' hs' u₀ u₀' hu₀ hu₀'
      (hsu.nodeguid.symm.trans (heq.trans hsu'.nodeguid))
  · intro s hs u hu heq
    obtain ⟨u₀, hu₀, hsu⟩ := sameNode_of_modifyNode hsame hu
    obtain ⟨hroot, hend⟩ := h.again s hs u₀ hu₀ (hsu.nodeguid.symm.trans heq)
    exact ⟨hsu.upnode.trans hroot, hend⟩

end Changes

namespace SearchTree

theorem isKnown_iff (h : SearchTree S m src fromId target leafport mc) {guid : UInt64} :
    mc.isKnown guid = true ↔ ∃ (r : NodeRef) (node : McNode), mc.nodes[r]? = some node ∧ node.nodeguid = guid := by
  rw [Statics.isKnown_iff]
  constructor
  · rintro ⟨r, -, node, hget, hguid⟩
    exact ⟨r, node, hget, hguid⟩
  · rintro ⟨r, node, hget, rfl⟩
    exact ⟨r, h.tabled r node hget, node, hget, rfl⟩

/-- No two records are of one node. -/
theorem guid_unique (h : SearchTree S m src fromId target leafport mc) {r' : NodeRef} {node' : McNode}
    (hr : mc.nodes[r]? = some node) (hr' : mc.nodes[r']? = some node')
    (hguid : node.nodeguid = node'.nodeguid) : r = r' := by
  obtain ⟨hlt, -⟩ := List.getElem?_eq_some_iff.mp hr
  refine (List.getElem?_inj (by rwa [List.length_map]) h.guids).mp ?_
  rw [List.getElem?_map, List.getElem?_map, hr, hr', Option.map_some, Option.map_some, hguid]

/-- The tree stays when what its record says of a node does. -/
theorem modifyNode (h : SearchTree S m src fromId target leafport mc) {g : McNode → McNode}
    (hsame : ∀ node, mc.nodes[r]? = some node → SameNode node (g node))
    (hknown : ∀ node a, mc.nodes[r]? = some node → Known S fromId target leafport node a →
      Known S fromId target leafport (g node) a) :
    SearchTree S m src fromId target leafport (mc.modifyNode r g) where
  known s node' hs := by
    rw [Statics.nodes_modifyNode] at hs
    obtain ⟨node, hnode, rfl⟩ := Option.map_eq_some_iff.mp hs
    obtain ⟨refs, a, hway, hknows⟩ := h.known s node hnode
    refine ⟨refs, a, way_modifyNode hsame hway ?_, ?_⟩
    · split
      · next hrs => exact hsame node (hrs ▸ hnode)
      · exact .refl node
    · split
      · next hrs => exact hknown node a (hrs ▸ hnode) hknows
      · exact hknows
  earlier s node' hs p hp := by
    obtain ⟨node, hnode, hsn⟩ := sameNode_of_modifyNode hsame hs
    exact h.earlier s node hnode p (hsn.upnode.symm.trans hp)
  guids := by
    have hguids : (mc.modifyNode r g).nodes.map (fun node => node.nodeguid) =
        mc.nodes.map fun node => node.nodeguid := by
      apply List.ext_getElem?
      intro s
      rw [List.getElem?_map, List.getElem?_map]
      cases hnode : mc.nodes[s]? with
      | none => rw [Statics.nodes_modifyNode, hnode]; rfl
      | some node =>
          obtain ⟨node', hget, hsn⟩ := sameNode_modifyNode hsame hnode
          rw [hget, Option.map_some, Option.map_some, hsn.nodeguid]
    rw [hguids]
    exact h.guids
  tabled s node' hs := by
    obtain ⟨node, hnode, hsn⟩ := sameNode_of_modifyNode hsame hs
    rw [hsn.nodeguid]
    exact h.tabled s node hnode
  levels dist s hs := by
    obtain ⟨node, hnode, hdist⟩ := h.levels dist s hs
    obtain ⟨node', hget, hsn⟩ := sameNode_modifyNode hsame hnode
    exact ⟨node', hget, hsn.dist.trans hdist⟩
  source := by
    obtain ⟨s, node, hnode, hguid⟩ := h.source
    obtain ⟨node', hget, hsn⟩ := sameNode_modifyNode hsame hnode
    exact ⟨s, node', hget, hsn.nodeguid.trans hguid⟩

/-- A node that the table does not have yet joins the tree at the next distance. -/
theorem insert (h : SearchTree S m src fromId target leafport mc) {dist : Nat}
    (hnew : mc.isKnown node.nodeguid = false) (hdist : node.dist = dist)
    (hway : (groupLinks S m src).Ascent mc.nodes refs node a)
    (hup : ∀ p, node.upnode = some p → p < mc.nodes.length)
    (hknows : Known S fromId target leafport node a) :
    SearchTree S m src fromId target leafport
      { nodes := mc.nodes ++ [node]
        nodestbl := setAt mc.nodestbl (hashguid node.nodeguid)
          (mc.nodes.length :: mc.nodestbl (hashguid node.nodeguid))
        nodesdist := setAt mc.nodesdist dist (mc.nodes.length :: mc.nodesdist dist) } := by
  have hold : ∀ (s : NodeRef) x, mc.nodes[s]? = some x → (mc.nodes ++ [node])[s]? = some x := by
    intro s x hs
    rw [List.getElem?_append_left (List.getElem?_eq_some_iff.mp hs).1, hs]
  have hlast : (mc.nodes ++ [node])[mc.nodes.length]? = some node := List.getElem?_concat_length
  have hsplit : ∀ (s : Nat) x, (mc.nodes ++ [node])[s]? = some x →
      mc.nodes[s]? = some x ∨ s = mc.nodes.length ∧ x = node := by
    intro s x hs
    by_cases hlt : s < mc.nodes.length
    · rw [List.getElem?_append_left hlt] at hs
      exact .inl hs
    · have hle : s < (mc.nodes ++ [node]).length := (List.getElem?_eq_some_iff.mp hs).1
      obtain rfl : s = mc.nodes.length := by
        rw [List.length_append, List.length_singleton] at hle
        omega
      exact .inr ⟨rfl, Option.some.inj (hs.symm.trans hlast)⟩
  have hgrow : ∀ {refs x b}, (groupLinks S m src).Ascent mc.nodes refs x b →
      (groupLinks S m src).Ascent (mc.nodes ++ [node]) refs x b := fun hx =>
    hx.mono (fun s y hy => ⟨y, hold s y hy, .refl y⟩) (.refl _)
  constructor
  case known =>
    intro s x hs
    rcases hsplit s x hs with hs | ⟨-, rfl⟩
    · obtain ⟨refs', b, hx, hknows'⟩ := h.known s x hs
      exact ⟨refs', b, hgrow hx, hknows'⟩
    · exact ⟨refs, a, hgrow hway, hknows⟩
  case earlier =>
    intro s x hs p hp
    rcases hsplit s x hs with hs | ⟨rfl, rfl⟩
    · exact h.earlier s x hs p hp
    · exact hup p hp
  case guids =>
    rw [List.map_append, List.map_singleton]
    refine h.guids.append (List.nodup_singleton _) ?_
    rw [List.disjoint_singleton]
    intro hmem
    obtain ⟨x, hx, hguid⟩ := List.mem_map.mp hmem
    obtain ⟨s, hs⟩ := List.mem_iff_getElem?.mp hx
    rw [h.isKnown_iff.mpr ⟨s, x, hs, hguid⟩] at hnew
    cases hnew
  case tabled =>
    intro s x hs
    simp only [setAt]
    rcases hsplit s x hs with hs | ⟨rfl, rfl⟩
    · have hin := h.tabled s x hs
      split
      · next heq =>
          rw [heq] at hin
          exact List.mem_cons_of_mem _ hin
      · exact hin
    · rw [if_pos rfl]
      exact List.mem_cons_self
  case levels =>
    intro d s hs
    simp only [setAt] at hs
    split at hs
    · next heq =>
        subst heq
        rcases List.mem_cons.mp hs with rfl | hs
        · exact ⟨node, hlast, hdist⟩
        · obtain ⟨x, hx, hd⟩ := h.levels _ s hs
          exact ⟨x, hold s x hx, hd⟩
    · obtain ⟨x, hx, hd⟩ := h.levels d s hs
      exact ⟨x, hold s x hx, hd⟩
  case source =>
    obtain ⟨s, x, hs, hguid⟩ := h.source
    exact ⟨s, x, hold s x hs, hguid⟩

/-- The way to a node with the GUID that is looked for passes no node twice. -/
theorem found (h : SearchTree S m src fromId target leafport mc)
    (hway : (groupLinks S m src).Ascent mc.nodes refs t b)
    (hup : ∀ p, t.upnode = some p → p < mc.nodes.length)
    (hport : t.ports.map (fun port => port.portguid) = some target)
    (htarget : S.portGuid b = target) : FoundAt S m src target mc.nodes t refs b where
  way := hway
  nodup := hway.nodup h.earlier hup
  guids _ _ _ _ _ _ hu hu' := h.guid_unique hu hu'
  again := by
    intro r hr u hu hguid
    obtain ⟨y, c, refs', z, d, hy, hc, -, i, -, hspreads⟩ := hway.mem hr
    obtain rfl : y = u := Option.some.inj (hy.symm.trans hu)
    have hcb : c.1 = b.1 :=
      S.guid_injective ((way_guid hc).symm.trans (hguid.trans (way_guid hway)))
    have hend : ¬ S.IsSwitch b.1 := by
      intro hsw
      obtain ⟨_, e, he, hknows⟩ := h.known r y hu
      have heb : e.1 = b.1 :=
        S.guid_injective ((way_guid he).symm.trans (hguid.trans (way_guid hway)))
      exact hknows.other ((Subnet.portGuid_congr heb fun hne => absurd hsw hne).trans htarget)
    rw [Spreads, if_neg (hcb ▸ hend)] at hspreads
    exact ⟨hspreads.1, hend⟩
  portguid := hport
  target := htarget

end SearchTree

end Ibtracert
end InfinibandDiags
