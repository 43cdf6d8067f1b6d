import InfinibandDiags.Trace.McDepth

/-! The depth of the multicast search: the source paths from which every use of the lists by
distance is in range. -/
namespace InfinibandDiags
namespace Ibtracert

/-- A path has room for a first hop. -/
theorem one_lt_hops : 1 < 64 := by decide

/-- The static storage at any time of a search: a table of all records, and lists in which a path is
at least as long as its node is far. -/
structure Statics.Shelved (mc : Statics) : Prop where
  tabled : ∀ (r : NodeRef) node, mc.nodes[r]? = some node → r ∈ mc.nodestbl (hashguid node.nodeguid)
  guids : (mc.nodes.map fun node => node.nodeguid).Nodup
  nodup : ∀ dist, (mc.nodesdist dist).Nodup
  listed : ∀ {dist : Nat} {r : NodeRef}, r ∈ mc.nodesdist dist →
    ∃ node, mc.nodes[r]? = some node ∧ node.dist = dist ∧
      (node.upnode = none ∧ dist = 0 ∨
        ∃ up dist', node.upnode = some up ∧ up ∈ mc.nodesdist dist' ∧ dist = dist' + 1) ∧
      (0 < dist → dist ≤ node.path.cnt)

namespace Statics
variable {mc : Statics} {r : NodeRef} {dist : Nat} {node : McNode} {port : McPort} {path : McPath}

namespace Shelved

theorem isKnown_iff (h : mc.Shelved) {guid : UInt64} : mc.isKnown guid = true ↔
    ∃ (r : NodeRef) (node : McNode), mc.nodes[r]? = some node ∧ node.nodeguid = guid := by
  rw [Statics.isKnown_iff]
  constructor
  · rintro ⟨r, -, node, hget, hguid⟩
    exact ⟨r, node, hget, hguid⟩
  · rintro ⟨r, node, hget, rfl⟩
    exact ⟨r, h.tabled r node hget, node, hget, rfl⟩

theorem entered (h : mc.Shelved) : mc.Entered where
  nodup := h.nodup
  once := by
    intro dist dist' r r' node node' hr hr' hnode hnode' hguid
    have hsame : r = r' := by
      obtain ⟨hlt, -⟩ := List.getElem?_eq_some_iff.mp hnode
      refine (List.getElem?_inj (by rwa [List.length_map]) h.guids).mp ?_
      rw [List.getElem?_map, List.getElem?_map, hnode, hnode', Option.map_some, Option.map_some,
        hguid]
    subst hsame
    obtain ⟨x, hx, hdist, -⟩ := h.listed hr
    obtain ⟨x', hx', hdist', -⟩ := h.listed hr'
    rw [hx] at hx'
    cases hx'
    exact ⟨Int.ofNat_inj.mp (hdist.symm.trans hdist'), rfl⟩
  parent hr := by
    obtain ⟨node, hnode, hdist, hparent, -⟩ := h.listed hr
    exact ⟨node, hnode, hdist, hparent⟩

theorem lt_length (h : mc.Shelved) (hr : r ∈ mc.nodesdist dist) : r < mc.nodes.length := by
  obtain ⟨node, hnode, -⟩ := h.listed hr
  exact (List.getElem?_eq_some_iff.mp hnode).1

/-- A node that the table does not have yet is entered behind its parent. -/
theorem enter (h : mc.Shelved) (hnew : mc.isKnown node.nodeguid = false)
    (hparent : node.upnode = none ∧ dist = 0 ∨
      ∃ up dist', node.upnode = some up ∧ up ∈ mc.nodesdist dist' ∧ dist = dist' + 1)
    (hdeep : 0 < dist → dist ≤ path.cnt) : (mc.enter node port path dist).Shelved := by
  have hold : ∀ (s : NodeRef) x, mc.nodes[s]? = some x →
      (mc.enter node port path dist).nodes[s]? = some x := by
    intro s x hs
    rw [Statics.enter, List.getElem?_append_left (List.getElem?_eq_some_iff.mp hs).1, hs]
  have hlast : (mc.enter node port path dist).nodes[mc.nodes.length]? =
      some { node with ports := some port, dist, path } := List.getElem?_concat_length
  have hsplit : ∀ (s : Nat) x, (mc.enter node port path dist).nodes[s]? = some x →
      mc.nodes[s]? = some x ∨ s = mc.nodes.length := by
    intro s x hs
    by_cases hlt : s < mc.nodes.length
    · rw [Statics.enter, List.getElem?_append_left hlt] at hs
      exact .inl hs
    · have hle : s < (mc.nodes ++ [{ node with ports := some port, dist, path }]).length :=
        (List.getElem?_eq_some_iff.mp hs).1
      rw [List.length_append, List.length_singleton] at hle
      exact .inr (by omega)
  have hstay : ∀ {s : NodeRef} {d : Nat}, s ∈ mc.nodesdist d →
      s ∈ (mc.enter node port path dist).nodesdist d := by
    intro s d hs
    simp only [Statics.enter, setAt]
    split
    · next heq => exact List.mem_cons_of_mem _ (heq ▸ hs)
    · exact hs
  constructor
  case tabled =>
    intro s x hs
    rcases hsplit s x hs with hs | rfl
    · have hin := h.tabled s x hs
      simp only [Statics.enter, setAt]
      split
      · next heq =>
          rw [heq] at hin
          exact List.mem_cons_of_mem _ hin
      · exact hin
    · rw [hlast] at hs
      cases hs
      simp only [Statics.enter, setAt, if_pos]
      exact List.mem_cons_self
  case guids =>
    rw [Statics.enter, List.map_append, List.map_singleton]
    refine h.guids.append (List.nodup_singleton _) ?_
    rw [List.disjoint_singleton]
    intro hmem
    obtain ⟨x, hx, hguid⟩ := List.mem_map.mp hmem
    obtain ⟨s, hs⟩ := List.mem_iff_getElem?.mp hx
    rw [h.isKnown_iff.mpr ⟨s, x, hs, hguid⟩] at hnew
    cases hnew
  case nodup =>
    intro d
    simp only [Statics.enter, setAt]
    split
    · refine List.nodup_cons.mpr ⟨fun hmem => ?_, h.nodup dist⟩
      exact absurd (h.lt_length hmem) (Nat.lt_irrefl _)
    · exact h.nodup d
  case listed =>
    intro d s hs
    have hcase : s = mc.nodes.length ∧ d = dist ∨ s ∈ mc.nodesdist d := by
      simp only [Statics.enter, setAt] at hs
      split at hs
      · next heq => exact (List.mem_cons.mp hs).imp (fun hs => ⟨hs, heq⟩) fun hs => heq ▸ hs
      · exact .inr hs
    rcases hcase with ⟨rfl, rfl⟩ | hs
    · refine ⟨_, hlast, rfl, hparent.imp_right ?_, hdeep⟩
      rintro ⟨up, dist', hup, hmem, hd⟩
      exact ⟨up, dist', hup, hstay hmem, hd⟩
    · obtain ⟨x, hx, hd, hup, hcnt⟩ := h.listed hs
      refine ⟨x, hold s x hx, hd, hup.imp_right ?_, hcnt⟩
      rintro ⟨up, dist', hup, hmem, hd⟩
      exact ⟨up, dist', hup, hstay hmem, hd⟩

/-- A record may change beside its links, if its path stays long enough. -/
theorem modifyNode (h : mc.Shelved) {g : McNode → McNode}
    (hsame : ∀ node, mc.nodes[r]? = some node → SameNode node (g node))
    (hdeep : ∀ node, mc.nodes[r]? = some node → 0 < node.dist → node.dist ≤ (g node).path.cnt) :
    (mc.modifyNode r g).Shelved where
  tabled s node' hs := by
    obtain ⟨node, hnode, hsn⟩ := sameNode_of_modifyNode hsame hs
    rw [hsn.nodeguid]
    exact h.tabled s node hnode
  guids := by
    have hguids : (mc.modifyNode r g).nodes.map (fun node => node.nodeguid) =
        mc.nodes.map fun node => node.nodeguid := by
      apply List.ext_getElem?
      intro s
      rw [List.getElem?_map, List.getElem?_map]
      cases hnode : mc.nodes[s]? with
      | none => rw [Statics.nodes_modifyNode, hnode]; rfl
      | some node =>
          obtain ⟨node', hget, hsn⟩ := sameNode_modifyNode hsame hnode
          rw [hget, Option.map_some, Option.map_some, hsn.nodeguid]
    rw [hguids]
    exact h.guids
  nodup := h.nodup
  listed := by
    intro d s hs
    obtain ⟨node, hnode, hd, hup, hcnt⟩ := h.listed hs
    obtain ⟨node', hget, hsn⟩ := sameNode_modifyNode hsame hnode
    refine ⟨node', hget, hsn.dist.trans hd, by rw [hsn.upnode]; exact hup, fun hpos => ?_⟩
    rw [Statics.nodes_modifyNode, hnode, Option.map_some] at hget
    rw [← Option.some.inj hget]
    split
    · next hrs =>
        subst hrs
        have hle := hdeep node hnode (by omega)
        rwa [hd] at hle
    · exact hcnt hpos

end Shelved
end Statics

/-- Lists only grow. -/
def Statics.Grows (mc mc' : Statics) : Prop :=
  ∀ {dist : Nat} {r : NodeRef}, r ∈ mc.nodesdist dist → r ∈ mc'.nodesdist dist

variable {T : Tracer} {target : UInt64}

section Visits
variable {args : PortArgs} {loop loop' : PortLoop} {stop : Option Stop} {i : Nat} {e : Int}

namespace PortLoop

/-- The lists in order, with the node whose ports are gone through among them. -/
structure Ready (args : PortArgs) (loop : PortLoop) : Prop where
  shelved : loop.mc.Shelved
  listed : args.node ∈ loop.mc.nodesdist args.dist

/-- The path is longer than the node is far, or leads back to a node that is known. -/
def Safe (T : Tracer) (args : PortArgs) (loop : PortLoop) : Prop :=
  (args.dist + 1 ≤ loop.path.cnt ∧ loop.path.cnt ≤ 62) ∨
    ∀ node port, getNode T {} {} loop.path.toPortId = (true, node, port) →
      loop.mc.isKnown node.nodeguid = true

theorem run_eq (is : List Nat) : run T args is loop = Loops.run (step T args) is loop := by
  induction is generalizing loop with
  | nil => rfl
  | cons i is ih =>
      rw [run, Loops.run]
      cases hstep : step T args loop i with
      | error e => rfl
      | ok result =>
          obtain ⟨loop₁, stop₁⟩ := result
          cases stop₁ with
          | none => exact ih
          | some stop₁ => rfl

theorem idle_round (h : args.map i = false) :
    step T args loop i = .ok (loop, none) ∧ stepUses T args loop i = [] := by
  rw [step, stepUses, h]
  exact ⟨rfl, rfl⟩

theorem runUses_only {is : List Nat} {p : Nat} (hport : ∀ i, args.map i = true → i = p)
    (hnodup : is.Nodup) (hp : p ∈ is) : runUses T args is loop = stepUses T args loop p :=
  Loops.events_only (fun i _ hi _ =>
    idle_round (Bool.eq_false_iff.mpr fun hopen => hi (hport i hopen))) hnodup hp

end PortLoop
end Visits

section Nodes
variable {s s' : Search} {r : NodeRef} {node old : McNode} {dist fromCnt : Nat}
  {map : Nat → Bool} {mlid : Int} {dists : List Nat}

namespace Search

theorem level_eq (refs : List NodeRef) : level T target fromCnt mlid dist refs s =
    Loops.run (fun s r => Search.node T target fromCnt mlid s r dist) refs s := by
  induction refs generalizing s with
  | nil => rfl
  | cons r refs ih =>
      rw [level, Loops.run]
      cases hnode : Search.node T target fromCnt mlid s r dist with
      | error e => rfl
      | ok result =>
          obtain ⟨s₁, stop₁⟩ := result
          cases stop₁ with
          | none => exact ih
          | some stop₁ => rfl

theorem levels_eq : levels T target fromCnt mlid dists s =
    Loops.run (fun s dist => level T target fromCnt mlid dist (s.mc.nodesdist dist) s) dists s := by
  induction dists generalizing s with
  | nil => rfl
  | cons dist dists ih =>
      rw [levels, Loops.run]
      cases hlevel : level T target fromCnt mlid dist (s.mc.nodesdist dist) s with
      | error e => rfl
      | ok result =>
          obtain ⟨s₁, stop₁⟩ := result
          cases stop₁ with
          | none => exact ih
          | some stop₁ => rfl

end Search
end Nodes

section Searches
variable {fromId : PortId} {node : Node} {port : Port} {mlid : Int}

/-- The storage with the source in it. -/
def sourceStatics (node : Node) (port : Port) (fromId : PortId) : Statics :=
  Statics.initial.enter { node with } { port with } (.ofPortId fromId) 0

end Searches

section Faults
variable {u : Use} {args : PortArgs} {loop : PortLoop} {s : Search} {r : NodeRef} {node : McNode}
  {dist fromCnt : Nat} {map : Nat → Bool} {mlid : Int} (hpast : maxHops ≤ u.index)
include hpast

/-- A use past the last list is an access out of bounds. -/
theorem newNode_past {mc : Statics} {port : McPort} {path : McPath}
    (hu : u ∈ newNodeUses target mc node port path dist) :
    newNode target mc node port path dist = .error .outOfBounds := by
  unfold newNodeUses at hu
  unfold newNode
  split at hu
  · cases hu
  · next htarget =>
      rw [if_neg htarget]
      split at hu
      · cases hu
      · next hknown =>
          rw [List.mem_singleton.mp hu] at hpast
          rw [if_neg hknown, if_pos hpast]

theorem PortLoop.visit_past (hu : u ∈ visitUses T args loop) :
    visit T args loop = .error .outOfBounds := by
  unfold visitUses at hu
  unfold visit
  generalize getNode T {} {} loop.path.toPortId = reply at hu ⊢
  obtain ⟨answered, node, port⟩ := reply
  cases answered with
  | false => cases hu
  | true =>
      dsimp only at hu ⊢
      rw [newNode_past hpast hu]
      rfl

theorem PortLoop.step_past {i : Nat} (hu : u ∈ stepUses T args loop i) :
    step T args loop i = .error .outOfBounds := by
  unfold stepUses at hu
  unfold step
  split at hu
  · cases hu
  · next hopen =>
      rw [if_neg hopen]
      split at hu
      · next hleaf =>
          rw [if_pos hleaf]
          exact visit_past hpast hu
      · next hleaf =>
          rw [if_neg hleaf]
          generalize getPort T i loop.path.toPortId = port at hu ⊢
          cases port with
          | none => cases hu
          | some port =>
              dsimp only at hu ⊢
              split at hu
              · cases hu
              · next hphys =>
                  rw [if_neg hphys]
                  split at hu
                  · next path hext =>
                      rw [hext]
                      exact visit_past hpast hu
                  · cases hu

theorem Search.ports_past (hu : u ∈ portsUses T target fromCnt s r node dist map) :
    ports T target fromCnt s r node dist map = .error .outOfBounds := by
  have hrun := Loops.run_error (fun i _ loop hloop => PortLoop.step_past hpast hloop) hu
  rw [← PortLoop.run_eq] at hrun
  unfold portArgs startLoop at hrun
  rw [ports, hrun]
  rfl

theorem Search.node_past (hu : u ∈ nodeUses T target fromCnt mlid s r dist) :
    Search.node T target fromCnt mlid s r dist = .error .outOfBounds := by
  unfold nodeUses at hu
  unfold Search.node
  generalize s.mc.nodes[r]? = entry at hu ⊢
  cases entry with
  | none => cases hu
  | some node =>
      dsimp only at hu ⊢
      split at hu
      · next htype =>
          rw [if_pos htype]
          split at hu
          · cases hu
          · next hdist =>
              rw [if_neg hdist]
              split at hu
              · next leafport port hlast hport =>
                  rw [hlast, hport]
                  rw [hport] at hu
                  exact ports_past hpast hu
              · cases hu
      · next htype =>
          rw [if_neg htype]
          split at hu
          · next found hlookup =>
              rw [hlookup]
              exact ports_past hpast hu
          · cases hu

theorem Search.levels_past {dists : List Nat} (hdists : ∀ dist ∈ dists, dist < maxHops)
    (hu : u ∈ levelsUses T target fromCnt mlid dists s) :
    levels T target fromCnt mlid dists s = .error .outOfBounds := by
  rw [levels_eq]
  refine Loops.run_error (fun dist hdist s hs => ?_) hu
  rcases List.mem_cons.mp hs with rfl | hs
  · exact absurd (hdists dist hdist) (Nat.not_lt.mpr hpast)
  · rw [level_eq]
    exact Loops.run_error (fun r _ s hs => node_past hpast hs) hs

/-- The uses are those of the run: it does not survive one that is out of range. -/
theorem findMcpath_past {mc : Statics} {fromId : PortId}
    (hu : u ∈ findMcpathUses T target mc fromId mlid) :
    findMcpath T target mc fromId mlid = .error .outOfBounds := by
  unfold findMcpathUses at hu
  unfold findMcpath
  generalize getNode T {} {} fromId = reply at hu ⊢
  obtain ⟨answered, node, port⟩ := reply
  cases answered with
  | false => cases hu
  | true =>
      dsimp only at hu ⊢
      rcases List.mem_append.mp hu with hfirst | hlater
      · rw [newNode_past hpast hfirst]
        rfl
      · have hdists : ∀ dist ∈ List.range maxHops, dist < maxHops := fun dist hdist =>
          List.mem_range.mp hdist
        cases hnew : newNode target mc { node with } { port with } (.ofPortId fromId) 0 with
        | error e =>
            rw [hnew] at hlater
            cases hlater
        | ok result =>
            obtain ⟨v, mc'⟩ := result
            rw [hnew] at hlater
            cases v with
            | target t => cases hlater
            | known =>
                rw [ok_bind]
                dsimp only
                rw [Search.levels_past hpast hdists hlater]
                rfl
            | inserted =>
                rw [ok_bind]
                dsimp only
                rw [Search.levels_past hpast hdists hlater]
                rfl

end Faults
end Ibtracert
end InfinibandDiags
