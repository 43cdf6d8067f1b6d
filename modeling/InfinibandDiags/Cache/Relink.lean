import InfinibandDiags.Cache.Rebuild
import InfinibandDiags.Fabric.LidMap

/-! What `_rebuild_ports` makes of the caches, and how `ibnd_load_fabric` gets to `group_nodes`. -/
namespace InfinibandDiags
namespace FabricCache
open Fabric

/-- A round of `_rebuild_ports` goes through. -/
structure Linkable (fc : FabricCache) (p : PortRef) : Prop where
  owner : (fc.findNode (fc.portCache p).nodeGuid).isSome
  remote : (fc.portCache p).remoteportFlag ≠ 0 →
    (fc.findPort (fc.portCache p).remoteportCacheKey).isSome
  lids : LidsEnd (fc.fabric.port p).baseLid (fc.fabric.port p).lmc

/-- The remote port that the record of a port names. -/
def namedRemote (fc : FabricCache) (p : PortRef) : Option PortRef :=
  if (fc.portCache p).remoteportFlag ≠ 0 then
    fc.findPort (fc.portCache p).remoteportCacheKey
  else none

/-- The state of `_rebuild_ports` once the ports `done` have their links. -/
structure Relinked (fc₁ : FabricCache) (done : List PortRef) (fc : FabricCache) : Prop where
  rest : fc = { fc₁ with fabric := { fc₁.fabric with
    port := fc.fabric.port
    lid2guid := fc.fabric.lid2guid } }
  port : ∀ p, fc.fabric.port p = { fc₁.fabric.port p with
    node := (fc.fabric.port p).node
    remoteport := (fc.fabric.port p).remoteport }
  linked : ∀ p ∈ done, fc₁.findNode (fc₁.portCache p).nodeGuid = some (fc.fabric.port p).node ∧
    (fc.fabric.port p).remoteport = fc₁.namedRemote p
  unlinked : ∀ p, p ∉ done → fc.fabric.port p = fc₁.fabric.port p
  lids : ∀ key : UInt32, fc.fabric.lid2guid.lookup key = (fc₁.fabric.lid2guid.lookup key).or
    (done.find? fun p => entersLid (fc₁.fabric.port p) key.toNat)

section Relinked
variable {fc₁ fc : FabricCache} {done : List PortRef} {p : PortRef}

theorem Relinked.refl (fc : FabricCache) : Relinked fc [] fc where
  rest := rfl
  port _ := rfl
  linked q hq := absurd hq List.not_mem_nil
  unlinked _ _ := rfl
  lids key := by rw [List.find?_nil, Option.or_none]

theorem Relinked.findNode (h : Relinked fc₁ done fc) (guid : UInt64) :
    fc.findNode guid = fc₁.findNode guid := by
  rw [h.rest]
  rfl

theorem Relinked.findPort (h : Relinked fc₁ done fc) (key : PortCacheKey) :
    fc.findPort key = fc₁.findPort key := by
  have htbl : fc.portscachetbl = fc₁.portscachetbl := by rw [h.rest]
  unfold FabricCache.findPort
  rw [htbl]
  congr 1
  funext q
  rw [h.port q]

theorem Relinked.portCache (h : Relinked fc₁ done fc) : fc.portCache = fc₁.portCache := by
  rw [h.rest]

/-- The record of a port with its links. -/
def withLinks (fc : FabricCache) (p : PortRef) (n : NodeRef) (remote : Option PortRef) :
    FabricCache :=
  fc.modifyPort p fun port => { port with node := n, remoteport := remote }

theorem modifyPort_links (fc : FabricCache) (p : PortRef) (n : NodeRef) (remote : Option PortRef) :
    (fc.modifyPort p fun port => { port with node := n }).modifyPort p
      (fun port => { port with remoteport := remote }) = fc.withLinks p n remote := by
  simp [FabricCache.modifyPort, Fabric.modifyPort, withLinks]

theorem findPort_modifyPort (fc : FabricCache) (p : PortRef) (n : NodeRef) (key : PortCacheKey) :
    (fc.modifyPort p fun port => { port with node := n }).findPort key = fc.findPort key := by
  unfold FabricCache.findPort FabricCache.modifyPort Fabric.modifyPort
  dsimp only
  congr 1
  funext q
  by_cases hq : q = p
  · simp [hq]
  · simp [hq]

/-- A round, taken apart. -/
theorem rebuildPort_eq (fc : FabricCache) (p : PortRef) {n : NodeRef}
    (hn : fc.findNode (fc.portCache p).nodeGuid = some n)
    (hremote : (fc.portCache p).remoteportFlag ≠ 0 →
      (fc.findPort (fc.portCache p).remoteportCacheKey).isSome) :
    fc.rebuildPort p = (orStop ((fc.withLinks p n (fc.namedRemote p)).fabric.addToPortlidHash p)
      >>= fun fabric => .ok { fc.withLinks p n (fc.namedRemote p) with fabric }) := by
  have hcache : (fc.modifyPort p fun port => { port with node := n }).portCache = fc.portCache :=
    rfl
  have hlink : (fc.modifyPort p fun port => { port with node := n }).linkPort p =
      .ok (fc.withLinks p n (fc.namedRemote p)) := by
    unfold linkPort namedRemote
    rw [hcache, findPort_modifyPort]
    by_cases hflag : (fc.portCache p).remoteportFlag ≠ 0
    · obtain ⟨r, hr⟩ := Option.isSome_iff_exists.mp (hremote hflag)
      rw [if_pos hflag, if_pos hflag, hr, ← modifyPort_links]
    · rw [if_neg hflag, if_neg hflag, ← modifyPort_links]
  unfold rebuildPort
  rw [hn]
  dsimp only
  rw [hlink, ok_bind]

/-- A round whose port has a node in the file, but not the remote port. -/
theorem rebuildPort_noRemote {n : NodeRef} (hn : fc.findNode (fc.portCache p).nodeGuid = some n)
    (hflag : (fc.portCache p).remoteportFlag ≠ 0)
    (hnone : fc.findPort (fc.portCache p).remoteportCacheKey = none) :
    fc.rebuildPort p = .error (.invalid (fc.modifyPort p fun port => { port with node := n })) := by
  have hcache : (fc.modifyPort p fun port => { port with node := n }).portCache = fc.portCache :=
    rfl
  unfold rebuildPort linkPort
  rw [hn]
  dsimp only
  rw [hcache, if_pos hflag, findPort_modifyPort, hnone]
  rfl

/-- A round goes through exactly if its port is linkable. -/
theorem rebuildPort_iff : (∃ fc', fc.rebuildPort p = .ok fc') ↔ Linkable fc p := by
  have hlids : ∀ n, ((fc.withLinks p n (fc.namedRemote p)).fabric.port p).baseLid =
      (fc.fabric.port p).baseLid ∧ ((fc.withLinks p n (fc.namedRemote p)).fabric.port p).lmc =
      (fc.fabric.port p).lmc := by
    intro n
    simp [withLinks, FabricCache.modifyPort, Fabric.modifyPort]
  constructor
  · rintro ⟨fc', hok⟩
    cases hn : fc.findNode (fc.portCache p).nodeGuid with
    | none =>
        unfold rebuildPort at hok
        rw [hn] at hok
        cases hok
    | some n =>
        have hremote : (fc.portCache p).remoteportFlag ≠ 0 →
            (fc.findPort (fc.portCache p).remoteportCacheKey).isSome := by
          intro hflag
          by_contra hnone
          rw [rebuildPort_noRemote hn hflag (Option.not_isSome_iff_eq_none.mp hnone)] at hok
          cases hok
        rw [rebuildPort_eq fc p hn hremote] at hok
        obtain ⟨f, hf, -⟩ := bind_eq_ok.mp hok
        refine ⟨Option.isSome_of_eq_some hn, hremote, ?_⟩
        rw [← (hlids n).1, ← (hlids n).2, ← addToPortlidHash_ok_iff]
        cases hadd : (fc.withLinks p n (fc.namedRemote p)).fabric.addToPortlidHash p with
        | ok f' => exact ⟨f', rfl⟩
        | error fault =>
            rw [hadd] at hf
            cases hf
  · intro h
    obtain ⟨n, hn⟩ := Option.isSome_iff_exists.mp h.owner
    have hends := h.lids
    rw [← (hlids n).1, ← (hlids n).2, ← addToPortlidHash_ok_iff] at hends
    obtain ⟨f, hf⟩ := hends
    rw [rebuildPort_eq fc p hn h.remote, hf]
    exact ⟨_, rfl⟩

theorem Relinked.linkable_iff (h : Relinked fc₁ done fc) : Linkable fc p ↔ Linkable fc₁ p := by
  have hlids : (fc.fabric.port p).baseLid = (fc₁.fabric.port p).baseLid ∧
      (fc.fabric.port p).lmc = (fc₁.fabric.port p).lmc := by
    rw [h.port p]
    exact ⟨rfl, rfl⟩
  constructor
  · rintro ⟨howner, hremote, hends⟩
    rw [h.portCache, h.findNode] at howner
    rw [h.portCache, h.findPort] at hremote
    rw [hlids.1, hlids.2] at hends
    exact ⟨howner, hremote, hends⟩
  · rintro ⟨howner, hremote, hends⟩
    refine ⟨?_, ?_, ?_⟩
    · rw [h.portCache, h.findNode]
      exact howner
    · rw [h.portCache, h.findPort]
      exact hremote
    · rw [hlids.1, hlids.2]
      exact hends

theorem Relinked.rebuildPort (h : Relinked fc₁ done fc) (hp : Linkable fc₁ p) :
    ∃ fc', fc.rebuildPort p = .ok fc' ∧ Relinked fc₁ (done ++ [p]) fc' := by
  obtain ⟨n, hn⟩ := Option.isSome_iff_exists.mp hp.owner
  have hremote : fc.namedRemote p = fc₁.namedRemote p := by
    unfold namedRemote
    rw [h.portCache, h.findPort]
  have hself : (fc.withLinks p n (fc₁.namedRemote p)).fabric.port p =
      { fc.fabric.port p with node := n, remoteport := fc₁.namedRemote p } := if_pos rfl
  have hother : ∀ q, q ≠ p →
      (fc.withLinks p n (fc₁.namedRemote p)).fabric.port q = fc.fabric.port q :=
    fun q hq => if_neg hq
  have hends : LidsEnd ((fc.withLinks p n (fc₁.namedRemote p)).fabric.port p).baseLid
      ((fc.withLinks p n (fc₁.namedRemote p)).fabric.port p).lmc := by
    rw [hself]
    dsimp only
    rw [h.port p]
    exact hp.lids
  obtain ⟨m, hadd, hlookup⟩ := addToPortlidHash_enters hends
  let fc' : FabricCache := { fc.withLinks p n (fc₁.namedRemote p) with
    fabric := { (fc.withLinks p n (fc₁.namedRemote p)).fabric with lid2guid := m } }
  refine ⟨fc', ?_, ?_⟩
  · rw [rebuildPort_eq fc p (by rw [h.portCache, h.findNode, hn])
      (by rw [h.portCache, h.findPort]; exact hp.remote), hremote, hadd]
    rfl
  · constructor
    case rest =>
      simp only [fc', withLinks, FabricCache.modifyPort, Fabric.modifyPort]
      rw [h.rest]
    case port =>
      intro q
      change (fc.withLinks p n (fc₁.namedRemote p)).fabric.port q =
        { fc₁.fabric.port q with
          node := ((fc.withLinks p n (fc₁.namedRemote p)).fabric.port q).node
          remoteport := ((fc.withLinks p n (fc₁.namedRemote p)).fabric.port q).remoteport }
      by_cases hq : q = p
      · rw [hq, hself]
        dsimp only
        rw [h.port p]
      · rw [hother q hq]
        exact h.port q
    case linked =>
      intro q hq
      change fc₁.findNode (fc₁.portCache q).nodeGuid =
          some ((fc.withLinks p n (fc₁.namedRemote p)).fabric.port q).node ∧
        ((fc.withLinks p n (fc₁.namedRemote p)).fabric.port q).remoteport = fc₁.namedRemote q
      by_cases hqp : q = p
      · rw [hqp, hself]
        exact ⟨hn, rfl⟩
      · rw [hother q hqp]
        exact h.linked q ((List.mem_append.mp hq).resolve_right fun hmem =>
          hqp (List.mem_singleton.mp hmem))
    case unlinked =>
      intro q hq
      rw [List.mem_append, List.mem_singleton, not_or] at hq
      exact (hother q hq.2).trans (h.unlinked q hq.1)
    case lids =>
      intro key
      change m.lookup key = _
      have henters : entersLid ((fc.withLinks p n (fc₁.namedRemote p)).fabric.port p) key.toNat =
          entersLid (fc₁.fabric.port p) key.toNat := by
        rw [hself]
        unfold entersLid
        dsimp only
        rw [h.port p]
      have hold : (fc.withLinks p n (fc₁.namedRemote p)).fabric.lid2guid =
          fc.fabric.lid2guid := rfl
      rw [hlookup, henters, hold, h.lids, List.find?_append, Option.or_assoc]
      congr 2
      by_cases hlid : entersLid (fc₁.fabric.port p) key.toNat
      · simp [hlid]
      · simp [hlid]

/-- `_rebuild_ports` goes through exactly if all ports are linkable. -/
theorem rebuildPorts_iff {todo : List PortRef} :
    ((∃ fc, todo.foldlM FabricCache.rebuildPort fc₁ = .ok fc) ↔ ∀ p ∈ todo, Linkable fc₁ p) ∧
      ∀ fc, todo.foldlM FabricCache.rebuildPort fc₁ = .ok fc → Relinked fc₁ todo fc := by
  refine Folds.foldlM_ok_iff (P := Relinked fc₁) ?_ (Relinked.refl fc₁)
  intro done p fc h
  refine ⟨rebuildPort_iff.trans h.linkable_iff, ?_⟩
  intro fc' hok
  obtain ⟨fc'', hok', h'⟩ := h.rebuildPort (h.linkable_iff.mp (rebuildPort_iff.mp ⟨fc', hok⟩))
  cases hok.symm.trans hok'
  exact h'

end Relinked

/-- `ibnd_load_fabric` between reading the file and `group_nodes`. -/
def relink (fc : FabricCache) : LoadM FabricCache :=
  match fc.findNode fc.fromNodeGuid with
  | none => .error (.invalid fc)
  | some n => do
      let fc ← (fc.withFromNode n).rebuildNodes
      fc.rebuildPorts

/-- The end of `ibnd_load_fabric`. -/
def groupLoaded (fc : FabricCache) : LoadM (Fabric × Grouping) :=
  match fc.fabric.groupNodesFrom fc.grouping with
  | .ok g => .ok (fc.fabric, g)
  | .error (some fault) => .error (.fault fault)
  | .error none => .error (.invalid fc)

theorem rebuild_eq (fc : FabricCache) : fc.rebuild = fc.relink >>= groupLoaded := by
  unfold rebuild relink
  cases fc.findNode fc.fromNodeGuid with
  | none => rfl
  | some n =>
      change ((fc.withFromNode n).rebuildNodes >>= fun fc => fc.rebuildPorts >>= groupLoaded) =
        ((fc.withFromNode n).rebuildNodes >>= rebuildPorts) >>= groupLoaded
      rw [bind_assoc]

end FabricCache
end InfinibandDiags
