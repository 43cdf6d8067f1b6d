import InfinibandDiags.Cache.Relink
import InfinibandDiags.Library.Numbered

/-! The files that `ibnd_load_fabric` accepts, up to `group_nodes`. -/
namespace InfinibandDiags
open Fabric (LidsEnd)

def PortRecord.key (r : PortRecord) : PortCacheKey := ⟨r.guid, r.portnum⟩

/-- The port of a file that a key names. -/
def portAt (prs : List PortRecord) (key : PortCacheKey) : Option PortRef :=
  Numbered.last PortRecord.key prs key

/-- The node of a file that a GUID names. -/
def nodeAt (nrs : List NodeRecord) (guid : UInt64) : Option NodeRef :=
  Numbered.last NodeRecord.guid nrs guid

/-- Records that a fabric can be rebuilt from: what they name is there, no two slots are for one
port, and the LIDs of each port come to an end. -/
structure Consistent (h : HeaderRecord) (nrs : List NodeRecord) (prs : List PortRecord) : Prop where
  fromNode : ∃ r ∈ nrs, r.guid = h.fromNodeGuid
  found : ∀ r ∈ nrs, ∀ key ∈ r.portCacheKeys, ∃ q ∈ prs, q.key = key
  fits : ∀ r ∈ nrs, ∀ key ∈ r.portCacheKeys, key.portnum ≤ r.numports
  once : (nrs.flatMap NodeRecord.portCacheKeys).Nodup
  owners : ∀ q ∈ prs, ∃ r ∈ nrs, r.guid = q.nodeGuid
  remotes : ∀ q ∈ prs, q.remoteportFlag ≠ 0 → ∃ q' ∈ prs, q'.key = q.remoteportCacheKey
  lids : ∀ q ∈ prs, LidsEnd q.baseLid q.lmc

instance {h : HeaderRecord} {nrs : List NodeRecord} {prs : List PortRecord} :
    Decidable (Consistent h nrs prs) :=
  decidable_of_iff ((∃ r ∈ nrs, r.guid = h.fromNodeGuid) ∧
      (∀ r ∈ nrs, ∀ key ∈ r.portCacheKeys, ∃ q ∈ prs, q.key = key) ∧
      (∀ r ∈ nrs, ∀ key ∈ r.portCacheKeys, key.portnum ≤ r.numports) ∧
      (nrs.flatMap NodeRecord.portCacheKeys).Nodup ∧
      (∀ q ∈ prs, ∃ r ∈ nrs, r.guid = q.nodeGuid) ∧
      (∀ q ∈ prs, q.remoteportFlag ≠ 0 → ∃ q' ∈ prs, q'.key = q.remoteportCacheKey) ∧
      ∀ q ∈ prs, LidsEnd q.baseLid q.lmc)
    ⟨fun ⟨h₁, h₂, h₃, h₄, h₅, h₆, h₇⟩ => ⟨h₁, h₂, h₃, h₄, h₅, h₆, h₇⟩,
      fun ⟨h₁, h₂, h₃, h₄, h₅, h₆, h₇⟩ => ⟨h₁, h₂, h₃, h₄, h₅, h₆, h₇⟩⟩

namespace FabricCache

theorem ofRecords_header (h : HeaderRecord) (nrs : List NodeRecord) (prs : List PortRecord) :
    (ofRecords h nrs prs).fromNodeGuid = h.fromNodeGuid ∧
      (ofRecords h nrs prs).fabric.maxhopsDiscovered = h.maxhopsDiscovered := by
  have hnodes : ∀ (rs : List NodeRecord) (fc : FabricCache),
      (rs.foldl addNode fc).fromNodeGuid = fc.fromNodeGuid ∧
      (rs.foldl addNode fc).fabric.maxhopsDiscovered = fc.fabric.maxhopsDiscovered := by
    intro rs
    induction rs with
    | nil => exact fun fc => ⟨rfl, rfl⟩
    | cons r rs ih => exact fun fc => ih (fc.addNode r)
  have hports : ∀ (rs : List PortRecord) (fc : FabricCache),
      (rs.foldl addPort fc).fromNodeGuid = fc.fromNodeGuid ∧
      (rs.foldl addPort fc).fabric.maxhopsDiscovered = fc.fabric.maxhopsDiscovered := by
    intro rs
    induction rs with
    | nil => exact fun fc => ⟨rfl, rfl⟩
    | cons r rs ih => exact fun fc => ih (fc.addPort r)
  unfold ofRecords
  obtain ⟨hguid, hhops⟩ := hports prs (nrs.foldl addNode (initial.addHeader h))
  obtain ⟨hguid', hhops'⟩ := hnodes nrs (initial.addHeader h)
  exact ⟨hguid.trans hguid', hhops.trans hhops'⟩

section Stored
variable {nrs : List NodeRecord} {prs : List PortRecord} {fc : FabricCache}

theorem find?_congr {α : Type} {l : List α} {p q : α → Bool} (h : ∀ a ∈ l, p a = q a) :
    l.find? p = l.find? q := by
  induction l with
  | nil => rfl
  | cons a l ih =>
      rw [List.find?_cons, List.find?_cons, h a List.mem_cons_self,
        ih fun b hb => h b (List.mem_cons_of_mem a hb)]

theorem Stored.findNode_nodeAt (hs : Stored nrs prs fc) (guid : UInt64) :
    fc.findNode guid = nodeAt nrs guid := by
  rw [hs.findNode_eq]
  apply find?_congr
  intro i hi
  rw [List.mem_reverse, List.mem_range] at hi
  rw [(hs.node i _ (List.getElem?_eq_getElem hi)).1, List.getElem?_eq_getElem hi, Option.map_some]
  exact decide_eq_decide.mpr Option.some_inj.symm

theorem Stored.findPort_portAt (hs : Stored nrs prs fc) (key : PortCacheKey) :
    fc.findPort key = portAt prs key := by
  rw [hs.findPort_eq]
  apply find?_congr
  intro i hi
  rw [List.mem_reverse, List.mem_range] at hi
  rw [(hs.port i _ (List.getElem?_eq_getElem hi)).1, List.getElem?_eq_getElem hi, Option.map_some,
    ← Bool.decide_and]
  refine decide_eq_decide.mpr ?_
  rw [Option.some_inj, PortRecord.key, PortRecord.port, UInt8.toNat_inj]
  constructor
  · rintro ⟨hguid, hnum⟩
    cases key
    cases hguid
    cases hnum
    rfl
  · intro hkey
    rw [← hkey]
    exact ⟨rfl, rfl⟩

theorem Stored.findPort_lt (hs : Stored nrs prs fc) {key : PortCacheKey} {p : PortRef}
    (hp : fc.findPort key = some p) : p < fc.fabric.portCount := by
  rw [hs.findPort_portAt] at hp
  rw [hs.portCount]
  exact Numbered.last_lt hp

/-- A port that a key names. -/
theorem Stored.findPort_portnum (hs : Stored nrs prs fc) {key : PortCacheKey} {p : PortRef}
    (hp : fc.findPort key = some p) : (fc.fabric.port p).portnum = key.portnum.toNat := by
  rw [hs.findPort_portAt] at hp
  obtain ⟨r, hr, rfl⟩ := Numbered.last_eq_some hp
  rw [(hs.port p r hr).1]
  rfl

theorem Stored.keyPorts_eq (hs : Stored nrs prs fc) {i : NodeRef} {r : NodeRecord}
    (hr : nrs[i]? = some r) : fc.keyPorts i = r.portCacheKeys.filterMap (portAt prs) := by
  unfold keyPorts
  rw [(hs.node i r hr).2]
  exact congrArg (fun g => r.portCacheKeys.filterMap g) (funext hs.findPort_portAt)

/-- `_rebuild_nodes` accepts the records. -/
theorem Stored.fillable_iff (hs : Stored nrs prs fc) : Fillable fc fc.nodesCache ↔
    (∀ r ∈ nrs, ∀ key ∈ r.portCacheKeys, ∃ q ∈ prs, q.key = key) ∧
      (∀ r ∈ nrs, ∀ key ∈ r.portCacheKeys, key.portnum ≤ r.numports) ∧
        (nrs.flatMap NodeRecord.portCacheKeys).Nodup := by
  have hmem : ∀ n, n ∈ fc.nodesCache ↔ n ∈ List.range nrs.length := by
    intro n
    rw [hs.nodesCache, List.mem_reverse]
  have hfound : (∀ n ∈ fc.nodesCache,
      (fc.nodeCache n).portCacheKeys.map fc.findPort = (fc.keyPorts n).map some) ↔
        ∀ r ∈ nrs, ∀ key ∈ r.portCacheKeys, ∃ q ∈ prs, q.key = key := by
    simp only [hmem]
    apply Numbered.forall_range
    intro i r hr
    rw [keyPorts, Numbered.map_eq_some_iff, (hs.node i r hr).2]
    simp only [hs.findPort_portAt, portAt, Numbered.last_isSome_iff]
  have hports : ∀ key p, portAt prs key = some p →
      (fc.fabric.port p).portnum = key.portnum.toNat :=
    fun key p hp => hs.findPort_portnum (by rwa [hs.findPort_portAt])
  have hfits : (∀ r ∈ nrs, ∀ key ∈ r.portCacheKeys, ∃ q ∈ prs, q.key = key) →
      ((∀ n ∈ fc.nodesCache, ∀ p ∈ fc.keyPorts n,
        (fc.fabric.port p).portnum ≤ (fc.fabric.node n).numports) ↔
          ∀ r ∈ nrs, ∀ key ∈ r.portCacheKeys, key.portnum ≤ r.numports) := by
    intro hall
    simp only [hmem]
    apply Numbered.forall_range
    intro i r hr
    rw [hs.keyPorts_eq hr, (hs.node i r hr).1]
    constructor
    · intro h key hkey
      obtain ⟨p, hp⟩ := Option.isSome_iff_exists.mp
        (Numbered.last_isSome_iff.mpr (hall r (List.mem_of_getElem? hr) key hkey))
      have hle := h p (List.mem_filterMap.mpr ⟨key, hkey, hp⟩)
      rw [hports key p hp] at hle
      exact UInt8.le_iff_toNat_le.mpr hle
    · intro h p hp
      obtain ⟨key, hkey, hp⟩ := List.mem_filterMap.mp hp
      rw [hports key p hp]
      exact UInt8.le_iff_toNat_le.mp (h key hkey)
  have honce : (∀ r ∈ nrs, ∀ key ∈ r.portCacheKeys, ∃ q ∈ prs, q.key = key) →
      ((fc.nodesCache.flatMap fc.keyPorts).Nodup ↔
        (nrs.flatMap NodeRecord.portCacheKeys).Nodup) := by
    intro hall
    have hflat : (List.range nrs.length).flatMap fc.keyPorts =
        (nrs.flatMap NodeRecord.portCacheKeys).filterMap (portAt prs) := by
      rw [List.filterMap_flatMap]
      exact Numbered.flatMap_range fun i r hr => hs.keyPorts_eq hr
    rw [hs.nodesCache, ((List.reverse_perm _).flatMap_right _).nodup_iff, hflat]
    refine Numbered.nodup_filterMap_iff ?_ fun a b c ha hb => Numbered.last_inj ha hb
    intro key hkey
    obtain ⟨r, hr, hkey⟩ := List.mem_flatMap.mp hkey
    exact Numbered.last_isSome_iff.mpr (hall r hr key hkey)
  constructor
  · rintro ⟨h₁, h₂, h₃⟩
    have hall := hfound.mp h₁
    exact ⟨hall, (hfits hall).mp h₂, (honce hall).mp h₃⟩
  · rintro ⟨h₁, h₂, h₃⟩
    exact ⟨hfound.mpr h₁, (hfits h₁).mpr h₂, (honce h₁).mpr h₃⟩

/-- `_rebuild_ports` accepts a port. -/
theorem Stored.linkable_iff (hs : Stored nrs prs fc) {p : PortRef} {q : PortRecord}
    (hq : prs[p]? = some q) : Linkable fc p ↔ (∃ r ∈ nrs, r.guid = q.nodeGuid) ∧
      (q.remoteportFlag ≠ 0 → ∃ q' ∈ prs, q'.key = q.remoteportCacheKey) ∧
        LidsEnd q.baseLid q.lmc := by
  obtain ⟨hport, hcache, -⟩ := hs.port p q hq
  constructor
  · rintro ⟨howner, hremote, hlids⟩
    rw [hcache, hs.findNode_nodeAt, nodeAt, Numbered.last_isSome_iff] at howner
    rw [hcache, hs.findPort_portAt, portAt, Numbered.last_isSome_iff] at hremote
    rw [hport] at hlids
    exact ⟨howner, hremote, hlids⟩
  · rintro ⟨howner, hremote, hlids⟩
    constructor
    · rw [hcache, hs.findNode_nodeAt, nodeAt, Numbered.last_isSome_iff]
      exact howner
    · rw [hcache, hs.findPort_portAt, portAt, Numbered.last_isSome_iff]
      exact hremote
    · rw [hport]
      exact hlids

end Stored

section Rebuilt
variable {fc₀ fc : FabricCache} {ns : List NodeRef} {fills : List (NodeRef × PortRef)}

theorem Rebuilt.linkable_iff (h : Rebuilt fc₀ ns fills fc) {p : PortRef} :
    Linkable fc p ↔ Linkable fc₀ p := by
  have hcache : (fc.portCache p).nodeGuid = (fc₀.portCache p).nodeGuid ∧
      (fc.portCache p).remoteportFlag = (fc₀.portCache p).remoteportFlag ∧
      (fc.portCache p).remoteportCacheKey = (fc₀.portCache p).remoteportCacheKey := by
    rw [h.portCache p]
    exact ⟨rfl, rfl, rfl⟩
  have hlids : (fc.fabric.port p).baseLid = (fc₀.fabric.port p).baseLid ∧
      (fc.fabric.port p).lmc = (fc₀.fabric.port p).lmc := by
    rw [h.port p]
    exact ⟨rfl, rfl⟩
  constructor
  · rintro ⟨howner, hremote, hends⟩
    rw [hcache.1, h.findNode] at howner
    rw [hcache.2.1, hcache.2.2, h.findPort] at hremote
    rw [hlids.1, hlids.2] at hends
    exact ⟨howner, hremote, hends⟩
  · rintro ⟨howner, hremote, hends⟩
    constructor
    · rw [hcache.1, h.findNode]
      exact howner
    · rw [hcache.2.1, hcache.2.2, h.findPort]
      exact hremote
    · rw [hlids.1, hlids.2]
      exact hends

end Rebuilt

section Relinking
variable {nrs : List NodeRecord} {prs : List PortRecord} {fc fc' : FabricCache} {n : NodeRef}

/-- What `_rebuild_nodes` leaves behind. -/
theorem Stored.rebuildNodes (hs : Stored nrs prs fc) (n : NodeRef) {fc₁ : FabricCache}
    (hok : (fc.withFromNode n).rebuildNodes = .ok fc₁) : Fillable fc fc.nodesCache ∧
      Rebuilt (fc.withFromNode n) fc.nodesCache.reverse
        (nodeFills fc.keyPorts fc.nodesCache) fc₁ := by
  have hdistinct : fc.nodesCache.Nodup := by
    rw [hs.nodesCache]
    exact List.nodup_reverse.mpr List.nodup_range
  have hlt : ∀ key p, (fc.withFromNode n).findPort key = some p →
      p < (fc.withFromNode n).fabric.portCount := fun key p hp => hs.findPort_lt hp
  have hfill : Fillable (fc.withFromNode n) fc.nodesCache :=
    ((Rebuilt.start hs n).rebuildNodes_iff hdistinct hlt).mp ⟨fc₁, hok⟩
  refine ⟨⟨hfill.found, hfill.fits, hfill.once⟩, ?_⟩
  have hall : ∀ m ∈ fc.nodesCache, ∀ p ∈ (fc.withFromNode n).keyPorts m,
      p < (fc.withFromNode n).fabric.portCount := by
    intro m _ p hp
    obtain ⟨key, -, hkey⟩ := List.mem_filterMap.mp hp
    exact hlt key p hkey
  obtain ⟨fc₂, hok', h⟩ := (Rebuilt.start hs n).rebuildNodes (by rwa [List.append_nil])
    hfill.found hall hfill.fits (by simpa using hfill.once)
  cases hok.symm.trans hok'
  rw [List.append_nil, List.append_nil] at h
  exact h

theorem linkable_withFromNode {p : PortRef} : Linkable (fc.withFromNode n) p ↔ Linkable fc p :=
  ⟨fun ⟨howner, hremote, hlids⟩ => ⟨howner, hremote, hlids⟩,
    fun ⟨howner, hremote, hlids⟩ => ⟨howner, hremote, hlids⟩⟩

theorem relink_of_fromNode (hn : fc.findNode fc.fromNodeGuid = some n) :
    fc.relink = (fc.withFromNode n).rebuildNodes >>= rebuildPorts := by
  unfold relink
  rw [hn]

/-- A file is rebuilt into a fabric exactly if its records are consistent. -/
theorem relink_iff_consistent (h : HeaderRecord) (nrs : List NodeRecord) (prs : List PortRecord) :
    (∃ fc, (ofRecords h nrs prs).relink = .ok fc) ↔ Consistent h nrs prs := by
  have hs := stored_ofRecords h nrs prs
  have hguid := (ofRecords_header h nrs prs).1
  generalize ofRecords h nrs prs = fc at hs hguid ⊢
  have hfrom : (fc.findNode fc.fromNodeGuid).isSome ↔ ∃ r ∈ nrs, r.guid = h.fromNodeGuid := by
    rw [hs.findNode_nodeAt, hguid, nodeAt, Numbered.last_isSome_iff]
  have hlinks : (∀ p ∈ fc.portsCache, Linkable fc p) ↔
      ∀ q ∈ prs, (∃ r ∈ nrs, r.guid = q.nodeGuid) ∧
        (q.remoteportFlag ≠ 0 → ∃ q' ∈ prs, q'.key = q.remoteportCacheKey) ∧
          LidsEnd q.baseLid q.lmc := by
    have hmem : ∀ p, p ∈ fc.portsCache ↔ p ∈ List.range prs.length := by
      intro p
      rw [hs.portsCache, List.mem_reverse]
    simp only [hmem]
    exact Numbered.forall_range fun p q hq => hs.linkable_iff hq
  constructor
  · rintro ⟨fc', hok⟩
    have hsome : (fc.findNode fc.fromNodeGuid).isSome := by
      by_contra hnone
      unfold relink at hok
      rw [Option.not_isSome_iff_eq_none.mp hnone] at hok
      cases hok
    obtain ⟨n, hn⟩ := Option.isSome_iff_exists.mp hsome
    rw [relink_of_fromNode hn] at hok
    obtain ⟨fc₁, hnodes, hports⟩ := bind_eq_ok.mp hok
    obtain ⟨hfill, hbuilt⟩ := hs.rebuildNodes n hnodes
    obtain ⟨hfound, hfits, honce⟩ := hs.fillable_iff.mp hfill
    have hall := rebuildPorts_iff.1.mp ⟨fc', hports⟩
    rw [hbuilt.portsCache] at hall
    have hrecords := hlinks.mp fun p hp =>
      linkable_withFromNode.mp (hbuilt.linkable_iff.mp (hall p hp))
    exact ⟨hfrom.mp hsome, hfound, hfits, honce, fun q hq => (hrecords q hq).1,
      fun q hq => (hrecords q hq).2.1, fun q hq => (hrecords q hq).2.2⟩
  · intro hc
    obtain ⟨n, hn⟩ := Option.isSome_iff_exists.mp (hfrom.mpr hc.fromNode)
    have hfill := hs.fillable_iff.mpr ⟨hc.found, hc.fits, hc.once⟩
    have hdistinct : fc.nodesCache.Nodup := by
      rw [hs.nodesCache]
      exact List.nodup_reverse.mpr List.nodup_range
    obtain ⟨fc₁, hnodes⟩ := ((Rebuilt.start hs n).rebuildNodes_iff hdistinct
      fun key p hp => hs.findPort_lt hp).mpr ⟨hfill.found, hfill.fits, hfill.once⟩
    obtain ⟨-, hbuilt⟩ := hs.rebuildNodes n hnodes
    have hall : ∀ p ∈ fc₁.portsCache, Linkable fc₁ p := by
      intro p hp
      rw [hbuilt.portsCache] at hp
      exact hbuilt.linkable_iff.mpr (linkable_withFromNode.mpr (hlinks.mpr
        (fun q hq => ⟨hc.owners q hq, hc.remotes q hq, hc.lids q hq⟩) p hp))
    obtain ⟨fc', hports⟩ := rebuildPorts_iff.1.mpr hall
    refine ⟨fc', ?_⟩
    rw [relink_of_fromNode hn]
    exact bind_eq_ok.mpr ⟨fc₁, hnodes, hports⟩

end Relinking
end FabricCache
end InfinibandDiags
