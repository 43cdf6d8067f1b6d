import InfinibandDiags.Cache.Consistent

/-! What the fabric looks like that `ibnd_load_fabric` rebuilds from the records of a file. -/
namespace InfinibandDiags
open Fabric (entersLid)

/-- The port in a slot is the one that the last key with the number names. -/
def NodeRecord.slots (prs : List PortRecord) (r : NodeRecord) (k : Nat) : Option PortRef :=
  (r.portCacheKeys.reverse.find? fun key => key.portnum.toNat = k).bind (portAt prs)

def PortRecord.remote (prs : List PortRecord) (q : PortRecord) : Option PortRef :=
  if q.remoteportFlag ≠ 0 then portAt prs q.remoteportCacheKey else none

/-- The fabric is what the records say. The nodes and the ports are numbered as in the file. -/
structure Loaded (h : HeaderRecord) (nrs : List NodeRecord) (prs : List PortRecord) (f : Fabric) :
    Prop where
  nodes : f.nodes = List.range nrs.length
  switches : f.switches = f.nodes.filter fun n => (f.node n).type = ibNodeSwitch
  chAdapters : f.chAdapters = f.nodes.filter fun n => (f.node n).type = ibNodeCa
  routers : f.routers = f.nodes.filter fun n => (f.node n).type = ibNodeRouter
  node : ∀ i r, nrs[i]? = some r → f.node i = { r.node with ports := r.slots prs }
  port : ∀ i q, prs[i]? = some q → ∃ n htnext, nodeAt nrs q.nodeGuid = some n ∧
    f.port i = { q.port with node := n, remoteport := q.remote prs, htnext }
  fromNode : f.fromNode = nodeAt nrs h.fromNodeGuid
  maxhops : f.maxhopsDiscovered = h.maxhopsDiscovered
  byGuid : ∀ guid, f.ibndFindNodeGuid guid = f.nodes.find? fun n => (f.node n).guid = guid
  hashed : f.Hashed
  members : ∀ p, p ∈ f.hashed ↔ ∃ r ∈ nrs, ∃ key ∈ r.portCacheKeys, portAt prs key = some p
  lids : ∀ key : UInt32, f.lid2guid.lookup key =
    (List.range prs.length).reverse.find? fun p => entersLid (f.port p) key.toNat

namespace FabricCache

section Fills
variable {fc : FabricCache} {portsOf : NodeRef → List PortRef}

theorem findSome?_of_single {α β : Type} {g : α → Option β} {l : List α} {a : α} (ha : a ∈ l)
    (hother : ∀ b, b ≠ a → g b = none) : l.findSome? g = g a := by
  induction l with
  | nil => cases ha
  | cons b l ih =>
      rw [List.findSome?_cons]
      by_cases hb : b = a
      · subst hb
        cases hg : g b with
        | some c => rfl
        | none =>
            rw [List.findSome?_eq_none_iff]
            intro c _
            by_cases hc : c = b
            · rw [hc, hg]
            · exact hother c hc
      · rw [hother b hb]
        exact ih ((List.mem_cons.mp ha).resolve_left fun heq => hb heq.symm)

theorem lastFill_nodeFills {todo : List NodeRef} {n : NodeRef} (hn : n ∈ todo) (k : Nat) :
    fc.lastFill (nodeFills portsOf todo) n k =
      (portsOf n).reverse.find? fun p => (fc.fabric.port p).portnum = k := by
  have hblock : ∀ m, ((portsOf m).map fun p => (m, p)).reverse.find?
      (fun x => x.1 = n && (fc.fabric.port x.2).portnum = k) =
        if m = n then ((portsOf m).reverse.find? fun p => (fc.fabric.port p).portnum = k).map
          fun p => (m, p) else none := by
    intro m
    rw [← List.map_reverse, List.find?_map]
    by_cases hm : m = n
    · simp only [hm, if_true, Function.comp_def, decide_true, Bool.true_and]
    · simp only [hm, if_false, Function.comp_def, decide_false, Bool.false_and]
      rw [List.find?_eq_none.mpr (fun _ _ => Bool.false_ne_true), Option.map_none]
  unfold lastFill nodeFills
  rw [List.find?_flatMap]
  simp only [hblock]
  rw [findSome?_of_single (List.mem_reverse.mpr hn) fun m hm => if_neg hm, if_pos rfl,
    Option.map_map]
  exact Option.map_id'

theorem mem_fills {todo : List NodeRef} {p : PortRef} :
    p ∈ (nodeFills portsOf todo).map Prod.snd ↔ ∃ n ∈ todo, p ∈ portsOf n := by
  unfold nodeFills
  rw [List.map_flatMap, List.mem_flatMap]
  apply exists_congr
  intro n
  rw [map_snd_fills, List.mem_reverse, List.mem_reverse]

end Fills

section Loading
variable {h : HeaderRecord} {nrs : List NodeRecord} {prs : List PortRecord} {fc fc' : FabricCache}
  {n : NodeRef}

/-- The slots of a node after `_rebuild_nodes`. -/
theorem Stored.lastFill_slots (hs : Stored nrs prs fc) (hfill : Fillable fc fc.nodesCache)
    {i : NodeRef} {r : NodeRecord} (hr : nrs[i]? = some r) (k : Nat) :
    fc.lastFill (nodeFills fc.keyPorts fc.nodesCache) i k = r.slots prs k := by
  have hi : i ∈ fc.nodesCache := by
    rw [hs.nodesCache, List.mem_reverse, List.mem_range]
    exact (List.getElem?_eq_some_iff.mp hr).1
  have hall := Numbered.map_eq_some_iff.mp (hfill.found i hi)
  rw [(hs.node i r hr).2] at hall
  rw [lastFill_nodeFills hi, hs.keyPorts_eq hr, ← List.filterMap_reverse, List.find?_filterMap,
    NodeRecord.slots]
  congr 1
  apply find?_congr
  intro key hkey
  obtain ⟨p, hp⟩ := Option.isSome_iff_exists.mp (hall key (List.mem_reverse.mp hkey))
  rw [← hs.findPort_portAt, hp, Option.any_some, hs.findPort_portnum hp]

theorem relink_ok (hok : fc.relink = .ok fc') :
    ∃ n fc₁, fc.findNode fc.fromNodeGuid = some n ∧
      (fc.withFromNode n).rebuildNodes = .ok fc₁ ∧ fc₁.rebuildPorts = .ok fc' := by
  cases hn : fc.findNode fc.fromNodeGuid with
  | none =>
      unfold relink at hok
      rw [hn] at hok
      cases hok
  | some n =>
      rw [relink_of_fromNode hn] at hok
      obtain ⟨fc₁, hnodes, hports⟩ := bind_eq_ok.mp hok
      exact ⟨n, fc₁, rfl, hnodes, hports⟩

/-- What `relink` leaves behind is what the records say. -/
theorem loaded_of_relink (hok : (ofRecords h nrs prs).relink = .ok fc') :
    Loaded h nrs prs fc'.fabric ∧
      ∀ i q, prs[i]? = some q → fc'.extPortnum i = q.extPortnum.toNat := by
  have hs := stored_ofRecords h nrs prs
  obtain ⟨hguid, hhops⟩ := ofRecords_header h nrs prs
  generalize ofRecords h nrs prs = fc at hs hguid hhops hok
  obtain ⟨n, fc₁, hn, hnodes, hports⟩ := relink_ok hok
  obtain ⟨hfill, hb⟩ := hs.rebuildNodes n hnodes
  have hlinks : Relinked fc₁ fc₁.portsCache fc' := rebuildPorts_iff.2 fc' hports
  have hrange : fc.nodesCache.reverse = List.range nrs.length := by
    rw [hs.nodesCache, List.reverse_reverse]
  have hnodelist : fc'.fabric.nodes = fc₁.fabric.nodes := by rw [hlinks.rest]
  have hnodeof : fc'.fabric.node = fc₁.fabric.node := by rw [hlinks.rest]
  have hkind : ∀ m, (fc'.fabric.node m).type = (fc.fabric.node m).type := by
    intro m
    rw [hnodeof, hb.node m]
    rfl
  have hguids : ∀ m, (fc'.fabric.node m).guid = (fc.fabric.node m).guid := by
    intro m
    rw [hnodeof, hb.node m]
    rfl
  have hnodesEq : fc'.fabric.nodes = List.range nrs.length := by
    rw [hnodelist, hb.nodes, hrange]
  refine ⟨?_, ?_⟩
  · constructor
    case nodes => exact hnodesEq
    case switches =>
      have hlist : fc'.fabric.switches = fc₁.fabric.switches := by rw [hlinks.rest]
      simp only [hkind]
      rw [hlist, hb.switches, hnodesEq, hrange]
      rfl
    case chAdapters =>
      have hlist : fc'.fabric.chAdapters = fc₁.fabric.chAdapters := by rw [hlinks.rest]
      simp only [hkind]
      rw [hlist, hb.chAdapters, hnodesEq, hrange]
      rfl
    case routers =>
      have hlist : fc'.fabric.routers = fc₁.fabric.routers := by rw [hlinks.rest]
      simp only [hkind]
      rw [hlist, hb.routers, hnodesEq, hrange]
      rfl
    case node =>
      intro i r hr
      have hslots : (fc'.fabric.node i).ports = r.slots prs := by
        funext k
        rw [hnodeof, hb.ports]
        exact hs.lastFill_slots hfill hr k
      have hrecord : (fc.withFromNode n).fabric.node i = r.node := (hs.node i r hr).1
      rw [← hslots, hnodeof, hb.node i, hrecord]
    case port =>
      intro i q hq
      obtain ⟨hport, hcache, -⟩ := hs.port i q hq
      have hmem : i ∈ fc₁.portsCache := by
        rw [hb.portsCache]
        change i ∈ fc.portsCache
        rw [hs.portsCache, List.mem_reverse, List.mem_range]
        exact (List.getElem?_eq_some_iff.mp hq).1
      obtain ⟨hnode, hremote⟩ := hlinks.linked i hmem
      have hcache₁ : (fc₁.portCache i).nodeGuid = q.nodeGuid ∧
          (fc₁.portCache i).remoteportFlag = q.remoteportFlag ∧
          (fc₁.portCache i).remoteportCacheKey = q.remoteportCacheKey := by
        have hsame : (fc.withFromNode n).portCache i = fc.portCache i := rfl
        rw [hb.portCache i, hsame, hcache]
        exact ⟨rfl, rfl, rfl⟩
      have hfind : fc₁.findNode q.nodeGuid = nodeAt nrs q.nodeGuid :=
        (hb.findNode _).trans (hs.findNode_nodeAt _)
      have hkey : fc₁.findPort q.remoteportCacheKey = portAt prs q.remoteportCacheKey :=
        (hb.findPort _).trans (hs.findPort_portAt _)
      refine ⟨(fc'.fabric.port i).node, (fc'.fabric.port i).htnext, ?_, ?_⟩
      · rw [← hfind, ← hcache₁.1]
        exact hnode
      · have hlink : q.remote prs = (fc'.fabric.port i).remoteport := by
          rw [hremote, namedRemote, hcache₁.2.1, hcache₁.2.2, hkey]
          rfl
        have hrecord : (fc.withFromNode n).fabric.port i = q.port := hport
        rw [hlink, hlinks.port i, hb.port i, hrecord]
    case fromNode =>
      have hfrom : fc'.fabric.fromNode = fc₁.fabric.fromNode := by rw [hlinks.rest]
      rw [hfrom, hb.fromNode, ← hguid, ← hs.findNode_nodeAt, hn]
      rfl
    case maxhops =>
      have hmax : fc'.fabric.maxhopsDiscovered = fc₁.fabric.maxhopsDiscovered := by
        rw [hlinks.rest]
      rw [hmax, hb.maxhops, ← hhops]
      rfl
    case byGuid =>
      intro guid
      have htbl : fc'.fabric.nodestbl = fc₁.fabric.nodestbl := by rw [hlinks.rest]
      unfold Fabric.ibndFindNodeGuid
      simp only [hguids]
      rw [htbl, hb.nodestbl, hnodelist, hb.nodes]
      exact find?_filter_key fun m hm => congrArg hashguid (of_decide_eq_true hm)
    case hashed =>
      refine hb.hashed.congr ⟨?_, ?_, ?_, ?_, ?_⟩
      · funext p
        change (fc'.fabric.port p).htnext = (fc₁.fabric.port p).htnext
        rw [hlinks.port p]
      · rw [hlinks.rest]
      · funext p
        change hashguid (fc'.fabric.port p).guid = hashguid (fc₁.fabric.port p).guid
        rw [hlinks.port p]
      · rw [hlinks.rest]
      · rw [hlinks.rest]
    case members =>
      intro p
      have hhashed : fc'.fabric.hashed = fc₁.fabric.hashed := by rw [hlinks.rest]
      rw [hhashed, hb.members, mem_fills, ← List.reverse_reverse fc.nodesCache, hrange]
      constructor
      · rintro ⟨m, hm, hp⟩
        rw [List.mem_reverse, List.mem_range] at hm
        have hr := List.getElem?_eq_getElem hm
        rw [hs.keyPorts_eq hr] at hp
        obtain ⟨key, hkey, hp⟩ := List.mem_filterMap.mp hp
        exact ⟨_, List.mem_of_getElem? hr, key, hkey, hp⟩
      · rintro ⟨r, hr, key, hkey, hp⟩
        obtain ⟨m, hm⟩ := List.mem_iff_getElem?.mp hr
        refine ⟨m, ?_, ?_⟩
        · rw [List.mem_reverse, List.mem_range]
          exact (List.getElem?_eq_some_iff.mp hm).1
        · rw [hs.keyPorts_eq hm]
          exact List.mem_filterMap.mpr ⟨key, hkey, hp⟩
    case lids =>
      intro key
      have hempty : fc₁.fabric.lid2guid = ∅ :=
        hb.lids.trans (congrArg Fabric.lid2guid hs.bare)
      have hcache : fc₁.portsCache = (List.range prs.length).reverse :=
        hb.portsCache.trans hs.portsCache
      have hsame : ∀ p, entersLid (fc₁.fabric.port p) key.toNat =
          entersLid (fc'.fabric.port p) key.toNat := by
        intro p
        unfold entersLid
        rw [hlinks.port p]
      rw [hlinks.lids, hempty, hcache]
      simp only [hsame]
      rfl
  · intro i q hq
    have hext : fc'.extPortnum = fc₁.extPortnum := by rw [hlinks.rest]
    rw [hext, hb.extPortnum]
    exact (hs.port i q hq).2.2

/-- The part of `ibnd_load_fabric` before `group_nodes`. -/
def load (file : Bytes) : LoadM FabricCache := readFile file >>= relink

theorem ibndLoadFabric_eq (file : Bytes) : ibndLoadFabric file = load file >>= groupLoaded := by
  unfold ibndLoadFabric load
  rw [bind_assoc]
  exact congrArg (readFile file >>= ·) (funext rebuild_eq)

theorem loaded_of_records {file : Bytes} {fc : FabricCache} (hf : HoldsRecords file h nrs prs)
    (hok : load file = .ok fc) : Consistent h nrs prs ∧ Loaded h nrs prs fc.fabric := by
  rw [load, readFile_of_records hf] at hok
  exact ⟨(relink_iff_consistent h nrs prs).mp ⟨fc, hok⟩, (loaded_of_relink hok).1⟩

/-- A file is accepted, up to `group_nodes`, exactly if its records are consistent, and the fabric
is then what they say. -/
theorem load_spec (file : Bytes) :
    ((∃ fc, load file = .ok fc) ↔
      ∃ h nrs prs, HoldsRecords file h nrs prs ∧ Consistent h nrs prs) ∧
    ∀ fc, load file = .ok fc → ∃ h nrs prs, HoldsRecords file h nrs prs ∧
      Consistent h nrs prs ∧ Loaded h nrs prs fc.fabric := by
  have hspec : ∀ fc, load file = .ok fc → ∃ h nrs prs, HoldsRecords file h nrs prs ∧
      Consistent h nrs prs ∧ Loaded h nrs prs fc.fabric := by
    intro fc hok
    obtain ⟨fc₀, hread, hlink⟩ := bind_eq_ok.mp hok
    obtain ⟨h, nrs, prs, hrecords, rfl⟩ := records_of_readFile hread
    exact ⟨h, nrs, prs, hrecords, (relink_iff_consistent h nrs prs).mp ⟨fc, hlink⟩,
      (loaded_of_relink hlink).1⟩
  refine ⟨⟨?_, ?_⟩, hspec⟩
  · rintro ⟨fc, hok⟩
    obtain ⟨h, nrs, prs, hrecords, hc, -⟩ := hspec fc hok
    exact ⟨h, nrs, prs, hrecords, hc⟩
  · rintro ⟨h, nrs, prs, hrecords, hc⟩
    obtain ⟨fc, hlink⟩ := (relink_iff_consistent h nrs prs).mpr hc
    exact ⟨fc, bind_eq_ok.mpr ⟨_, readFile_of_records hrecords, hlink⟩⟩

end Loading
end FabricCache
end InfinibandDiags
