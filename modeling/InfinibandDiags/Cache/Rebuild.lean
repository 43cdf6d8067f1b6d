import InfinibandDiags.Cache.Records
import InfinibandDiags.Discover.PortTable
import InfinibandDiags.Library.Folds

/-! What `_rebuild_nodes` and `_rebuild_ports` make of the caches, round by round. -/
namespace InfinibandDiags
namespace FabricCache
open Fabric

/-- What rebuilding leaves as it was: the caches, their tables, and all of the nodes and ports but
their links. -/
structure Kept (fc fc' : FabricCache) : Prop where
  nodescachetbl : fc'.nodescachetbl = fc.nodescachetbl
  portscachetbl : fc'.portscachetbl = fc.portscachetbl
  nodesCache : fc'.nodesCache = fc.nodesCache
  portsCache : fc'.portsCache = fc.portsCache
  extPortnum : fc'.extPortnum = fc.extPortnum
  nodeCount : fc'.fabric.nodeCount = fc.fabric.nodeCount
  portCount : fc'.fabric.portCount = fc.fabric.portCount
  fromNode : fc'.fabric.fromNode = fc.fabric.fromNode
  maxhops : fc'.fabric.maxhopsDiscovered = fc.fabric.maxhopsDiscovered
  node : ∀ n, fc'.fabric.node n = { fc.fabric.node n with ports := (fc'.fabric.node n).ports }
  port : ∀ p, fc'.fabric.port p = { fc.fabric.port p with
    node := (fc'.fabric.port p).node
    remoteport := (fc'.fabric.port p).remoteport
    htnext := (fc'.fabric.port p).htnext }
  keys : ∀ n, (fc'.nodeCache n).portCacheKeys = (fc.nodeCache n).portCacheKeys
  portCache : ∀ p, fc'.portCache p =
    { fc.portCache p with portStoredToFabric := (fc'.portCache p).portStoredToFabric }

section Kept
variable {fc fc' fc'' : FabricCache}

theorem Kept.refl (fc : FabricCache) : Kept fc fc := by
  constructor <;> first | exact fun _ => rfl | rfl

theorem Kept.trans (h : Kept fc fc') (h' : Kept fc' fc'') : Kept fc fc'' where
  nodescachetbl := h'.nodescachetbl.trans h.nodescachetbl
  portscachetbl := h'.portscachetbl.trans h.portscachetbl
  nodesCache := h'.nodesCache.trans h.nodesCache
  portsCache := h'.portsCache.trans h.portsCache
  extPortnum := h'.extPortnum.trans h.extPortnum
  nodeCount := h'.nodeCount.trans h.nodeCount
  portCount := h'.portCount.trans h.portCount
  fromNode := h'.fromNode.trans h.fromNode
  maxhops := h'.maxhops.trans h.maxhops
  node n := by rw [h'.node n, h.node n]
  port p := by rw [h'.port p, h.port p]
  keys n := (h'.keys n).trans (h.keys n)
  portCache p := by rw [h'.portCache p, h.portCache p]

theorem Kept.numports (h : Kept fc fc') (n : NodeRef) :
    (fc'.fabric.node n).numports = (fc.fabric.node n).numports := by
  rw [h.node n]

theorem Kept.portnum (h : Kept fc fc') (p : PortRef) :
    (fc'.fabric.port p).portnum = (fc.fabric.port p).portnum := by
  rw [h.port p]

theorem Kept.portGuid (h : Kept fc fc') (p : PortRef) :
    (fc'.fabric.port p).guid = (fc.fabric.port p).guid := by
  rw [h.port p]

theorem Kept.findNode (h : Kept fc fc') (guid : UInt64) : fc'.findNode guid = fc.findNode guid := by
  unfold FabricCache.findNode
  rw [h.nodescachetbl]
  congr 1
  funext n
  rw [h.node n]

theorem Kept.findPort (h : Kept fc fc') (key : PortCacheKey) :
    fc'.findPort key = fc.findPort key := by
  unfold FabricCache.findPort
  rw [h.portscachetbl]
  congr 1
  funext p
  rw [h.portGuid, h.portnum]

end Kept

theorem addToNodeguidHash_keeps (f : Fabric) (n : NodeRef) :
    (f.addToNodeguidHash n).2 = { f with nodestbl := (f.addToNodeguidHash n).2.nodestbl } := by
  unfold addToNodeguidHash
  dsimp only
  split <;> rfl

theorem addToTypeList_keeps (f : Fabric) (n : NodeRef) :
    f.addToTypeList n = { f with
      switches := if (f.node n).type = ibNodeSwitch then n :: f.switches else f.switches
      chAdapters := if (f.node n).type = ibNodeCa then n :: f.chAdapters else f.chAdapters
      routers := if (f.node n).type = ibNodeRouter then n :: f.routers else f.routers } := by
  have hca : ibNodeCa ≠ ibNodeSwitch := by decide
  have hrouter : ibNodeCa ≠ ibNodeRouter := by decide
  have hswitch : ibNodeSwitch ≠ ibNodeRouter := by decide
  unfold addToTypeList
  by_cases h₁ : (f.node n).type = ibNodeCa
  · simp [h₁, hca, hrouter]
  · by_cases h₂ : (f.node n).type = ibNodeSwitch
    · simp [h₂, hca.symm, hswitch]
    · by_cases h₃ : (f.node n).type = ibNodeRouter
      · simp [h₃, hrouter.symm, hswitch.symm]
      · simp [h₁, h₂, h₃]

theorem addToPortguidHash_keeps {f f' : Fabric} {p : PortRef} {rc : Int}
    (h : f.addToPortguidHash p = .ok (rc, f')) :
    f' = { f with port := f'.port, portstbl := f'.portstbl, hashed := f'.hashed } ∧
      ∀ q, f'.port q = { f.port q with htnext := (f'.port q).htnext } := by
  obtain ⟨dup, -, rfl⟩ := addToPortguidHash_ok h
  cases dup with
  | true => exact ⟨rfl, fun _ => rfl⟩
  | false =>
      refine ⟨rfl, fun q => ?_⟩
      by_cases hq : q = p
      · simp [Fabric.modifyPort, hq]
      · simp [Fabric.modifyPort, hq]

/-- What the last of the fills, the last one first, has put into a slot. -/
def lastFill (fc : FabricCache) (fills : List (NodeRef × PortRef)) (n : NodeRef) (k : Nat) :
    Option PortRef :=
  (fills.find? fun x => x.1 = n && (fc.fabric.port x.2).portnum = k).map Prod.snd

theorem lastFill_cons (fc : FabricCache) (fills : List (NodeRef × PortRef)) (n m : NodeRef)
    (p : PortRef) (k : Nat) : fc.lastFill ((n, p) :: fills) m k =
      if m = n ∧ k = (fc.fabric.port p).portnum then some p else fc.lastFill fills m k := by
  unfold lastFill
  rw [List.find?_cons]
  by_cases h : m = n ∧ k = (fc.fabric.port p).portnum
  · simp [h.1, h.2]
  · rw [if_neg h]
    have hno : (decide (n = m) && decide ((fc.fabric.port p).portnum = k)) = false := by
      rw [Bool.and_eq_false_iff, decide_eq_false_iff_not, decide_eq_false_iff_not]
      by_contra hboth
      rw [not_or, not_not, not_not] at hboth
      exact h ⟨hboth.1.symm, hboth.2.symm⟩
    rw [hno]

theorem lastFill_eq_some {fc : FabricCache} {fills : List (NodeRef × PortRef)} {n : NodeRef}
    {k : Nat} {p : PortRef} (h : fc.lastFill fills n k = some p) :
    (n, p) ∈ fills ∧ (fc.fabric.port p).portnum = k := by
  obtain ⟨x, hx, rfl⟩ := Option.map_eq_some_iff.mp h
  have hp := List.find?_some hx
  rw [Bool.and_eq_true, decide_eq_true_eq, decide_eq_true_eq] at hp
  obtain ⟨rfl, hk⟩ := hp
  exact ⟨List.mem_of_find?_eq_some hx, hk⟩

/-- The state of `_rebuild_nodes` once the nodes `ns` are in the fabric and the slots are filled
as in `fills`. -/
structure Rebuilt (fc₀ : FabricCache) (ns : List NodeRef) (fills : List (NodeRef × PortRef))
    (fc : FabricCache) : Prop extends Kept fc₀ fc where
  nodes : fc.fabric.nodes = ns
  switches : fc.fabric.switches = ns.filter fun n => (fc₀.fabric.node n).type = ibNodeSwitch
  chAdapters : fc.fabric.chAdapters = ns.filter fun n => (fc₀.fabric.node n).type = ibNodeCa
  routers : fc.fabric.routers = ns.filter fun n => (fc₀.fabric.node n).type = ibNodeRouter
  nodestbl : ∀ idx, fc.fabric.nodestbl idx =
    ns.filter fun n => hashguid (fc₀.fabric.node n).guid = idx
  nodeStored : ∀ n, (fc.nodeCache n).nodeStoredToFabric = true ↔ n ∈ ns
  portStored : ∀ p, (fc.portCache p).portStoredToFabric = true ↔ p ∈ fills.map Prod.snd
  nodup : (fills.map Prod.snd).Nodup
  stored : ∀ x ∈ fills, x.1 ∈ ns
  fits : ∀ x ∈ fills, (fc₀.fabric.port x.2).portnum ≤ (fc₀.fabric.node x.1).numports
  ports : ∀ n k, (fc.fabric.node n).ports k = fc₀.lastFill fills n k
  hashed : fc.fabric.Hashed
  members : fc.fabric.hashed = fills.map Prod.snd
  lids : fc.fabric.lid2guid = fc₀.fabric.lid2guid
  links : ∀ p, (fc.fabric.port p).node = (fc₀.fabric.port p).node ∧
    (fc.fabric.port p).remoteport = (fc₀.fabric.port p).remoteport

section Rebuilt
variable {nrs : List NodeRecord} {prs : List PortRecord} {fc₀ fc : FabricCache}
  {ns : List NodeRef} {fills : List (NodeRef × PortRef)} {n : NodeRef}

/-- The cache once the from node is found. -/
def withFromNode (fc : FabricCache) (n : NodeRef) : FabricCache :=
  { fc with fabric := { fc.fabric with fromNode := some n } }

/-- Where `_rebuild_nodes` starts. -/
theorem Rebuilt.start (hs : Stored nrs prs fc) (n : NodeRef) :
    Rebuilt (fc.withFromNode n) [] [] (fc.withFromNode n) where
  toKept := Kept.refl _
  nodes := congrArg Fabric.nodes hs.bare
  switches := congrArg Fabric.switches hs.bare
  chAdapters := congrArg Fabric.chAdapters hs.bare
  routers := congrArg Fabric.routers hs.bare
  nodestbl idx := congrFun (congrArg Fabric.nodestbl hs.bare) idx
  nodeStored m := by simp [withFromNode, hs.unstored.1]
  portStored p := by simp [withFromNode, hs.unstored.2]
  nodup := List.nodup_nil
  stored x hx := absurd hx List.not_mem_nil
  fits x hx := absurd hx List.not_mem_nil
  ports := hs.noPorts
  hashed := by
    have htbl : (fc.withFromNode n).fabric.portstbl = fun _ => none :=
      congrArg Fabric.portstbl hs.bare
    have hnone : (fc.withFromNode n).fabric.hashed = [] := congrArg Fabric.hashed hs.bare
    unfold Hashed
    rw [htbl, hnone]
    exact ⟨⟨_, (Buckets.empty _ _).congr (by simp) (fun _ _ => rfl) fun _ _ => rfl⟩, by simp⟩
  members := congrArg Fabric.hashed hs.bare
  lids := rfl
  links _ := ⟨rfl, rfl⟩

/-- The nodes of a bucket, with a node that is in none. -/
theorem addToNodeguidHash_nodestbl (f : Fabric) {n : NodeRef}
    (hn : n ∉ f.nodestbl (hashguid (f.node n).guid)) (idx : Nat) :
    (f.addToNodeguidHash n).2.nodestbl idx =
      if hashguid (f.node n).guid = idx then n :: f.nodestbl idx else f.nodestbl idx := by
  unfold addToNodeguidHash
  dsimp only
  rw [if_neg hn]
  by_cases hidx : hashguid (f.node n).guid = idx
  · simp [hidx]
  · simp [hidx, Ne.symm hidx]

theorem storeNode_fabric (fc : FabricCache) (n : NodeRef) :
    ∃ nodestbl, nodestbl = (fc.fabric.addToNodeguidHash n).2.nodestbl ∧
      (fc.storeNode n).fabric = { fc.fabric with
      node := setAt fc.fabric.node n { fc.fabric.node n with ports := fun _ => none }
      nodes := n :: fc.fabric.nodes
      switches := if (fc.fabric.node n).type = ibNodeSwitch then n :: fc.fabric.switches
        else fc.fabric.switches
      chAdapters := if (fc.fabric.node n).type = ibNodeCa then n :: fc.fabric.chAdapters
        else fc.fabric.chAdapters
      routers := if (fc.fabric.node n).type = ibNodeRouter then n :: fc.fabric.routers
        else fc.fabric.routers
      nodestbl } := by
  have htbl : ({ fc.fabric with nodes := n :: fc.fabric.nodes }.addToNodeguidHash n).2.nodestbl =
      (fc.fabric.addToNodeguidHash n).2.nodestbl := by
    unfold addToNodeguidHash
    dsimp only
    split <;> rfl
  refine ⟨_, rfl, ?_⟩
  unfold storeNode
  dsimp only
  rw [addToTypeList_keeps, addToNodeguidHash_keeps, htbl]
  rfl

theorem Rebuilt.storeNode (h : Rebuilt fc₀ ns fills fc) (hn : n ∉ ns) :
    Rebuilt fc₀ (n :: ns) fills (fc.storeNode n) := by
  obtain ⟨nodestbl, htbl, hf⟩ := storeNode_fabric fc n
  have htype : (fc.fabric.node n).type = (fc₀.fabric.node n).type := by rw [h.node n]
  have hempty : ∀ k, fc₀.lastFill fills n k = none := by
    intro k
    cases hk : fc₀.lastFill fills n k with
    | none => rfl
    | some p => exact absurd (h.stored _ (lastFill_eq_some hk).1) hn
  have hnode : ∀ m, (fc.storeNode n).fabric.node m =
      { fc.fabric.node m with ports := ((fc.storeNode n).fabric.node m).ports } := by
    intro m
    rw [hf]
    by_cases hm : m = n
    · simp [hm]
    · simp [hm]
  have hself : (fc.storeNode n).nodeCache n =
      { fc.nodeCache n with nodeStoredToFabric := true } := if_pos rfl
  have hother : ∀ m, m ≠ n → (fc.storeNode n).nodeCache m = fc.nodeCache m :=
    fun m hm => if_neg hm
  have hkept : Kept fc (fc.storeNode n) := by
    constructor
    case node => exact hnode
    case port => exact fun p => by rw [hf]
    case keys =>
      intro m
      by_cases hm : m = n
      · rw [hm, hself]
      · rw [hother m hm]
    case portCache => exact fun _ => rfl
    all_goals first | rfl | rw [hf]
  constructor
  case toKept => exact h.toKept.trans hkept
  case nodes => rw [hf, h.nodes]
  case switches =>
    rw [hf, List.filter_cons, htype, h.switches]
    simp
  case chAdapters =>
    rw [hf, List.filter_cons, htype, h.chAdapters]
    simp
  case routers =>
    rw [hf, List.filter_cons, htype, h.routers]
    simp
  case nodestbl =>
    intro idx
    have hguid : (fc.fabric.node n).guid = (fc₀.fabric.node n).guid := by rw [h.node n]
    have hout : n ∉ fc.fabric.nodestbl (hashguid (fc.fabric.node n).guid) := by
      rw [h.nodestbl]
      exact fun hmem => hn (List.mem_filter.mp hmem).1
    rw [hf, htbl, addToNodeguidHash_nodestbl _ hout, h.nodestbl, List.filter_cons, hguid]
    simp only [decide_eq_true_eq]
  case nodeStored =>
    intro m
    rw [List.mem_cons]
    by_cases hm : m = n
    · rw [hm, hself]
      exact iff_of_true rfl (.inl rfl)
    · rw [hother m hm, h.nodeStored]
      exact ⟨.inr, fun h => h.resolve_left hm⟩
  case portStored => exact h.portStored
  case nodup => exact h.nodup
  case stored => exact fun x hx => List.mem_cons_of_mem n (h.stored x hx)
  case fits => exact h.fits
  case ports =>
    intro m k
    rw [hf]
    by_cases hm : m = n
    · rw [hm, hempty]
      simp
    · rw [← h.ports m k]
      simp [hm]
  case hashed =>
    rw [hf]
    exact h.hashed.congr ⟨rfl, rfl, rfl, rfl, rfl⟩
  case members => rw [hf, h.members]
  case lids => rw [hf, h.lids]
  case links =>
    intro p
    rw [hf]
    exact h.links p

/-- A key that names a port which is in no slot yet, and has room in the array of the node. -/
theorem Rebuilt.fillPort (h : Rebuilt fc₀ ns fills fc) (hn : n ∈ ns) {key : PortCacheKey}
    {p : PortRef} (hp : fc₀.findPort key = some p) (hlt : p < fc₀.fabric.portCount)
    (hnew : p ∉ fills.map Prod.snd)
    (hfit : (fc₀.fabric.port p).portnum ≤ (fc₀.fabric.node n).numports) :
    ∃ fc', FabricCache.fillPort n fc key = .ok fc' ∧ Rebuilt fc₀ ns ((n, p) :: fills) fc' := by
  have hstored : ¬ (fc.portCache p).portStoredToFabric = true :=
    fun hs => hnew ((h.portStored p).mp hs)
  have hroom : ¬ (fc.fabric.node n).numports < (fc.fabric.port p).portnum := by
    rw [h.numports, h.portnum]
    exact Nat.not_lt.mpr hfit
  have htable : (fc.fabric.modifyNode n fun node =>
      { node with ports := setAt node.ports (fc.fabric.port p).portnum (some p) }).Hashed :=
    h.hashed.congr ⟨rfl, rfl, rfl, rfl, rfl⟩
  obtain ⟨rc, f', hok, hhashed, -, hmem, -⟩ :=
    htable.addToPortguidHash (p := p) (h.portCount ▸ hlt)
  obtain ⟨hf, hport⟩ := addToPortguidHash_keeps hok
  have hnode : ∀ m, f'.node m = { fc.fabric.node m with ports := (f'.node m).ports } := by
    intro m
    rw [hf]
    by_cases hm : m = n
    · simp [Fabric.modifyNode, hm]
    · simp [Fabric.modifyNode, hm]
  let fc' : FabricCache := { fc with
    fabric := f'
    portCache := setAt fc.portCache p { fc.portCache p with portStoredToFabric := true } }
  have hfabric : fc'.fabric = f' := rfl
  have hself : fc'.portCache p = { fc.portCache p with portStoredToFabric := true } := if_pos rfl
  have hother : ∀ q, q ≠ p → fc'.portCache q = fc.portCache q := fun q hq => if_neg hq
  refine ⟨fc', ?_, ?_⟩
  · rw [FabricCache.fillPort, h.findPort, hp]
    simp only [if_neg hstored, if_neg hroom, hok]
    rfl
  · have hkept : Kept fc fc' := by
      constructor
      case node => exact hnode
      case port =>
        intro q
        rw [hport q]
        rfl
      case portCache =>
        intro q
        by_cases hq : q = p
        · rw [hq, hself]
        · rw [hother q hq]
      case keys => exact fun _ => rfl
      case nodeCount =>
        rw [hfabric, hf]
        rfl
      case portCount =>
        rw [hfabric, hf]
        rfl
      case fromNode =>
        rw [hfabric, hf]
        rfl
      case maxhops =>
        rw [hfabric, hf]
        rfl
      all_goals rfl
    constructor
    case toKept => exact h.toKept.trans hkept
    case nodes =>
      rw [← h.nodes, hfabric, hf]
      rfl
    case switches =>
      rw [← h.switches, hfabric, hf]
      rfl
    case chAdapters =>
      rw [← h.chAdapters, hfabric, hf]
      rfl
    case routers =>
      rw [← h.routers, hfabric, hf]
      rfl
    case nodestbl =>
      intro idx
      rw [← h.nodestbl, hfabric, hf]
      rfl
    case nodeStored => exact h.nodeStored
    case portStored =>
      intro q
      rw [List.map_cons, List.mem_cons]
      by_cases hq : q = p
      · rw [hq, hself]
        exact iff_of_true rfl (.inl rfl)
      · rw [hother q hq, h.portStored]
        exact ⟨.inr, fun h => h.resolve_left hq⟩
    case nodup => exact List.nodup_cons.mpr ⟨hnew, h.nodup⟩
    case stored =>
      intro x hx
      rcases List.mem_cons.mp hx with rfl | hx
      · exact hn
      · exact h.stored x hx
    case fits =>
      intro x hx
      rcases List.mem_cons.mp hx with rfl | hx
      · exact hfit
      · exact h.fits x hx
    case ports =>
      intro m k
      have hm : (f'.node m).ports = ((fc.fabric.modifyNode n fun node =>
          { node with ports := setAt node.ports (fc.fabric.port p).portnum (some p) }).node
            m).ports := congrArg (fun f => (f.node m).ports) hf
      have hcell : (fc'.fabric.node m).ports k = (f'.node m).ports k := rfl
      rw [lastFill_cons, ← h.ports, hcell, hm, ← h.portnum p]
      by_cases hmn : m = n
      · simp [Fabric.modifyNode, hmn, Function.update_apply]
      · simp [Fabric.modifyNode, hmn]
    case hashed => exact hhashed
    case members =>
      rw [List.map_cons, ← h.members]
      exact hmem
    case lids =>
      rw [← h.lids, hfabric, hf]
      rfl
    case links =>
      intro q
      have hq : fc'.fabric.port q = f'.port q := rfl
      rw [hq, hport q]
      exact h.links q

/-- A key that names no port, or a port that is in a slot already. -/
theorem Rebuilt.fillPort_invalid (h : Rebuilt fc₀ ns fills fc) {key : PortCacheKey}
    (hkey : ∀ p, fc₀.findPort key = some p → p ∈ fills.map Prod.snd) :
    FabricCache.fillPort n fc key = .error (.invalid fc) := by
  unfold FabricCache.fillPort
  rw [h.findPort]
  cases hp : fc₀.findPort key with
  | none => rfl
  | some p => exact if_pos ((h.portStored p).mpr (hkey p hp))

/-- A key that names a port beyond the array of the node. -/
theorem Rebuilt.fillPort_fault (h : Rebuilt fc₀ ns fills fc) {key : PortCacheKey} {p : PortRef}
    (hp : fc₀.findPort key = some p) (hnew : p ∉ fills.map Prod.snd)
    (hfit : (fc₀.fabric.node n).numports < (fc₀.fabric.port p).portnum) :
    FabricCache.fillPort n fc key = .error (.fault .outOfBounds) := by
  have hstored : ¬ (fc.portCache p).portStoredToFabric = true :=
    fun hs => hnew ((h.portStored p).mp hs)
  unfold FabricCache.fillPort
  rw [h.findPort, hp]
  simp only [if_neg hstored, h.numports, h.portnum, if_pos hfit]

/-- The keys of a node, all of which find a port of their own. -/
theorem Rebuilt.fillPorts (h : Rebuilt fc₀ ns fills fc) (hn : n ∈ ns) {keys : List PortCacheKey}
    {ps : List PortRef} (hfind : keys.map fc₀.findPort = ps.map some)
    (hlt : ∀ p ∈ ps, p < fc₀.fabric.portCount)
    (hfits : ∀ p ∈ ps, (fc₀.fabric.port p).portnum ≤ (fc₀.fabric.node n).numports)
    (hnodup : (ps ++ fills.map Prod.snd).Nodup) :
    ∃ fc', keys.foldlM (FabricCache.fillPort n) fc = .ok fc' ∧
      Rebuilt fc₀ ns ((ps.map fun p => (n, p)).reverse ++ fills) fc' := by
  induction keys generalizing ps fills fc with
  | nil =>
      rw [List.map_nil, eq_comm, List.map_eq_nil_iff] at hfind
      rw [hfind]
      exact ⟨fc, rfl, h⟩
  | cons key keys ih =>
      cases ps with
      | nil => cases hfind
      | cons p ps =>
          rw [List.map_cons, List.map_cons, List.cons.injEq] at hfind
          rw [List.cons_append, List.nodup_cons, List.mem_append, not_or] at hnodup
          obtain ⟨fc₁, hok, h₁⟩ := h.fillPort hn hfind.1 (hlt p List.mem_cons_self) hnodup.1.2
            (hfits p List.mem_cons_self)
          have hnodup' : (ps ++ ((n, p) :: fills).map Prod.snd).Nodup := by
            rw [List.map_cons]
            exact List.nodup_middle.mpr (List.nodup_cons.mpr
              ⟨fun hmem => (List.mem_append.mp hmem).elim hnodup.1.1 hnodup.1.2, hnodup.2⟩)
          obtain ⟨fc', hrest, h'⟩ := ih h₁ hfind.2 (fun q hq => hlt q (List.mem_cons_of_mem p hq))
            (fun q hq => hfits q (List.mem_cons_of_mem p hq)) hnodup'
          refine ⟨fc', ?_, ?_⟩
          · rw [List.foldlM_cons, hok]
            exact hrest
          · rw [List.map_cons, List.reverse_cons, List.append_assoc]
            exact h'

theorem Rebuilt.rebuildNode (h : Rebuilt fc₀ ns fills fc) (hn : n ∉ ns) {ps : List PortRef}
    (hfind : (fc₀.nodeCache n).portCacheKeys.map fc₀.findPort = ps.map some)
    (hlt : ∀ p ∈ ps, p < fc₀.fabric.portCount)
    (hfits : ∀ p ∈ ps, (fc₀.fabric.port p).portnum ≤ (fc₀.fabric.node n).numports)
    (hnodup : (ps ++ fills.map Prod.snd).Nodup) :
    ∃ fc', FabricCache.rebuildNode fc n = .ok fc' ∧
      Rebuilt fc₀ (n :: ns) ((ps.map fun p => (n, p)).reverse ++ fills) fc' := by
  unfold FabricCache.rebuildNode
  rw [h.keys]
  exact (h.storeNode hn).fillPorts List.mem_cons_self hfind hlt hfits hnodup

/-- The fills that the nodes `todo` are for, the last one first, if their keys find the ports
`portsOf`. -/
def nodeFills (portsOf : NodeRef → List PortRef) (todo : List NodeRef) :
    List (NodeRef × PortRef) :=
  todo.reverse.flatMap fun n => ((portsOf n).map fun p => (n, p)).reverse

theorem nodeFills_cons (portsOf : NodeRef → List PortRef) (n : NodeRef) (todo : List NodeRef) :
    nodeFills portsOf (n :: todo) =
      nodeFills portsOf todo ++ ((portsOf n).map fun p => (n, p)).reverse := by
  simp [nodeFills]

theorem map_snd_fills (n : NodeRef) (ps : List PortRef) :
    ((ps.map fun p => (n, p)).reverse.map Prod.snd) = ps.reverse := by
  rw [List.map_reverse, List.map_map]
  congr 1
  exact List.map_id _

/-- The nodes `todo`, whose keys find the ports `portsOf`. -/
theorem Rebuilt.rebuildNodes {todo : List NodeRef} {portsOf : NodeRef → List PortRef}
    (h : Rebuilt fc₀ ns fills fc) (hdistinct : (todo ++ ns).Nodup)
    (hfind : ∀ n ∈ todo,
      (fc₀.nodeCache n).portCacheKeys.map fc₀.findPort = (portsOf n).map some)
    (hlt : ∀ n ∈ todo, ∀ p ∈ portsOf n, p < fc₀.fabric.portCount)
    (hfits : ∀ n ∈ todo, ∀ p ∈ portsOf n,
      (fc₀.fabric.port p).portnum ≤ (fc₀.fabric.node n).numports)
    (hnodup : (todo.flatMap portsOf ++ fills.map Prod.snd).Nodup) :
    ∃ fc', todo.foldlM FabricCache.rebuildNode fc = .ok fc' ∧
      Rebuilt fc₀ (todo.reverse ++ ns) (nodeFills portsOf todo ++ fills) fc' := by
  induction todo generalizing ns fills fc with
  | nil => exact ⟨fc, rfl, h⟩
  | cons n todo ih =>
      have hcons : ∀ m ∈ todo, m ∈ n :: todo := fun m hm => List.mem_cons_of_mem n hm
      rw [List.cons_append, List.nodup_cons, List.mem_append, not_or] at hdistinct
      rw [List.flatMap_cons, List.append_assoc] at hnodup
      have hhead : (portsOf n ++ fills.map Prod.snd).Nodup :=
        hnodup.sublist ((List.Sublist.refl _).append (List.sublist_append_right _ _))
      obtain ⟨fc₁, hok, h₁⟩ := h.rebuildNode hdistinct.1.2 (hfind n List.mem_cons_self)
        (hlt n List.mem_cons_self) (hfits n List.mem_cons_self) hhead
      have hdistinct' : (todo ++ n :: ns).Nodup :=
        List.nodup_middle.mpr (List.nodup_cons.mpr
          ⟨fun hmem => (List.mem_append.mp hmem).elim hdistinct.1.1 hdistinct.1.2, hdistinct.2⟩)
      have hnodup' : (todo.flatMap portsOf ++
          (((portsOf n).map fun p => (n, p)).reverse ++ fills).map Prod.snd).Nodup := by
        rw [List.map_append, map_snd_fills]
        refine (List.Perm.nodup_iff ?_).mp hnodup
        exact (List.perm_append_comm_assoc _ _ _).trans
          (((List.reverse_perm (portsOf n)).symm.append_right _).append_left _)
      obtain ⟨fc', hrest, h'⟩ := ih h₁ hdistinct' (fun m hm => hfind m (hcons m hm))
        (fun m hm => hlt m (hcons m hm)) (fun m hm => hfits m (hcons m hm)) hnodup'
      refine ⟨fc', ?_, ?_⟩
      · rw [List.foldlM_cons, hok]
        exact hrest
      · rw [List.reverse_cons, List.append_assoc, nodeFills_cons, List.append_assoc]
        exact h'

/-- A key that was filled in names a port with room that was in no slot. -/
theorem Rebuilt.of_fillPort (h : Rebuilt fc₀ ns fills fc) {key : PortCacheKey} {fc' : FabricCache}
    (hok : FabricCache.fillPort n fc key = .ok fc') :
    ∃ p, fc₀.findPort key = some p ∧ p ∉ fills.map Prod.snd ∧
      (fc₀.fabric.port p).portnum ≤ (fc₀.fabric.node n).numports := by
  by_contra hnone
  push Not at hnone
  by_cases hkey : ∀ p, fc₀.findPort key = some p → p ∈ fills.map Prod.snd
  · rw [h.fillPort_invalid hkey] at hok
    cases hok
  · push Not at hkey
    obtain ⟨p, hp, hnew⟩ := hkey
    rw [h.fillPort_fault hp hnew (hnone p hp hnew)] at hok
    cases hok

theorem Rebuilt.of_fillPorts (h : Rebuilt fc₀ ns fills fc) (hn : n ∈ ns)
    (hlt : ∀ key p, fc₀.findPort key = some p → p < fc₀.fabric.portCount)
    {keys : List PortCacheKey} {fc' : FabricCache}
    (hok : keys.foldlM (FabricCache.fillPort n) fc = .ok fc') :
    ∃ ps : List PortRef, keys.map fc₀.findPort = ps.map some ∧
      (∀ p ∈ ps, (fc₀.fabric.port p).portnum ≤ (fc₀.fabric.node n).numports) ∧
      (ps ++ fills.map Prod.snd).Nodup := by
  induction keys generalizing fills fc with
  | nil => exact ⟨[], rfl, by simp, h.nodup⟩
  | cons key keys ih =>
      obtain ⟨fc₁, hfill, hrest⟩ := Folds.foldlM_cons_ok.mp hok
      obtain ⟨p, hp, hnew, hfit⟩ := h.of_fillPort hfill
      obtain ⟨fc₂, hfill', h₁⟩ := h.fillPort hn hp (hlt key p hp) hnew hfit
      cases hfill.symm.trans hfill'
      obtain ⟨ps, hfind, hfits, hnodup⟩ := ih h₁ hrest
      refine ⟨p :: ps, ?_, ?_, ?_⟩
      · rw [List.map_cons, List.map_cons, hp, hfind]
      · intro q hq
        rcases List.mem_cons.mp hq with rfl | hq
        · exact hfit
        · exact hfits q hq
      · rw [List.map_cons] at hnodup
        exact List.nodup_middle.mp hnodup

/-- The ports that the keys of a node find. -/
def keyPorts (fc : FabricCache) (n : NodeRef) : List PortRef :=
  (fc.nodeCache n).portCacheKeys.filterMap fc.findPort

theorem filterMap_of_map {α β : Type} {g : α → Option β} {xs : List α} {ys : List β}
    (h : xs.map g = ys.map some) : xs.filterMap g = ys := by
  have hid : xs.filterMap g = (xs.map g).filterMap id := by
    rw [List.filterMap_map]
    rfl
  rw [hid, h, List.filterMap_map]
  exact List.filterMap_some

/-- `_rebuild_nodes` goes through the nodes `todo`. -/
structure Fillable (fc : FabricCache) (todo : List NodeRef) : Prop where
  found : ∀ n ∈ todo,
    (fc.nodeCache n).portCacheKeys.map fc.findPort = (fc.keyPorts n).map some
  fits : ∀ n ∈ todo, ∀ p ∈ fc.keyPorts n,
    (fc.fabric.port p).portnum ≤ (fc.fabric.node n).numports
  once : (todo.flatMap fc.keyPorts).Nodup

theorem Rebuilt.of_rebuildNodes {todo : List NodeRef} (h : Rebuilt fc₀ ns fills fc)
    (hdistinct : (todo ++ ns).Nodup)
    (hlt : ∀ key p, fc₀.findPort key = some p → p < fc₀.fabric.portCount) {fc' : FabricCache}
    (hok : todo.foldlM FabricCache.rebuildNode fc = .ok fc') :
    (∀ n ∈ todo, (fc₀.nodeCache n).portCacheKeys.map fc₀.findPort =
      (fc₀.keyPorts n).map some) ∧
    (∀ n ∈ todo, ∀ p ∈ fc₀.keyPorts n,
      (fc₀.fabric.port p).portnum ≤ (fc₀.fabric.node n).numports) ∧
    (todo.flatMap fc₀.keyPorts ++ fills.map Prod.snd).Nodup := by
  induction todo generalizing ns fills fc with
  | nil => exact ⟨by simp, by simp, h.nodup⟩
  | cons n todo ih =>
      obtain ⟨fc₁, hnode, hrest⟩ := Folds.foldlM_cons_ok.mp hok
      rw [List.cons_append, List.nodup_cons, List.mem_append, not_or] at hdistinct
      have hkeys := hnode
      unfold FabricCache.rebuildNode at hkeys
      rw [h.keys] at hkeys
      obtain ⟨ps, hfind, hfits, hnodup⟩ :=
        (h.storeNode hdistinct.1.2).of_fillPorts List.mem_cons_self hlt hkeys
      have hps : fc₀.keyPorts n = ps := filterMap_of_map hfind
      have hall : ∀ p ∈ ps, p < fc₀.fabric.portCount := by
        intro p hp
        have hsome : some p ∈ (fc₀.nodeCache n).portCacheKeys.map fc₀.findPort := by
          rw [hfind]
          exact List.mem_map_of_mem hp
        obtain ⟨key, -, hkey⟩ := List.mem_map.mp hsome
        exact hlt key p hkey
      obtain ⟨fc₂, hnode', h₁⟩ := h.rebuildNode hdistinct.1.2 hfind hall hfits hnodup
      cases hnode.symm.trans hnode'
      have hdistinct' : (todo ++ n :: ns).Nodup :=
        List.nodup_middle.mpr (List.nodup_cons.mpr
          ⟨fun hmem => (List.mem_append.mp hmem).elim hdistinct.1.1 hdistinct.1.2, hdistinct.2⟩)
      obtain ⟨hfound, hroom, honce⟩ := ih h₁ hdistinct' hrest
      refine ⟨?_, ?_, ?_⟩
      · intro m hm
        rcases List.mem_cons.mp hm with rfl | hm
        · rw [hps]
          exact hfind
        · exact hfound m hm
      · intro m hm
        rcases List.mem_cons.mp hm with rfl | hm
        · rw [hps]
          exact hfits
        · exact hroom m hm
      · rw [List.map_append, map_snd_fills] at honce
        rw [List.flatMap_cons, List.append_assoc, hps]
        refine (List.Perm.nodup_iff ?_).mp honce
        exact ((List.perm_append_comm_assoc _ _ _).trans
          ((List.reverse_perm ps).append_right _))

/-- `_rebuild_nodes` succeeds exactly on such nodes. -/
theorem Rebuilt.rebuildNodes_iff {todo : List NodeRef} (h : Rebuilt fc₀ [] [] fc)
    (hdistinct : todo.Nodup)
    (hlt : ∀ key p, fc₀.findPort key = some p → p < fc₀.fabric.portCount) :
    (∃ fc', todo.foldlM FabricCache.rebuildNode fc = .ok fc') ↔ Fillable fc₀ todo := by
  constructor
  · rintro ⟨fc', hok⟩
    obtain ⟨hfound, hfits, honce⟩ := h.of_rebuildNodes (by rwa [List.append_nil]) hlt hok
    exact ⟨hfound, hfits, by simpa using honce⟩
  · intro hfill
    have hall : ∀ n ∈ todo, ∀ p ∈ fc₀.keyPorts n, p < fc₀.fabric.portCount := by
      intro n _ p hp
      obtain ⟨key, -, hkey⟩ := List.mem_filterMap.mp hp
      exact hlt key p hkey
    obtain ⟨fc', hok, -⟩ := h.rebuildNodes (by rwa [List.append_nil]) hfill.found hall hfill.fits
      (by simpa using hfill.once)
    exact ⟨fc', hok⟩

end Rebuilt

end FabricCache
end InfinibandDiags
