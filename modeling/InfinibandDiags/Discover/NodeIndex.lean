import InfinibandDiags.Discover.NodeTable
import InfinibandDiags.Library.Buckets
import Mathlib.Data.List.Find

/-! The nodes of a fabric as they are linked: through `next` from `fabric->nodes`, through
`htnext` from `fabric->nodestbl`, and through `type_next` from the list of their type. -/
namespace InfinibandDiags
open Chain (IsChain)

/-- What `create_node` and `ibnd_find_node_guid` see of the nodes and of the fabric. -/
structure NodeStore where
  guid : NodeRef → UInt64
  type : NodeRef → Nat
  next : NodeRef → Option NodeRef
  htnext : NodeRef → Option NodeRef
  typeNext : NodeRef → Option NodeRef
  nodeCount : Nat
  nodes : Option NodeRef
  nodestbl : Nat → Option NodeRef
  switches : Option NodeRef
  chAdapters : Option NodeRef
  routers : Option NodeRef

namespace NodeStore

def empty : NodeStore where
  guid := fun _ => 0
  type := fun _ => 0
  next := fun _ => none
  htnext := fun _ => none
  typeNext := fun _ => none
  nodeCount := 0
  nodes := none
  nodestbl := fun _ => none
  switches := none
  chAdapters := none
  routers := none

/-- A loop along a chain of `nodestbl`. A chain that is followed for longer than there are nodes
never ends. -/
def searchHash (s : NodeStore) (p : NodeRef → Bool) (idx : Nat) : Except Fault (Option NodeRef) :=
  match Chain.search s.htnext p s.nodeCount (s.nodestbl idx) with
  | none => .error .endlessLoop
  | some found => .ok found

def ibndFindNodeGuid (s : NodeStore) (guid : UInt64) : Except Fault (Option NodeRef) :=
  s.searchHash (fun n => s.guid n = guid) (hashguid guid)

def addToNodeguidHash (s : NodeStore) (n : NodeRef) : Except Fault (Int × NodeStore) := do
  let idx := hashguid (s.guid n)
  match ← s.searchHash (fun m => m = n) idx with
  | some _ => .ok (1, s)
  | none =>
      .ok (0, { s with
        htnext := setAt s.htnext n (s.nodestbl idx)
        nodestbl := setAt s.nodestbl idx (some n) })

def addToTypeList (s : NodeStore) (n : NodeRef) : NodeStore :=
  if s.type n = ibNodeCa then
    { s with typeNext := setAt s.typeNext n s.chAdapters, chAdapters := some n }
  else if s.type n = ibNodeSwitch then
    { s with typeNext := setAt s.typeNext n s.switches, switches := some n }
  else if s.type n = ibNodeRouter then
    { s with typeNext := setAt s.typeNext n s.routers, routers := some n }
  else s

/-- `calloc` of a node, with what `create_node` decodes. -/
def allocNode (s : NodeStore) (nodeInfo : SmpData) : NodeStore :=
  { s with
    guid := setAt s.guid s.nodeCount (nodeInfo.field64 .nodeGuid)
    type := setAt s.type s.nodeCount (nodeInfo.field .nodeType)
    next := setAt s.next s.nodeCount none
    htnext := setAt s.htnext s.nodeCount none
    typeNext := setAt s.typeNext s.nodeCount none
    nodeCount := s.nodeCount + 1 }

/-- `create_node`. -/
def createNode (s : NodeStore) (nodeInfo : SmpData) : Except Fault (NodeRef × NodeStore) := do
  let n := s.nodeCount
  let (_, s) ← (s.allocNode nodeInfo).addToNodeguidHash n
  let s := { s with next := setAt s.next n s.nodes, nodes := some n }
  .ok (n, s.addToTypeList n)

/-- The beginning of `recv_node_info`. -/
def findOrCreateNode (s : NodeStore) (nodeInfo : SmpData) :
    Except Fault (NodeRef × Bool × NodeStore) := do
  match ← s.ibndFindNodeGuid (nodeInfo.field64 .nodeGuid) with
  | some n => .ok (n, false, s)
  | none =>
      let (n, s) ← s.createNode nodeInfo
      .ok (n, true, s)

def IsCreated (s : NodeStore) (n : NodeRef) : Prop := n < s.nodeCount

/-- The chains of the store are the lists of the fabric. -/
structure Holds (s : NodeStore) (f : Fabric) : Prop where
  nodeCount : f.nodeCount = s.nodeCount
  guid : ∀ n, s.IsCreated n → (f.node n).guid = s.guid n
  type : ∀ n, s.IsCreated n → (f.node n).type = s.type n
  distinct : ∀ {n m}, s.IsCreated n → s.IsCreated m → s.guid n = s.guid m → n = m
  nodes : ChainOf s.next s.nodes s.IsCreated f.nodes
  nodestbl : Buckets s.htnext s.nodestbl (fun n => hashguid (s.guid n)) s.IsCreated f.nodestbl
  chAdapters : ChainOf s.typeNext s.chAdapters
    (fun n => s.IsCreated n ∧ s.type n = ibNodeCa) f.chAdapters
  switches : ChainOf s.typeNext s.switches
    (fun n => s.IsCreated n ∧ s.type n = ibNodeSwitch) f.switches
  routers : ChainOf s.typeNext s.routers
    (fun n => s.IsCreated n ∧ s.type n = ibNodeRouter) f.routers

variable {s : NodeStore} {f f' : Fabric} {n : NodeRef}

theorem holds_empty : empty.Holds allocateFabricInternal where
  nodeCount := rfl
  guid _ h := absurd h (Nat.not_lt_zero _)
  type _ h := absurd h (Nat.not_lt_zero _)
  distinct h := absurd h (Nat.not_lt_zero _)
  nodes := (ChainOf.empty _).congr fun _ => iff_of_false (Nat.not_lt_zero _) id
  nodestbl := (Buckets.empty _ _).congr (fun _ => iff_of_false (Nat.not_lt_zero _) id)
    (fun _ _ => rfl) fun _ _ => rfl
  chAdapters := (ChainOf.empty _).congr fun _ =>
    iff_of_false (fun h => Nat.not_lt_zero _ h.1) id
  switches := (ChainOf.empty _).congr fun _ => iff_of_false (fun h => Nat.not_lt_zero _ h.1) id
  routers := (ChainOf.empty _).congr fun _ => iff_of_false (fun h => Nat.not_lt_zero _ h.1) id

namespace Holds

theorem searchHash_eq (h : s.Holds f) (p : NodeRef → Bool) (idx : Nat) :
    s.searchHash p idx = .ok ((f.nodestbl idx).find? p) := by
  have hchain := h.nodestbl.chain idx
  have hlen := hchain.length_le fun m hm => ((h.nodestbl.mem_iff idx m).mp hm).1
  unfold searchHash
  rw [hchain.search p hlen]

theorem findNodeGuid_eq (h : s.Holds f) (guid : UInt64) :
    s.ibndFindNodeGuid guid = .ok (f.ibndFindNodeGuid guid) := by
  rw [ibndFindNodeGuid, h.searchHash_eq, Fabric.ibndFindNodeGuid]
  congr 1
  refine List.find?_congr fun n hn => ?_
  rw [h.guid n ((h.nodestbl.mem_iff _ n).mp hn).1]

/-- A node is found under its GUID, and under no other. -/
theorem find_iff (h : s.Holds f) (guid : UInt64) (n : NodeRef) :
    f.ibndFindNodeGuid guid = some n ↔ s.IsCreated n ∧ s.guid n = guid := by
  constructor
  · intro hfind
    have hn := ((h.nodestbl.mem_iff _ n).mp (List.mem_of_find?_eq_some hfind)).1
    have hguid : (f.node n).guid = guid := by simpa using List.find?_some hfind
    exact ⟨hn, (h.guid n hn).symm.trans hguid⟩
  · rintro ⟨hn, rfl⟩
    have hmem := (h.nodestbl.mem_iff _ n).mpr ⟨hn, rfl⟩
    cases hfind : f.ibndFindNodeGuid (s.guid n) with
    | none =>
        have hnot := List.find?_eq_none.mp hfind n hmem
        exact absurd (decide_eq_true (h.guid n hn)) hnot
    | some m =>
        have hm := ((h.nodestbl.mem_iff _ m).mp (List.mem_of_find?_eq_some hfind)).1
        have hguid : (f.node m).guid = s.guid n := by simpa using List.find?_some hfind
        rw [h.distinct hm hn ((h.guid m hm).symm.trans hguid)]

end Holds

section Create
variable (path : PortId) (info : SmpData)

/-- The list of its own type, in front of which a new node goes. -/
def typeHead (s : NodeStore) (type : Nat) : Option NodeRef :=
  if type = ibNodeCa then s.chAdapters
  else if type = ibNodeSwitch then s.switches
  else if type = ibNodeRouter then s.routers
  else none

/-- The store with one more node, linked into its chains. -/
def withNode (s : NodeStore) (info : SmpData) : NodeStore :=
  let n := s.nodeCount
  let idx := hashguid (info.field64 .nodeGuid)
  let type := info.field .nodeType
  { guid := Function.update s.guid n (info.field64 .nodeGuid)
    type := Function.update s.type n type
    next := Function.update s.next n s.nodes
    htnext := Function.update s.htnext n (s.nodestbl idx)
    typeNext := Function.update s.typeNext n (s.typeHead type)
    nodeCount := n + 1
    nodes := some n
    nodestbl := Function.update s.nodestbl idx (some n)
    switches := if type = ibNodeSwitch then some n else s.switches
    chAdapters := if type = ibNodeCa then some n else s.chAdapters
    routers := if type = ibNodeRouter then some n else s.routers }

theorem isCreated_withNode (n : NodeRef) :
    (s.withNode info).IsCreated n ↔ n = s.nodeCount ∨ s.IsCreated n :=
  Nat.lt_succ_iff_lt_or_eq.trans or_comm

theorem not_isCreated_nodeCount : ¬ s.IsCreated s.nodeCount := Nat.lt_irrefl _

theorem guid_withNode_new : (s.withNode info).guid s.nodeCount = info.field64 .nodeGuid :=
  Function.update_self ..

theorem type_withNode_new : (s.withNode info).type s.nodeCount = info.field .nodeType :=
  Function.update_self ..

theorem guid_withNode_old (hn : s.IsCreated n) : (s.withNode info).guid n = s.guid n :=
  Function.update_of_ne (Nat.ne_of_lt hn) _ _

theorem type_withNode_old (hn : s.IsCreated n) : (s.withNode info).type n = s.type n :=
  Function.update_of_ne (Nat.ne_of_lt hn) _ _

variable {path info}

theorem searchHash_allocNode (h : s.Holds f) (idx : Nat) :
    (s.allocNode info).searchHash (fun m => m = s.nodeCount) idx = .ok none := by
  have hfresh : s.nodeCount ∉ f.nodestbl idx := fun hmem =>
    not_isCreated_nodeCount ((h.nodestbl.mem_iff idx _).mp hmem).1
  have hlen := (h.nodestbl.chain idx).length_le fun m hm => ((h.nodestbl.mem_iff idx m).mp hm).1
  have hchain := (h.nodestbl.chain idx).update_of_notMem (v := none) hfresh
  have hfind : (f.nodestbl idx).find? (fun m => m = s.nodeCount) = none :=
    List.find?_eq_none.mpr fun m hm heq => hfresh (of_decide_eq_true heq ▸ hm)
  unfold searchHash allocNode
  dsimp only
  rw [setAt_eq_update, hchain.search _ (Nat.le_succ_of_le hlen), hfind]

theorem createNode_eq (h : s.Holds f) : s.createNode info = .ok (s.nodeCount, s.withNode info) := by
  have hguid : (s.allocNode info).guid s.nodeCount = info.field64 .nodeGuid := by
    simp [allocNode]
  unfold createNode addToNodeguidHash
  dsimp only
  rw [hguid, searchHash_allocNode h]
  simp only [bind, Except.bind, allocNode, addToTypeList, setAt_eq_update, Function.update_self,
    Function.update_idem, withNode, typeHead, Except.ok.injEq, Prod.mk.injEq, true_and]
  split_ifs <;> simp_all [ibNodeCa, ibNodeSwitch, ibNodeRouter]

/-- The lists of the fabric with one more node. -/
theorem createNode_lists (path : PortId) (info : SmpData) (f : Fabric)
    (hfresh : ∀ idx, f.nodeCount ∉ f.nodestbl idx) :
    let n := f.nodeCount
    let f' := (Scan.createNode f path info).2
    f'.nodes = n :: f.nodes ∧
      f'.nodestbl = Function.update f.nodestbl (hashguid (info.field64 .nodeGuid))
        (n :: f.nodestbl (hashguid (info.field64 .nodeGuid))) ∧
      (f'.chAdapters = if info.field .nodeType = ibNodeCa then n :: f.chAdapters
        else f.chAdapters) ∧
      (f'.switches = if info.field .nodeType = ibNodeSwitch then n :: f.switches
        else f.switches) ∧
      (f'.routers = if info.field .nodeType = ibNodeRouter then n :: f.routers
        else f.routers) := by
  unfold Scan.createNode Fabric.addToTypeList Fabric.addToNodeguidHash
  dsimp only
  simp only [setAt_eq_update, Function.update_self, hfresh, if_false]
  split_ifs <;> simp_all [ibNodeCa, ibNodeSwitch, ibNodeRouter]

/-- The list of a type when a node is created. -/
theorem typeList_withNode {type : Nat} {head : Option NodeRef} {l : List NodeRef}
    (h : ChainOf s.typeNext head (fun n => s.IsCreated n ∧ s.type n = type) l)
    (hown : info.field .nodeType = type → s.typeHead type = head) :
    ChainOf (s.withNode info).typeNext
      (if info.field .nodeType = type then some s.nodeCount else head)
      (fun n => (s.withNode info).IsCreated n ∧ (s.withNode info).type n = type)
      (if info.field .nodeType = type then s.nodeCount :: l else l) := by
  have hfresh : ¬ (s.IsCreated s.nodeCount ∧ s.type s.nodeCount = type) :=
    fun hn => not_isCreated_nodeCount hn.1
  have hnew : (s.withNode info).type s.nodeCount = info.field .nodeType := type_withNode_new info
  have hold : ∀ n, s.IsCreated n → (s.withNode info).type n = s.type n := fun n hn =>
    type_withNode_old info hn
  by_cases htype : info.field .nodeType = type
  · have hnext : (s.withNode info).typeNext = Function.update s.typeNext s.nodeCount head := by
      rw [← hown htype, ← htype]
      rfl
    rw [if_pos htype, if_pos htype, hnext]
    refine (h.push hfresh).congr fun n => ?_
    rw [isCreated_withNode, or_and_right]
    refine or_congr ⟨And.left, fun hn => ⟨hn, ?_⟩⟩ (and_congr_right fun hn => by rw [hold n hn])
    rw [hn, hnew, htype]
  · rw [if_neg htype, if_neg htype]
    refine (h.update hfresh _).congr fun n => ?_
    rw [isCreated_withNode, or_and_right]
    refine (or_iff_right ?_).trans (and_congr_right fun hn => by rw [hold n hn])
    rintro ⟨rfl, hn⟩
    exact htype (hnew.symm.trans hn)

theorem Holds.withNode (h : s.Holds f)
    (hnone : f.ibndFindNodeGuid (info.field64 .nodeGuid) = none) :
    (s.withNode info).Holds (Scan.createNode f path info).2 := by
  obtain ⟨-, hcount, hnode, -, -⟩ := Fabric.createNode_node f path info
  have hfresh : ∀ idx, f.nodeCount ∉ f.nodestbl idx := fun idx hmem => by
    rw [h.nodeCount] at hmem
    exact not_isCreated_nodeCount ((h.nodestbl.mem_iff idx _).mp hmem).1
  obtain ⟨hnodes, htbl, hcas, hsws, hrts⟩ := createNode_lists path info f hfresh
  rw [h.nodeCount] at hcount hnode hnodes htbl hcas hsws hrts
  have hguid := guid_withNode_new (s := s) info
  have hold : ∀ n, s.IsCreated n → (s.withNode info).guid n = s.guid n := fun n hn =>
    guid_withNode_old info hn
  have hother : ∀ n, s.IsCreated n → s.guid n ≠ info.field64 .nodeGuid := fun n hn heq => by
    rw [(h.find_iff _ n).mpr ⟨hn, heq⟩] at hnone
    cases hnone
  constructor
  case nodeCount => exact hcount
  case guid =>
    intro n hn
    rw [hnode]
    rcases (isCreated_withNode info n).mp hn with rfl | hn
    · rw [Function.update_self, hguid]
    · rw [Function.update_of_ne (Nat.ne_of_lt hn), hold n hn, h.guid n hn]
  case type =>
    intro n hn
    rw [hnode]
    rcases (isCreated_withNode info n).mp hn with rfl | hn
    · rw [Function.update_self, type_withNode_new]
    · rw [Function.update_of_ne (Nat.ne_of_lt hn), type_withNode_old info hn, h.type n hn]
  case distinct =>
    intro n m hn hm heq
    rcases (isCreated_withNode info n).mp hn with rfl | hn <;>
      rcases (isCreated_withNode info m).mp hm with rfl | hm
    · rfl
    · rw [hguid, hold m hm] at heq
      exact absurd heq.symm (hother m hm)
    · rw [hguid, hold n hn] at heq
      exact absurd heq (hother n hn)
    · rw [hold n hn, hold m hm] at heq
      exact h.distinct hn hm heq
  case nodes =>
    rw [hnodes]
    exact (h.nodes.push not_isCreated_nodeCount).congr (isCreated_withNode info)
  case nodestbl =>
    rw [htbl]
    have hkey : Buckets s.htnext s.nodestbl (fun n => hashguid ((s.withNode info).guid n))
        s.IsCreated f.nodestbl :=
      h.nodestbl.congr (fun _ => Iff.rfl) (fun _ _ => rfl) fun n hn => by rw [hold n hn]
    have hins := hkey.insert (x := s.nodeCount) not_isCreated_nodeCount
    rw [hguid] at hins
    exact hins.congr (isCreated_withNode info) (fun _ _ => rfl) fun _ _ => rfl
  case chAdapters =>
    rw [hcas]
    exact typeList_withNode h.chAdapters fun _ => rfl
  case switches =>
    rw [hsws]
    exact typeList_withNode h.switches fun _ => rfl
  case routers =>
    rw [hrts]
    exact typeList_withNode h.routers fun _ => rfl

end Create

/-- Both find the node of a GUID, or create it. -/
theorem Holds.findOrCreateNode (h : s.Holds f) (path : PortId) (info : SmpData) :
    let found := Scan.findOrCreateNode f path info
    ∃ s', s.findOrCreateNode info = .ok (found.1, found.2.1, s') ∧ s'.Holds found.2.2 ∧
      ∀ guid, (∃ n, s'.IsCreated n ∧ s'.guid n = guid) ↔
        (∃ n, s.IsCreated n ∧ s.guid n = guid) ∨ guid = info.field64 .nodeGuid := by
  unfold Scan.findOrCreateNode NodeStore.findOrCreateNode
  rw [h.findNodeGuid_eq, ok_bind]
  cases hfind : f.ibndFindNodeGuid (info.field64 .nodeGuid) with
  | some n =>
      refine ⟨s, rfl, h, fun guid => (or_iff_left_of_imp ?_).symm⟩
      rintro rfl
      exact ⟨n, (h.find_iff _ n).mp hfind⟩
  | none =>
      have hfst : (Scan.createNode f path info).1 = s.nodeCount :=
        (Fabric.createNode_node f path info).1.trans h.nodeCount
      refine ⟨s.withNode info, ?_, h.withNode hfind, fun guid => ?_⟩
      · dsimp only
        rw [createNode_eq h, hfst]
        rfl
      · simp only [isCreated_withNode]
        constructor
        · rintro ⟨n, rfl | hn, hguid⟩
          · rw [guid_withNode_new] at hguid
            exact .inr hguid.symm
          · rw [guid_withNode_old info hn] at hguid
            exact .inl ⟨n, hn, hguid⟩
        · rintro (⟨n, hn, hguid⟩ | hguid)
          · exact ⟨n, .inr hn, by rw [guid_withNode_old info hn, hguid]⟩
          · exact ⟨s.nodeCount, .inl rfl, by rw [guid_withNode_new, hguid]⟩

/-- A list of the members, each once. -/
structure EachOnce (l : List NodeRef) (member : NodeRef → Prop) : Prop where
  nodup : l.Nodup
  mem_iff : ∀ n, n ∈ l ↔ member n

theorem eachOnce_of_chainOf {next : NodeRef → Option NodeRef} {head : Option NodeRef}
    {member : NodeRef → Prop} {l : List NodeRef} (h : ChainOf next head member l) :
    EachOnce l member := ⟨h.chain.nodup, h.mem_iff⟩

/-- The three linked structures over the nodes, in step with each other: every chain ends, and
holds its nodes once. -/
structure Intact (s : NodeStore) : Prop where
  distinct : ∀ {n m}, s.IsCreated n → s.IsCreated m → s.guid n = s.guid m → n = m
  nodes : ∃ l, IsChain s.next s.nodes l ∧ EachOnce l s.IsCreated
  nodestbl : ∃ chains : Nat → List NodeRef,
    (∀ idx, IsChain s.htnext (s.nodestbl idx) (chains idx)) ∧
      (∀ idx n, n ∈ chains idx ↔ s.IsCreated n ∧ hashguid (s.guid n) = idx) ∧
      EachOnce ((List.range htsz).flatMap chains) s.IsCreated
  typeLists : ∃ cas switches routers,
    IsChain s.typeNext s.chAdapters cas ∧ IsChain s.typeNext s.switches switches ∧
      IsChain s.typeNext s.routers routers ∧
      EachOnce cas (fun n => s.IsCreated n ∧ s.type n = ibNodeCa) ∧
      EachOnce switches (fun n => s.IsCreated n ∧ s.type n = ibNodeSwitch) ∧
      EachOnce routers (fun n => s.IsCreated n ∧ s.type n = ibNodeRouter) ∧
      EachOnce (cas ++ switches ++ routers)
        (fun n => s.IsCreated n ∧ s.type n ∈ [ibNodeCa, ibNodeSwitch, ibNodeRouter])
  find : ∀ guid, ∃ found, s.ibndFindNodeGuid guid = .ok found ∧
    ∀ n, found = some n ↔ s.IsCreated n ∧ s.guid n = guid

theorem Holds.typeLists (h : s.Holds f) : EachOnce (f.chAdapters ++ f.switches ++ f.routers)
    (fun n => s.IsCreated n ∧ s.type n ∈ [ibNodeCa, ibNodeSwitch, ibNodeRouter]) := by
  constructor
  · have hdisjoint : f.chAdapters.Disjoint f.switches := fun n hca hsw => by
      have htype := ((h.chAdapters.mem_iff n).mp hca).2
      rw [((h.switches.mem_iff n).mp hsw).2] at htype
      cases htype
    have hrest : (f.chAdapters ++ f.switches).Disjoint f.routers := fun n hn hrt => by
      have htype := ((h.routers.mem_iff n).mp hrt).2
      rcases List.mem_append.mp hn with hca | hsw
      · rw [((h.chAdapters.mem_iff n).mp hca).2] at htype
        cases htype
      · rw [((h.switches.mem_iff n).mp hsw).2] at htype
        cases htype
    exact (h.chAdapters.chain.nodup.append h.switches.chain.nodup hdisjoint).append
      h.routers.chain.nodup hrest
  · intro n
    simp only [List.mem_append, h.chAdapters.mem_iff, h.switches.mem_iff, h.routers.mem_iff,
      List.mem_cons, List.not_mem_nil, or_false, ← and_or_left, or_assoc]

theorem Holds.intact (h : s.Holds f) : s.Intact where
  distinct := h.distinct
  nodes := ⟨_, h.nodes.chain, eachOnce_of_chainOf h.nodes⟩
  nodestbl := ⟨f.nodestbl, h.nodestbl.chain, h.nodestbl.mem_iff, h.nodestbl.nodup_flatMap htsz,
    h.nodestbl.mem_flatMap fun _ => Nat.mod_lt _ (by decide)⟩
  typeLists := ⟨_, _, _, h.chAdapters.chain, h.switches.chain, h.routers.chain,
    eachOnce_of_chainOf h.chAdapters, eachOnce_of_chainOf h.switches,
    eachOnce_of_chainOf h.routers, h.typeLists⟩
  find guid := ⟨_, h.findNodeGuid_eq guid, h.find_iff guid⟩

end NodeStore

/-- A NodeInfo reply as `recv_node_info` is passed it. -/
structure NodeInfoReply where
  smp : ScanSmp
  mad : Bytes
  cbdata : Option (NodeRef × Nat)

namespace NodeInfoReply

def nodeInfo (r : NodeInfoReply) : SmpData := smpData r.mad

def nodeGuid (r : NodeInfoReply) : UInt64 := r.nodeInfo.field64 .nodeGuid

end NodeInfoReply

def Scan.receive (scan : Scan) (r : NodeInfoReply) : Except Fault Scan := do
  let out ← scan.recvNodeInfo r.smp r.mad r.cbdata
  .ok out.scan

/-- What `recv_node_info` does to the links of the nodes. -/
def NodeStore.receive (s : NodeStore) (r : NodeInfoReply) : Except Fault NodeStore := do
  let (_, _, s) ← s.findOrCreateNode r.nodeInfo
  .ok s

/-- Updates that also leave the lists of the types. -/
structure Fabric.SameIndex (f f' : Fabric) : Prop extends SameNodes f f' where
  chAdapters : f'.chAdapters = f.chAdapters
  switches : f'.switches = f.switches
  routers : f'.routers = f.routers

namespace Fabric.SameIndex
variable {f f' f₁ f₂ f₃ : Fabric}

theorem trans (h₁ : SameIndex f₁ f₂) (h₂ : SameIndex f₂ f₃) : SameIndex f₁ f₃ where
  toSameNodes := h₁.toSameNodes.trans h₂.toSameNodes
  chAdapters := h₂.chAdapters.trans h₁.chAdapters
  switches := h₂.switches.trans h₁.switches
  routers := h₂.routers.trans h₁.routers

theorem of_node (hnode : f'.node = f.node) (hnodes : f'.nodes = f.nodes)
    (hcount : f'.nodeCount = f.nodeCount) (htbl : f'.nodestbl = f.nodestbl)
    (hcas : f'.chAdapters = f.chAdapters) (hsws : f'.switches = f.switches)
    (hrts : f'.routers = f.routers) : SameIndex f f' :=
  ⟨.of_node hnode hnodes hcount htbl, hcas, hsws, hrts⟩

theorem linkPorts (f : Fabric) (p q : PortRef) : SameIndex f (f.linkPorts p q) := by
  have hrelease : ∀ (f : Fabric) r, SameIndex f (f.release r) := by
    intro f r
    unfold Fabric.release
    split <;> exact .of_node rfl rfl rfl rfl rfl rfl rfl
  exact ((hrelease f p).trans (hrelease _ q)).trans (.of_node rfl rfl rfl rfl rfl rfl rfl)

theorem ensurePort {n : NodeRef} {k : Nat} {shell : Port} {p : PortRef}
    (h : Scan.ensurePort f n k shell = .ok (p, f')) : SameIndex f f' := by
  obtain ⟨-, ⟨-, rfl⟩ | ⟨-, -, rfl⟩⟩ := Scan.ensurePort_ok h
  · exact .of_node rfl rfl rfl rfl rfl rfl rfl
  · exact ⟨sameNodes_newPort f n k shell, rfl, rfl, rfl⟩

theorem finishNodeInfo (scan : Scan) (path : PortId) (n : NodeRef) (isNew : Bool) (k : Nat)
    (f : Fabric) : SameIndex f (scan.finishNodeInfo path n isNew k f).scan.fabric := by
  unfold Scan.finishNodeInfo
  dsimp only
  split
  · exact ⟨sameNodes_modifyNode f n fun _ => ⟨rfl, rfl, rfl, rfl, rfl, rfl⟩, rfl, rfl, rfl⟩
  · exact .of_node rfl rfl rfl rfl rfl rfl rfl

/-- Past its beginning, `recv_node_info` is about ports. -/
theorem recvNodeInfo {scan : Scan} {smp : ScanSmp} {mad : Bytes} {cbdata : Option (NodeRef × Nat)}
    {out : Outcome} (h : scan.recvNodeInfo smp mad cbdata = .ok out) :
    SameIndex (Scan.findOrCreateNode scan.fabric smp.path (smpData mad)).2.2 out.scan.fabric := by
  obtain ⟨p, f, hport, hcase⟩ := Scan.recvNodeInfo_ok h
  have hguid : SameIndex f (Scan.withPortGuid f p ((smpData mad).field64 .nodePortGuid)) :=
    .of_node rfl rfl rfl rfl rfl rfl rfl
  have hstart := (ensurePort hport).trans hguid
  rcases hcase with ⟨-, rfl⟩ | ⟨_, _, -, ⟨-, rfl⟩ | ⟨q, -, rfl⟩⟩
  · refine hstart.trans (.trans ?_ (finishNodeInfo scan _ _ _ _ _))
    exact .of_node rfl rfl rfl rfl rfl rfl rfl
  · exact hstart
  · exact hstart.trans ((linkPorts _ p q).trans (finishNodeInfo scan _ _ _ _ _))

end Fabric.SameIndex

namespace NodeStore
variable {s : NodeStore} {f f' : Fabric}

theorem Holds.of_sameIndex (h : s.Holds f) (hs : f.SameIndex f') : s.Holds f' where
  nodeCount := hs.nodeCount.trans h.nodeCount
  guid n hn := (hs.guid n).trans (h.guid n hn)
  type n hn := (hs.type n).trans (h.type n hn)
  distinct := h.distinct
  nodes := hs.nodes ▸ h.nodes
  nodestbl := hs.nodestbl ▸ h.nodestbl
  chAdapters := hs.chAdapters ▸ h.chAdapters
  switches := hs.switches ▸ h.switches
  routers := hs.routers ▸ h.routers

/-- The GUIDs of the nodes. -/
def HasGuid (s : NodeStore) (guid : UInt64) : Prop := ∃ n, s.IsCreated n ∧ s.guid n = guid

/-- One reply: `ibnd_find_node_guid` and `create_node` come to an end, and the nodes are linked as
they are listed in the fabric. -/
theorem Holds.receive (h : s.Holds f) (r : NodeInfoReply) :
    ∃ s', s.receive r = .ok s' ∧
      s'.Holds (Scan.findOrCreateNode f r.smp.path r.nodeInfo).2.2 ∧
      ∀ guid, s'.HasGuid guid ↔ s.HasGuid guid ∨ guid = r.nodeGuid := by
  obtain ⟨s', hs', hholds, hguids⟩ := h.findOrCreateNode r.smp.path r.nodeInfo
  refine ⟨s', ?_, hholds, hguids⟩
  unfold NodeStore.receive
  rw [hs', ok_bind]

theorem Holds.receive_scan {scan scan' : Scan} {s' : NodeStore} {r : NodeInfoReply}
    (h : s.Holds scan.fabric) (hs' : s.receive r = .ok s') (hscan : scan.receive r = .ok scan') :
    s'.Holds scan'.fabric := by
  obtain ⟨s₁, hs₁, hholds, -⟩ := h.receive r
  rw [hs'] at hs₁
  cases hs₁
  obtain ⟨out, hout, hscan⟩ := bind_eq_ok.mp hscan
  cases hscan
  exact hholds.of_sameIndex (.recvNodeInfo hout)

theorem receiveAll_holds (replies : List NodeInfoReply) (h : s.Holds f) :
    ∃ s', replies.foldlM NodeStore.receive s = .ok s' ∧ (∃ f', s'.Holds f') ∧
      ∀ guid, s'.HasGuid guid ↔ s.HasGuid guid ∨ guid ∈ replies.map NodeInfoReply.nodeGuid := by
  induction replies generalizing s f with
  | nil => exact ⟨s, rfl, ⟨f, h⟩, fun guid => by simp⟩
  | cons r replies ih =>
      obtain ⟨s₁, hs₁, hholds, hguid⟩ := h.receive r
      obtain ⟨s', hs', hf, hguids⟩ := ih hholds
      refine ⟨s', ?_, hf, fun guid => ?_⟩
      · rw [List.foldlM_cons, hs₁]
        exact hs'
      · rw [hguids, hguid, List.map_cons, List.mem_cons, or_assoc]

theorem receiveAll_scan {replies : List NodeInfoReply} {scan scan' : Scan} {s' : NodeStore}
    (h : s.Holds scan.fabric) (hs' : replies.foldlM NodeStore.receive s = .ok s')
    (hscan : replies.foldlM Scan.receive scan = .ok scan') : s'.Holds scan'.fabric := by
  induction replies generalizing s scan with
  | nil =>
      cases hs'
      cases hscan
      exact h
  | cons r replies ih =>
      rw [List.foldlM_cons] at hs' hscan
      obtain ⟨s₁, hs₁, hs'⟩ := bind_eq_ok.mp hs'
      obtain ⟨scan₁, hscan₁, hscan⟩ := bind_eq_ok.mp hscan
      exact ih (h.receive_scan hs₁ hscan₁) hs' hscan

/-- After any NodeInfo replies there is one node for each of their GUIDs, and the linked
structures over the nodes are intact. They are the lists of the fabric that `recv_node_info`
leaves, if all replies keep to the ports array of their node. -/
theorem receiveAll_intact (replies : List NodeInfoReply) :
    ∃ s, replies.foldlM NodeStore.receive .empty = .ok s ∧ s.Intact ∧
      (∀ guid, s.HasGuid guid ↔ guid ∈ replies.map NodeInfoReply.nodeGuid) ∧
      ∀ start scan, start.fabric = allocateFabricInternal →
        replies.foldlM Scan.receive start = .ok scan →
          s.Holds scan.fabric ∧
            ∀ guid, s.ibndFindNodeGuid guid = .ok (scan.fabric.ibndFindNodeGuid guid) := by
  obtain ⟨s, hs, ⟨f, hf⟩, hguids⟩ := receiveAll_holds replies holds_empty
  refine ⟨s, hs, hf.intact, fun guid => (hguids guid).trans (or_iff_right ?_), ?_⟩
  · rintro ⟨n, hn, -⟩
    exact Nat.not_lt_zero n hn
  · intro start scan hstart hscan
    have hempty : empty.Holds start.fabric := hstart ▸ holds_empty
    have hholds := receiveAll_scan hempty hs hscan
    exact ⟨hholds, hholds.findNodeGuid_eq⟩

end NodeStore

namespace Fabric
variable {f f' : Fabric}

/-- The lists of the types hold the nodes of their type, in the order of all nodes. -/
structure TypeLists (f : Fabric) : Prop where
  switches : f.switches = f.nodes.filter fun n => (f.node n).type = ibNodeSwitch
  chAdapters : f.chAdapters = f.nodes.filter fun n => (f.node n).type = ibNodeCa
  routers : f.routers = f.nodes.filter fun n => (f.node n).type = ibNodeRouter

theorem TypeLists.of_sameIndex (h : TypeLists f) (hs : SameIndex f f') : TypeLists f' := by
  obtain ⟨⟨hnodes, -, -, -, htype, -, -⟩, hcas, hsws, hrts⟩ := hs
  refine ⟨?_, ?_, ?_⟩
  · rw [hsws, hnodes, h.switches]
    simp only [htype]
  · rw [hcas, hnodes, h.chAdapters]
    simp only [htype]
  · rw [hrts, hnodes, h.routers]
    simp only [htype]

theorem TypeLists.createNode (h : TypeLists f) (hnt : NodeTable f) (path : PortId)
    (info : SmpData) : TypeLists (Scan.createNode f path info).2 := by
  obtain ⟨hnodes, -, hcas, hsws, hrts⟩ := NodeStore.createNode_lists path info f fun idx hin =>
    Nat.lt_irrefl _ ((hnt.inBucket idx _).mp hin).1
  obtain ⟨-, -, hnode, -, -⟩ := createNode_node f path info
  have hfilter : ∀ type, (f.nodeCount :: f.nodes).filter
      (fun n => ((Scan.createNode f path info).2.node n).type = type) =
        if info.field .nodeType = type then
          f.nodeCount :: f.nodes.filter fun n => (f.node n).type = type
        else f.nodes.filter fun n => (f.node n).type = type := by
    intro type
    have hold : f.nodes.filter (fun n => ((Scan.createNode f path info).2.node n).type = type) =
        f.nodes.filter fun n => (f.node n).type = type := by
      refine List.filter_congr fun n hn => ?_
      rw [hnode, Function.update_of_ne (Nat.ne_of_lt ((hnt.mem_nodes n).mp hn))]
    have hnew : ((Scan.createNode f path info).2.node f.nodeCount).type =
        info.field .nodeType := by
      rw [hnode, Function.update_self]
    rw [List.filter_cons, hold, hnew]
    simp only [decide_eq_true_eq]
  refine ⟨?_, ?_, ?_⟩
  · rw [hsws, hnodes, hfilter, h.switches]
  · rw [hcas, hnodes, hfilter, h.chAdapters]
  · rw [hrts, hnodes, hfilter, h.routers]

end Fabric

end InfinibandDiags
