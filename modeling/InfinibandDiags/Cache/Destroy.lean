import InfinibandDiags.Cache.NodeCodec
import InfinibandDiags.Library.Release

/-! `ibnd_destroy_fabric`: the nodes and ports that it frees. -/
namespace InfinibandDiags

/-- What is allocated for nodes and ports, the array of ports going with its node. -/
inductive Block
  | node (n : NodeRef)
  | port (p : PortRef)
  deriving DecidableEq, Repr

abbrev Heap := Finset Block

namespace Fabric
variable {f : Fabric} {n : NodeRef} {p : PortRef}

/-- All nodes and ports that were allocated. -/
def heap (f : Fabric) : Heap :=
  (Finset.range f.nodeCount).image .node ∪ (Finset.range f.portCount).image .port

@[simp] theorem node_mem_heap : Block.node n ∈ f.heap ↔ n < f.nodeCount := by
  simp [Fabric.heap]

@[simp] theorem port_mem_heap : Block.port p ∈ f.heap ↔ p < f.portCount := by
  simp [Fabric.heap]

def destroyNode (f : Fabric) (heap : Heap) (n : NodeRef) : Except Block Heap := do
  let heap ← Release.freeAll heap ((f.presentPorts n).map .port)
  Release.free heap (.node n)

def ibndDestroyFabric (f : Fabric) (heap : Heap) : Except Block Heap :=
  f.nodes.foldlM f.destroyNode heap

def nodeBlocks (f : Fabric) (n : NodeRef) : List Block :=
  (f.presentPorts n).map .port ++ [.node n]

/-- What `ibnd_destroy_fabric` frees, in this order. -/
def blocks (f : Fabric) : List Block := f.nodes.flatMap f.nodeBlocks

theorem destroyNode_eq (f : Fabric) (heap : Heap) (n : NodeRef) :
    f.destroyNode heap n = Release.freeAll heap (f.nodeBlocks n) := by
  rw [nodeBlocks, Release.freeAll_append]
  simp only [Release.freeAll_singleton]
  rfl

theorem ibndDestroyFabric_eq (f : Fabric) (heap : Heap) :
    f.ibndDestroyFabric heap = Release.freeAll heap f.blocks := by
  rw [blocks, ← Release.freeAll_flatMap]
  exact congrArg (fun step => f.nodes.foldlM step heap)
    (funext fun heap => funext fun n => f.destroyNode_eq heap n)

/-- A slot inside the array of a node has the port. -/
def Holds (f : Fabric) (p : PortRef) : Prop := ∃ n ∈ f.nodes, p ∈ f.presentPorts n

theorem mem_presentPorts : p ∈ f.presentPorts n ↔
    ∃ k ≤ (f.node n).numports, (f.node n).ports k = some p := by
  simp [presentPorts, Nat.lt_succ_iff]

theorem node_mem_nodeBlocks {m : NodeRef} : Block.node n ∈ f.nodeBlocks m ↔ n = m := by
  simp [nodeBlocks]

theorem port_mem_nodeBlocks : Block.port p ∈ f.nodeBlocks n ↔ p ∈ f.presentPorts n := by
  simp [nodeBlocks]

@[simp] theorem node_mem_blocks : Block.node n ∈ f.blocks ↔ n ∈ f.nodes := by
  simp [blocks, node_mem_nodeBlocks]

@[simp] theorem port_mem_blocks : Block.port p ∈ f.blocks ↔ f.Holds p := by
  simp [blocks, port_mem_nodeBlocks, Holds]

/-- Every node is in the list once, and no port is in two slots. -/
structure Owning (f : Fabric) : Prop where
  nodup : f.nodes.Nodup
  unique : ∀ {n m j k p}, (f.node n).ports j = some p → (f.node m).ports k = some p →
    n = m ∧ j = k

/-- No block is freed twice. -/
theorem Owning.nodup_blocks (h : f.Owning) : f.blocks.Nodup := by
  refine List.nodup_flatMap.mpr ⟨fun n _ => ?_, h.nodup.pairwise_of_forall_ne fun n _ m _ hnm => ?_⟩
  · refine List.nodup_append.mpr ⟨?_, List.nodup_singleton _, ?_⟩
    · refine (List.Nodup.filterMap ?_ List.nodup_range).map fun p q hpq => Block.port.inj hpq
      exact fun j k p hj hk => (h.unique hj hk).2
    · simp
  · intro b hn hm
    cases b with
    | node i => exact hnm ((node_mem_nodeBlocks.mp hn).symm.trans (node_mem_nodeBlocks.mp hm))
    | port p =>
        obtain ⟨j, -, hj⟩ := mem_presentPorts.mp (port_mem_nodeBlocks.mp hn)
        obtain ⟨k, -, hk⟩ := mem_presentPorts.mp (port_mem_nodeBlocks.mp hm)
        exact hnm (h.unique hj hk).1

/-- The fabric leads to a port. -/
inductive LeadsTo (f : Fabric) : PortRef → Prop
  | slot {n : NodeRef} {k : Nat} {p : PortRef} : n ∈ f.nodes → (f.node n).ports k = some p →
      LeadsTo f p
  | hash {p : PortRef} : p ∈ f.hashed → LeadsTo f p
  | lid {p : PortRef} (lid : UInt32) : f.lid2guid.lookup lid = some p → LeadsTo f p
  | remote {p q : PortRef} : LeadsTo f p → f.remoteport p = some q → LeadsTo f q

end Fabric
end InfinibandDiags
