import InfinibandDiags.Fabric.Basic

/-! What the updates of a fabric do to the links, the hash chains and the nodes. -/
namespace InfinibandDiags
namespace Fabric
variable {f f' : Fabric} {p q : PortRef} {n : NodeRef} {k : Nat}

theorem slot_eq_ok {r : Option PortRef} :
    f.slot n k = .ok r ↔ k ≤ (f.node n).numports ∧ (f.node n).ports k = r := by
  unfold slot
  split
  · next h => simp [h]
  · next h => simp [h]

/-- The test-and-push of `add_to_portguid_hash`, taken apart. -/
theorem addToPortguidHash_ok {rc : Int}
    (h : f.addToPortguidHash p = .ok (rc, f')) :
    ∃ dup, f.onChain p f.portCount (f.portstbl (f.bucket p)) = .ok dup ∧
      let f₁ := { f with hashed := p :: f.hashed }
      f' = if dup then f₁ else
        { f₁.modifyPort p fun port => { port with htnext := f.portstbl (f.bucket p) } with
          portstbl := Function.update f.portstbl (f.bucket p) (some p) } := by
  obtain ⟨dup, hdup, hrest⟩ := bind_eq_ok.mp h
  refine ⟨dup, hdup, ?_⟩
  cases dup with
  | true =>
      obtain ⟨-, rfl⟩ := by simpa using hrest
      rfl
  | false =>
      obtain ⟨-, rfl⟩ := by simpa using hrest
      rfl

theorem addToPortlidHash_ok (h : f.addToPortlidHash p = .ok f') :
    ∃ m, f' = { f with lid2guid := m } := by
  unfold addToPortlidHash at h
  dsimp only at h
  split at h
  · cases h
  · split at h
    · obtain ⟨m, -, hm⟩ := bind_eq_ok.mp h
      exact ⟨m, (Except.ok.inj hm).symm⟩
    · exact ⟨f.lid2guid, (Except.ok.inj h).symm⟩

theorem slot_eq_error {fault : Fault} :
    f.slot n k = .error fault ↔ (f.node n).numports < k ∧ fault = .outOfBounds := by
  unfold slot
  split
  · next h => simp [Nat.not_lt.mpr h]
  · next h => simp [Nat.lt_of_not_le h, eq_comm]

theorem remoteport_modifyPort (f : Fabric) (p : PortRef) (g : Port → Port) :
    (f.modifyPort p g).remoteport =
      Function.update f.remoteport p (g (f.port p)).remoteport := by
  funext x
  by_cases hx : x = p
  · subst hx; simp [remoteport, modifyPort]
  · simp [remoteport, modifyPort, hx]

theorem remoteport_newPort (f : Fabric) (n : NodeRef) (k : Nat) (port : Port) :
    (f.newPort n k port).remoteport =
      Function.update f.remoteport f.portCount port.remoteport := by
  funext x
  by_cases hx : x = f.portCount
  · subst hx; simp [remoteport, newPort]
  · simp [remoteport, newPort, hx]

/-- A peer let go of. -/
theorem remoteport_release (f : Fabric) (p : PortRef) :
    (f.release p).remoteport = Pairing.release f.remoteport p := by
  unfold release Pairing.release
  cases f.remoteport p with
  | none => rfl
  | some r => exact remoteport_modifyPort f r _

/-- `link_ports` is the relinking of two partners. -/
theorem remoteport_linkPorts (f : Fabric) (p q : PortRef) :
    (f.linkPorts p q).remoteport = Pairing.relink f.remoteport p q := by
  unfold linkPorts
  dsimp only
  rw [remoteport_modifyPort, remoteport_modifyPort, remoteport_release, remoteport_release]
  rfl

theorem node_release (f : Fabric) (p : PortRef) :
    (f.release p).node = f.node ∧ (f.release p).portCount = f.portCount := by
  unfold release
  split <;> exact ⟨rfl, rfl⟩

theorem node_linkPorts (f : Fabric) (p q : PortRef) :
    (f.linkPorts p q).node = f.node ∧ (f.linkPorts p q).portCount = f.portCount :=
  ⟨(node_release _ q).1.trans (node_release f p).1, (node_release _ q).2.trans (node_release f p).2⟩

theorem htnext_modifyPort (f : Fabric) (p : PortRef) (g : Port → Port) :
    (f.modifyPort p g).htnext = Function.update f.htnext p (g (f.port p)).htnext := by
  funext x
  by_cases hx : x = p
  · subst hx; simp [Fabric.htnext, modifyPort]
  · simp [Fabric.htnext, modifyPort, hx]

theorem bucket_modifyPort (f : Fabric) (p : PortRef) (g : Port → Port) :
    (f.modifyPort p g).bucket = Function.update f.bucket p (hashguid (g (f.port p)).guid) := by
  funext x
  by_cases hx : x = p
  · subst hx; simp [Fabric.bucket, modifyPort]
  · simp [Fabric.bucket, modifyPort, hx]

end Fabric
end InfinibandDiags
