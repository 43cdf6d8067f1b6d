import InfinibandDiags.Diff.Silent

/-! The diffs are exact unless the only differences are ones they do not look at. -/
namespace InfinibandDiags
open Fabric

/-- Both diffs print nothing if and only if the fabrics are the same, except where what differs
is hidden from one of them and nothing else differs. -/
theorem diff_exact_iff {f₁ f₂ : Fabric} (hf₁ : WellFormed f₁) (hf₂ : WellFormed f₂)
    (hports : SamePortGuids f₁ f₂) :
    ((Ibnetdiscover.PrintsNothing f₁ f₂ ↔ SameTopology f₁ f₂) ∧
      (Iblinkinfo.PrintsNothing f₁ f₂ ↔ SameTopology f₁ f₂)) ↔
    (Seen Ibnetdiscover.Listed Ibnetdiscover.Listed f₁ f₂ ∨
      ¬ Hidden Ibnetdiscover.Listed Ibnetdiscover.Listed f₁ f₂) ∧
    (Seen Iblinkinfo.Shown (fun _ _ => True) f₁ f₂ ∨
      ¬ Hidden Iblinkinfo.Shown (fun _ _ => True) f₁ f₂) := by
  have hexact : ∀ shown compared : Fabric → NodeRef → Prop,
      (¬ Seen shown compared f₁ f₂ ↔ SameTopology f₁ f₂) ↔
        (Seen shown compared f₁ f₂ ∨ ¬ Hidden shown compared f₁ f₂) := by
    intro shown compared
    rw [sameTopology_iff shown compared hf₁ hf₂ hports]
    tauto
  rw [Ibnetdiscover.printsNothing_iff hf₁ hf₂ hports, Iblinkinfo.printsNothing_iff hf₁ hf₂]
  exact and_congr (hexact _ _) (hexact _ _)

/-- Two switches with two cables between them, straight or crossed. -/
def twoSwitches (crossed : Bool) : Fabric :=
  let node (n : NodeRef) : Node :=
    { (default : Node) with
      guid := UInt64.ofNat n + 1
      type := ibNodeSwitch
      numports := 2
      ports := fun k => if k ≤ 2 then some (3 * n + k) else none }
  let port (p : PortRef) : Port :=
    { (default : Port) with
      guid := UInt64.ofNat (p / 3) + 1
      node := p / 3
      portnum := p % 3
      remoteport := if p % 3 = 0 then none else if crossed then some (6 - p) else some ((p + 3) % 6) }
  { allocateFabricInternal with
    node := node
    nodeCount := 2
    port := port
    portCount := 6
    nodes := [0, 1]
    switches := [0, 1]
    nodestbl := fun idx => [0, 1].filter fun n => hashguid (node n).guid = idx
    fromNode := some 0 }

theorem twoSwitches_cabled : ∀ crossed, ∀ n ∈ (twoSwitches crossed).nodes,
    ∀ k ≤ ((twoSwitches crossed).node n).numports, ∀ p ∈ ((twoSwitches crossed).node n).ports k,
      ∀ r ∈ (twoSwitches crossed).remoteport p,
        let f := twoSwitches crossed
        (f.port r).node ∈ f.nodes ∧ (f.port r).portnum ≤ (f.node (f.port r).node).numports ∧
          (f.node (f.port r).node).ports (f.port r).portnum = some r := by
  decide

theorem twoSwitches_wellFormed (crossed : Bool) : WellFormed (twoSwitches crossed) where
  find_iff {guid n} := by
    constructor
    · intro hfind
      have hmem := List.mem_of_find?_eq_some hfind
      exact ⟨(List.mem_filter.mp hmem).1, by simpa using List.find?_some hfind⟩
    · rintro ⟨hn, rfl⟩
      have hcases : n = 0 ∨ n = 1 := by simpa [twoSwitches] using hn
      rcases hcases with rfl | rfl
      · decide +revert
      · decide +revert
  switches {n} := by
    simp [twoSwitches]
  chAdapters {n} := by
    simp [twoSwitches, allocateFabricInternal, ibNodeSwitch, ibNodeCa]
  routers {n} := by
    simp [twoSwitches, allocateFabricInternal, ibNodeSwitch, ibNodeRouter]
  ported n _ := ⟨0, Nat.zero_le _, rfl⟩
  cabled {n k p r} hn hk hp hr := by
    exact twoSwitches_cabled crossed n hn k hk p hp r hr

theorem twoSwitches_samePortGuids : SamePortGuids (twoSwitches false) (twoSwitches true) := by
  have hall : ∀ n ∈ (twoSwitches false).nodes, ∀ m ∈ (twoSwitches true).nodes,
      ((twoSwitches false).node n).guid = ((twoSwitches true).node m).guid →
        ∀ k ≤ ((twoSwitches false).node n).numports, ∀ p ∈ ((twoSwitches false).node n).ports k,
          ∀ q ∈ ((twoSwitches true).node m).ports k,
            ((twoSwitches false).port p).guid = ((twoSwitches true).port q).guid := by
    decide
  intro n hn m hm hguid k hk _ p q hp hq
  exact hall n hn m hm hguid k hk p hp q hq

theorem diff_exact_iff_twoSwitches :
    ((Ibnetdiscover.PrintsNothing (twoSwitches false) (twoSwitches true) ↔
        SameTopology (twoSwitches false) (twoSwitches true)) ∧
      (Iblinkinfo.PrintsNothing (twoSwitches false) (twoSwitches true) ↔
        SameTopology (twoSwitches false) (twoSwitches true))) ↔
    (Seen Ibnetdiscover.Listed Ibnetdiscover.Listed (twoSwitches false) (twoSwitches true) ∨
      ¬ Hidden Ibnetdiscover.Listed Ibnetdiscover.Listed (twoSwitches false) (twoSwitches true)) ∧
    (Seen Iblinkinfo.Shown (fun _ _ => True) (twoSwitches false) (twoSwitches true) ∨
      ¬ Hidden Iblinkinfo.Shown (fun _ _ => True) (twoSwitches false) (twoSwitches true)) :=
  diff_exact_iff (twoSwitches_wellFormed false) (twoSwitches_wellFormed true)
    twoSwitches_samePortGuids

/-- The two cables between two switches exchange their ends, and neither diff prints anything. -/
theorem diff_misses_crossed_cables : WellFormed (twoSwitches false) ∧
    WellFormed (twoSwitches true) ∧ SamePortGuids (twoSwitches false) (twoSwitches true) ∧
    Ibnetdiscover.PrintsNothing (twoSwitches false) (twoSwitches true) ∧
    Iblinkinfo.PrintsNothing (twoSwitches false) (twoSwitches true) ∧
    ¬ SameTopology (twoSwitches false) (twoSwitches true) := by
  refine ⟨twoSwitches_wellFormed false, twoSwitches_wellFormed true, twoSwitches_samePortGuids,
    by unfold Ibnetdiscover.PrintsNothing; decide +kernel,
    by unfold Iblinkinfo.PrintsNothing; decide +kernel, ?_⟩
  intro h
  have hsame := h.ends 0 (by decide) 0 (by decide) rfl 1 (by decide)
  unfold SameEnd at hsame
  revert hsame
  decide

end InfinibandDiags
