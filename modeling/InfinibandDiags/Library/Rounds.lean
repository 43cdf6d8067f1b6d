import Mathlib.Tactic.TypeStar

/-! Loops of a bounded number of rounds that a round can leave: `while (n--)` around a body
with `break` and `return`. -/
namespace Rounds

/-- What a round comes to: another round, or an end with a result. -/
inductive Round (σ ρ : Type)
  | again (s : σ)
  | leave (r : ρ)

variable {σ ρ : Type} {body : σ → Round σ ρ} {R : Nat → σ → Prop}

/-- The value of the counter where the loop was left and the result, or the state when all rounds
went by. -/
def run (body : σ → Round σ ρ) : Nat → σ → Except σ (Nat × ρ)
  | 0, s => .error s
  | n + 1, s =>
      match body s with
      | .again s => run body n s
      | .leave r => .ok (n, r)

theorem run_again {n : Nat} {s s' : σ} (h : body s = .again s') :
    run body (n + 1) s = run body n s' := by
  rw [run, h]

theorem run_leave {n : Nat} {s : σ} {r : ρ} (h : body s = .leave r) :
    run body (n + 1) s = .ok (n, r) := by
  rw [run, h]

/-- What every round hands on to the next holds in the round that leaves the loop. -/
theorem run_invariant {s : σ} (hstep : ∀ i s s', R i s → body s = .again s' → R (i + 1) s')
    {n k : Nat} {r : ρ} (h : run body n s = .ok (k, r)) {i : Nat} (hs : R i s) :
    ∃ m s', R (i + m) s' ∧ body s' = .leave r ∧ k + m + 1 = n := by
  induction n generalizing s i with
  | zero => cases h
  | succ n ih =>
      cases hb : body s with
      | again s' =>
          rw [run_again hb] at h
          obtain ⟨m, t, ht, hleave, hcount⟩ := ih h (hstep i s s' hs hb)
          refine ⟨m + 1, t, ?_, hleave, by omega⟩
          rwa [← Nat.add_assoc, Nat.add_right_comm]
      | leave r' =>
          rw [run_leave hb] at h
          cases h
          exact ⟨0, s, hs, hb, rfl⟩

/-- What every round hands on to the next holds when all rounds went by. -/
theorem run_error {s s' : σ} (hstep : ∀ i s s', R i s → body s = .again s' → R (i + 1) s')
    {n : Nat} (h : run body n s = .error s') {i : Nat} (hs : R i s) : R (i + n) s' := by
  induction n generalizing s i with
  | zero =>
      cases h
      exact hs
  | succ n ih =>
      cases hb : body s with
      | again t =>
          rw [run_again hb] at h
          have ht := ih h (hstep i s t hs hb)
          rwa [Nat.add_right_comm] at ht
      | leave r =>
          rw [run_leave hb] at h
          cases h

/-- A loop that no round leaves. -/
theorem run_never_leaves (hstep : ∀ i s, R i s → ∃ s', body s = .again s' ∧ R (i + 1) s') (n : Nat)
    {i : Nat} {s : σ} (hs : R i s) : ∃ s', run body n s = .error s' ∧ R (i + n) s' := by
  induction n generalizing s i with
  | zero => exact ⟨s, rfl, hs⟩
  | succ n ih =>
      obtain ⟨t, hb, ht⟩ := hstep i s hs
      obtain ⟨s', hrun, hs'⟩ := ih ht
      refine ⟨s', (run_again hb).trans hrun, ?_⟩
      rwa [Nat.add_right_comm] at hs'

/-- A loop that goes through `m` rounds and leaves in the next, if it has that many. -/
theorem run_reaches (body : σ → Round σ ρ) {m : Nat}
    (hstep : ∀ i < m, ∀ s, R i s → ∃ s', body s = .again s' ∧ R (i + 1) s')
    {n i : Nat} (him : i ≤ m) (hn : m - i < n) {s : σ} (hs : R i s) :
    ∃ s', R m s' ∧ ∀ r, body s' = .leave r → run body n s = .ok (n - (m - i) - 1, r) := by
  induction n generalizing s i with
  | zero => exact absurd hn (Nat.not_lt_zero _)
  | succ n ih =>
      rcases Nat.eq_or_lt_of_le him with rfl | hlt
      · refine ⟨s, hs, fun r hr => ?_⟩
        rw [run_leave hr, Nat.sub_self]
        rfl
      · obtain ⟨s', hb, hs'⟩ := hstep i hlt s hs
        obtain ⟨t, ht, hleave⟩ := ih (Nat.succ_le_of_lt hlt) (by omega) hs'
        refine ⟨t, ht, fun r hr => ?_⟩
        rw [run_again hb, hleave r hr]
        congr 2
        omega

end Rounds
