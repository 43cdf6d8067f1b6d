import Mathlib.Algebra.BigOperators.Group.List.Basic
import Mathlib.Algebra.Order.Ring.Nat

/-! Tables of sums that stop at a greatest value. -/
namespace InfinibandDiags
namespace Saturate
variable {σ β κ : Type*} {step : σ → β → σ} {table : σ → List (κ × Nat)} {cap : κ → Nat}
  {val : β → κ → Nat}

theorem min_add_min (c a b d : Nat) : min c (min c (a + b) + d) = min c (a + (b + d)) := by
  omega

variable (table) in
/-- Where every step adds to every entry, up to the entry's greatest value, so does a run. -/
theorem table_foldl
    (hstep : ∀ s b, table (step s b) =
      (table s).map fun e => (e.1, min (cap e.1) (e.2 + val b e.1)))
    {s : σ} (hs : ∀ e ∈ table s, e.2 ≤ cap e.1) (bs : List β) :
    table (bs.foldl step s) =
      (table s).map fun e => (e.1, min (cap e.1) (e.2 + (bs.map fun b => val b e.1).sum)) := by
  induction bs generalizing s with
  | nil =>
      symm
      refine (List.map_congr_left fun e he => ?_).trans (List.map_id _)
      exact Prod.ext rfl (min_eq_right (hs e he))
  | cons b bs ih =>
      have hnext : ∀ e ∈ table (step s b), e.2 ≤ cap e.1 := by
        intro e he
        rw [hstep] at he
        obtain ⟨e, -, rfl⟩ := List.mem_map.mp he
        exact min_le_left _ _
      rw [List.foldl_cons, ih hnext, hstep, List.map_map]
      refine List.map_congr_left fun e _ => Prod.ext rfl ?_
      exact min_add_min _ _ _ _

variable (table) in
/-- The order of the steps does not matter. -/
theorem table_foldl_perm
    (hstep : ∀ s b, table (step s b) =
      (table s).map fun e => (e.1, min (cap e.1) (e.2 + val b e.1)))
    {s : σ} (hs : ∀ e ∈ table s, e.2 ≤ cap e.1) {bs bs' : List β} (hperm : bs.Perm bs') :
    table (bs.foldl step s) = table (bs'.foldl step s) := by
  rw [table_foldl table hstep hs, table_foldl table hstep hs]
  refine List.map_congr_left fun e _ => Prod.ext rfl ?_
  rw [(hperm.map _).sum_eq]

end Saturate
end InfinibandDiags
