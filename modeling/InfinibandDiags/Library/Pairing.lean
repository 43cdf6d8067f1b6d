import Mathlib.Logic.Function.Basic

/-! Partners kept in a mutable field: every object holds at most one partner, and
`relink` pairs two objects after releasing whatever either was paired with. -/
namespace InfinibandDiags.Pairing

variable {R : Type*} [DecidableEq R]

/-- Whoever is a partner points back: the relation is a partial involution. -/
def Symmetric (f : R → Option R) : Prop := ∀ p q, f p = some q → f q = some p

/-- Clears the partner field of whatever the object is paired with. -/
def release (f : R → Option R) (p : R) : R → Option R :=
  match f p with
  | some r => Function.update f r none
  | none => f

/-- Releases both ends one after the other, then points them at each other. -/
def relink (f : R → Option R) (p q : R) : R → Option R :=
  let g := release (release f p) q
  Function.update (Function.update g p (some q)) q (some p)

variable {f : R → Option R} {p q x y : R}

omit [DecidableEq R] in
theorem Symmetric.inj (hf : Symmetric f) (hp : f p = some x) (hq : f q = some x) : p = q :=
  Option.some.inj ((hf p x hp).symm.trans (hf q x hq))

theorem release_apply (f : R → Option R) (p x : R) :
    release f p x = if f p = some x then none else f x := by
  unfold release
  cases hp : f p with
  | none => simp
  | some r =>
      by_cases hx : x = r
      · subst hx; simp
      · change Function.update f r none x = _
        rw [Function.update_of_ne hx, if_neg (by simpa using Ne.symm hx)]

/-- An object keeps its partner through `relink` unless it is, or was paired with, an end. -/
theorem relink_apply (hf : Symmetric f) (p q x : R) :
    relink f p q x = if x = q then some p else if x = p then some q
      else if f x = some p ∨ f x = some q then none else f x := by
  unfold relink
  by_cases hq : x = q
  · subst hq; simp
  · by_cases hp : x = p
    · subst hp; simp [hq]
    · simp only [Function.update_of_ne hq, Function.update_of_ne hp, if_neg hq, if_neg hp,
        release_apply]
      by_cases h₁ : f p = some x
      · simp only [h₁, if_true, hf p x h₁, true_or, ite_self]
      · have h₁' : f x ≠ some p := fun h => h₁ (hf x p h)
        by_cases h₂ : f q = some x
        · have h₂' := hf q x h₂
          have hqp : f p ≠ some q := by
            intro h
            have hpx : p = x := Option.some.inj ((hf p q h).symm.trans h₂)
            exact hp hpx.symm
          simp [h₂, h₂', hqp]
        · have h₂' : f x ≠ some q := fun h => h₂ (hf x q h)
          simp only [if_neg h₁, h₁', h₂', or_self, if_false]
          split <;> simp

/-- The new pair, and no other, may be formed by `relink`. -/
theorem relink_eq_some (hf : Symmetric f) (h : relink f p q x = some y) :
    (x = q ∧ y = p) ∨ (x = p ∧ y = q) ∨
      (x ≠ p ∧ x ≠ q ∧ y ≠ p ∧ y ≠ q ∧ f x = some y) := by
  rw [relink_apply hf] at h
  split at h
  · next hx => exact .inl ⟨hx, (Option.some.inj h).symm⟩
  · next hq =>
      split at h
      · next hx => exact .inr (.inl ⟨hx, (Option.some.inj h).symm⟩)
      · next hp =>
          split at h
          · cases h
          · next hor =>
              refine .inr (.inr ⟨hp, hq, ?_, ?_, h⟩)
              · rintro rfl; exact hor (.inl h)
              · rintro rfl; exact hor (.inr h)

theorem relink_symmetric (hf : Symmetric f) (p q : R) : Symmetric (relink f p q) := by
  intro x y h
  rcases relink_eq_some hf h with ⟨rfl, rfl⟩ | ⟨rfl, rfl⟩ | ⟨hxp, hxq, hyp, hyq, hxy⟩
  · rw [relink_apply hf]
    by_cases hpq : y = x
    · simp [hpq]
    · simp [hpq]
  · rw [relink_apply hf, if_pos rfl]
  · have hyx := hf x y hxy
    rw [relink_apply hf, if_neg hyq, if_neg hyp, if_neg, hyx]
    rw [hyx]
    rintro (h | h)
    · exact hxp (Option.some.inj h)
    · exact hxq (Option.some.inj h)

/-- A pair disjoint from both ends and from their old partners survives. -/
theorem relink_of_untouched (hf : Symmetric f) (hx : f x = some y) (hxp : x ≠ p) (hxq : x ≠ q)
    (hyp : y ≠ p) (hyq : y ≠ q) : relink f p q x = some y := by
  rw [relink_apply hf, if_neg hxq, if_neg hxp, if_neg, hx]
  rw [hx]
  rintro (h | h)
  · exact hyp (Option.some.inj h)
  · exact hyq (Option.some.inj h)

end InfinibandDiags.Pairing
