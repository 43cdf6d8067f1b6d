import Mathlib.Tactic.TypeStar

/-! Folds whose steps may fail: what each step keeps holds at the end, and the step at which a
fold fails. -/
namespace Folds
variable {ε σ α : Type} {step : σ → α → Except ε σ} {xs : List α} {s t : σ}

theorem foldlM_cons_ok {x : α} :
    (x :: xs).foldlM step s = .ok t ↔ ∃ s', step s x = .ok s' ∧ xs.foldlM step s' = .ok t := by
  rw [List.foldlM_cons]
  cases step s x with
  | error e => simp [bind, Except.bind]
  | ok s' => simp [bind, Except.bind]

/-- A fact about the steps done so far, kept by every next step. -/
theorem foldlM_prefix {P : List α → σ → Prop}
    (hstep : ∀ seen x rest s s', xs = seen ++ x :: rest → P seen s → step s x = .ok s' →
      P (seen ++ [x]) s')
    (h : xs.foldlM step s = .ok t) (hs : P [] s) : P xs t := by
  suffices ∀ rest seen s, xs = seen ++ rest → P seen s → rest.foldlM step s = .ok t → P xs t from
    this xs [] s rfl hs h
  intro rest
  induction rest with
  | nil =>
      intro seen s hxs hP hfold
      cases hfold
      rw [hxs, List.append_nil]
      exact hP
  | cons x rest ih =>
      intro seen s hxs hP hfold
      obtain ⟨s', hx, hrest⟩ := foldlM_cons_ok.mp hfold
      exact ih (seen ++ [x]) s' (by simp [hxs]) (hstep seen x rest s s' hxs hP hx) hrest

/-- An invariant of the steps. -/
theorem foldlM_invariant {P : σ → Prop}
    (hstep : ∀ x ∈ xs, ∀ s s', P s → step s x = .ok s' → P s')
    (h : xs.foldlM step s = .ok t) (hs : P s) : P t := by
  apply foldlM_prefix (P := fun _ => P) ?_ h hs
  intro seen x rest s s' hxs hP hx
  exact hstep x (by simp [hxs]) s s' hP hx

/-- Under an invariant by which each step goes through exactly if the condition holds of its
element, the whole fold does exactly if the condition holds of all. -/
theorem foldlM_ok_iff {P : List α → σ → Prop} {C : α → Prop}
    (hstep : ∀ seen x s, P seen s →
      ((∃ s', step s x = .ok s') ↔ C x) ∧ ∀ s', step s x = .ok s' → P (seen ++ [x]) s')
    {seen : List α} (hs : P seen s) :
    ((∃ t, xs.foldlM step s = .ok t) ↔ ∀ x ∈ xs, C x) ∧
      ∀ t, xs.foldlM step s = .ok t → P (seen ++ xs) t := by
  induction xs generalizing seen s with
  | nil =>
      refine ⟨iff_of_true ⟨s, rfl⟩ (fun x hx => absurd hx List.not_mem_nil), fun t ht => ?_⟩
      cases ht
      rwa [List.append_nil]
  | cons x xs ih =>
      obtain ⟨hiff, hkeep⟩ := hstep seen x s hs
      constructor
      · constructor
        · rintro ⟨t, ht⟩
          obtain ⟨s', hx, hrest⟩ := foldlM_cons_ok.mp ht
          exact List.forall_mem_cons.mpr
            ⟨hiff.mp ⟨s', hx⟩, (ih (hkeep s' hx)).1.mp ⟨t, hrest⟩⟩
        · intro hall
          obtain ⟨hC, hrest⟩ := List.forall_mem_cons.mp hall
          obtain ⟨s', hx⟩ := hiff.mpr hC
          obtain ⟨t, ht⟩ := (ih (hkeep s' hx)).1.mpr hrest
          exact ⟨t, foldlM_cons_ok.mpr ⟨s', hx, ht⟩⟩
      · intro t ht
        obtain ⟨s', hx, hrest⟩ := foldlM_cons_ok.mp ht
        rw [List.append_cons]
        exact (ih (hkeep s' hx)).2 t hrest

/-- It does not fail in one of the given ways. -/
def Safe (bad : ε → Prop) (x : Except ε σ) : Prop := ∀ e, bad e → x ≠ .error e

variable {bad : ε → Prop} {τ : Type}

@[simp] theorem safe_ok {a : σ} : Safe bad (.ok a : Except ε σ) := fun _ _ h => by cases h

theorem safe_ite {c : Prop} [Decidable c] {x y : Except ε σ} (hx : Safe bad x) (hy : Safe bad y) :
    Safe bad (if c then x else y) := by
  split
  · exact hx
  · exact hy

theorem safe_bind {x : Except ε σ} {f : σ → Except ε τ} :
    Safe bad (x >>= f) ↔ Safe bad x ∧ ∀ a, x = .ok a → Safe bad (f a) := by
  cases x with
  | error e =>
      constructor
      · intro h
        refine ⟨fun e' hbad he => h e' hbad ?_, fun a ha => by cases ha⟩
        cases he
        rfl
      · rintro ⟨h, -⟩ e' hbad he
        cases he
        exact h _ hbad rfl
  | ok a =>
      constructor
      · intro h
        exact ⟨safe_ok, fun b hb => by cases hb; exact h⟩
      · rintro ⟨-, h⟩
        exact h a rfl

/-- A condition on every step that a fold reaches, in the state it is reached in. -/
def Along (step : σ → α → Except ε σ) (fine : σ → α → Prop) : σ → List α → Prop
  | _, [] => True
  | s, x :: xs => fine s x ∧ ∀ s', step s x = .ok s' → Along step fine s' xs

/-- A fold is safe if and only if every step that it reaches is. -/
theorem safe_foldlM {fine : σ → α → Prop}
    (hstep : ∀ s, ∀ x ∈ xs, Safe bad (step s x) ↔ fine s x) (s : σ) :
    Safe bad (xs.foldlM step s) ↔ Along step fine s xs := by
  induction xs generalizing s with
  | nil => exact iff_of_true safe_ok trivial
  | cons x xs ih =>
      rw [List.foldlM_cons, safe_bind, hstep s x List.mem_cons_self]
      have hrest : ∀ s', Safe bad (xs.foldlM step s') ↔ Along step fine s' xs :=
        ih fun s y hy => hstep s y (List.mem_cons_of_mem x hy)
      simp only [hrest]
      rfl

/-- Steps that are always safe make a safe fold. -/
theorem safe_foldlM_of_forall (hstep : ∀ s, ∀ x ∈ xs, Safe bad (step s x)) (s : σ) :
    Safe bad (xs.foldlM step s) := by
  induction xs generalizing s with
  | nil => exact safe_ok
  | cons x xs ih =>
      rw [List.foldlM_cons, safe_bind]
      exact ⟨hstep s x List.mem_cons_self, fun s' _ =>
        ih (fun s y hy => hstep s y (List.mem_cons_of_mem x hy)) s'⟩

/-- What holds, whether it goes through or stops. -/
def Ends (ok : σ → Prop) (stop : ε → Prop) : Except ε σ → Prop
  | .ok a => ok a
  | .error e => stop e

theorem Ends.bind {P : σ → Prop} {Q : τ → Prop} {stop : ε → Prop} {x : Except ε σ}
    {f : σ → Except ε τ} (hx : Ends P stop x) (hf : ∀ a, P a → Ends Q stop (f a)) :
    Ends Q stop (x >>= f) := by
  cases x with
  | error e => exact hx
  | ok a => exact hf a hx

theorem Ends.imp {P Q : σ → Prop} {stop stop' : ε → Prop} {x : Except ε σ} (hx : Ends P stop x)
    (hok : ∀ a, P a → Q a) (hstop : ∀ e, stop e → stop' e) : Ends Q stop' x := by
  cases x with
  | error e => exact hstop e hx
  | ok a => exact hok a hx

/-- A fact about the steps done so far, kept by every next step, and what a step leaves where it
stops. -/
theorem ends_foldlM {P : List α → σ → Prop} {stop : ε → Prop}
    (hstep : ∀ seen x rest s, xs = seen ++ x :: rest → P seen s →
      Ends (P (seen ++ [x])) stop (step s x)) (hs : P [] s) :
    Ends (P xs) stop (xs.foldlM step s) := by
  suffices ∀ rest seen s, xs = seen ++ rest → P seen s → Ends (P xs) stop (rest.foldlM step s) from
    this xs [] s rfl hs
  intro rest
  induction rest with
  | nil =>
      intro seen s hxs hP
      rw [List.append_nil] at hxs
      subst hxs
      exact hP
  | cons x rest ih =>
      intro seen s hxs hP
      rw [List.foldlM_cons]
      exact (hstep seen x rest s hxs hP).bind fun s' hP' => ih (seen ++ [x]) s' (by simp [hxs]) hP'

/-- A loop none of whose steps fails. -/
theorem mapM_ok {α β : Type} {f : α → Except ε β} {g : α → β} {l : List α}
    (h : ∀ a ∈ l, f a = .ok (g a)) : l.mapM f = .ok (l.map g) := by
  induction l with
  | nil => rfl
  | cons a l ih =>
      have hhead : f a = .ok (g a) := h a List.mem_cons_self
      have htail : l.mapM f = .ok (l.map g) := ih fun b hb => h b (List.mem_cons_of_mem a hb)
      rw [List.mapM_cons, hhead, htail]
      rfl

/-- Appending from the left, for a table that is evaluated from its head on. -/
theorem foldl_append_flatten {α : Type} (l : List α) (parts : List (List α)) :
    parts.foldl (fun l part => l ++ part) l = l ++ parts.flatten := by
  induction parts generalizing l with
  | nil => rw [List.foldl_nil, List.flatten_nil, List.append_nil]
  | cons part parts ih => rw [List.foldl_cons, ih, List.flatten_cons, List.append_assoc]

end Folds
