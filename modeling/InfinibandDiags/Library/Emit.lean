import Mathlib.Tactic.TypeStar

/-! Loops that write: a round may change a state and write some lines, and the loop ends at
the first round that fails. -/
namespace Emit
variable {σ τ α ω ε : Type}

def run (step : σ → α → Except ε (σ × List ω)) : σ → List α → Except ε (σ × List ω)
  | s, [] => .ok (s, [])
  | s, x :: xs => do
      let r ← step s x
      let t ← run step r.1 xs
      .ok (t.1, r.2 ++ t.2)

theorem run_singleton {step : σ → α → Except ε (σ × List ω)} (s : σ) (x : α) :
    run step s [x] = step s x := by
  rw [run]
  cases step s x with
  | error e => rfl
  | ok r => simp [run, bind, Except.bind]

/-- It came to its end and wrote nothing. -/
def Silent (r : Except ε (σ × List ω)) : Prop := ∃ s, r = .ok (s, [])

/-- Two parts one after the other write nothing if and only if neither does. -/
theorem then_eq_silent {x : Except ε (σ × List ω)} {y : σ → Except ε (τ × List ω)} {u : τ} :
    (x >>= fun r => y r.1 >>= fun t => .ok (t.1, r.2 ++ t.2)) = .ok (u, []) ↔
      ∃ s, x = .ok (s, []) ∧ y s = .ok (u, []) := by
  cases x with
  | error e => simp [bind, Except.bind]
  | ok r =>
      obtain ⟨s, out⟩ := r
      cases hy : y s with
      | error e =>
          constructor
          · intro h
            simp only [bind, Except.bind, hy] at h
            cases h
          · rintro ⟨s', hs, ht⟩
            cases hs
            rw [hy] at ht
            cases ht
      | ok t =>
          obtain ⟨t, rest⟩ := t
          constructor
          · intro h
            simp only [bind, Except.bind, hy, Except.ok.injEq, Prod.mk.injEq,
              List.append_eq_nil_iff] at h
            obtain ⟨rfl, rfl, rfl⟩ := h
            exact ⟨s, rfl, hy⟩
          · rintro ⟨s', hs, ht⟩
            cases hs
            rw [hy] at ht
            cases ht
            simp only [bind, Except.bind, hy]
            rfl

/-- Two parts one after the other are silent if and only if both are. -/
theorem silent_then {x : Except ε (σ × List ω)} {y : σ → Except ε (τ × List ω)} :
    Silent (x >>= fun r => y r.1 >>= fun t => .ok (t.1, r.2 ++ t.2)) ↔
      ∃ s, x = .ok (s, []) ∧ Silent (y s) := by
  unfold Silent
  simp only [then_eq_silent]
  constructor
  · rintro ⟨t, s, hx, hy⟩
    exact ⟨s, hx, t, hy⟩
  · rintro ⟨s, hx, t, hy⟩
    exact ⟨t, s, hx, hy⟩

/-- Lines before a part, and another state after it. -/
theorem silent_after {x : Except ε (σ × List ω)} {l : List ω} {t : τ} :
    Silent (x >>= fun r => .ok (t, l ++ r.2)) ↔ l = [] ∧ Silent x := by
  cases x with
  | error e => simp [Silent, bind, Except.bind]
  | ok r => simp [Silent, bind, Except.bind, Prod.ext_iff]

theorem lines_eq_nil {x : Except ε (σ × List ω)} :
    (x >>= fun r => .ok r.2) = .ok [] ↔ Silent x := by
  cases x with
  | error e => simp [Silent, bind, Except.bind]
  | ok r => simp [Silent, bind, Except.bind, Prod.ext_iff]

theorem append_eq_nil {x y : Except ε (List ω)} :
    (x >>= fun l => y >>= fun l' => .ok (l ++ l')) = .ok [] ↔ x = .ok [] ∧ y = .ok [] := by
  cases x with
  | error e => simp [bind, Except.bind]
  | ok l =>
      cases y with
      | error e => simp [bind, Except.bind]
      | ok l' => simp [bind, Except.bind]

theorem append_append_eq_nil {x y z : Except ε (List ω)} :
    (x >>= fun l => y >>= fun l' => z >>= fun l'' => .ok (l ++ (l' ++ l''))) = .ok [] ↔
      x = .ok [] ∧ y = .ok [] ∧ z = .ok [] := by
  rw [← @append_eq_nil _ _ y z, ← append_eq_nil]
  cases y with
  | error e => rfl
  | ok l' => cases z <;> rfl

variable {step : σ → α → Except ε (σ × List ω)} {xs : List α}

/-- A loop is silent if and only if each of its rounds is. -/
theorem silent_run {quiet : α → Prop} (hstep : ∀ s, ∀ x ∈ xs, Silent (step s x) ↔ quiet x) (s : σ) :
    Silent (run step s xs) ↔ ∀ x ∈ xs, quiet x := by
  induction xs generalizing s with
  | nil => simp [run, Silent]
  | cons x xs ih =>
      have hrest := ih fun s y hy => hstep s y (List.mem_cons_of_mem x hy)
      rw [List.forall_mem_cons, ← hstep s x List.mem_cons_self]
      calc Silent (run step s (x :: xs))
          ↔ ∃ t, step s x = .ok (t, []) ∧ Silent (run step t xs) := by
            rw [run]
            exact silent_then (y := fun t => run step t xs)
        _ ↔ ∃ t, step s x = .ok (t, []) ∧ ∀ y ∈ xs, quiet y := by simp only [hrest]
        _ ↔ Silent (step s x) ∧ ∀ y ∈ xs, quiet y := exists_and_right

/-- A loop whose silent rounds leave the state where it is. -/
theorem silent_run_still {quiet : α → Prop} {s : σ}
    (hstep : ∀ x ∈ xs, ∀ t, step s x = .ok (t, []) ↔ t = s ∧ quiet x) :
    Silent (run step s xs) ↔ ∀ x ∈ xs, quiet x := by
  induction xs with
  | nil => simp [run, Silent]
  | cons x xs ih =>
      have hrest := ih fun y hy => hstep y (List.mem_cons_of_mem x hy)
      rw [List.forall_mem_cons, run, ← hrest]
      refine (silent_then (y := fun t => run step t xs)).trans ?_
      constructor
      · rintro ⟨t, hx, ht⟩
        obtain ⟨rfl, hquiet⟩ := (hstep x List.mem_cons_self t).mp hx
        exact ⟨hquiet, ht⟩
      · rintro ⟨hquiet, hxs⟩
        exact ⟨s, (hstep x List.mem_cons_self s).mpr ⟨rfl, hquiet⟩, hxs⟩

/-- What a loop without a state writes for some of its elements is a part of what it writes. -/
theorem run_filter_sublist {step : Unit → α → Except ε (Unit × List ω)} (p : α → Bool)
    {out : List ω} (h : run step () xs = .ok ((), out)) :
    ∃ part, run step () (xs.filter p) = .ok ((), part) ∧ part.Sublist out := by
  induction xs generalizing out with
  | nil => exact ⟨[], rfl, List.nil_sublist _⟩
  | cons x xs ih =>
      rw [run] at h
      cases hx : step () x with
      | error e => rw [hx] at h; cases h
      | ok r =>
          cases hrest : run step () xs with
          | error e =>
              simp only [hx, bind, Except.bind, hrest] at h
              cases h
          | ok t =>
              simp only [hx, bind, Except.bind, hrest, Except.ok.injEq, Prod.mk.injEq, true_and] at h
              obtain ⟨part, hpart, hsub⟩ := ih hrest
              rw [List.filter_cons]
              cases p x with
              | false => exact ⟨part, hpart, h ▸ hsub.trans (List.sublist_append_right _ _)⟩
              | true =>
                  refine ⟨r.2 ++ part, ?_, h ▸ hsub.append_left _⟩
                  simp only [if_true, run, hx, bind, Except.bind, hpart]

/-- It came to its end. -/
def Returns (r : Except ε τ) : Prop := ∃ a, r = .ok a

@[simp] theorem returns_ok (a : τ) : Returns (.ok a : Except ε τ) := ⟨a, rfl⟩

@[simp] theorem not_returns_error (e : ε) : ¬ Returns (.error e : Except ε τ) := fun ⟨_, h⟩ => by
  cases h

variable {υ : Type}

theorem returns_bind {x : Except ε τ} {f : τ → Except ε υ} {Q : Prop}
    (hf : ∀ a, Returns (f a) ↔ Q) : Returns (x >>= f) ↔ Returns x ∧ Q := by
  cases x with
  | error e => exact iff_of_false (not_returns_error e) fun h => not_returns_error e h.1
  | ok a => exact (hf a).trans (and_iff_right (returns_ok a)).symm

/-- What is done with a result does not fail. -/
theorem returns_map {x : Except ε τ} (g : τ → υ) :
    Returns (x >>= fun a => .ok (g a)) ↔ Returns x := by
  rw [returns_bind fun a => iff_true_intro (returns_ok (g a)), and_true]

/-- A loop returns if and only if each of its rounds does. -/
theorem returns_run {fine : α → Prop} (hstep : ∀ s, ∀ x ∈ xs, Returns (step s x) ↔ fine x) (s : σ) :
    Returns (run step s xs) ↔ ∀ x ∈ xs, fine x := by
  induction xs generalizing s with
  | nil => exact iff_of_true (returns_ok _) fun x hx => absurd hx List.not_mem_nil
  | cons x xs ih =>
      have hrest := ih fun s y hy => hstep s y (List.mem_cons_of_mem x hy)
      rw [List.forall_mem_cons, ← hstep s x List.mem_cons_self, run]
      exact returns_bind fun r => (returns_map _).trans (hrest r.1)

/-- A loop whose rounds return and keep an invariant of the state. -/
theorem run_keeps {P : σ → Prop} (hstep : ∀ s, P s → ∀ x ∈ xs, ∃ r, step s x = .ok r ∧ P r.1)
    {s : σ} (hs : P s) : ∃ r, run step s xs = .ok r ∧ P r.1 := by
  induction xs generalizing s with
  | nil => exact ⟨(s, []), rfl, hs⟩
  | cons x xs ih =>
      obtain ⟨r, hr, hP⟩ := hstep s hs x List.mem_cons_self
      obtain ⟨t, ht, hQ⟩ := ih (fun s hs y hy => hstep s hs y (List.mem_cons_of_mem x hy)) hP
      refine ⟨(t.1, r.2 ++ t.2), ?_, hQ⟩
      rw [run, hr]
      show (run step r.1 xs >>= fun t => .ok (t.1, r.2 ++ t.2)) = _
      rw [ht]
      rfl

section FineAlong
variable {next : σ → α → σ} {fine : σ → α → Prop} {good : ω → Prop}

/-- Each element is fine in the state that those before it lead to. -/
def FineAlong (next : σ → α → σ) (fine : σ → α → Prop) : σ → List α → Prop
  | _, [] => True
  | s, x :: xs => fine s x ∧ FineAlong next fine (next s x) xs

/-- It came to its end, and what it wrote is good. -/
def Writes (good : ω → Prop) (r : Except ε (σ × List ω)) : Prop :=
  ∃ t out, r = .ok (t, out) ∧ ∀ l ∈ out, good l

/-- The state that a loop ends in, where that of a round does not depend on what it writes. -/
theorem run_state (hnext : ∀ s, ∀ x ∈ xs, ∀ t out, step s x = .ok (t, out) → t = next s x) {s t : σ}
    {out : List ω} (h : run step s xs = .ok (t, out)) : t = xs.foldl next s := by
  induction xs generalizing s t out with
  | nil =>
      cases h
      rfl
  | cons x xs ih =>
      rw [run] at h
      cases hx : step s x with
      | error e =>
          rw [hx] at h
          cases h
      | ok r =>
          have hr : r.1 = next s x := hnext s x List.mem_cons_self r.1 r.2 hx
          cases hrest : run step r.1 xs with
          | error e =>
              simp only [hx, bind, Except.bind, hrest] at h
              cases h
          | ok u =>
              simp only [hx, bind, Except.bind, hrest, Except.ok.injEq, Prod.mk.injEq] at h
              rw [← h.1, List.foldl_cons, ← hr]
              exact ih (fun s y hy => hnext s y (List.mem_cons_of_mem x hy)) hrest

/-- A loop writes nothing but what is good if and only if each of its rounds does, in the state
that the rounds before have led to. -/
theorem writes_run (hstep : ∀ s, ∀ x ∈ xs, Writes good (step s x) ↔ fine s x)
    (hnext : ∀ s, ∀ x ∈ xs, ∀ t out, step s x = .ok (t, out) → t = next s x) (s : σ) :
    Writes good (run step s xs) ↔ FineAlong next fine s xs := by
  induction xs generalizing s with
  | nil =>
      refine iff_of_true ⟨s, [], rfl, ?_⟩ trivial
      exact fun l hl => absurd hl List.not_mem_nil
  | cons x xs ih =>
      have hrest := ih (fun s y hy => hstep s y (List.mem_cons_of_mem x hy))
        (fun s y hy => hnext s y (List.mem_cons_of_mem x hy)) (next s x)
      rw [FineAlong, ← hrest, ← hstep s x List.mem_cons_self, run]
      cases hx : step s x with
      | error e =>
          refine iff_of_false ?_ fun h => ?_
          · rintro ⟨t, out, h, -⟩
            cases h
          · obtain ⟨t, out, h, -⟩ := h.1
            cases h
      | ok r =>
          obtain hr : r.1 = next s x := hnext s x List.mem_cons_self r.1 r.2 hx
          dsimp only [bind, Except.bind]
          rw [hr]
          constructor
          · rintro ⟨t, out, h, hgood⟩
            cases hu : run step (next s x) xs with
            | error e =>
                rw [hu] at h
                cases h
            | ok u =>
                rw [hu] at h
                obtain ⟨rfl, rfl⟩ := Prod.mk.inj (Except.ok.inj h)
                refine ⟨⟨r.1, r.2, rfl, fun l hl => hgood l (List.mem_append_left _ hl)⟩, ?_⟩
                exact ⟨u.1, u.2, rfl, fun l hl => hgood l (List.mem_append_right _ hl)⟩
          · rintro ⟨⟨t, out, ht, hout⟩, u, rest, hu, hrest⟩
            obtain rfl := Except.ok.inj ht
            rw [hu]
            refine ⟨u, out ++ rest, rfl, fun l hl => ?_⟩
            exact (List.mem_append.mp hl).elim (hout l) (hrest l)

end FineAlong
end Emit
