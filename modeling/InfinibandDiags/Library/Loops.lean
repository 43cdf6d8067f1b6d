import Mathlib.Tactic.TypeStar

/-! Loops over a list whose rounds can fail or leave the loop, and the events of their rounds. -/
namespace Loops
variable {σ α ε ρ β : Type}

/-- The state after the last round, and what a round left the loop with. -/
def run (step : σ → α → Except ε (σ × Option ρ)) : List α → σ → Except ε (σ × Option ρ)
  | [], s => .ok (s, none)
  | x :: xs, s =>
      match step s x with
      | .error e => .error e
      | .ok (s', none) => run step xs s'
      | .ok (s', some r) => .ok (s', some r)

/-- The events up to the round that fails or leaves the loop. -/
def events (step : σ → α → Except ε (σ × Option ρ)) (event : σ → α → List β) :
    List α → σ → List β
  | [], _ => []
  | x :: xs, s => event s x ++
      match step s x with
      | .ok (s', none) => events step event xs s'
      | _ => []

variable {step : σ → α → Except ε (σ × Option ρ)} {event : σ → α → List β} {I : σ → Prop}
  {P : β → Prop} {x : α} {xs : List α} {s s' : σ}

theorem run_cons_of_none (h : step s x = .ok (s', none)) :
    run step (x :: xs) s = run step xs s' := by
  rw [run, h]

theorem events_cons_of_none (h : step s x = .ok (s', none)) :
    events step event (x :: xs) s = event s x ++ events step event xs s' := by
  rw [events, h]

theorem events_singleton : events step event [x] s = event s x := by
  rw [events]
  split
  · exact List.append_nil _
  · exact List.append_nil _

/-- The events of the first round, and those after it where it goes on. -/
theorem mem_events_cons {u : β} (h : u ∈ events step event (x :: xs) s) :
    u ∈ event s x ∨ ∃ s', step s x = .ok (s', none) ∧ u ∈ events step event xs s' := by
  rw [events] at h
  refine (List.mem_append.mp h).imp_right fun hlater => ?_
  split at hlater
  · next s' hstep => exact ⟨s', hstep, hlater⟩
  · cases hlater

/-- A loop fails where one of its events says that its round does. -/
theorem run_error {e : ε} {u : β} (hfail : ∀ x ∈ xs, ∀ s, u ∈ event s x → step s x = .error e)
    (hu : u ∈ events step event xs s) : run step xs s = .error e := by
  induction xs generalizing s with
  | nil => cases hu
  | cons x xs ih =>
      rcases mem_events_cons hu with hnow | ⟨s', hround, hlater⟩
      · rw [run, hfail x List.mem_cons_self s hnow]
      · rw [run_cons_of_none hround]
        exact ih (fun y hy => hfail y (List.mem_cons_of_mem x hy)) hlater

theorem events_idle (hidle : ∀ x ∈ xs, ∀ s, step s x = .ok (s, none) ∧ event s x = []) :
    events step event xs s = [] := by
  induction xs with
  | nil => rfl
  | cons x xs ih =>
      obtain ⟨hstep, hevent⟩ := hidle x List.mem_cons_self s
      rw [events_cons_of_none hstep, hevent]
      exact ih fun y hy => hidle y (List.mem_cons_of_mem x hy)

/-- Where one round is not idle, the events are those of that round. -/
theorem events_only (hidle : ∀ y ∈ xs, y ≠ x → ∀ s, step s y = .ok (s, none) ∧ event s y = [])
    (hnodup : xs.Nodup) (hx : x ∈ xs) : events step event xs s = event s x := by
  induction xs with
  | nil => cases hx
  | cons y ys ih =>
      obtain ⟨hnot, hrest⟩ := List.nodup_cons.mp hnodup
      by_cases hyx : y = x
      · subst hyx
        have hlater : ∀ s', events step event ys s' = [] := fun s' =>
          events_idle fun z hz => hidle z (List.mem_cons_of_mem y hz) fun hzy => hnot (hzy ▸ hz)
        rw [events]
        split
        · rw [hlater, List.append_nil]
        · exact List.append_nil _
      · obtain ⟨hstep, hevent⟩ := hidle y List.mem_cons_self hyx s
        rw [events_cons_of_none hstep, hevent]
        exact ih (fun z hz => hidle z (List.mem_cons_of_mem y hz)) hrest
          ((List.mem_cons.mp hx).resolve_left (Ne.symm hyx))

end Loops
