import Mathlib.Tactic.TypeStar

/-! Runs of the C program that end without a return value. -/
namespace InfinibandDiags

inductive Fault
  | outOfBounds
  | nullDeref
  | badCast
  | badShift
  | endlessLoop
  | tableIndex
  deriving DecidableEq, Repr

def faultOf {ε α : Type} : Except ε α → Option ε
  | .error e => some e
  | .ok _ => none

theorem faultOf_eq_some {ε α : Type} {x : Except ε α} {e : ε} :
    faultOf x = some e ↔ x = .error e := by
  cases x <;> simp [faultOf]

theorem toOption_eq_some {ε α : Type} {x : Except ε α} {a : α} :
    x.toOption = some a ↔ x = .ok a := by
  cases x <;> simp [Except.toOption]

theorem ok_bind {ε α β : Type} {a : α} {f : α → Except ε β} : (Except.ok a >>= f) = f a := rfl

/-- From `x >>= f` returning, both parts returned. -/
theorem bind_eq_ok {ε α β : Type} {x : Except ε α} {f : α → Except ε β} {b : β} :
    (x >>= f) = .ok b ↔ ∃ a, x = .ok a ∧ f a = .ok b := by
  cases x with
  | error e => simp [bind, Except.bind]
  | ok a => simp [bind, Except.bind]

/-- `x >>= f` faults where its first or its second part does. -/
theorem bind_eq_error {ε α β : Type} {x : Except ε α} {f : α → Except ε β} {e : ε} :
    (x >>= f) = .error e ↔ x = .error e ∨ ∃ a, x = .ok a ∧ f a = .error e := by
  cases x with
  | error e' => simp [bind, Except.bind]
  | ok a => simp [bind, Except.bind]

end InfinibandDiags
