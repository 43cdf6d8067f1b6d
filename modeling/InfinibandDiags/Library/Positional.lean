import Mathlib.Tactic.Ring

/-! Numerals in a base, the highest digit first. -/
namespace Positional

/-- The value of the digits, after a number that stands in front of them. -/
def valueAfter (base : Nat) (v : Nat) (digits : List Nat) : Nat :=
  digits.foldl (fun v d => base * v + d) v

def value (base : Nat) (digits : List Nat) : Nat := valueAfter base 0 digits

/-- Two digits at a time, as digits to the square of the base. -/
def pairs (base : Nat) : List Nat → List Nat
  | a :: b :: rest => (base * a + b) :: pairs base rest
  | _ => []

variable (base : Nat)

theorem value_append (front digits : List Nat) :
    value base (front ++ digits) = valueAfter base (value base front) digits := List.foldl_append

/-- Digits of the square of a base are pairs of digits. -/
theorem valueAfter_pairs (v k : Nat) (digits : List Nat) (hlen : digits.length = 2 * k) :
    valueAfter (base * base) v (pairs base digits) = valueAfter base v digits := by
  induction k generalizing v digits with
  | zero =>
      rw [List.length_eq_zero_iff.mp hlen]
      rfl
  | succ k ih =>
      obtain ⟨a, b, rest, rfl⟩ : ∃ a b rest, digits = a :: b :: rest := by
        match digits, hlen with
        | a :: b :: rest, _ => exact ⟨a, b, rest, rfl⟩
      have hrest : rest.length = 2 * k := by
        simp only [List.length_cons] at hlen
        omega
      have hpair : base * base * v + (base * a + b) = base * (base * v + a) + b := by ring
      have hstep := ih (base * base * v + (base * a + b)) rest hrest
      rw [hpair] at hstep
      rw [pairs, valueAfter, List.foldl_cons, hpair]
      exact hstep

theorem valueAfter_lt {v : Nat} {digits : List Nat} (h : ∀ d ∈ digits, d < base) :
    valueAfter base v digits < (v + 1) * base ^ digits.length := by
  induction digits generalizing v with
  | nil => simp [valueAfter]
  | cons d digits ih =>
      have hd : d < base := h d List.mem_cons_self
      have hstep := ih (v := base * v + d) fun e he => h e (List.mem_cons_of_mem d he)
      have hnext : base * v + d + 1 ≤ (v + 1) * base := by
        calc base * v + d + 1 ≤ base * v + base := Nat.add_le_add_left hd (base * v)
          _ = (v + 1) * base := by ring
      rw [valueAfter, List.foldl_cons, List.length_cons]
      calc valueAfter base (base * v + d) digits
          < (base * v + d + 1) * base ^ digits.length := hstep
        _ ≤ (v + 1) * base * base ^ digits.length := Nat.mul_le_mul_right _ hnext
        _ = (v + 1) * base ^ (digits.length + 1) := by ring

theorem value_lt {digits : List Nat} (h : ∀ d ∈ digits, d < base) :
    value base digits < base ^ digits.length := by
  have hlt := valueAfter_lt base (v := 0) h
  rwa [Nat.zero_add, Nat.one_mul] at hlt

theorem pairs_lt {digits : List Nat} (h : ∀ d ∈ digits, d < base) :
    ∀ p ∈ pairs base digits, p < base * base := by
  induction digits using pairs.induct with
  | case1 a b rest ih =>
      intro p hp
      have ha : a < base := h a (by simp)
      have hb : b < base := h b (by simp)
      rcases List.mem_cons.mp hp with rfl | hp
      · calc base * a + b < base * a + base := Nat.add_lt_add_left hb (base * a)
          _ = base * (a + 1) := by ring
          _ ≤ base * base := Nat.mul_le_mul_left base ha
      · exact ih (fun d hd => h d (by simp [hd])) p hp
  | case2 digits hshort =>
      intro p hp
      rw [pairs] at hp
      · cases hp
      · exact hshort

theorem length_pairs {digits : List Nat} : (pairs base digits).length = digits.length / 2 := by
  induction digits using pairs.induct with
  | case1 a b rest ih =>
      rw [pairs, List.length_cons, ih, List.length_cons, List.length_cons]
      omega
  | case2 digits hshort =>
      rw [pairs]
      · match digits with
        | [] => rfl
        | [d] => simp
        | a :: b :: rest => exact absurd rfl (hshort a b rest)
      · exact hshort

/-- Zeros in front change nothing. -/
theorem value_zeros (n : Nat) (digits : List Nat) :
    value base (List.replicate n 0 ++ digits) = value base digits := by
  induction n with
  | zero => rfl
  | succ n ih =>
      rw [List.replicate_succ, List.cons_append, value, valueAfter, List.foldl_cons]
      exact ih

end Positional
