import Mathlib.Data.Nat.Bitwise

/-! Numbers read off a row of bits, the highest bit first. -/
namespace BitRow

/-- The number that the bits `o, …, o + w - 1` of a row form. -/
def number (bit : Nat → Bool) (o : Nat) : Nat → Nat
  | 0 => 0
  | w + 1 => 2 * number bit o w + (bit (o + w)).toNat

theorem testBit_number (bit : Nat → Bool) (o w i : Nat) :
    (number bit o w).testBit i = (decide (i < w) && bit (o + (w - 1 - i))) := by
  induction w generalizing i with
  | zero => simp [number]
  | succ w ih =>
      cases i with
      | zero =>
          rw [number, Nat.testBit_zero]
          cases h : bit (o + w) <;> simp [h]
      | succ i =>
          have hhalf : (2 * number bit o w + (bit (o + w)).toNat) / 2 = number bit o w := by
            have hbit : (bit (o + w)).toNat ≤ 1 := Bool.toNat_le _
            omega
          rw [number, Nat.testBit_succ, hhalf, ih]
          have hidx : w + 1 - 1 - (i + 1) = w - 1 - i := by omega
          simp only [hidx, Nat.add_lt_add_iff_right]

/-- A number is what its bits form. -/
theorem eq_number {bit : Nat → Bool} {o w x : Nat}
    (h : ∀ i, x.testBit i = (decide (i < w) && bit (o + (w - 1 - i)))) : x = number bit o w := by
  apply Nat.eq_of_testBit_eq
  intro i
  rw [h, testBit_number]

theorem number_lt (bit : Nat → Bool) (o w : Nat) : number bit o w < 2 ^ w := by
  induction w with
  | zero => exact Nat.one_pos
  | succ w ih =>
      have hbit : (bit (o + w)).toNat ≤ 1 := Bool.toNat_le _
      rw [number, Nat.pow_succ]
      omega

/-- Two rows in a row: the first one holds the higher digits. -/
theorem number_add (bit : Nat → Bool) (o m n : Nat) :
    number bit o (m + n) = number bit o m * 2 ^ n + number bit (o + m) n := by
  induction n with
  | zero => simp [number]
  | succ n ih =>
      rw [← Nat.add_assoc, number, ih, number, Nat.pow_succ, Nat.add_assoc o m n, ← Nat.mul_assoc]
      omega

theorem number_congr {bit bit' : Nat → Bool} {o w : Nat}
    (h : ∀ k, o ≤ k → k < o + w → bit k = bit' k) : number bit o w = number bit' o w := by
  induction w with
  | zero => rfl
  | succ w ih =>
      rw [number, number, h (o + w) (by omega) (by omega)]
      rw [ih fun k hk hk' => h k hk (by omega)]

end BitRow
