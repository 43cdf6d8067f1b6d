import Mathlib.Algebra.Group.Nat.Defs

/-! Numbers as bytes, the lowest byte first. -/
namespace LittleEndian

def toBytes : Nat → Nat → List UInt8
  | 0, _ => []
  | width + 1, n => UInt8.ofNat n :: toBytes width (n / 256)

def ofBytes : List UInt8 → Nat
  | [] => 0
  | b :: bs => b.toNat + 256 * ofBytes bs

@[simp] theorem length_toBytes (width n : Nat) : (toBytes width n).length = width := by
  induction width generalizing n with
  | zero => rfl
  | succ width ih => rw [toBytes, List.length_cons, ih]

theorem ofBytes_lt (bs : List UInt8) : ofBytes bs < 256 ^ bs.length := by
  induction bs with
  | nil => exact Nat.one_pos
  | cons b bs ih =>
      have hb := b.toNat_lt
      rw [ofBytes, List.length_cons, Nat.pow_succ]
      omega

/-- A number that fits in the bytes reads back. -/
theorem ofBytes_toBytes {width n : Nat} (h : n < 256 ^ width) : ofBytes (toBytes width n) = n := by
  induction width generalizing n with
  | zero =>
      rw [Nat.pow_zero] at h
      rw [Nat.lt_one_iff.mp h]
      rfl
  | succ width ih =>
      rw [Nat.pow_succ] at h
      rw [toBytes, ofBytes, ih (by omega), UInt8.toNat_ofNat']
      exact Nat.mod_add_div n 256

end LittleEndian
