import Mathlib.Data.List.Basic

/-! Writes of several elements into a buffer of a fixed length. -/
namespace Overwrite
variable {α : Type}

/-- The buffer with `xs` from index `i` on, where they have room. -/
def write (buf : List α) (i : Nat) (xs : List α) : Option (List α) :=
  if i + xs.length ≤ buf.length then some (buf.take i ++ xs ++ buf.drop (i + xs.length)) else none

variable {buf buf' front old back xs : List α} {i : Nat}

/-- A write takes the place of as many elements. -/
theorem write_append (h : old.length = xs.length) :
    write (front ++ old ++ back) front.length xs = some (front ++ xs ++ back) := by
  have hroom : front.length + xs.length ≤ (front ++ old ++ back).length := by
    simp only [List.length_append]
    omega
  have hdrop : (front ++ old).length = front.length + xs.length := by
    rw [List.length_append, h]
  rw [write, if_pos hroom, ← hdrop, List.drop_left, List.append_assoc front old, List.take_left]

theorem write_eq_none : write buf i xs = none ↔ buf.length < i + xs.length := by
  unfold write
  split
  · next h => exact iff_of_false (fun hno => by cases hno) (Nat.not_lt.mpr h)
  · next h => exact iff_of_true rfl (Nat.not_le.mp h)

theorem write_length (h : write buf i xs = some buf') : buf'.length = buf.length := by
  unfold write at h
  split at h
  · next hroom =>
      cases h
      simp only [List.length_append, List.length_take, List.length_drop]
      omega
  · cases h

end Overwrite
