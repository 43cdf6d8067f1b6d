import Mathlib.Data.BitVec

/-! Words of flags, each of which has bits of its own. -/
namespace InfinibandDiags
namespace Flags
variable {C : Type*} {w : Nat}

/-- Bits are set on a condition. -/
def orIf (flag : Bool) (bits m : BitVec w) : BitVec w := if flag then m ||| bits else m

structure Masks (C : Type*) (w : Nat) where
  bits : C → BitVec w
  bits_ne_zero : ∀ c, bits c ≠ 0#w
  disjoint : ∀ c d, c ≠ d → bits c &&& bits d = 0#w

namespace Masks

/-- The flag is set. -/
def Has (masks : Masks C w) (m : BitVec w) (c : C) : Prop := m &&& masks.bits c = masks.bits c

instance (masks : Masks C w) (m : BitVec w) (c : C) : Decidable (masks.Has m c) :=
  inferInstanceAs (Decidable (_ = _))

/-- Flags are set one after the other, each on a condition. -/
def gather (masks : Masks C w) (flag : C → Bool) (l : List C) (m : BitVec w) : BitVec w :=
  l.foldl (fun m c => orIf (flag c) (masks.bits c) m) m

variable {masks : Masks C w} {flag : C → Bool} {l : List C} {m : BitVec w} {c : C}

theorem getLsbD_gather (i : Nat) :
    (masks.gather flag l m).getLsbD i =
      (m.getLsbD i || l.any fun c => flag c && (masks.bits c).getLsbD i) := by
  induction l generalizing m with
  | nil => simp [gather]
  | cons c l ih =>
      rw [gather, List.foldl_cons, ← gather, ih, List.any_cons]
      cases flag c with
      | true => rw [orIf, if_pos rfl, BitVec.getLsbD_or, Bool.true_and, Bool.or_assoc]
      | false => rw [orIf, if_neg Bool.noConfusion, Bool.false_and, Bool.false_or]

theorem exists_bit (masks : Masks C w) (c : C) : ∃ i, (masks.bits c).getLsbD i = true := by
  by_contra hnone
  apply masks.bits_ne_zero c
  apply BitVec.eq_of_getLsbD_eq
  intro i _
  rw [BitVec.getLsbD_zero, ← Bool.not_eq_true]
  exact fun hi => hnone ⟨i, hi⟩

/-- A bit belongs to one flag only. -/
theorem eq_of_bit {d : C} {i : Nat} (hc : (masks.bits c).getLsbD i = true)
    (hd : (masks.bits d).getLsbD i = true) : c = d := by
  by_contra hne
  have hzero := congrArg (BitVec.getLsbD · i) (masks.disjoint c d hne)
  rw [BitVec.getLsbD_and, hc, hd, BitVec.getLsbD_zero] at hzero
  cases hzero

theorem has_gather : masks.Has (masks.gather flag l 0#w) c ↔ c ∈ l ∧ flag c = true := by
  constructor
  · intro h
    obtain ⟨i, hi⟩ := masks.exists_bit c
    have hbit := congrArg (BitVec.getLsbD · i) h
    rw [BitVec.getLsbD_and, hi, getLsbD_gather, BitVec.getLsbD_zero, Bool.false_or, Bool.and_true,
      List.any_eq_true] at hbit
    obtain ⟨d, hmem, hd⟩ := hbit
    obtain ⟨hflag, hd⟩ := Bool.and_eq_true_iff.mp hd
    rw [eq_of_bit hi hd]
    exact ⟨hmem, hflag⟩
  · rintro ⟨hmem, hflag⟩
    apply BitVec.eq_of_getLsbD_eq
    intro i _
    rw [BitVec.getLsbD_and, getLsbD_gather, BitVec.getLsbD_zero, Bool.false_or]
    cases hi : (masks.bits c).getLsbD i with
    | false => rw [Bool.and_false]
    | true =>
        rw [Bool.and_true, List.any_eq_true]
        exact ⟨c, hmem, by rw [hi, hflag, Bool.true_and]⟩

end Masks
end Flags
end InfinibandDiags
