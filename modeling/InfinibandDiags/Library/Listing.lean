import Mathlib.Order.Lattice
import Mathlib.Data.List.Basic

/-! Lists made by going through a range: in increasing order, and with everything in the range that
has a property. -/
namespace InfinibandDiags
variable {α κ : Type*} [LinearOrder κ] {key : α → κ} {P : α → Prop} {a b c : κ} {xs ys : List α}

/-- `xs` has the elements with `P` whose key is in `[a, b)`, by increasing key. -/
structure Lists (key : α → κ) (P : α → Prop) (a b : κ) (xs : List α) : Prop where
  increasing : xs.Pairwise fun x y => key x < key y
  mem : ∀ x, x ∈ xs ↔ a ≤ key x ∧ key x < b ∧ P x

namespace Lists

theorem nil (h : ∀ x, a ≤ key x → key x < b → ¬ P x) : Lists key P a b [] :=
  ⟨List.Pairwise.nil, fun x => iff_of_false List.not_mem_nil fun hx => h x hx.1 hx.2.1 hx.2.2⟩

theorem empty (h : b ≤ a) : Lists key P a b [] :=
  nil fun _ hlo hhi => absurd (hlo.trans_lt hhi) (not_lt.mpr h)

/-- Ranges that follow each other are listed one after the other. -/
theorem append (hab : a ≤ b) (hbc : b ≤ c) (hxs : Lists key P a b xs) (hys : Lists key P b c ys) :
    Lists key P a c (xs ++ ys) := by
  refine ⟨List.pairwise_append.mpr ⟨hxs.increasing, hys.increasing, fun x hx y hy => ?_⟩,
    fun x => ?_⟩
  · exact ((hxs.mem x).mp hx).2.1.trans_le ((hys.mem y).mp hy).1
  · rw [List.mem_append, hxs.mem, hys.mem]
    constructor
    · rintro (⟨hlo, hhi, hP⟩ | ⟨hlo, hhi, hP⟩)
      · exact ⟨hlo, hhi.trans_le hbc, hP⟩
      · exact ⟨hab.trans hlo, hhi, hP⟩
    · rintro ⟨hlo, hhi, hP⟩
      rcases lt_or_ge (key x) b with hlt | hge
      · exact .inl ⟨hlo, hlt, hP⟩
      · exact .inr ⟨hge, hhi, hP⟩

/-- A range with one key, which one element has. -/
theorem singleton {x : α} (hx : P x) (hlo : a ≤ key x) (hhi : key x < b)
    (hall : ∀ y, a ≤ key y → key y < b → P y → y = x) : Lists key P a b [x] := by
  refine ⟨List.pairwise_singleton _ x, fun y => ?_⟩
  rw [List.mem_singleton]
  constructor
  · rintro rfl
    exact ⟨hlo, hhi, hx⟩
  · rintro ⟨hlo, hhi, hP⟩
    exact hall y hlo hhi hP

/-- What a list has, and how far it goes, may be said in other words. -/
theorem congr {P' : α → Prop} {a' b' : κ} (hxs : Lists key P a b xs)
    (h : ∀ x, (a ≤ key x ∧ key x < b ∧ P x) ↔ (a' ≤ key x ∧ key x < b' ∧ P' x)) :
    Lists key P' a' b' xs :=
  ⟨hxs.increasing, fun x => (hxs.mem x).trans (h x)⟩

/-- One list serves two descriptions if and only if they say the same. -/
theorem lists_iff {P' : α → Prop} {a' b' : κ} (hxs : Lists key P a b xs) : Lists key P' a' b' xs ↔
    ∀ x, (a ≤ key x ∧ key x < b ∧ P x) ↔ (a' ≤ key x ∧ key x < b' ∧ P' x) :=
  ⟨fun h x => (hxs.mem x).symm.trans (h.mem x), hxs.congr⟩

end Lists
end InfinibandDiags
