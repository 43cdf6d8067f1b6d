import Mathlib.Data.List.Basic
import Mathlib.Data.List.Nodup
import Mathlib.Logic.Function.Basic

/-! A table that is read and stored in pages: what a cell holds after a page was read, one of its
cells changed, and the page stored. -/
namespace InfinibandDiags
namespace Paged
variable {α : Type*} {size : Nat} {table : Nat → α}

def page (size : Nat) (table : Nat → α) (b : Nat) : List α :=
  (List.range size).map fun i => table (size * b + i)

/-- The cells of page `b` are replaced. -/
def store (size : Nat) (table : Nat → α) (b : Nat) (cells : List α) : Nat → α := fun i =>
  if i / size = b then cells.getD (i % size) (table i) else table i

@[simp] theorem length_page (b : Nat) : (page size table b).length = size := by
  rw [page, List.length_map, List.length_range]

theorem getElem?_page {b i : Nat} (hi : i < size) :
    (page size table b)[i]? = some (table (size * b + i)) := by
  rw [page, List.getElem?_map, List.getElem?_range hi, Option.map_some]

/-- Pages `r` and `w` may be different ones, and cell `e` need not be that of one of them. -/
theorem store_modify_apply (hsize : 0 < size) (r w e : Nat) (f : α → α) (i : Nat) :
    store size table w ((page size table r).modify e f) i =
      if i / size = w then
        if i % size = e then f (table (size * r + e)) else table (size * r + i % size)
      else table i := by
  have hcell : (page size table r)[i % size]? = some (table (size * r + i % size)) :=
    getElem?_page (Nat.mod_lt i hsize)
  rw [store]
  refine if_congr Iff.rfl ?_ rfl
  rw [List.getD_eq_getElem?_getD, List.getElem?_modify, hcell, Option.map_eq_map, Option.map_some,
    Option.getD_some]
  by_cases he : i % size = e
  · rw [if_pos he, if_pos he.symm, he]
  · rw [if_neg he, if_neg (Ne.symm he)]

/-- With the page and the cell of `p`, just `p` is changed. -/
theorem store_modify_self (hsize : 0 < size) (p : Nat) (f : α → α) :
    store size table (p / size) ((page size table (p / size)).modify (p % size) f) =
      Function.update table p (f (table p)) := by
  funext i
  rw [store_modify_apply hsize, Nat.div_add_mod]
  by_cases hi : i = p
  · subst hi
    rw [if_pos rfl, if_pos rfl, Function.update_self]
  · rw [Function.update_of_ne hi]
    split
    · next hpage =>
        have hcell : i % size ≠ p % size := fun hcell => hi <| by
          rw [← Nat.div_add_mod i size, ← Nat.div_add_mod p size, hpage, hcell]
        rw [if_neg hcell, ← hpage, Nat.div_add_mod]
    · rfl

section Shown
variable {n N : Nat}

/-- Rows of one length, one after the other. -/
theorem flatMap_rows (g : Nat → α) (width n : Nat) :
    ((List.range n).flatMap fun r => (List.range width).map fun j => g (r * width + j)) =
      (List.range (n * width)).map g := by
  induction n with
  | zero => simp
  | succ n ih =>
      rw [List.range_succ, List.flatMap_append, ih, List.flatMap_singleton, Nat.succ_mul,
        List.range_add, List.map_append, List.map_map]
      rfl

/-- Each of the first `n` cells is shown once, with what it holds. -/
def ShowsOnce (n : Nat) (shown : List (Nat × α)) (table : Nat → α) : Prop :=
  ∀ q < n, shown.filter (fun e => e.1 = q) = [(q, table q)]

theorem showsOnce_range (hn : n ≤ N) :
    ShowsOnce n ((List.range N).map fun q => (q, table q)) table := by
  intro q hq
  rw [List.filter_map]
  have hone : (List.range N).filter (fun i => i = q) = [q] := by
    rw [← List.replicate_one, ← List.count_eq_one_of_mem List.nodup_range
      (List.mem_range.mpr (Nat.lt_of_lt_of_le hq hn)), ← List.filter_beq]
    exact List.filter_congr fun i _ => (beq_eq_decide i q).symm
  exact congrArg (List.map fun q => (q, table q)) hone

end Shown

section Encoded
variable {β : Type*} {enc : α → List β} {width : Nat} {cells : List α}

/-- A page as the cells' encodings, one after the other. -/
theorem drop_flatMap (hwidth : ∀ a, (enc a).length = width) (i : Nat) :
    (cells.flatMap enc).drop (i * width) = (cells.drop i).flatMap enc := by
  induction cells generalizing i with
  | nil => simp
  | cons a cells ih =>
      cases i with
      | zero => simp
      | succ i =>
          have hoffset : (i + 1) * width = (enc a).length + i * width := by
            rw [hwidth, Nat.succ_mul, Nat.add_comm]
          rw [List.flatMap_cons, hoffset, List.drop_length_add_append, List.drop_succ_cons, ih]

theorem take_flatMap (hwidth : ∀ a, (enc a).length = width) (i : Nat) :
    (cells.flatMap enc).take (i * width) = (cells.take i).flatMap enc := by
  induction cells generalizing i with
  | nil => simp
  | cons a cells ih =>
      cases i with
      | zero => simp
      | succ i =>
          have hoffset : (i + 1) * width = (enc a).length + i * width := by
            rw [hwidth, Nat.succ_mul, Nat.add_comm]
          rw [List.flatMap_cons, hoffset, List.take_length_add_append, List.take_succ_cons, List.flatMap_cons,
            ih]

end Encoded

end Paged
end InfinibandDiags
