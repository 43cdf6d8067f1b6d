import Mathlib.Data.List.Basic
import Mathlib.Data.List.Nodup

/-! Lists whose elements are known by their positions, as records are by the order in which they
were read, and searches by key that find the last one. -/
namespace InfinibandDiags
namespace Numbered
variable {α β κ : Type*} [DecidableEq κ] {key : α → κ} {l : List α} {a : α} {i : Nat} {k k' : κ}

/-- The position of the last element with the key. -/
def last (key : α → κ) (l : List α) (k : κ) : Option Nat :=
  (List.range l.length).reverse.find? fun i => l[i]?.map key = some k

theorem last_eq_some (h : last key l k = some i) : ∃ a, l[i]? = some a ∧ key a = k := by
  have hi := List.find?_some (p := fun i => decide (l[i]?.map key = some k)) h
  exact Option.map_eq_some_iff.mp (of_decide_eq_true hi)

theorem last_lt (h : last key l k = some i) : i < l.length := by
  obtain ⟨a, ha, -⟩ := last_eq_some h
  exact (List.getElem?_eq_some_iff.mp ha).1

theorem last_isSome_iff : (last key l k).isSome = true ↔ ∃ a ∈ l, key a = k := by
  unfold last
  rw [List.find?_isSome]
  constructor
  · rintro ⟨i, -, hi⟩
    obtain ⟨a, ha, hk⟩ := Option.map_eq_some_iff.mp (of_decide_eq_true hi)
    exact ⟨a, List.mem_of_getElem? ha, hk⟩
  · rintro ⟨a, ha, hk⟩
    obtain ⟨i, hi⟩ := List.mem_iff_getElem?.mp ha
    refine ⟨i, ?_, ?_⟩
    · rw [List.mem_reverse, List.mem_range]
      exact (List.getElem?_eq_some_iff.mp hi).1
    · rw [hi, Option.map_some, hk]
      exact decide_eq_true rfl

/-- Different keys find different elements. -/
theorem last_inj (h : last key l k = some i) (h' : last key l k' = some i) : k = k' := by
  obtain ⟨a, ha, hk⟩ := last_eq_some h
  obtain ⟨b, hb, hk'⟩ := last_eq_some h'
  rw [← hk, ← hk', Option.some.inj (ha.symm.trans hb)]

/-- Where the keys differ, a search finds the only element with the key. -/
theorem last_of_nodup (hnodup : (l.map key).Nodup) (ha : l[i]? = some a) :
    last key l (key a) = some i := by
  have hfound : (last key l (key a)).isSome = true :=
    last_isSome_iff.mpr ⟨a, List.mem_of_getElem? ha, rfl⟩
  obtain ⟨j, hj⟩ := Option.isSome_iff_exists.mp hfound
  obtain ⟨b, hb, hkey⟩ := last_eq_some hj
  have hlt : j < (l.map key).length := by
    rw [List.length_map]
    exact last_lt hj
  have hsame : (l.map key)[j]? = (l.map key)[i]? := by
    rw [List.getElem?_map, List.getElem?_map, hb, ha, Option.map_some, Option.map_some, hkey]
  rw [hj, (List.getElem?_inj hlt hnodup).mp hsame]

/-- What is known of the positions is known of the elements. -/
theorem flatMap_range {F : Nat → List β} {G : α → List β}
    (h : ∀ i a, l[i]? = some a → F i = G a) : (List.range l.length).flatMap F = l.flatMap G := by
  induction l generalizing F with
  | nil => rfl
  | cons a l ih =>
      rw [List.length_cons, List.range_succ_eq_map, List.flatMap_cons, List.flatMap_cons,
        List.flatMap_map, h 0 a rfl]
      congr 1
      exact ih fun i b hb => h (i + 1) b hb

theorem map_range {F : Nat → β} {G : α → β} (h : ∀ i a, l[i]? = some a → F i = G a) :
    (List.range l.length).map F = l.map G := by
  rw [List.map_eq_flatMap, List.map_eq_flatMap]
  exact flatMap_range fun i a ha => by rw [h i a ha]

theorem forall_range {P : Nat → Prop} {Q : α → Prop} (h : ∀ i a, l[i]? = some a → (P i ↔ Q a)) :
    (∀ i ∈ List.range l.length, P i) ↔ ∀ a ∈ l, Q a := by
  constructor
  · intro hall a ha
    obtain ⟨i, hi⟩ := List.mem_iff_getElem?.mp ha
    exact (h i a hi).mp
      (hall i (List.mem_range.mpr (List.getElem?_eq_some_iff.mp hi).1))
  · intro hall i hi
    have hlt := List.mem_range.mp hi
    exact (h i _ (List.getElem?_eq_getElem hlt)).mpr (hall _ (List.getElem_mem hlt))

/-- A search that always finds something makes a list of what it finds. -/
theorem map_eq_some_iff {g : α → Option β} :
    l.map g = (l.filterMap g).map some ↔ ∀ a ∈ l, (g a).isSome = true := by
  induction l with
  | nil => simp
  | cons a l ih =>
      rw [List.forall_mem_cons]
      cases hg : g a with
      | none =>
          simp only [List.map_cons, hg, List.filterMap_cons_none hg]
          refine iff_of_false (fun h => ?_) (fun h => Bool.false_ne_true h.1)
          have hmem : none ∈ (l.filterMap g).map some := by
            rw [← h]
            exact List.mem_cons_self
          obtain ⟨b, -, hb⟩ := List.mem_map.mp hmem
          cases hb
      | some b =>
          rw [List.filterMap_cons_some hg, List.map_cons, List.map_cons, hg, List.cons_inj_right, ih]
          exact ⟨fun h => ⟨rfl, h⟩, fun h => h.2⟩

/-- It finds everything once exactly if it is asked for everything once. -/
theorem nodup_filterMap_iff {g : α → Option β} (hall : ∀ a ∈ l, (g a).isSome = true)
    (hinj : ∀ a b c, g a = some c → g b = some c → a = b) : (l.filterMap g).Nodup ↔ l.Nodup := by
  unfold List.Nodup
  rw [List.pairwise_filterMap]
  refine List.Pairwise.iff_of_mem fun {a b} ha hb => ?_
  obtain ⟨c, hc⟩ := Option.isSome_iff_exists.mp (hall a ha)
  constructor
  · rintro hne rfl
    exact hne c hc c hc rfl
  · rintro hne d hd d' hd' rfl
    exact hne (hinj a b d hd hd')

end Numbered
end InfinibandDiags
