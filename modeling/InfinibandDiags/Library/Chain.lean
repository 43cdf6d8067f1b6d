import Mathlib.Data.List.Perm.Subperm
import Mathlib.Logic.Function.Basic

/-! Intrusive singly linked chains. A cell is an address of type `R`, its link is
`next r`, and a chain is entered through a possibly null head pointer. -/
namespace InfinibandDiags.Chain

variable {R : Type*}

/-- The cells met from a head pointer up to the null link, in order. -/
inductive IsChain (next : R → Option R) : Option R → List R → Prop
  | nil : IsChain next none []
  | cons {r l} : IsChain next (next r) l → IsChain next (some r) (r :: l)

/-- Following the links for at most `fuel` cells; `none` when the fuel is spent first. -/
def walk (next : R → Option R) : Nat → Option R → Option (List R)
  | _, none => some []
  | 0, some _ => none
  | fuel + 1, some r => (walk next fuel (next r)).map (r :: ·)

variable {next : R → Option R} {h : Option R} {l : List R}

theorem isChain_none : IsChain next none l ↔ l = [] := by
  constructor
  · intro hc; cases hc; rfl
  · rintro rfl; exact .nil

theorem isChain_some {r : R} :
    IsChain next (some r) l ↔ ∃ t, l = r :: t ∧ IsChain next (next r) t := by
  constructor
  · intro hc
    cases hc with
    | cons ht => exact ⟨_, rfl, ht⟩
  · rintro ⟨t, rfl, ht⟩
    exact .cons ht

theorem IsChain.unique {m : List R} (hl : IsChain next h l) (hm : IsChain next h m) : l = m := by
  induction hl generalizing m with
  | nil => exact (isChain_none.mp hm).symm
  | cons _ ih =>
      obtain ⟨t, rfl, ht⟩ := isChain_some.mp hm
      rw [ih ht]

/-- A suffix of a chain starts a chain of its own. -/
theorem IsChain.drop {a b : List R} {r : R} (hl : IsChain next h (a ++ r :: b)) :
    IsChain next (some r) (r :: b) := by
  induction a generalizing h with
  | nil =>
      cases hl with
      | cons ht => exact .cons ht
  | cons x a ih =>
      cases hl with
      | cons ht => exact ih ht

/-- A chain that ends cannot meet a cell twice. -/
theorem IsChain.nodup (hl : IsChain next h l) : l.Nodup := by
  induction hl with
  | nil => exact List.nodup_nil
  | @cons r l ht ih =>
      refine List.nodup_cons.mpr ⟨?_, ih⟩
      intro hmem
      obtain ⟨a, b, rfl⟩ := List.append_of_mem hmem
      have hlen := congrArg List.length ((IsChain.cons ht).unique ht.drop)
      simp only [List.length_cons, List.length_append] at hlen
      omega

theorem walk_eq_some_iff {fuel : Nat} :
    walk next fuel h = some l ↔ IsChain next h l ∧ l.length ≤ fuel := by
  induction fuel generalizing h l with
  | zero =>
      cases h with
      | none =>
          simp only [walk, Option.some.injEq, isChain_none, Nat.le_zero, List.length_eq_zero_iff]
          constructor
          · rintro rfl; exact ⟨rfl, rfl⟩
          · exact fun hl => hl.1.symm
      | some r =>
          simp only [walk, isChain_some, reduceCtorEq, false_iff, not_and, Nat.le_zero]
          rintro ⟨t, rfl, _⟩
          exact Nat.succ_ne_zero _
  | succ fuel ih =>
      cases h with
      | none =>
          simp only [walk, Option.some.injEq, isChain_none]
          constructor
          · rintro rfl; exact ⟨rfl, Nat.zero_le _⟩
          · exact fun hl => hl.1.symm
      | some r =>
          simp only [walk, Option.map_eq_some_iff, isChain_some]
          constructor
          · rintro ⟨t, ht, rfl⟩
            obtain ⟨hc, hlen⟩ := ih.mp ht
            exact ⟨⟨t, rfl, hc⟩, Nat.succ_le_succ hlen⟩
          · rintro ⟨⟨t, rfl, hc⟩, hlen⟩
            exact ⟨t, ih.mpr ⟨hc, Nat.le_of_succ_le_succ hlen⟩, rfl⟩

/-- Over `n` addressable cells, `n` units of fuel follow any chain that ends. -/
theorem walk_of_isChain {n : Nat} {next : Nat → Option Nat} {h : Option Nat} {l : List Nat}
    (hl : IsChain next h l) (hb : ∀ r ∈ l, r < n) : walk next n h = some l := by
  refine walk_eq_some_iff.mpr ⟨hl, ?_⟩
  have hsub : l ⊆ List.range n := fun r hr => List.mem_range.mpr (hb r hr)
  simpa using (List.subperm_of_subset hl.nodup hsub).length_le

theorem IsChain.congr {next' : R → Option R} (hl : IsChain next h l)
    (heq : ∀ r ∈ l, next' r = next r) : IsChain next' h l := by
  induction hl with
  | nil => exact .nil
  | @cons r l _ ih =>
      refine .cons ?_
      rw [heq r List.mem_cons_self]
      exact ih fun x hx => heq x (List.mem_cons_of_mem r hx)

/-- The first cell from a head pointer on that `p` holds of; `none` when the fuel is spent
before that. -/
def search (next : R → Option R) (p : R → Bool) : Nat → Option R → Option (Option R)
  | _, none => some none
  | 0, some _ => none
  | fuel + 1, some r => if p r then some (some r) else search next p fuel (next r)

theorem IsChain.search {fuel : Nat} (p : R → Bool) (hl : IsChain next h l)
    (hfuel : l.length ≤ fuel) : search next p fuel h = some (l.find? p) := by
  induction hl generalizing fuel with
  | nil => cases fuel <;> rfl
  | @cons r l _ ih =>
      cases fuel with
      | zero => exact absurd hfuel (Nat.not_succ_le_zero _)
      | succ fuel =>
          rw [Chain.search, List.find?_cons, ih (Nat.le_of_succ_le_succ hfuel)]
          cases p r <;> rfl

/-- A chain of some of `n` addressable cells has at most `n`. -/
theorem IsChain.length_le {n : Nat} {next : Nat → Option Nat} {h : Option Nat} {l : List Nat}
    (hl : IsChain next h l) (hb : ∀ r ∈ l, r < n) : l.length ≤ n :=
  (walk_eq_some_iff.mp (walk_of_isChain hl hb)).2

section Push
variable [DecidableEq R] {x : R}

/-- Writing the link of a cell off the chain leaves the chain as it was. -/
theorem IsChain.update_of_notMem {v : Option R} (hl : IsChain next h l) (hx : x ∉ l) :
    IsChain (Function.update next x v) h l :=
  hl.congr fun r hr => Function.update_of_ne (fun heq : r = x => hx (heq ▸ hr)) _ _

/-- Pushing a cell in front of a chain it is not on. -/
theorem IsChain.push (hl : IsChain next h l) (hx : x ∉ l) :
    IsChain (Function.update next x h) (some x) (x :: l) := by
  refine .cons ?_
  rw [Function.update_self]
  exact hl.update_of_notMem hx

/-- A chain that met the pushed cell follows it into the chain it was pushed on. -/
theorem IsChain.push_through {h' : Option R} {a b : List R} (hl : IsChain next h l) (hx : x ∉ l)
    (hg : IsChain next h' (a ++ x :: b)) :
    IsChain (Function.update next x h) h' (a ++ x :: l) := by
  induction a generalizing h' with
  | nil =>
      cases hg with
      | cons _ => exact hl.push hx
  | cons y a ih =>
      have hne : y ≠ x := by
        rintro rfl
        exact (List.nodup_cons.mp hg.nodup).1 (by simp)
      cases hg with
      | cons ht =>
          refine .cons ?_
          rw [Function.update_of_ne hne]
          exact ih ht

/-- Pushing a cell on a chain it is not on keeps every chain finite. -/
theorem IsChain.exists_of_push {h' : Option R} {l' : List R} (hl : IsChain next h l) (hx : x ∉ l)
    (hg : IsChain next h' l') :
    ∃ m, IsChain (Function.update next x h) h' m ∧ ∀ r ∈ m, r ∈ l' ∨ r ∈ l := by
  by_cases hmem : x ∈ l'
  · obtain ⟨a, b, rfl⟩ := List.append_of_mem hmem
    refine ⟨a ++ x :: l, hl.push_through hx hg, ?_⟩
    intro r hr
    rcases List.mem_append.mp hr with ha | hb
    · exact .inl (List.mem_append_left _ ha)
    · rcases List.mem_cons.mp hb with rfl | hin
      · exact .inl hmem
      · exact .inr hin
  · exact ⟨l', hg.update_of_notMem hmem, fun r hr => .inl hr⟩

end Push
end InfinibandDiags.Chain
