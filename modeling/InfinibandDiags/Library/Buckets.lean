import Mathlib.Data.List.Nodup
import InfinibandDiags.Library.Chain

/-! A hash table of intrusive chains: every bucket holds the members that hash to it. -/
namespace InfinibandDiags

open Chain (IsChain)

variable {R : Type*}

/-- A chain that holds the members. -/
structure ChainOf (next : R → Option R) (head : Option R) (member : R → Prop) (l : List R) :
    Prop where
  chain : IsChain next head l
  mem_iff : ∀ x, x ∈ l ↔ member x

namespace ChainOf
variable {next : R → Option R} {head : Option R} {member : R → Prop} {l : List R} {x : R}

theorem empty (next : R → Option R) : ChainOf next none (fun _ => False) [] :=
  ⟨.nil, fun _ => by simp⟩

theorem congr {member' : R → Prop} (h : ChainOf next head member l)
    (hmem : ∀ x, member' x ↔ member x) : ChainOf next head member' l :=
  ⟨h.chain, fun x => (h.mem_iff x).trans (hmem x).symm⟩

/-- Pushing a new member. -/
theorem push [DecidableEq R] (h : ChainOf next head member l) (hx : ¬ member x) :
    ChainOf (Function.update next x head) (some x) (fun y => y = x ∨ member y) (x :: l) := by
  have hnot : x ∉ l := fun hmem => hx ((h.mem_iff x).mp hmem)
  exact ⟨h.chain.push hnot, fun y => by rw [List.mem_cons, h.mem_iff]⟩

/-- What is not a member may be linked elsewhere. -/
theorem update [DecidableEq R] (h : ChainOf next head member l) (hx : ¬ member x)
    (v : Option R) : ChainOf (Function.update next x v) head member l :=
  ⟨h.chain.update_of_notMem fun hmem => hx ((h.mem_iff x).mp hmem), h.mem_iff⟩

end ChainOf

/-- The chains of a table with these heads and links hold the members, each in its bucket. -/
structure Buckets (next : R → Option R) (heads : Nat → Option R) (bucket : R → Nat)
    (member : R → Prop) (chains : Nat → List R) : Prop where
  chain : ∀ i, IsChain next (heads i) (chains i)
  mem_iff : ∀ i x, x ∈ chains i ↔ member x ∧ bucket x = i

namespace Buckets
variable {next : R → Option R} {heads : Nat → Option R} {bucket : R → Nat} {member : R → Prop}
  {chains : Nat → List R}

theorem empty (next : R → Option R) (bucket : R → Nat) :
    Buckets next (fun _ => none) bucket (fun _ => False) (fun _ => []) :=
  ⟨fun _ => .nil, fun _ _ => by simp⟩

/-- Only the links of members matter, and only their buckets. -/
theorem congr (h : Buckets next heads bucket member chains) {next' : R → Option R}
    {bucket' : R → Nat} {member' : R → Prop} (hmem : ∀ x, member' x ↔ member x)
    (hnext : ∀ x, member x → next' x = next x) (hbucket : ∀ x, member x → bucket' x = bucket x) :
    Buckets next' heads bucket' member' chains := by
  refine ⟨fun i => (h.chain i).congr fun x hx => hnext x ((h.mem_iff i x).mp hx).1, fun i x => ?_⟩
  rw [h.mem_iff, hmem]
  exact and_congr_right fun hx => by rw [hbucket x hx]

/-- Pushing a new member on the chain of its bucket. -/
theorem insert [DecidableEq R] (h : Buckets next heads bucket member chains) {x : R}
    (hx : ¬ member x) :
    Buckets (Function.update next x (heads (bucket x)))
      (Function.update heads (bucket x) (some x)) bucket (fun y => y = x ∨ member y)
      (Function.update chains (bucket x) (x :: chains (bucket x))) := by
  have hnot : ∀ i, x ∉ chains i := fun i hmem => hx ((h.mem_iff i x).mp hmem).1
  constructor
  · intro i
    by_cases hi : i = bucket x
    · subst hi
      simp only [Function.update_self]
      exact (h.chain _).push (hnot _)
    · simp only [Function.update_of_ne hi]
      exact (h.chain i).update_of_notMem (hnot i)
  · intro i y
    by_cases hi : i = bucket x
    · subst hi
      simp only [Function.update_self, List.mem_cons, h.mem_iff]
      constructor
      · rintro (rfl | ⟨hy, hb⟩)
        · exact ⟨.inl rfl, rfl⟩
        · exact ⟨.inr hy, hb⟩
      · rintro ⟨rfl | hy, hb⟩
        · exact .inl rfl
        · exact .inr ⟨hy, hb⟩
    · simp only [Function.update_of_ne hi, h.mem_iff]
      constructor
      · exact fun hy => ⟨.inr hy.1, hy.2⟩
      · rintro ⟨rfl | hy, hb⟩
        · exact absurd hb.symm hi
        · exact ⟨hy, hb⟩

/-- A member is on the chain of its bucket and on no other. -/
theorem mem_chain_iff (h : Buckets next heads bucket member chains) {x : R} (hx : member x)
    {i : Nat} {l : List R} (hl : IsChain next (heads i) l) : x ∈ l ↔ i = bucket x := by
  rw [hl.unique (h.chain i), h.mem_iff]
  exact ⟨fun hi => hi.2.symm, fun hi => ⟨hx, hi.symm⟩⟩

/-- Going through all buckets meets every member once. -/
theorem nodup_flatMap (h : Buckets next heads bucket member chains) (n : Nat) :
    ((List.range n).flatMap chains).Nodup := by
  refine List.nodup_flatMap.mpr ⟨fun i _ => (h.chain i).nodup, ?_⟩
  refine List.Pairwise.imp ?_ (List.nodup_range (n := n))
  intro i j hij x hi hj
  exact hij (((h.mem_iff i x).mp hi).2.symm.trans ((h.mem_iff j x).mp hj).2)

theorem mem_flatMap (h : Buckets next heads bucket member chains) {n : Nat}
    (hn : ∀ x, bucket x < n) (x : R) : x ∈ (List.range n).flatMap chains ↔ member x := by
  simp only [List.mem_flatMap, List.mem_range, h.mem_iff]
  constructor
  · rintro ⟨i, -, hx, -⟩
    exact hx
  · exact fun hx => ⟨bucket x, hn x, hx, rfl⟩

end Buckets
end InfinibandDiags
