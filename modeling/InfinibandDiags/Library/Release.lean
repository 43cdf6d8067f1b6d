import Mathlib.Data.Finset.Basic
import Mathlib.Data.Finset.Image
import Mathlib.Data.List.Nodup

/-! A heap whose blocks are freed one after the other, each at most once. -/
namespace Release
variable {α β : Type} [DecidableEq β] {live live' : Finset β} {b : β} {bs : List β}

/-- `free`. A block that is not live any more is what it stops at. -/
def free (live : Finset β) (b : β) : Except β (Finset β) :=
  if b ∈ live then .ok (live.erase b) else .error b

def freeAll (live : Finset β) (bs : List β) : Except β (Finset β) := bs.foldlM free live

@[simp] theorem freeAll_nil (live : Finset β) : freeAll live [] = .ok live := rfl

theorem freeAll_cons (live : Finset β) (b : β) (bs : List β) :
    freeAll live (b :: bs) = free live b >>= fun live => freeAll live bs := List.foldlM_cons

theorem freeAll_singleton (live : Finset β) (b : β) : freeAll live [b] = free live b := by
  rw [freeAll_cons]
  cases free live b with
  | error b => rfl
  | ok live => rfl

theorem freeAll_append (live : Finset β) (bs cs : List β) :
    freeAll live (bs ++ cs) = freeAll live bs >>= fun live => freeAll live cs :=
  List.foldlM_append

/-- Loops that free some blocks in each round. -/
theorem freeAll_flatMap (live : Finset β) (g : α → List β) (xs : List α) :
    xs.foldlM (fun live x => freeAll live (g x)) live = freeAll live (xs.flatMap g) := by
  induction xs generalizing live with
  | nil => rfl
  | cons x xs ih =>
      rw [List.foldlM_cons, List.flatMap_cons, freeAll_append]
      congr 1
      funext live'
      exact ih live'

/-- One block for each element, unless it is owned elsewhere. -/
theorem flatMap_unless (P : α → Prop) [DecidablePred P] (block : α → β) (xs : List α) :
    (xs.flatMap fun x => if P x then [] else [block x]) =
      (xs.filter fun x => ¬ P x).map block := by
  induction xs with
  | nil => rfl
  | cons x xs ih =>
      rw [List.flatMap_cons, ih]
      by_cases hx : P x
      · rw [if_pos hx, List.filter_cons_of_neg (by simpa using hx), List.nil_append]
      · rw [if_neg hx, List.filter_cons_of_pos (by simpa using hx), List.map_cons]
        rfl

/-- Blocks are freed exactly if each is live and none comes twice. -/
theorem freeAll_eq_ok : freeAll live bs = .ok live' ↔
    (bs.Nodup ∧ ∀ b ∈ bs, b ∈ live) ∧ ∀ b, b ∈ live' ↔ b ∈ live ∧ b ∉ bs := by
  induction bs generalizing live with
  | nil =>
      rw [freeAll_nil, Except.ok.injEq, Finset.ext_iff]
      simp [iff_comm]
  | cons b bs ih =>
      rw [freeAll_cons, free]
      by_cases hb : b ∈ live
      · rw [if_pos hb]
        change freeAll (live.erase b) bs = .ok live' ↔ _
        refine ih.trans ?_
        simp only [List.nodup_cons, Finset.mem_erase, List.mem_cons, not_or, forall_eq_or_imp]
        constructor
        · rintro ⟨⟨hnodup, hlive⟩, hrest⟩
          refine ⟨⟨⟨fun hmem => (hlive b hmem).1 rfl, hnodup⟩, hb, fun c hc => (hlive c hc).2⟩, ?_⟩
          exact fun c => (hrest c).trans (and_assoc.trans and_left_comm)
        · rintro ⟨⟨⟨hnew, hnodup⟩, -, hlive⟩, hrest⟩
          refine ⟨⟨hnodup, fun c hc => ⟨?_, hlive c hc⟩⟩, fun c => ?_⟩
          · rintro rfl
            exact hnew hc
          · exact (hrest c).trans (and_assoc.trans and_left_comm).symm
      · rw [if_neg hb]
        refine iff_of_false (fun h => nomatch h) ?_
        rintro ⟨⟨-, hlive⟩, -⟩
        exact hb (hlive b List.mem_cons_self)

theorem freeAll_ok (hnodup : bs.Nodup) (hlive : ∀ b ∈ bs, b ∈ live) :
    ∃ live', freeAll live bs = .ok live' ∧ ∀ b, b ∈ live' ↔ b ∈ live ∧ b ∉ bs := by
  have hrest : ∀ b, b ∈ live \ bs.toFinset ↔ b ∈ live ∧ b ∉ bs := by simp
  exact ⟨live \ bs.toFinset, freeAll_eq_ok.mpr ⟨⟨hnodup, hlive⟩, hrest⟩, hrest⟩

end Release
