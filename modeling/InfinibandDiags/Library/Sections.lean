import Mathlib.Data.List.Basic

/-! Lists of sections, each a heading and a body: what is written can be cut up again. -/
namespace InfinibandDiags
namespace Sections
variable {α β : Type*} {p : α → Bool} {head : β → Option α} {body body' : β → List α}
  {bs : List β} {rest : List α}

/-- Nothing for an element without a heading. -/
def write (head : β → Option α) (body : β → List α) (b : β) : List α :=
  (head b).elim [] fun a => a :: body b

theorem takeWhile_write (hhead : ∀ b ∈ bs, ∀ a, head b = some a → p a = false)
    (hrest : rest.takeWhile p = []) : (bs.flatMap (write head body) ++ rest).takeWhile p = [] := by
  induction bs with
  | nil => exact hrest
  | cons b bs ih =>
      have ih := ih fun c hc => hhead c (List.mem_cons_of_mem b hc)
      cases hb : head b with
      | none => simpa [write, hb] using ih
      | some a => simp [write, hb, hhead b List.mem_cons_self a hb]

variable (p head body body') in
/-- Where the bodies have what no heading has, what is written determines them. -/
theorem write_inj (hhead : ∀ b ∈ bs, ∀ a, head b = some a → p a = false)
    (hbody : ∀ b ∈ bs, ∀ a ∈ body b, p a = true) (hbody' : ∀ b ∈ bs, ∀ a ∈ body' b, p a = true)
    (hrest : rest.takeWhile p = []) :
    bs.flatMap (write head body) ++ rest = bs.flatMap (write head body') ++ rest ↔
      ∀ b ∈ bs, (head b).isSome = true → body b = body' b := by
  induction bs with
  | nil => simp
  | cons b bs ih =>
      have hhead' : ∀ c ∈ bs, ∀ a, head c = some a → p a = false :=
        fun c hc => hhead c (List.mem_cons_of_mem b hc)
      have ih := ih hhead' (fun c hc => hbody c (List.mem_cons_of_mem b hc))
        (fun c hc => hbody' c (List.mem_cons_of_mem b hc))
      cases hb : head b with
      | none => simpa [write, hb] using ih
      | some a =>
          have hcut : ∀ {xs : List α} {f : β → List α}, (∀ x ∈ xs, p x = true) →
              (xs ++ (bs.flatMap (write head f) ++ rest)).takeWhile p = xs := by
            intro xs f hxs
            rw [List.takeWhile_append_of_pos hxs, takeWhile_write hhead' hrest, List.append_nil]
          have hsections : ∀ f : β → List α, (b :: bs).flatMap (write head f) ++ rest =
              a :: (f b ++ (bs.flatMap (write head f) ++ rest)) := by
            intro f
            simp [write, hb]
          rw [hsections, hsections, List.forall_mem_cons, List.cons_inj_right]
          constructor
          · intro h
            have hfirst : body b = body' b := by
              rw [← hcut (f := body) (hbody b List.mem_cons_self), h,
                hcut (hbody' b List.mem_cons_self)]
            rw [hfirst, List.append_cancel_left_eq] at h
            exact ⟨fun _ => hfirst, ih.mp h⟩
          · rintro ⟨hfirst, hothers⟩
            rw [hfirst (by rw [hb]; rfl), ih.mpr hothers]

end Sections
end InfinibandDiags
