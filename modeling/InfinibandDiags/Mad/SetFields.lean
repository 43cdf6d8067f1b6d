import InfinibandDiags.Mad.Layouts

/-! Setting several fields of a buffer one after the other. -/
namespace InfinibandDiags

def setFields (buf : Bytes) (ws : List (IbField × Nat)) : Bytes :=
  ws.foldl (fun buf w => setField buf 0 w.1 w.2) buf

/-- The fields lie apart in the buffer, and the values are in range. -/
structure FieldsFit (buf : Bytes) (ws : List (IbField × Nat)) : Prop where
  regular : ∀ w ∈ ws, w.1.Regular
  holds : ∀ w ∈ ws, HoldsWords buf 0 w.1
  inRange : ∀ w ∈ ws, w.2 < 2 ^ w.1.bitlen
  apart : ws.Pairwise fun v w => v.1.Apart w.1

section SetFields
variable {buf : Bytes} {f g : IbField} {val : Nat} {ws : List (IbField × Nat)}

theorem getField_setField_apart (hf : f.Regular) (hg : g.Regular) (hapart : f.Apart g)
    (hbuf : HoldsWords buf 0 f) (hval : val < 2 ^ f.bitlen) :
    getField (setField buf 0 f val) 0 g = getField buf 0 g := by
  have honly := (setField_onlyField hf (hbuf.holds (by decide)) val).mpr
    (not_spills (.inr (.inr hval)))
  apply getField_congr hg
  intro k hk hk'
  apply honly
  rw [IbField.start] at hk hk' ⊢
  rw [IbField.Apart] at hapart
  omega

theorem FieldsFit.tail {w : IbField × Nat} (h : FieldsFit buf (w :: ws)) :
    FieldsFit (setField buf 0 w.1 w.2) ws where
  regular v hv := h.regular v (List.mem_cons_of_mem w hv)
  holds v hv := by
    rw [HoldsWords, setField_length]
    exact h.holds v (List.mem_cons_of_mem w hv)
  inRange v hv := h.inRange v (List.mem_cons_of_mem w hv)
  apart := h.apart.tail

@[simp] theorem setFields_length (buf : Bytes) (ws : List (IbField × Nat)) :
    (setFields buf ws).length = buf.length := by
  induction ws generalizing buf with
  | nil => rfl
  | cons w ws ih => exact (ih _).trans (setField_length buf 0 w.1 w.2)

theorem getField_setFields_apart (h : FieldsFit buf ws) (hg : g.Regular)
    (hapart : ∀ w ∈ ws, w.1.Apart g) : getField (setFields buf ws) 0 g = getField buf 0 g := by
  induction ws generalizing buf with
  | nil => rfl
  | cons w ws ih =>
      have hw := List.mem_cons_self (a := w) (l := ws)
      refine (ih h.tail fun v hv => hapart v (List.mem_cons_of_mem w hv)).trans ?_
      exact getField_setField_apart (h.regular w hw) hg (hapart w hw) (h.holds w hw)
        (h.inRange w hw)

/-- Each field holds what was set. -/
theorem getField_setFields (h : FieldsFit buf ws) {w : IbField × Nat} (hw : w ∈ ws) :
    getField (setFields buf ws) 0 w.1 = w.2 := by
  induction ws generalizing buf with
  | nil => exact absurd hw List.not_mem_nil
  | cons v ws ih =>
      rcases List.mem_cons.mp hw with rfl | hrest
      · have hreg := h.regular w List.mem_cons_self
        have hheld := h.holds w List.mem_cons_self
        have hlater : ∀ v ∈ ws, v.1.Apart w.1 := fun v hv =>
          (List.rel_of_pairwise_cons h.apart hv).symm
        refine (getField_setFields_apart h.tail hreg hlater).trans ?_
        rw [getField_setField hreg (hheld.holds (by decide)),
          Nat.mod_eq_of_lt (h.inRange w List.mem_cons_self)]
      · exact ih h.tail hrest

end SetFields

end InfinibandDiags
