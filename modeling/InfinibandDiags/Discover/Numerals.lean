import InfinibandDiags.Discover.DirectRoute

/-! What `atoi` reads off a decimal numeral, and the numerals that `"%d"` prints. -/
namespace InfinibandDiags

/-- Digits, and at least one. -/
def IsNumeral (ds : Bytes) : Prop := ds ≠ [] ∧ ∀ c ∈ ds, isDigit c = true

instance (ds : Bytes) : Decidable (IsNumeral ds) := inferInstanceAs (Decidable (_ ∧ _))

def decimal (ds : Bytes) : Nat := ds.foldl (fun v c => 10 * v + (c.toNat - 48)) 0

/-- What follows a numeral where it ends. -/
def NoDigitHead (rest : Bytes) : Prop := ∀ c ∈ rest.head?, isDigit c = false

theorem noDigitHead_nil : NoDigitHead [] := fun c hc => by cases hc

theorem noDigitHead_cons {c : UInt8} {rest : Bytes} (h : isDigit c = false) :
    NoDigitHead (c :: rest) := by
  intro d hd
  cases hd
  exact h

section Digits
variable {c : UInt8} {ds rest : Bytes}

theorem isDigit_iff : isDigit c = true ↔ 48 ≤ c.toNat ∧ c.toNat ≤ 57 := by
  simp [isDigit, UInt8.le_iff_toNat_le]

theorem not_isSpace_of_isDigit (h : isDigit c = true) : isSpace c = false := by
  have hc := isDigit_iff.mp h
  simp only [isSpace, Bool.or_eq_false_iff, decide_eq_false_iff_not, Bool.and_eq_false_iff,
    UInt8.le_iff_toNat_le, ← UInt8.toNat_inj]
  refine ⟨?_, .inr ?_⟩
  · change ¬ c.toNat = 32
    omega
  · change ¬ c.toNat ≤ 13
    omega

theorem takeWhile_digits (hds : ∀ c ∈ ds, isDigit c = true) (hrest : NoDigitHead rest) :
    (ds ++ rest).takeWhile isDigit = ds := by
  rw [List.takeWhile_append_of_pos hds]
  cases rest with
  | nil => rw [List.takeWhile_nil, List.append_nil]
  | cons c rest => rw [List.takeWhile_cons, hrest c rfl, if_neg (by decide), List.append_nil]

theorem dropWhile_digits (hds : ∀ c ∈ ds, isDigit c = true) (hrest : NoDigitHead rest) :
    (ds ++ rest).dropWhile isDigit = rest := by
  rw [List.dropWhile_append_of_pos hds]
  cases rest with
  | nil => rfl
  | cons c rest => rw [List.dropWhile_cons, hrest c rfl, if_neg (by decide)]

theorem foldl_digits (hds : ∀ c ∈ ds, isDigit c = true) (v : Nat) :
    ds.foldl (fun (v : Int) c => 10 * v + ((c.toNat : Int) - 48)) (v : Int) =
      ((ds.foldl (fun v c => 10 * v + (c.toNat - 48)) v : Nat) : Int) := by
  induction ds generalizing v with
  | nil => rfl
  | cons c ds ih =>
      have hc := isDigit_iff.mp (hds c List.mem_cons_self)
      rw [List.foldl_cons, List.foldl_cons, ← ih fun d hd => hds d (List.mem_cons_of_mem c hd)]
      congr 1
      omega

theorem strtol_numeral (hds : IsNumeral ds) (hrest : NoDigitHead rest) :
    strtol (ds ++ rest) = ((min (decimal ds) (2 ^ 63 - 1) : Nat) : Int) := by
  obtain ⟨hne, hdigits⟩ := hds
  cases ds with
  | nil => exact absurd rfl hne
  | cons c ds =>
      have hc := hdigits c List.mem_cons_self
      have hbounds := isDigit_iff.mp hc
      have hvalue : (c :: ds).foldl (fun (v : Int) c => 10 * v + ((c.toNat : Int) - 48)) 0 =
          (decimal (c :: ds) : Int) := foldl_digits hdigits 0
      have hstart : (c :: ds ++ rest).dropWhile isSpace = c :: ds ++ rest := by
        rw [List.cons_append, List.dropWhile_cons, not_isSpace_of_isDigit hc, if_neg (by decide)]
      unfold strtol
      dsimp only
      rw [hstart]
      split
      · next h =>
          obtain ⟨rfl, -⟩ := List.cons.inj h
          exact absurd hbounds.1 (by decide)
      · next h =>
          obtain ⟨rfl, -⟩ := List.cons.inj h
          exact absurd hbounds.1 (by decide)
      · rw [takeWhile_digits hdigits hrest, hvalue]
        omega

theorem hopOf_eq (s : Bytes) : (hopOf s : Int) = strtol s % 256 := by
  have hmod : (strtol s).bmod (2 ^ 32) % 256 = strtol s % 256 := by
    rw [← Int.emod_emod_of_dvd _ (by decide : (256 : Int) ∣ (2 ^ 32 : Nat)), Int.bmod_emod,
      Int.emod_emod_of_dvd _ (by decide)]
  have hnonneg : 0 ≤ strtol s % 256 := Int.emod_nonneg _ (by decide)
  have hlt : strtol s % 256 < 256 := Int.emod_lt_of_pos _ (by decide)
  unfold hopOf UInt8.ofInt atoi
  rw [show (2 : Int) ^ 8 = 256 by rfl, hmod, UInt8.toNat_ofNat']
  omega

/-- A numeral from 2^63 on is read as 2^63 - 1. -/
theorem hopOf_numeral (hds : IsNumeral ds) (hrest : NoDigitHead rest) :
    hopOf (ds ++ rest) = min (decimal ds) (2 ^ 63 - 1) % 256 := by
  have hhop := hopOf_eq (ds ++ rest)
  rw [strtol_numeral hds hrest] at hhop
  omega

/-- Only numbers that fit a byte are read as they are. -/
theorem hopOf_eq_decimal_iff (hds : IsNumeral ds) (hrest : NoDigitHead rest) :
    hopOf (ds ++ rest) = decimal ds ↔ decimal ds < 256 := by
  rw [hopOf_numeral hds hrest]
  omega

end Digits

section Print

/-- `"%d"` of a number that is not negative. -/
def toDecimal (n : Nat) : Bytes :=
  if n < 10 then [UInt8.ofNat (48 + n)] else toDecimal (n / 10) ++ [UInt8.ofNat (48 + n % 10)]

theorem isDigit_ofNat {d : Nat} (hd : d < 10) : isDigit (UInt8.ofNat (48 + d)) = true := by
  rw [isDigit_iff, UInt8.toNat_ofNat']
  omega

theorem isNumeral_toDecimal (n : Nat) : IsNumeral (toDecimal n) := by
  induction n using toDecimal.induct with
  | case1 n hn =>
      rw [toDecimal, if_pos hn]
      exact ⟨List.cons_ne_nil _ _, by simpa using isDigit_ofNat hn⟩
  | case2 n hn ih =>
      rw [toDecimal, if_neg hn]
      refine ⟨by simp, fun c hc => ?_⟩
      rcases List.mem_append.mp hc with hc | hc
      · exact ih.2 c hc
      · rw [List.mem_singleton.mp hc]
        exact isDigit_ofNat (Nat.mod_lt n (by decide))

theorem decimal_toDecimal (n : Nat) : decimal (toDecimal n) = n := by
  induction n using toDecimal.induct with
  | case1 n hn =>
      rw [toDecimal, if_pos hn, decimal, List.foldl_cons, List.foldl_nil, UInt8.toNat_ofNat']
      omega
  | case2 n hn ih =>
      rw [decimal] at ih
      rw [toDecimal, if_neg hn, decimal, List.foldl_append, ih, List.foldl_cons, List.foldl_nil,
        UInt8.toNat_ofNat']
      omega

end Print
end InfinibandDiags
