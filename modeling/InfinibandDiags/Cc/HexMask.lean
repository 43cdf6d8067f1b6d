import Mathlib.Data.FinEnum
import InfinibandDiags.Cc.SwitchPorts
import InfinibandDiags.Library.Positional

/-! The masks of 256 bits that ibccconfig reads in hex, and which strings it reads as the number
that they are. -/
namespace InfinibandDiags
namespace Ibccconfig

/-- Where reading a mask leaves its memory, or its counter the range of an `int`. -/
inductive MaskFault
  | readPastNul
  | writePastBuffer
  | intOverflow
  deriving DecidableEq

def isxdigit (c : UInt8) : Bool := isDigitOf 16 c

/-- `parseint` with `hexonly`. -/
def parseintHexonly (arg : Bytes) : Except String Nat :=
  let (negative, body) :=
    match arg.dropWhile isSpace with
    | 45 :: body => (true, body)
    | 43 :: body => (false, body)
    | body => (false, body)
  let digits := if (numeralBase body).1 = 16 then (numeralBase body).2 else body
  let numeral := digits.takeWhile isxdigit
  let endptr := if numeral = [] then arg else digits.dropWhile isxdigit
  let value := numeral.foldl (fun v c => 16 * v + digitValue c) 0
  if value ≥ 2 ^ 64 then .error "value out of range"
  else if endptr ≠ [] then .error "invalid integer input"
  else .ok (unsignedLong negative value % 2 ^ 32)

/-- `arg` after `0x` or `0X`. -/
def skip0x (arg : Bytes) : Bytes :=
  if arg.take 2 = [48, 120] ∨ arg.take 2 = [48, 88] then arg.drop 2 else arg

/-- The loop that counts the digits. -/
def countDigits : Bytes → Nat → Except MaskFault (Except String Nat)
  | [], numdigits => .ok (.ok numdigits)
  | c :: ptr, numdigits =>
      if isxdigit c = false then .ok (.error "invalid hex digit read")
      else if numdigits + 1 = 2 ^ 31 then .error .intOverflow
      else countDigits ptr (numdigits + 1)

/-- How many characters are copied to `tmp`. -/
def tmpLength (startindex i : Int) (numdigits : Nat) : Nat :=
  if i = startindex ∧ numdigits % 2 ≠ 0 then 1 else 2

/-- The loop from `i` to 31, which has `turns` turns. `arg` is what is left of the string, with its
NUL. -/
def maskLoop (startindex : Int) (numdigits : Nat) :
    Nat → Int → Bytes → Bytes → Except MaskFault (Except String Bytes)
  | 0, _, _, buf => .ok (.ok buf)
  | turns + 1, i, arg, buf =>
      let n := tmpLength startindex i numdigits
      if arg.length < n then .error .readPastNul
      else
        match parseintHexonly ((arg.take n).takeWhile (· ≠ 0)) with
        | .error errstr => .ok (.error errstr)
        | .ok tmpint =>
            if i < 0 ∨ (buf.length : Int) ≤ i then .error .writePastBuffer
            else
              maskLoop startindex numdigits turns (i + 1) (arg.drop n)
                (buf.set i.toNat (UInt8.ofNat tmpint))

/-- The index of the byte with the first digit. -/
def startIndex (numdigits : Nat) : Int := 32 - ((numdigits : Int) - 1).tdiv 2 - 1

/-- The buffer afterwards, or the error. -/
def parse256 (arg : CString) (buf : Bytes) : Except MaskFault (Except String Bytes) :=
  let arg := skip0x arg.text
  match countDigits arg 0 with
  | .error fault => .error fault
  | .ok (.error errstr) => .ok (.error errstr)
  | .ok (.ok numdigits) =>
      if numdigits > 64 then .ok (.error "hex code too long")
      else
        let startindex := startIndex numdigits
        maskLoop startindex numdigits (32 - startindex).toNat startindex (arg ++ [0]) buf

/-- 1 to 64 hex digits after `0x`, `0X` or nothing. -/
structure IsMask (s digits : Bytes) : Prop where
  spelled : s = digits ∨ s = 48 :: 120 :: digits ∨ s = 48 :: 88 :: digits
  nonempty : digits ≠ []
  length_le : digits.length ≤ 64
  hex : ∀ c ∈ digits, isxdigit c = true

/-- The number that a buffer of bytes holds, the highest byte first. -/
def bigEndian (buf : Bytes) : Nat := Positional.value 256 (buf.map UInt8.toNat)

def hexValue (digits : Bytes) : Nat := Positional.value 16 (digits.map digitValue)

/-- Masks are read as the numbers that they are and other strings are refused, within the memory of
the string and the buffer. -/
structure MaskExact (arg : CString) : Prop where
  mask : ∀ digits, IsMask arg.text digits → ∃ buf,
    parse256 arg (List.replicate 32 0) = .ok (.ok buf) ∧ buf.length = 32 ∧
      bigEndian buf = hexValue digits
  refused : (¬∃ digits, IsMask arg.text digits) → ∃ errstr,
    parse256 arg (List.replicate 32 0) = .ok (.error errstr)

section Numerals
variable {c : UInt8} {s : Bytes}

theorem isxdigit_plain (h : isxdigit c = true) :
    isSpace c = false ∧ c ≠ 45 ∧ c ≠ 43 ∧ c ≠ 120 ∧ c ≠ 88 ∧ c ≠ 0 := by
  have hall : ∀ n : Fin 256, isxdigit (UInt8.ofNat n) = true → isSpace (UInt8.ofNat n) = false ∧
      UInt8.ofNat n ≠ 45 ∧ UInt8.ofNat n ≠ 43 ∧ UInt8.ofNat n ≠ 120 ∧ UInt8.ofNat n ≠ 88 ∧
      UInt8.ofNat n ≠ 0 := by
    decide +kernel
  have hc := hall ⟨c.toNat, c.toNat_lt⟩
  rw [UInt8.ofNat_toNat] at hc
  exact hc h

theorem digitValues_lt (hs : ∀ c ∈ s, isxdigit c = true) : ∀ d ∈ s.map digitValue, d < 16 := by
  intro d hd
  obtain ⟨c, hc, rfl⟩ := List.mem_map.mp hd
  exact of_decide_eq_true (hs c hc)

theorem hexValue_lt (hs : ∀ c ∈ s, isxdigit c = true) (hlen : s.length ≤ 2) : hexValue s < 256 := by
  have hvalue := Positional.value_lt 16 (digitValues_lt hs)
  rw [List.length_map] at hvalue
  exact Nat.lt_of_lt_of_le hvalue (Nat.pow_le_pow_right (by decide) hlen)

theorem numeralBase_short (hlen : s.length ≤ 2) : (numeralBase s).1 ≠ 16 := by
  unfold numeralBase
  split
  · next x c rest =>
      simp only [List.length_cons] at hlen
      omega
  · exact (by decide : (8 : Nat) ≠ 16)
  · exact (by decide : (10 : Nat) ≠ 16)

/-- One or two hex digits are a numeral without a sign or a mark in front. -/
theorem parseintHexonly_digits (hs : ∀ c ∈ s, isxdigit c = true) (hne : s ≠ [])
    (hlen : s.length ≤ 2) : parseintHexonly s = .ok (hexValue s) := by
  have hbase := numeralBase_short hlen
  have hlt := hexValue_lt hs hlen
  have hfold : s.foldl (fun v c => 16 * v + digitValue c) 0 = hexValue s := by
    rw [hexValue, Positional.value, Positional.valueAfter, List.foldl_map]
  obtain ⟨a, rest, rfl⟩ := List.exists_cons_of_ne_nil hne
  obtain ⟨hspace, hminus, hplus, -, -, -⟩ := isxdigit_plain (hs a List.mem_cons_self)
  have hdrop : (a :: rest).dropWhile isSpace = a :: rest :=
    List.dropWhile_cons_of_neg (by rw [hspace]; decide)
  have hend : (a :: rest).dropWhile isxdigit = [] := List.dropWhile_eq_nil_iff.mpr hs
  unfold parseintHexonly
  rw [hdrop]
  split
  next negative body hsign =>
    split at hsign
    · next heq => exact absurd (List.cons.inj heq).1 hminus
    · next heq => exact absurd (List.cons.inj heq).1 hplus
    · cases hsign
      simp only [if_neg hbase, List.takeWhile_eq_self_iff.mpr hs, hend, hfold, if_neg hne]
      rw [if_neg (by omega), if_neg (by decide), unsignedLong, if_neg (by omega)]
      simp only [Bool.false_eq_true, if_false]
      rw [Nat.mod_eq_of_lt (by omega)]

end Numerals

section Loop
variable {startindex : Int} {numdigits : Nat} {buf : Bytes}

/-- The bytes that pairs of hex digits are read as. -/
def hexBytes (s : Bytes) : Bytes := (Positional.pairs 16 (s.map digitValue)).map UInt8.ofNat

theorem hexBytes_cons (a b : UInt8) (rest : Bytes) :
    hexBytes (a :: b :: rest) = UInt8.ofNat (hexValue [a, b]) :: hexBytes rest := by
  have hvalue : hexValue [a, b] = 16 * digitValue a + digitValue b := by
    simp [hexValue, Positional.value, Positional.valueAfter]
  rw [hvalue]
  rfl

/-- A turn of the loop with hex digits ahead. -/
theorem maskLoop_step {turns i : Nat} {t rest : Bytes} (ht : ∀ c ∈ t, isxdigit c = true)
    (hlen : t.length = tmpLength startindex i numdigits) (hi : i < buf.length) :
    maskLoop startindex numdigits (turns + 1) i (t ++ rest) buf =
      maskLoop startindex numdigits turns (i + 1) rest
        (buf.set i (UInt8.ofNat (hexValue t))) := by
  have hn : tmpLength startindex i numdigits = 1 ∨ tmpLength startindex i numdigits = 2 := by
    unfold tmpLength
    split
    · exact .inl rfl
    · exact .inr rfl
  have hne : t ≠ [] := by
    rintro rfl
    rw [List.length_nil] at hlen
    omega
  have hnul : t.takeWhile (· ≠ 0) = t := by
    apply List.takeWhile_eq_self_iff.mpr
    intro c hc
    exact decide_eq_true (isxdigit_plain (ht c hc)).2.2.2.2.2
  rw [maskLoop, ← hlen, if_neg (by rw [List.length_append]; omega), List.take_left, hnul,
    parseintHexonly_digits ht hne (by omega), List.drop_left]
  simp only
  rw [if_neg (by omega), Int.toNat_natCast]

theorem take_set_last {i : Nat} (x : UInt8) (hi : i < buf.length) :
    (buf.set i x).take (i + 1) = buf.take i ++ [x] := by
  rw [List.take_add_one, List.take_set_of_le le_rfl, List.getElem?_set_self hi]
  rfl

/-- The loop over `k` pairs of digits fills the last `k` bytes. -/
theorem maskLoop_pairs {k : Nat} {s : Bytes} (hk : k ≤ 32) (hlen : s.length = 2 * k)
    (hs : ∀ c ∈ s, isxdigit c = true) (hbuf : buf.length = 32)
    (hpair : startindex < ((32 - k : Nat) : Int)) :
    maskLoop startindex numdigits k (32 - k : Nat) (s ++ [0]) buf =
      .ok (.ok (buf.take (32 - k) ++ hexBytes s)) := by
  induction k generalizing s buf with
  | zero =>
      rw [List.length_eq_zero_iff.mp hlen, maskLoop, Nat.sub_zero, ← hbuf, List.take_length]
      exact congrArg (fun bytes => Except.ok (Except.ok bytes)) (List.append_nil buf).symm
  | succ k ih =>
      obtain ⟨a, b, rest, rfl⟩ : ∃ a b rest, s = a :: b :: rest := by
        match s, hlen with
        | a :: b :: rest, _ => exact ⟨a, b, rest, rfl⟩
      have htmp : tmpLength startindex (32 - (k + 1) : Nat) numdigits = 2 :=
        if_neg fun h => absurd h.1 (by omega)
      have hrest : rest.length = 2 * k := by
        simp only [List.length_cons] at hlen
        omega
      have hlast : 32 - (k + 1) < buf.length := by omega
      have hnext : ((32 - (k + 1) : Nat) : Int) + 1 = ((32 - k : Nat) : Int) := by omega
      have hstep : maskLoop startindex numdigits (k + 1) (32 - (k + 1) : Nat)
          ([a, b] ++ (rest ++ [0])) buf = _ :=
        maskLoop_step (fun c hc => hs c (List.mem_append_left rest hc)) htmp.symm hlast
      have htake := take_set_last (UInt8.ofNat (hexValue [a, b])) hlast
      have hlen' : 32 - (k + 1) + 1 = 32 - k := by omega
      rw [hlen'] at htake
      rw [hnext] at hstep
      refine hstep.trans ((ih (by omega) hrest (fun c hc => hs c (by simp [hc]))
        (by rw [List.length_set, hbuf]) (by omega)).trans ?_)
      rw [htake, List.append_assoc, hexBytes_cons]
      rfl

theorem hexBytes_toNat {s : Bytes} (hs : ∀ c ∈ s, isxdigit c = true) :
    (hexBytes s).map UInt8.toNat = Positional.pairs 16 (s.map digitValue) := by
  rw [hexBytes, List.map_map]
  refine (List.map_congr_left fun p hp => ?_).trans (List.map_id _)
  have hlt := Positional.pairs_lt 16 (digitValues_lt hs) p hp
  exact UInt8.toNat_ofNat_of_lt' hlt

theorem length_hexBytes (s : Bytes) : (hexBytes s).length = s.length / 2 := by
  rw [hexBytes, List.length_map, Positional.length_pairs, List.length_map]

/-- Zeros, a number and pairs of digits after it. -/
theorem bigEndian_hexBytes {n k : Nat} {s : Bytes} {d : UInt8} (hs : ∀ c ∈ s, isxdigit c = true)
    (hlen : s.length = 2 * k) :
    bigEndian (List.replicate n 0 ++ d :: hexBytes s) =
      Positional.valueAfter 16 d.toNat (s.map digitValue) := by
  have hzero : (0 : UInt8).toNat = 0 := rfl
  rw [bigEndian, List.map_append, List.map_replicate, hzero, Positional.value_zeros, List.map_cons,
    hexBytes_toNat hs, Positional.value, Positional.valueAfter, List.foldl_cons, Nat.mul_zero,
    Nat.zero_add]
  exact Positional.valueAfter_pairs 16 d.toNat k _ (by rw [List.length_map, hlen])

/-- The whole loop over 1 to 64 digits. -/
theorem maskLoop_digits {digits : Bytes} (hne : digits ≠ []) (hlen : digits.length ≤ 64)
    (hs : ∀ c ∈ digits, isxdigit c = true) :
    ∃ buf, maskLoop (startIndex digits.length) digits.length
        (32 - startIndex digits.length).toNat (startIndex digits.length) (digits ++ [0])
        (List.replicate 32 0) = .ok (.ok buf) ∧
      buf.length = 32 ∧ bigEndian buf = hexValue digits := by
  have hpos := List.length_pos_iff.mpr hne
  have hzeros : (List.replicate 32 (0 : UInt8)).length = 32 := List.length_replicate
  obtain ⟨k, hk⟩ : ∃ k, (digits.length - 1) / 2 = k := ⟨_, rfl⟩
  have hstart : startIndex digits.length = ((31 - k : Nat) : Int) := by
    rw [startIndex, Int.tdiv_eq_ediv_of_nonneg (by omega)]
    omega
  have hturns : (32 - startIndex digits.length).toNat = k + 1 := by omega
  rw [hturns]
  -- the first byte has one or two digits, and the number of those after it is even
  obtain ⟨n, hn⟩ : ∃ n, tmpLength (startIndex digits.length) (31 - k : Nat) digits.length = n :=
    ⟨_, rfl⟩
  have hdigits : digits.length = n + 2 * k ∧ n ≤ 2 := by
    rw [← hn, tmpLength, hstart]
    split <;> omega
  obtain ⟨t, rest, rfl, ht⟩ : ∃ t rest, digits = t ++ rest ∧ t.length = n :=
    ⟨digits.take n, digits.drop n, (List.take_append_drop n digits).symm,
      List.length_take_of_le (by omega)⟩
  have hfront : ∀ c ∈ t, isxdigit c = true := fun c hc => hs c (List.mem_append_left rest hc)
  have hback : ∀ c ∈ rest, isxdigit c = true := fun c hc => hs c (List.mem_append_right t hc)
  have hrest : rest.length = 2 * k := by
    have hlen := hdigits.1
    rw [List.length_append] at hlen
    omega
  have hfirst : 31 - k < (List.replicate 32 (0 : UInt8)).length := by omega
  have hnext : ((31 - k : Nat) : Int) + 1 = ((32 - k : Nat) : Int) := by omega
  have htake := take_set_last (UInt8.ofNat (hexValue t)) hfirst
  have hindex : 31 - k + 1 = 32 - k := by omega
  have hrun : maskLoop (startIndex (t ++ rest).length) (t ++ rest).length k (32 - k : Nat)
      (rest ++ [0]) ((List.replicate 32 0).set (31 - k) (UInt8.ofNat (hexValue t))) = _ :=
    maskLoop_pairs (by omega) hrest hback (by rw [List.length_set, hzeros]) (by omega)
  rw [← hindex, htake, List.take_replicate, Nat.min_eq_left (by omega), List.append_assoc] at hrun
  refine ⟨List.replicate (31 - k) 0 ++ UInt8.ofNat (hexValue t) :: hexBytes rest, ?_, ?_, ?_⟩
  · rw [hstart, List.append_assoc]
    rw [hstart] at hn
    refine (maskLoop_step hfront (ht.trans hn.symm) hfirst).trans ?_
    rw [hnext, ← hindex, ← hstart]
    exact hrun
  · rw [List.length_append, List.length_replicate, List.length_cons, length_hexBytes]
    omega
  · rw [bigEndian_hexBytes hback hrest, UInt8.toNat_ofNat_of_lt' (hexValue_lt hfront (by omega)),
      hexValue, hexValue, List.map_append, Positional.value_append]

end Loop

section Digits
variable {s digits : Bytes}

/-- The count of the digits. -/
theorem countDigits_eq {n : Nat} (hn : n < 2 ^ 31) :
    countDigits s n =
      if 2 ^ 31 ≤ n + (s.takeWhile isxdigit).length then .error .intOverflow
      else if ∀ c ∈ s, isxdigit c = true then .ok (.ok (n + s.length))
      else .ok (.error "invalid hex digit read") := by
  induction s generalizing n with
  | nil =>
      rw [List.takeWhile_nil, List.length_nil, if_neg (by omega), if_pos (by simp)]
      rfl
  | cons c s ih =>
      rw [countDigits]
      cases hc : isxdigit c with
      | false =>
          have hnone : ¬∀ d ∈ c :: s, isxdigit d = true := fun h =>
            absurd (h c List.mem_cons_self) (by rw [hc]; decide)
          rw [if_pos rfl, List.takeWhile_cons_of_neg (by rw [hc]; decide), List.length_nil,
            if_neg (by omega), if_neg hnone]
      | true =>
          have hall : (∀ d ∈ c :: s, isxdigit d = true) ↔ ∀ d ∈ s, isxdigit d = true :=
            List.forall_mem_cons.trans (and_iff_right hc)
          rw [if_neg (by decide), List.takeWhile_cons_of_pos hc, List.length_cons]
          split
          · next hend => rw [if_pos (by omega)]
          · next hend =>
              rw [ih (by omega), List.length_cons]
              simp only [hall, Nat.add_assoc, Nat.add_comm 1]

theorem skip0x_split (s : Bytes) :
    s = skip0x s ∨ s = 48 :: 120 :: skip0x s ∨ s = 48 :: 88 :: skip0x s := by
  have hsplit := List.take_append_drop 2 s
  unfold skip0x
  split
  · next h =>
      rcases h with h | h
      · rw [h] at hsplit
        exact .inr (.inl hsplit.symm)
      · rw [h] at hsplit
        exact .inr (.inr hsplit.symm)
  · exact .inl rfl

/-- Digits do not begin with `0x`. -/
theorem skip0x_digits (hs : ∀ c ∈ s, isxdigit c = true) : skip0x s = s := by
  refine if_neg ?_
  rintro (h | h)
  · have hmem : (120 : UInt8) ∈ s.take 2 := by simp [h]
    exact (isxdigit_plain (hs 120 (List.mem_of_mem_take hmem))).2.2.2.1 rfl
  · have hmem : (88 : UInt8) ∈ s.take 2 := by simp [h]
    exact (isxdigit_plain (hs 88 (List.mem_of_mem_take hmem))).2.2.2.2.1 rfl

/-- The digits of a mask are what is left of it without `0x`. -/
theorem isMask_iff : IsMask s digits ↔ digits = skip0x s ∧ skip0x s ≠ [] ∧
    (skip0x s).length ≤ 64 ∧ ∀ c ∈ skip0x s, isxdigit c = true := by
  have hskip (h : IsMask s digits) : digits = skip0x s := by
    rcases h.spelled with rfl | rfl | rfl
    · exact (skip0x_digits h.hex).symm
    · rfl
    · rfl
  constructor
  · intro h
    rw [← hskip h]
    exact ⟨rfl, h.nonempty, h.length_le, h.hex⟩
  · rintro ⟨rfl, hne, hlen, hhex⟩
    exact ⟨skip0x_split s, hne, hlen, hhex⟩

end Digits

section Masks
variable {arg : CString} {buf : Bytes}

/-- Without a digit the first copy reads past the NUL. -/
theorem parse256_empty (h : skip0x arg.text = []) : parse256 arg buf = .error .readPastNul := by
  simp only [parse256, h]
  rfl

theorem MaskExact.returns (h : MaskExact arg) :
    ∃ result, parse256 arg (List.replicate 32 0) = .ok result := by
  by_cases hmask : ∃ digits, IsMask arg.text digits
  · obtain ⟨digits, hdigits⟩ := hmask
    obtain ⟨buf, hbuf, -⟩ := h.mask digits hdigits
    exact ⟨_, hbuf⟩
  · obtain ⟨errstr, herr⟩ := h.refused hmask
    exact ⟨_, herr⟩

/-- Masks are read exactly where there is a digit and the digits can be counted. -/
theorem maskExact_iff (arg : CString) : MaskExact arg ↔
    skip0x arg.text ≠ [] ∧ ((skip0x arg.text).takeWhile isxdigit).length < 2 ^ 31 := by
  have hcount := countDigits_eq (s := skip0x arg.text) (n := 0) (by decide)
  rw [Nat.zero_add, Nat.zero_add] at hcount
  constructor
  · intro h
    obtain ⟨result, hresult⟩ := h.returns
    constructor
    · intro hempty
      rw [parse256_empty hempty] at hresult
      cases hresult
    · by_contra hlong
      rw [if_pos (by omega)] at hcount
      simp only [parse256, hcount] at hresult
      cases hresult
  · rintro ⟨hne, hshort⟩
    rw [if_neg (by omega)] at hcount
    constructor
    · intro digits hmask
      obtain ⟨rfl, -, hlen, hhex⟩ := isMask_iff.mp hmask
      rw [if_pos hhex] at hcount
      simp only [parse256, hcount, if_neg (Nat.not_lt.mpr hlen)]
      exact maskLoop_digits hne hlen hhex
    · intro hother
      by_cases hhex : ∀ c ∈ skip0x arg.text, isxdigit c = true
      · have hlong : (skip0x arg.text).length > 64 := by
          by_contra hlen
          exact hother ⟨_, isMask_iff.mpr ⟨rfl, hne, by omega, hhex⟩⟩
        rw [if_pos hhex] at hcount
        simp only [parse256, hcount, if_pos hlong]
        exact ⟨_, rfl⟩
      · rw [if_neg hhex] at hcount
        simp only [parse256, hcount]
        exact ⟨_, rfl⟩

/-- An empty argument. -/
theorem emptyMask_notExact : ¬MaskExact ⟨[], by decide⟩ := by
  intro h
  obtain ⟨result, hresult⟩ := h.returns
  rw [parse256_empty rfl] at hresult
  cases hresult

end Masks
end Ibccconfig
end InfinibandDiags
