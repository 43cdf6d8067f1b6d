import InfinibandDiags.Mad.Table

/-! The bits of an attribute buffer under the accessors of fields.c. -/
namespace InfinibandDiags

/-- Bit `k` of a buffer as the accessors count: the bytes of a 32-bit word from the last one on,
the bits of a byte from the lowest one on. -/
def wordBit (buf : Bytes) (k : Nat) : Bool := (byteAt buf (3 ^^^ (k / 8))).toNat.testBit (k % 8)

/-- The first branch of `_get_field` and `_set_field`. -/
def IbField.InByte (f : IbField) : Prop := f.bitlen / 8 = 0 ∧ f.bitoffs % 8 + f.bitlen < 8

def IbField.prebits (f : IbField) : Nat := (8 - f.bitoffs % 8) % 8

def IbField.postbits (f : IbField) : Nat := (f.bitoffs + f.bitlen) % 8

instance (f : IbField) : Decidable f.InByte := inferInstanceAs (Decidable (_ ∧ _))

/-- The leading bits, the whole bytes and the trailing bits of a field make up its length. -/
def IbField.Regular (f : IbField) : Prop :=
  (0 < f.bitlen ∧ f.bitlen ≤ 32) ∧
    (f.InByte ∨ f.prebits + 8 * (f.bitlen / 8) + f.postbits = f.bitlen)

instance (f : IbField) : Decidable f.Regular := inferInstanceAs (Decidable (_ ∧ _))

/-- Where the bits of a field start in a buffer. -/
def IbField.start (f : IbField) (baseOffs : Nat) : Nat := 8 * baseOffs + f.bitoffs

/-- The bytes that hold a field are bytes of the buffer. -/
def Holds (buf : Bytes) (baseOffs : Nat) (f : IbField) : Prop :=
  ∀ i < f.bitlen, 3 ^^^ ((f.start baseOffs + i) / 8) < buf.length

theorem wordBit_byte (buf : Bytes) (idx : Nat) {j : Nat} (hj : j < 8) :
    wordBit buf (8 * idx + j) = (byteAt buf (3 ^^^ idx)).toNat.testBit j := by
  have hdiv : (8 * idx + j) / 8 = idx := by omega
  have hmod : (8 * idx + j) % 8 = j := by omega
  rw [wordBit, hdiv, hmod]

theorem testBit_byte_of_le (b : UInt8) {j : Nat} (hj : 8 ≤ j) : b.toNat.testBit j = false :=
  Nat.testBit_lt_two_pow (Nat.lt_of_lt_of_le b.toNat_lt (Nat.pow_le_pow_right Nat.two_pos hj))

/-! ### Reading -/

theorem testBit_getFieldBytes (buf : Bytes) (idx n val : Nat) {i : Nat} (hi : i < 32) :
    (getFieldBytes buf idx n val).testBit i =
      if i < 8 * n then wordBit buf (8 * idx + i) else val.testBit (i - 8 * n) := by
  induction n generalizing val with
  | zero => simp [getFieldBytes]
  | succ n ih =>
      rw [getFieldBytes, ih]
      by_cases hlow : i < 8 * n
      · rw [if_pos hlow, if_pos (by omega)]
      · have hrest : i - 8 * n < 32 := by omega
        rw [if_neg hlow, Nat.testBit_mod_two_pow, decide_eq_true hrest, Bool.true_and,
          Nat.testBit_or, Nat.testBit_shiftLeft]
        by_cases hbyte : i < 8 * (n + 1)
        · have hpos : 8 * idx + i = 8 * (idx + n) + (i - 8 * n) := by omega
          have hno : ¬ i - 8 * n ≥ 8 := by omega
          rw [if_pos hbyte, hpos, wordBit_byte buf (idx + n) (by omega), decide_eq_false hno,
            Bool.false_and, Bool.false_or]
        · have hyes : i - 8 * n ≥ 8 := by omega
          have hpos : i - 8 * n - 8 = i - 8 * (n + 1) := by omega
          rw [if_neg hbyte, testBit_byte_of_le _ hyes, decide_eq_true hyes, Bool.true_and,
            Bool.or_false, hpos]

/-- The low bits of a field that ends the byte it starts in. -/
theorem testBit_leading (buf : Bytes) (start i : Nat) :
    (if (8 - start % 8) % 8 = 0 then 0
      else (byteAt buf (3 ^^^ (start / 8))).toNat >>> (8 - (8 - start % 8) % 8)).testBit i =
      (decide (i < (8 - start % 8) % 8) && wordBit buf (start + i)) := by
  by_cases hpre : (8 - start % 8) % 8 = 0
  · simp [hpre]
  · rw [if_neg hpre, Nat.testBit_shiftRight]
    have hoffs : 8 - (8 - start % 8) % 8 = start % 8 := by omega
    rw [hoffs]
    by_cases hi : i < (8 - start % 8) % 8
    · have hpos : start + i = 8 * (start / 8) + (start % 8 + i) := by omega
      rw [decide_eq_true hi, Bool.true_and, hpos, wordBit_byte _ _ (by omega)]
    · rw [decide_eq_false hi, Bool.false_and, testBit_byte_of_le _ (by omega)]

/-- The high bits of a field that begin the byte it ends in. -/
theorem testBit_trailing (buf : Bytes) (stop i : Nat) :
    (if stop % 8 = 0 then 0
      else (byteAt buf (3 ^^^ (stop / 8))).toNat % 2 ^ (stop % 8)).testBit i =
      (decide (i < stop % 8) && wordBit buf (8 * (stop / 8) + i)) := by
  by_cases hpost : stop % 8 = 0
  · simp [hpost]
  · rw [if_neg hpost, Nat.testBit_mod_two_pow]
    by_cases hi : i < stop % 8
    · rw [wordBit_byte _ _ (by omega)]
    · simp [hi]

/-- A field reads the bits from its offset on. -/
theorem testBit_getField {f : IbField} (hf : f.Regular) (buf : Bytes) (baseOffs i : Nat) :
    (getField buf baseOffs f).testBit i =
      (decide (i < f.bitlen) && wordBit buf (f.start baseOffs + i)) := by
  obtain ⟨⟨_, hlen⟩, hshape⟩ := hf
  simp only [IbField.InByte, IbField.prebits, IbField.postbits] at hshape
  simp only [getField, IbField.start]
  by_cases hbyte : f.bitlen / 8 = 0 ∧ f.bitoffs % 8 + f.bitlen < 8
  · rw [if_pos hbyte, Nat.testBit_mod_two_pow, Nat.testBit_shiftRight]
    by_cases hi : i < f.bitlen
    · have hpos : 8 * baseOffs + f.bitoffs + i =
          8 * (baseOffs + f.bitoffs / 8) + (f.bitoffs % 8 + i) := by omega
      rw [hpos, wordBit_byte _ _ (by omega)]
    · simp [hi]
  · have hsum := hshape.resolve_left hbyte
    -- the pieces of the field, addressed from its first and behind its last bit
    have hidx : baseOffs + f.bitoffs / 8 = (8 * baseOffs + f.bitoffs) / 8 := by omega
    have hlast : baseOffs + (f.bitoffs + f.bitlen) / 8 =
        (8 * baseOffs + f.bitoffs + f.bitlen) / 8 := by omega
    have hpre : f.bitoffs % 8 = (8 * baseOffs + f.bitoffs) % 8 := by omega
    have hpost : (f.bitoffs + f.bitlen) % 8 = (8 * baseOffs + f.bitoffs + f.bitlen) % 8 := by omega
    rw [hpre, hpost] at hsum
    rw [if_neg hbyte, hidx, hlast, hpre, hpost]
    generalize 8 * baseOffs + f.bitoffs = start at hsum ⊢
    have hwhole : 8 * (if (8 - start % 8) % 8 = 0 then start / 8 else start / 8 + 1) =
        start + (8 - start % 8) % 8 := by
      split_ifs <;> omega
    rw [Nat.testBit_mod_two_pow]
    by_cases hi32 : i < 32
    swap
    · have hi : ¬ i < f.bitlen := by omega
      rw [decide_eq_false hi32, decide_eq_false hi, Bool.false_and, Bool.false_and]
    rw [decide_eq_true hi32, Bool.true_and, Nat.testBit_or, Nat.testBit_shiftLeft, testBit_leading]
    by_cases hlead : i < (8 - start % 8) % 8
    · have hi : i < f.bitlen := by omega
      have hno : ¬ i ≥ (8 - start % 8) % 8 := by omega
      rw [decide_eq_true hlead, decide_eq_true hi, decide_eq_false hno, Bool.false_and,
        Bool.false_or]
    · have hyes : i ≥ (8 - start % 8) % 8 := by omega
      rw [decide_eq_false hlead, decide_eq_true hyes, Bool.false_and, Bool.or_false,
        Bool.true_and, testBit_getFieldBytes _ _ _ _ (by omega), hwhole, testBit_trailing]
      by_cases hmid : i - (8 - start % 8) % 8 < 8 * (f.bitlen / 8)
      · have hi : i < f.bitlen := by omega
        have hpos : start + (8 - start % 8) % 8 + (i - (8 - start % 8) % 8) = start + i := by omega
        rw [if_pos hmid, decide_eq_true hi, Bool.true_and, hpos]
      · rw [if_neg hmid]
        by_cases hi : i < f.bitlen
        · have hin : i - (8 - start % 8) % 8 - 8 * (f.bitlen / 8) < (start + f.bitlen) % 8 := by
            omega
          have hpos : 8 * ((start + f.bitlen) / 8) +
              (i - (8 - start % 8) % 8 - 8 * (f.bitlen / 8)) = start + i := by omega
          rw [decide_eq_true hin, decide_eq_true hi, hpos]
        · have hout : ¬ i - (8 - start % 8) % 8 - 8 * (f.bitlen / 8) < (start + f.bitlen) % 8 := by
            omega
          rw [decide_eq_false hout, decide_eq_false hi, Bool.false_and, Bool.false_and]

/-! ### Writing -/

theorem wordBit_set {buf : Bytes} {idx : Nat} (h : 3 ^^^ idx < buf.length) (b : UInt8) (k : Nat) :
    wordBit (buf.set (3 ^^^ idx) b) k =
      if k / 8 = idx then b.toNat.testBit (k % 8) else wordBit buf k := by
  by_cases hk : k / 8 = idx
  · rw [if_pos hk, wordBit, hk]
    simp only [byteAt, List.getD_eq_getElem?_getD, List.getElem?_set_self h, Option.getD_some]
  · have hne : 3 ^^^ idx ≠ 3 ^^^ (k / 8) := fun heq => hk (Nat.xor_right_inj.mp heq).symm
    rw [if_neg hk, wordBit, byteAt_set_of_ne hne, wordBit]

theorem testBit_merge (x : UInt8) (mask bits : Nat) {j : Nat} (hj : j < 8) :
    ((x &&& ~~~(UInt8.ofNat mask)) ||| UInt8.ofNat bits).toNat.testBit j =
      (x.toNat.testBit j && !mask.testBit j || bits.testBit j) := by
  have hnot : (~~~(UInt8.ofNat mask)).toNat.testBit j = !mask.testBit j := by
    rw [UInt8.toNat_not, UInt8.toNat_ofNat']
    have hlt : mask % 2 ^ 8 < 2 ^ 8 := Nat.mod_lt _ (by decide)
    have hsub := Nat.testBit_two_pow_sub_succ hlt j
    simp only [Nat.testBit_mod_two_pow, hj, decide_true, Bool.true_and] at hsub
    rw [← hsub]
    congr 1
    simp only [UInt8.size]
    omega
  rw [UInt8.toNat_or, UInt8.toNat_and, Nat.testBit_or, Nat.testBit_and, hnot, UInt8.toNat_ofNat',
    Nat.testBit_mod_two_pow, decide_eq_true hj, Bool.true_and]

theorem wordBit_mergeByte {buf : Bytes} {idx : Nat} (h : 3 ^^^ idx < buf.length)
    (mask bits k : Nat) :
    wordBit (mergeByte buf (3 ^^^ idx) mask bits) k =
      if k / 8 = idx then
        (wordBit buf k && !mask.testBit (k % 8) || bits.testBit (k % 8))
      else wordBit buf k := by
  rw [mergeByte, wordBit_set h, testBit_merge _ _ _ (Nat.mod_lt k (by decide))]
  by_cases hk : k / 8 = idx
  · rw [if_pos hk, if_pos hk, wordBit, hk]
  · rw [if_neg hk, if_neg hk]

@[simp] theorem mergeByte_length (buf : Bytes) (i mask bits : Nat) :
    (mergeByte buf i mask bits).length = buf.length := List.length_set

theorem wordBit_setFieldBytes (n : Nat) (buf : Bytes) (idx val k : Nat)
    (h : ∀ j < n, 3 ^^^ (idx + j) < buf.length) :
    wordBit (setFieldBytes n buf idx val).1 k =
      if 8 * idx ≤ k ∧ k < 8 * (idx + n) then val.testBit (k - 8 * idx) else wordBit buf k := by
  induction n generalizing buf idx val with
  | zero => rw [setFieldBytes, if_neg (by omega)]
  | succ n ih =>
      have hfirst : 3 ^^^ idx < buf.length := h 0 (Nat.succ_pos n)
      rw [setFieldBytes, ih]
      swap
      · intro j hj
        have hlen := h (j + 1) (by omega)
        rw [List.length_set]
        rwa [show idx + 1 + j = idx + (j + 1) by omega]
      rw [wordBit_set hfirst, UInt8.toNat_ofNat', Nat.testBit_shiftRight]
      by_cases hk : k / 8 = idx
      · have hpos : k - 8 * idx = k % 8 := by omega
        have hlow : (val % 256 % 2 ^ 8).testBit (k % 8) = val.testBit (k % 8) := by
          rw [show (256 : Nat) = 2 ^ 8 from rfl, Nat.mod_mod, Nat.testBit_mod_two_pow,
            decide_eq_true (Nat.mod_lt k (by decide)), Bool.true_and]
        rw [if_neg (by omega), if_pos hk, if_pos (by omega), hpos, hlow]
      · rw [if_neg hk]
        by_cases hin : 8 * (idx + 1) ≤ k ∧ k < 8 * (idx + 1 + n)
        · have hpos : 8 + (k - 8 * (idx + 1)) = k - 8 * idx := by omega
          rw [if_pos hin, if_pos (by omega), hpos]
        · rw [if_neg hin, if_neg (by omega)]

theorem setFieldBytes_rest (n : Nat) (buf : Bytes) (idx val : Nat) :
    (setFieldBytes n buf idx val).2 = (idx + n, val >>> (8 * n)) := by
  induction n generalizing buf idx val with
  | zero => rfl
  | succ n ih =>
      rw [setFieldBytes, ih, ← Nat.shiftRight_add]
      congr 1
      · omega
      · congr 1
        omega

theorem setField_of_inByte {f : IbField} (hbyte : f.InByte) (buf : Bytes) (baseOffs val : Nat) :
    setField buf baseOffs f val =
      mergeByte buf (3 ^^^ (f.start baseOffs / 8)) ((2 ^ f.bitlen - 1) <<< (f.start baseOffs % 8))
        ((val % 2 ^ f.bitlen) <<< (f.start baseOffs % 8)) := by
  have hcond : f.bitlen / 8 = 0 ∧ f.bitoffs % 8 + f.bitlen < 8 := hbyte
  have hidx : baseOffs + f.bitoffs / 8 = f.start baseOffs / 8 := by
    rw [IbField.start]; omega
  have hoffs : f.bitoffs % 8 = f.start baseOffs % 8 := by
    rw [IbField.start]; omega
  rw [setField, if_pos hcond, hidx, hoffs]

/-- The leading bits of a field, written under a mask. -/
def setLeading (buf : Bytes) (start val : Nat) : Bytes :=
  if (8 - start % 8) % 8 = 0 then buf
  else mergeByte buf (3 ^^^ (start / 8)) (256 - 2 ^ (8 - (8 - start % 8) % 8))
    ((val % 2 ^ ((8 - start % 8) % 8)) <<< (8 - (8 - start % 8) % 8))

/-- The trailing bits of a field, written with all that is left of the value. -/
def setTrailing (buf : Bytes) (stop val : Nat) : Bytes :=
  if stop % 8 = 0 then buf else mergeByte buf (3 ^^^ (stop / 8)) (2 ^ (stop % 8) - 1) val

theorem setField_of_pieces {f : IbField} (hbyte : ¬ f.InByte)
    (hsum : f.prebits + 8 * (f.bitlen / 8) + f.postbits = f.bitlen)
    (buf : Bytes) (baseOffs val : Nat) :
    setField buf baseOffs f val =
      setTrailing
        (setFieldBytes (f.bitlen / 8) (setLeading buf (f.start baseOffs) val)
          ((f.start baseOffs + f.prebits) / 8) (val >>> f.prebits)).1
        (f.start baseOffs + f.bitlen) (val >>> (f.prebits + 8 * (f.bitlen / 8))) := by
  have hcond : ¬ (f.bitlen / 8 = 0 ∧ f.bitoffs % 8 + f.bitlen < 8) := hbyte
  simp only [IbField.prebits, IbField.postbits] at hsum
  have hidx : baseOffs + f.bitoffs / 8 = f.start baseOffs / 8 := by
    rw [IbField.start]; omega
  have hpre : f.bitoffs % 8 = f.start baseOffs % 8 := by
    rw [IbField.start]; omega
  have hpost : (f.bitoffs + f.bitlen) % 8 = (f.start baseOffs + f.bitlen) % 8 := by
    rw [IbField.start]; omega
  rw [hpre, hpost] at hsum
  rw [setField, if_neg hcond, hidx, hpost, setTrailing, setLeading, IbField.prebits, hpre]
  generalize f.start baseOffs = start at *
  by_cases hlead : (8 - start % 8) % 8 = 0
  · have hwhole : (start + (8 - start % 8) % 8) / 8 = start / 8 := by omega
    have hlast : start / 8 + f.bitlen / 8 = (start + f.bitlen) / 8 := by omega
    rw [hwhole]
    simp only [hlead, if_true, setFieldBytes_rest, hlast, Nat.shiftRight_zero, Nat.zero_add]
  · have hwhole : (start + (8 - start % 8) % 8) / 8 = start / 8 + 1 := by omega
    have hlast : start / 8 + 1 + f.bitlen / 8 = (start + f.bitlen) / 8 := by omega
    rw [hwhole]
    simp only [hlead, if_false, setFieldBytes_rest, hlast, ← Nat.shiftRight_add]

/-- Behind the last bit that writing a field may change: the last byte takes the value unmasked. -/
def IbField.stop (f : IbField) (baseOffs : Nat) : Nat :=
  if f.InByte ∨ f.postbits = 0 then f.start baseOffs + f.bitlen
  else 8 * ((f.start baseOffs + f.bitlen) / 8) + 8

theorem wordBit_setLeading {buf : Bytes} {start : Nat} (val k : Nat)
    (h : (8 - start % 8) % 8 ≠ 0 → 3 ^^^ (start / 8) < buf.length) :
    wordBit (setLeading buf start val) k =
      if start ≤ k ∧ k < start + (8 - start % 8) % 8 then val.testBit (k - start)
      else wordBit buf k := by
  have hmask : ∀ m < 8, ∀ j < 8, (256 - 2 ^ m : Nat).testBit j = decide (m ≤ j) := by decide
  by_cases hpre : (8 - start % 8) % 8 = 0
  · rw [setLeading, if_pos hpre, if_neg (by omega)]
  · have hoffs : 8 - (8 - start % 8) % 8 = start % 8 := by omega
    rw [setLeading, if_neg hpre, hoffs, wordBit_mergeByte (h hpre),
      hmask _ (Nat.mod_lt start (by decide)) _ (Nat.mod_lt k (by decide)), Nat.testBit_shiftLeft,
      Nat.testBit_mod_two_pow]
    by_cases hk : k / 8 = start / 8
    · rw [if_pos hk]
      by_cases hin : start % 8 ≤ k % 8
      · have hpos : k % 8 - start % 8 = k - start := by omega
        have hlt : k - start < (8 - start % 8) % 8 := by omega
        rw [if_pos (by omega), decide_eq_true hin, hpos, decide_eq_true hlt]
        simp
      · rw [if_neg (by omega), decide_eq_false hin]
        simp
    · rw [if_neg hk, if_neg (by omega)]

theorem wordBit_setTrailing {buf : Bytes} {stop : Nat} (val k : Nat)
    (h : stop % 8 ≠ 0 → 3 ^^^ (stop / 8) < buf.length) :
    wordBit (setTrailing buf stop val) k =
      if stop % 8 ≠ 0 ∧ k / 8 = stop / 8 then
        (wordBit buf k && !decide (k < stop) || val.testBit (k % 8))
      else wordBit buf k := by
  by_cases hpost : stop % 8 = 0
  · rw [setTrailing, if_pos hpost, if_neg (by omega)]
  · rw [setTrailing, if_neg hpost, wordBit_mergeByte (h hpost), Nat.testBit_two_pow_sub_one]
    by_cases hk : k / 8 = stop / 8
    · have hiff : k % 8 < stop % 8 ↔ k < stop := by omega
      rw [if_pos hk, if_pos ⟨hpost, hk⟩, decide_eq_decide.mpr hiff]
    · rw [if_neg hk, if_neg fun hboth => hk hboth.2]

theorem setLeading_length (buf : Bytes) (start val : Nat) :
    (setLeading buf start val).length = buf.length := by
  rw [setLeading]
  split_ifs
  · rfl
  · exact mergeByte_length _ _ _ _

theorem wordBit_setField_of_inByte {f : IbField} (hbyte : f.InByte) (hpos : 0 < f.bitlen)
    {buf : Bytes} {baseOffs : Nat} (h : Holds buf baseOffs f) (val k : Nat) :
    wordBit (setField buf baseOffs f val) k =
      if f.start baseOffs ≤ k ∧ k < f.start baseOffs + f.bitlen
      then val.testBit (k - f.start baseOffs) else wordBit buf k := by
  have hshort : f.bitoffs % 8 + f.bitlen < 8 := hbyte.2
  have hstart : f.start baseOffs % 8 = f.bitoffs % 8 := by
    rw [IbField.start]; omega
  have hfirst : 3 ^^^ (f.start baseOffs / 8) < buf.length := h 0 hpos
  rw [setField_of_inByte hbyte, wordBit_mergeByte hfirst, Nat.testBit_shiftLeft,
    Nat.testBit_shiftLeft, Nat.testBit_mod_two_pow, Nat.testBit_two_pow_sub_one]
  by_cases hk : k / 8 = f.start baseOffs / 8
  · rw [if_pos hk]
    by_cases hin : f.start baseOffs ≤ k ∧ k < f.start baseOffs + f.bitlen
    · have hoffs : k % 8 - f.start baseOffs % 8 = k - f.start baseOffs := by omega
      have hge : k % 8 ≥ f.start baseOffs % 8 := by omega
      have hlt : k - f.start baseOffs < f.bitlen := by omega
      rw [if_pos hin, hoffs, decide_eq_true hge, decide_eq_true hlt]
      simp
    · rw [if_neg hin]
      by_cases hge : k % 8 ≥ f.start baseOffs % 8
      · have hlt : ¬ k % 8 - f.start baseOffs % 8 < f.bitlen := by omega
        simp [hlt]
      · simp [hge]
  · rw [if_neg hk, if_neg (by omega)]

theorem wordBit_setField_of_pieces {f : IbField} (hbyte : ¬ f.InByte)
    (hsum : f.prebits + 8 * (f.bitlen / 8) + f.postbits = f.bitlen)
    {buf : Bytes} {baseOffs : Nat} (h : Holds buf baseOffs f) (val k : Nat) :
    wordBit (setField buf baseOffs f val) k =
      if f.start baseOffs ≤ k ∧ k < f.start baseOffs + f.bitlen
      then val.testBit (k - f.start baseOffs)
      else if f.postbits ≠ 0 ∧ k / 8 = (f.start baseOffs + f.bitlen) / 8
      then (wordBit buf k || val.testBit (k - f.start baseOffs)) else wordBit buf k := by
  have hpre : f.prebits = (8 - f.start baseOffs % 8) % 8 := by
    rw [IbField.prebits, IbField.start]; omega
  have hpost : f.postbits = (f.start baseOffs + f.bitlen) % 8 := by
    rw [IbField.postbits, IbField.start]; omega
  simp only [Holds] at h
  rw [setField_of_pieces hbyte hsum, hpre]
  rw [hpre, hpost] at hsum
  rw [hpost]
  generalize f.start baseOffs = start at *
  -- the bytes of the three pieces hold bits of the field
  have hlead : (8 - start % 8) % 8 ≠ 0 → 3 ^^^ (start / 8) < buf.length :=
    fun _ => h 0 (by omega)
  have hwhole : ∀ j < f.bitlen / 8,
      3 ^^^ ((start + (8 - start % 8) % 8) / 8 + j) < (setLeading buf start val).length := by
    intro j hj
    have hin := h ((8 - start % 8) % 8 + 8 * j) (by omega)
    have hbyte : (start + ((8 - start % 8) % 8 + 8 * j)) / 8 =
        (start + (8 - start % 8) % 8) / 8 + j := by omega
    rw [setLeading_length, ← hbyte]
    exact hin
  have hlast : (start + f.bitlen) % 8 ≠ 0 →
      3 ^^^ ((start + f.bitlen) / 8) < (setFieldBytes (f.bitlen / 8) (setLeading buf start val)
        ((start + (8 - start % 8) % 8) / 8) (val >>> ((8 - start % 8) % 8))).1.length := by
    intro hne
    have hin := h (f.bitlen - 1) (by omega)
    have hbyte : (start + (f.bitlen - 1)) / 8 = (start + f.bitlen) / 8 := by omega
    rw [setFieldBytes_length, setLeading_length, ← hbyte]
    exact hin
  rw [wordBit_setTrailing _ _ hlast, wordBit_setFieldBytes _ _ _ _ _ hwhole,
    wordBit_setLeading _ _ hlead, Nat.testBit_shiftRight, Nat.testBit_shiftRight]
  by_cases htrail : (start + f.bitlen) % 8 ≠ 0 ∧ k / 8 = (start + f.bitlen) / 8
  · have hoffs : (8 - start % 8) % 8 + 8 * (f.bitlen / 8) + k % 8 = k - start := by omega
    rw [if_pos htrail, if_neg (by omega), if_neg (by omega), hoffs]
    by_cases hk : k < start + f.bitlen
    · rw [if_pos (by omega), decide_eq_true hk]
      simp
    · rw [if_neg (by omega), if_pos htrail, decide_eq_false hk]
      simp
  · rw [if_neg htrail]
    by_cases hmid : 8 * ((start + (8 - start % 8) % 8) / 8) ≤ k ∧
        k < 8 * ((start + (8 - start % 8) % 8) / 8 + f.bitlen / 8)
    · have hoffs : (8 - start % 8) % 8 + (k - 8 * ((start + (8 - start % 8) % 8) / 8)) =
          k - start := by omega
      rw [if_pos hmid, if_pos (by omega), hoffs]
    · rw [if_neg hmid]
      by_cases hfirst : start ≤ k ∧ k < start + (8 - start % 8) % 8
      · rw [if_pos hfirst, if_pos (by omega)]
      · rw [if_neg hfirst, if_neg (by omega), if_neg htrail]

/-- Writing a field sets its bits, and adds the bits of the value that come after them to the rest
of the last byte. -/
theorem wordBit_setField {f : IbField} (hf : f.Regular) {buf : Bytes} {baseOffs : Nat}
    (h : Holds buf baseOffs f) (val k : Nat) :
    wordBit (setField buf baseOffs f val) k =
      if f.start baseOffs ≤ k ∧ k < f.start baseOffs + f.bitlen
      then val.testBit (k - f.start baseOffs)
      else if f.start baseOffs + f.bitlen ≤ k ∧ k < f.stop baseOffs
      then (wordBit buf k || val.testBit (k - f.start baseOffs)) else wordBit buf k := by
  obtain ⟨⟨hpos, -⟩, hshape⟩ := hf
  by_cases hbyte : f.InByte
  · rw [wordBit_setField_of_inByte hbyte hpos h, IbField.stop, if_pos (Or.inl hbyte)]
    split_ifs <;> first | rfl | omega
  · have hsum := hshape.resolve_left hbyte
    rw [wordBit_setField_of_pieces hbyte hsum h, IbField.stop]
    have hpost : f.postbits = (f.start baseOffs + f.bitlen) % 8 := by
      rw [IbField.postbits, IbField.start]; omega
    by_cases hend : f.postbits = 0
    · rw [if_pos (Or.inr hend)]
      split_ifs <;> first | rfl | omega
    · rw [if_neg (not_or.mpr ⟨hbyte, hend⟩)]
      split_ifs <;> first | rfl | omega

end InfinibandDiags
