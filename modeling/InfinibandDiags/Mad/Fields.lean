import Mathlib.Data.Nat.Bitwise
import Mathlib.Tactic.SplitIfs

/-! Attribute buffers and the field accessors of libibmad (fields.c). -/
namespace InfinibandDiags

abbrev Bytes := List UInt8

def byteAt (buf : Bytes) (i : Nat) : UInt8 := buf.getD i 0

/-- `ib_field_t` without the name and the dump function. -/
structure IbField where
  bitoffs : Nat
  bitlen : Nat
  deriving DecidableEq, Repr

/-- `BITSOFFS(o, w)`: offsets inside a 32-bit word are counted from its other end. -/
def bitsOffs (o w : Nat) : IbField := ⟨o / 32 * 32 ||| (32 - o % 32 - w), w⟩

def beOffs (o w : Nat) : IbField := ⟨o, w⟩

inductive MadField
  | madMethod | madResponse | madClassver | madMgmtclass | madBasever
  | madStatus
  | drsmpHopcnt | drsmpHopptr | drsmpStatus | drsmpDirection
  | madTrid | madAttrid | madAttrmod | madMkey
  | drsmpDrdlid | drsmpDrslid | saCompmask
  | drsmpPath | drsmpRpath
  | portLid | portCapmask | portLocalPort | portState | portPhysState | portLmc
  | portLinkSpeedActive | portLinkSpeedExtActive
  | nodeType | nodeNports | nodeSystemGuid | nodeGuid | nodePortGuid
  | nodeDevid | nodeLocalPort | nodeVendorid
  | swLinearFdbCap | swMcastFdbCap | swLinearFdbTop | swEnhancedPort0
  | vend2Oui | ccCckey
  deriving DecidableEq, Repr

/-- The entries of `ib_mad_f` for the fields above. -/
def ibMadF : MadField → IbField
  | .madMethod => beOffs 0 7
  | .madResponse => beOffs 7 1
  | .madClassver => beOffs 8 8
  | .madMgmtclass => beOffs 16 8
  | .madBasever => beOffs 24 8
  | .madStatus => beOffs 48 16
  | .drsmpHopcnt => beOffs 32 8
  | .drsmpHopptr => beOffs 40 8
  | .drsmpStatus => beOffs 48 15
  | .drsmpDirection => beOffs 63 1
  | .madTrid => ⟨64, 64⟩
  | .madAttrid => beOffs 144 16
  | .madAttrmod => ⟨160, 32⟩
  | .madMkey => ⟨192, 64⟩
  | .drsmpDrdlid => beOffs 256 16
  | .drsmpDrslid => beOffs 272 16
  | .saCompmask => ⟨48 * 8, 64⟩
  | .drsmpPath => ⟨1024, 512⟩
  | .drsmpRpath => ⟨1536, 512⟩
  | .portLid => bitsOffs 128 16
  | .portCapmask => ⟨160, 32⟩
  | .portLocalPort => bitsOffs 224 8
  | .portState => bitsOffs 260 4
  | .portPhysState => bitsOffs 264 4
  | .portLmc => bitsOffs 277 3
  | .portLinkSpeedActive => bitsOffs 280 4
  | .portLinkSpeedExtActive => bitsOffs 496 4
  | .nodeType => bitsOffs 16 8
  | .nodeNports => bitsOffs 24 8
  | .nodeSystemGuid => ⟨32, 64⟩
  | .nodeGuid => ⟨96, 64⟩
  | .nodePortGuid => ⟨160, 64⟩
  | .nodeDevid => bitsOffs 240 16
  | .nodeLocalPort => bitsOffs 288 8
  | .nodeVendorid => bitsOffs 296 24
  | .swLinearFdbCap => bitsOffs 0 16
  | .swMcastFdbCap => bitsOffs 32 16
  | .swLinearFdbTop => bitsOffs 48 16
  | .swEnhancedPort0 => bitsOffs 132 1
  | .vend2Oui => beOffs (36 * 8) 24
  | .ccCckey => ⟨192, 64⟩

/-- The whole bytes of a field, the last one first: `for (idx += bytelen - 1; bytelen--; idx--)`. -/
def getFieldBytes (buf : Bytes) (idx : Nat) : Nat → Nat → Nat
  | 0, val => val
  | n + 1, val =>
      getFieldBytes buf idx n ((val <<< 8 ||| (byteAt buf (3 ^^^ (idx + n))).toNat) % 2 ^ 32)

/-- `_get_field`: bytes are addressed inside their 32-bit word from the least significant one. -/
def getField (buf : Bytes) (baseOffs : Nat) (f : IbField) : Nat :=
  let prebits := (8 - f.bitoffs % 8) % 8
  let postbits := (f.bitoffs + f.bitlen) % 8
  let bytelen := f.bitlen / 8
  let idx := baseOffs + f.bitoffs / 8
  if bytelen = 0 ∧ f.bitoffs % 8 + f.bitlen < 8 then
    (byteAt buf (3 ^^^ idx)).toNat >>> (f.bitoffs % 8) % 2 ^ f.bitlen
  else
    let v := if prebits = 0 then 0 else (byteAt buf (3 ^^^ idx)).toNat >>> (8 - prebits)
    let idx := if prebits = 0 then idx else idx + 1
    let last := baseOffs + (f.bitoffs + f.bitlen) / 8
    let val := if postbits = 0 then 0 else (byteAt buf (3 ^^^ last)).toNat % 2 ^ postbits
    (getFieldBytes buf idx bytelen val <<< prebits ||| v) % 2 ^ 32

/-- Whole bytes of a value, the least significant first. -/
def setFieldBytes : Nat → Bytes → Nat → Nat → Bytes × Nat × Nat
  | 0, buf, idx, val => (buf, idx, val)
  | n + 1, buf, idx, val =>
      setFieldBytes n (buf.set (3 ^^^ idx) (UInt8.ofNat (val % 256))) (idx + 1) (val >>> 8)

/-- Clears the masked bits of a byte and sets the given ones: `p[i] &= ~mask; p[i] |= bits`. -/
def mergeByte (buf : Bytes) (i : Nat) (mask bits : Nat) : Bytes :=
  buf.set i ((byteAt buf i &&& ~~~(UInt8.ofNat mask)) ||| UInt8.ofNat bits)

/-- `_set_field`. -/
def setField (buf : Bytes) (baseOffs : Nat) (f : IbField) (val : Nat) : Bytes :=
  let prebits := (8 - f.bitoffs % 8) % 8
  let postbits := (f.bitoffs + f.bitlen) % 8
  let bytelen := f.bitlen / 8
  let idx := baseOffs + f.bitoffs / 8
  if bytelen = 0 ∧ f.bitoffs % 8 + f.bitlen < 8 then
    mergeByte buf (3 ^^^ idx) ((2 ^ f.bitlen - 1) <<< (f.bitoffs % 8))
      ((val % 2 ^ f.bitlen) <<< (f.bitoffs % 8))
  else
    let (buf, idx, val) :=
      if prebits = 0 then (buf, idx, val)
      else (mergeByte buf (3 ^^^ idx) (256 - 2 ^ (8 - prebits))
        ((val % 2 ^ prebits) <<< (8 - prebits)), idx + 1, val >>> prebits)
    let (buf, idx, val) := setFieldBytes bytelen buf idx val
    if postbits = 0 then buf else mergeByte buf (3 ^^^ idx) (2 ^ postbits - 1) val

/-- `memcpy` into a buffer. -/
def copyInto : Bytes → Nat → List UInt8 → Bytes
  | buf, _, [] => buf
  | buf, i, b :: bs => copyInto (buf.set i b) (i + 1) bs

/-- The eight bytes of `htonll(val)`. -/
def bigEndian64 (val : UInt64) : List UInt8 :=
  [56, 48, 40, 32, 24, 16, 8, 0].map fun s => UInt8.ofNat (val.toNat >>> s)

/-- `_set_field64` and `_get_field64`: a big-endian copy at the byte the field starts in. -/
def setField64 (buf : Bytes) (baseOffs : Nat) (f : IbField) (val : UInt64) : Bytes :=
  copyInto buf (baseOffs + f.bitoffs / 8) (bigEndian64 val)

def getField64 (buf : Bytes) (baseOffs : Nat) (f : IbField) : UInt64 :=
  UInt64.ofNat ((List.range 8).foldl
    (fun acc i => acc * 256 + (byteAt buf (baseOffs + f.bitoffs / 8 + i)).toNat) 0)

/-- `_set_array` for the byte-aligned fields of 32 bits and more. -/
def setArray (buf : Bytes) (baseOffs : Nat) (f : IbField) (val : List UInt8) : Bytes :=
  copyInto buf (baseOffs + f.bitoffs / 8) (val.take (f.bitlen / 8))

def madGetField (buf : Bytes) (baseOffs : Nat) (field : MadField) : Nat :=
  getField buf baseOffs (ibMadF field)

def madSetField (buf : Bytes) (baseOffs : Nat) (field : MadField) (val : Nat) : Bytes :=
  setField buf baseOffs (ibMadF field) val

def madGetField64 (buf : Bytes) (baseOffs : Nat) (field : MadField) : UInt64 :=
  getField64 buf baseOffs (ibMadF field)

def madSetField64 (buf : Bytes) (baseOffs : Nat) (field : MadField) (val : UInt64) : Bytes :=
  setField64 buf baseOffs (ibMadF field) val

def madSetArray (buf : Bytes) (baseOffs : Nat) (field : MadField) (val : List UInt8) : Bytes :=
  setArray buf baseOffs (ibMadF field) val

theorem byteAt_set_of_ne {buf : Bytes} {i j : Nat} (h : i ≠ j) (b : UInt8) :
    byteAt (buf.set i b) j = byteAt buf j := by
  simp only [byteAt, List.getD_eq_getElem?_getD, List.getElem?_set_ne h]

@[simp] theorem setFieldBytes_length (n : Nat) (buf : Bytes) (idx val : Nat) :
    (setFieldBytes n buf idx val).1.length = buf.length := by
  induction n generalizing buf idx val with
  | zero => rfl
  | succ n ih => simp [setFieldBytes, ih]

@[simp] theorem setField_length (buf : Bytes) (baseOffs : Nat) (f : IbField) (val : Nat) :
    (setField buf baseOffs f val).length = buf.length := by
  unfold setField mergeByte
  dsimp only
  split_ifs <;> simp

@[simp] theorem copyInto_length (buf : Bytes) (i : Nat) (bs : List UInt8) :
    (copyInto buf i bs).length = buf.length := by
  induction bs generalizing buf i with
  | nil => rfl
  | cons b bs ih => simp [copyInto, ih]

/-- The byte order of fields stays inside 32-bit words. -/
theorem xor_three_word (k : Nat) : (3 ^^^ k) / 4 = k / 4 := by
  have h := Nat.xor_div_two_pow (a := 3) (b := k) (n := 2)
  simpa using h

theorem byteAt_setFieldBytes (n : Nat) (buf : Bytes) {idx j : Nat} (val : Nat)
    (h : j / 4 < idx / 4) :
    byteAt (setFieldBytes n buf idx val).1 j = byteAt buf j ∧
      idx ≤ (setFieldBytes n buf idx val).2.1 := by
  induction n generalizing buf idx val with
  | zero => exact ⟨rfl, Nat.le_refl _⟩
  | succ n ih =>
      have hne : 3 ^^^ idx ≠ j := by
        rintro rfl
        rw [xor_three_word] at h
        exact Nat.lt_irrefl _ h
      have hstep : j / 4 < (idx + 1) / 4 := by omega
      obtain ⟨hbyte, hidx⟩ := ih (buf.set (3 ^^^ idx) (UInt8.ofNat (val % 256))) (val >>> 8) hstep
      exact ⟨hbyte.trans (byteAt_set_of_ne hne _), Nat.le_of_succ_le hidx⟩

theorem byteAt_mergeByte {buf : Bytes} {idx mask bits j : Nat} (h : j / 4 < idx / 4) :
    byteAt (mergeByte buf (3 ^^^ idx) mask bits) j = byteAt buf j := by
  refine byteAt_set_of_ne ?_ _
  rintro rfl
  rw [xor_three_word] at h
  exact Nat.lt_irrefl _ h

/-- Setting a field leaves the words in front of it as they were. -/
theorem byteAt_setField {buf : Bytes} {baseOffs : Nat} {f : IbField} {val j : Nat}
    (h : j / 4 < (baseOffs + f.bitoffs / 8) / 4) :
    byteAt (setField buf baseOffs f val) j = byteAt buf j := by
  have h' : j / 4 < (baseOffs + f.bitoffs / 8 + 1) / 4 := by omega
  -- the whole bytes and the last partial byte come after a possible first partial byte
  have htail : ∀ (buf' : Bytes) (idx val' : Nat), j / 4 < idx / 4 →
      byteAt (let w := setFieldBytes (f.bitlen / 8) buf' idx val'
        if (f.bitoffs + f.bitlen) % 8 = 0 then w.1
        else mergeByte w.1 (3 ^^^ w.2.1) (2 ^ ((f.bitoffs + f.bitlen) % 8) - 1) w.2.2) j =
      byteAt buf' j := by
    intro buf' idx val' hidx
    obtain ⟨hbyte, hle⟩ := byteAt_setFieldBytes (f.bitlen / 8) buf' val' hidx
    dsimp only
    split
    · exact hbyte
    · exact (byteAt_mergeByte (by omega)).trans hbyte
  unfold setField
  by_cases hshort : f.bitlen / 8 = 0 ∧ f.bitoffs % 8 + f.bitlen < 8
  · rw [if_pos hshort]
    exact byteAt_mergeByte h
  · rw [if_neg hshort]
    by_cases hpre : (8 - f.bitoffs % 8) % 8 = 0
    · simp only [if_pos hpre]
      exact htail _ _ _ h
    · simp only [if_neg hpre]
      exact (htail _ _ _ h').trans (byteAt_mergeByte h)

theorem byteAt_copyInto_of_lt {buf : Bytes} {i j : Nat} (bs : List UInt8) (h : j < i) :
    byteAt (copyInto buf i bs) j = byteAt buf j := by
  induction bs generalizing buf i with
  | nil => rfl
  | cons b bs ih =>
      exact (ih (Nat.lt_succ_of_lt h)).trans (byteAt_set_of_ne (Nat.ne_of_gt h) b)

theorem byteAt_copyInto_of_ge {buf : Bytes} {i j : Nat} (bs : List UInt8) (h : i + bs.length ≤ j) :
    byteAt (copyInto buf i bs) j = byteAt buf j := by
  induction bs generalizing buf i with
  | nil => rfl
  | cons b bs ih =>
      rw [List.length_cons] at h
      exact (ih (by omega)).trans (byteAt_set_of_ne (by omega) b)

theorem byteAt_copyInto {buf : Bytes} {i k : Nat} {bs : List UInt8}
    (hk : k < bs.length) (hlen : i + bs.length ≤ buf.length) :
    byteAt (copyInto buf i bs) (i + k) = byteAt bs k := by
  induction bs generalizing buf i k with
  | nil => exact absurd hk (Nat.not_lt_zero k)
  | cons b bs ih =>
      simp only [List.length_cons] at hk hlen
      cases k with
      | zero =>
          simp only [copyInto, Nat.add_zero]
          rw [byteAt_copyInto_of_lt bs (Nat.lt_succ_self i)]
          have hi : i < buf.length := by omega
          simp [byteAt, hi]
      | succ k =>
          have hlen' : i + 1 + bs.length ≤ (buf.set i b).length := by
            rw [List.length_set]; omega
          have := ih (k := k) (by omega) hlen'
          rw [show i + 1 + k = i + (k + 1) by omega] at this
          exact this

/-- What is written with `_set_field64` is read back with `_get_field64`. -/
theorem getField64_congr {buf : Bytes} {baseOffs : Nat} {f : IbField} {val : UInt64}
    (h : ∀ k < 8, byteAt buf (baseOffs + f.bitoffs / 8 + k) = byteAt (bigEndian64 val) k) :
    getField64 buf baseOffs f = val := by
  have hv := val.toNat_lt
  have hsum : (List.range 8).foldl
      (fun acc i => acc * 256 + (byteAt buf (baseOffs + f.bitoffs / 8 + i)).toNat) 0 =
      val.toNat := by
    simp only [List.range, List.range.loop, List.foldl_cons, List.foldl_nil,
      h 0 (by decide), h 1 (by decide), h 2 (by decide), h 3 (by decide), h 4 (by decide),
      h 5 (by decide), h 6 (by decide), h 7 (by decide)]
    simp only [byteAt, bigEndian64, List.map_cons, List.getD_cons_zero, List.getD_cons_succ,
      UInt8.toNat_ofNat', Nat.shiftRight_eq_div_pow]
    omega
  rw [getField64, hsum, UInt64.ofNat_toNat]

end InfinibandDiags
