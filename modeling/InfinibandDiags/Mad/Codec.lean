import InfinibandDiags.Mad.Bits
import InfinibandDiags.Library.BitRow
import InfinibandDiags.Library.LittleEndian

/-! What the accessors of fields.c read and write, for every entry of `ib_mad_f`. -/
namespace InfinibandDiags

/-- `ib_mad_f + field`. -/
def tableField (field : Nat) : IbField := (ibMadTable.getD field reserved).field

theorem tableField_parts (field : Nat) :
    tableField field = ((reserved :: ibMadTableParts.flatten).getD field reserved).field := by
  rw [tableField, ibMadTable_parts]

/-- The source of a `memcpy`. -/
def bytesAt (mem : Bytes) (i n : Nat) : Bytes := (List.range n).map fun k => byteAt mem (i + k)

/-- `_get_array` for the byte-aligned fields of 32 bits and more. -/
def getArray (buf : Bytes) (baseOffs : Nat) (f : IbField) : Bytes :=
  bytesAt buf (baseOffs + f.bitoffs / 8) (f.bitlen / 8)

/-- An integer of the host, which keeps the lowest byte first. -/
def hostInt (mem : Bytes) (width : Nat) : Nat := LittleEndian.ofBytes (bytesAt mem 0 width)

/-- The object that `mad_decode_field` stores for a field. -/
def decodeField (buf : Bytes) (baseOffs : Nat) (f : IbField) : Bytes :=
  if f.bitlen ≤ 32 then LittleEndian.toBytes 4 (getField buf baseOffs f)
  else if f.bitlen = 64 then LittleEndian.toBytes 8 (getField64 buf baseOffs f).toNat
  else getArray buf baseOffs f

/-- The setter that `mad_encode_field` calls with the object behind `val`. -/
def encodeField (buf : Bytes) (baseOffs : Nat) (f : IbField) (val : Bytes) : Bytes :=
  if f.bitlen ≤ 32 then setField buf baseOffs f (hostInt val 4)
  else if f.bitlen = 64 then setField64 buf baseOffs f (UInt64.ofNat (hostInt val 8))
  else setArray buf baseOffs f (bytesAt val 0 (f.bitlen / 8))

/-- `mad_decode_field`: the memory behind `val` afterwards. Field 0 is copied as an `int`. -/
def madDecodeField (buf : Bytes) (field : Nat) (val : Bytes) : Bytes :=
  if field = 0 then copyInto val 0 (bytesAt buf 0 4)
  else copyInto val 0 (decodeField buf 0 (tableField field))

/-- `mad_encode_field`: the buffer afterwards. -/
def madEncodeField (buf : Bytes) (field : Nat) (val : Bytes) : Bytes :=
  if field = 0 then copyInto buf 0 (bytesAt val 0 4)
  else encodeField buf 0 (tableField field) val

theorem tableField_eq (field : Nat) : tableField field = ⟨0, 0⟩ ∨
    ∃ e ∈ ibMadTable, tableField field = e.field := by
  rw [tableField, List.getD_eq_getElem?_getD]
  cases h : ibMadTable[field]? with
  | none => exact Or.inl rfl
  | some e => exact Or.inr ⟨e, List.mem_of_getElem? h, rfl⟩

/-- The pieces of every entry of at most 32 bits make up the entry. -/
theorem ibMadTable_regular : ∀ e ∈ ibMadTable, 0 < e.field.bitlen → e.field.bitlen ≤ 32 →
    e.field.Regular := by
  rw [ibMadTable_parts]
  decide +kernel

theorem tableField_regular {field : Nat} (hpos : 0 < (tableField field).bitlen)
    (hlen : (tableField field).bitlen ≤ 32) : (tableField field).Regular := by
  rcases tableField_eq field with h | ⟨e, he, h⟩
  · rw [h] at hpos
    exact absurd hpos (Nat.lt_irrefl 0)
  · rw [h] at hpos hlen ⊢
    exact ibMadTable_regular e he hpos hlen

theorem ibMadF_mem_table (field : MadField) :
    ibMadF field ∈ ibMadTable.map FieldEntry.field := by
  rw [ibMadTable_parts]
  cases field <;> decide +kernel

/-! ### Reading back -/

theorem getField_setField {f : IbField} (hf : f.Regular) {buf : Bytes} {baseOffs : Nat}
    (h : Holds buf baseOffs f) (val : Nat) :
    getField (setField buf baseOffs f val) baseOffs f = val % 2 ^ f.bitlen := by
  apply Nat.eq_of_testBit_eq
  intro i
  rw [testBit_getField hf, wordBit_setField hf h, Nat.testBit_mod_two_pow]
  by_cases hi : i < f.bitlen
  · rw [if_pos (by omega), Nat.add_sub_cancel_left]
  · rw [decide_eq_false hi, Bool.false_and, Bool.false_and]

@[simp] theorem bytesAt_length (mem : Bytes) (i n : Nat) : (bytesAt mem i n).length = n := by
  rw [bytesAt, List.length_map, List.length_range]

theorem byteAt_bytesAt (mem : Bytes) (i : Nat) {k n : Nat} (hk : k < n) :
    byteAt (bytesAt mem i n) k = byteAt mem (i + k) := by
  simp [byteAt, bytesAt, hk]

theorem bytesAt_congr {mem mem' : Bytes} {i j n : Nat}
    (h : ∀ k < n, byteAt mem (i + k) = byteAt mem' (j + k)) : bytesAt mem i n = bytesAt mem' j n :=
  List.map_congr_left fun k hk => h k (List.mem_range.mp hk)

/-- All of a memory. -/
theorem bytesAt_length_self (bs : Bytes) : bytesAt bs 0 bs.length = bs := by
  apply List.ext_getElem
  · rw [bytesAt_length]
  · intro k hk hk'
    simp [bytesAt, byteAt, hk']

theorem bytesAt_copyInto {buf : Bytes} {i : Nat} (bs : Bytes) (h : i + bs.length ≤ buf.length) :
    bytesAt (copyInto buf i bs) i bs.length = bs := by
  have hcopy : bytesAt (copyInto buf i bs) i bs.length = bytesAt bs 0 bs.length :=
    bytesAt_congr fun k hk => by rw [byteAt_copyInto hk h, Nat.zero_add]
  rw [hcopy, bytesAt_length_self]

theorem hostInt_toBytes {val : Bytes} {width n : Nat} (hlen : width ≤ val.length)
    (hn : n < 256 ^ width) :
    hostInt (copyInto val 0 (LittleEndian.toBytes width n)) width = n := by
  have hroom : 0 + (LittleEndian.toBytes width n).length ≤ val.length := by
    rw [LittleEndian.length_toBytes, Nat.zero_add]
    exact hlen
  have hcopy := bytesAt_copyInto _ hroom
  rw [LittleEndian.length_toBytes] at hcopy
  rw [hostInt, hcopy, LittleEndian.ofBytes_toBytes hn]

theorem hostInt_lt (mem : Bytes) (width : Nat) : hostInt mem width < 256 ^ width := by
  have h := LittleEndian.ofBytes_lt (bytesAt mem 0 width)
  rwa [bytesAt_length] at h

theorem getField64_setField64 {buf : Bytes} {baseOffs : Nat} {f : IbField}
    (h : baseOffs + f.bitoffs / 8 + 8 ≤ buf.length) (val : UInt64) :
    getField64 (setField64 buf baseOffs f val) baseOffs f = val :=
  getField64_congr fun _ hk => byteAt_copyInto hk h

theorem getArray_setArray {buf : Bytes} {baseOffs : Nat} {f : IbField} {val : Bytes}
    (h : baseOffs + f.bitoffs / 8 + f.bitlen / 8 ≤ buf.length) (hval : val.length = f.bitlen / 8) :
    getArray (setArray buf baseOffs f val) baseOffs f = val := by
  rw [getArray, setArray, ← hval, List.take_length, bytesAt_copyInto val (by omega)]

/-- A field of `ib_mad_f` gives back what was written into it, through the accessors of its class
and through `mad_encode_field` and `mad_decode_field`. -/
structure RoundTrips (field : Nat) : Prop where
  num : (tableField field).bitlen ≤ 32 → ∀ buf baseOffs val,
    Holds buf baseOffs (tableField field) →
    getField (setField buf baseOffs (tableField field) val) baseOffs (tableField field) =
      val % 2 ^ (tableField field).bitlen
  num64 : (tableField field).bitlen = 64 → ∀ (buf : Bytes) baseOffs val,
    baseOffs + (tableField field).bitoffs / 8 + 8 ≤ buf.length →
    getField64 (setField64 buf baseOffs (tableField field) val) baseOffs (tableField field) = val
  array : 32 < (tableField field).bitlen → ∀ (buf : Bytes) baseOffs (val : Bytes),
    baseOffs + (tableField field).bitoffs / 8 + (tableField field).bitlen / 8 ≤ buf.length →
    val.length = (tableField field).bitlen / 8 →
    getArray (setArray buf baseOffs (tableField field) val) baseOffs (tableField field) = val
  codedNum : (tableField field).bitlen ≤ 32 → ∀ buf val (out : Bytes),
    Holds buf 0 (tableField field) → 4 ≤ out.length →
    hostInt (madDecodeField (madEncodeField buf field val) field out) 4 =
      hostInt val 4 % 2 ^ (tableField field).bitlen
  codedNum64 : (tableField field).bitlen = 64 → ∀ (buf val out : Bytes),
    (tableField field).bitoffs / 8 + 8 ≤ buf.length → 8 ≤ out.length →
    hostInt (madDecodeField (madEncodeField buf field val) field out) 8 = hostInt val 8
  codedArray : 32 < (tableField field).bitlen → (tableField field).bitlen ≠ 64 →
    ∀ (buf val out : Bytes),
    (tableField field).bitoffs / 8 + (tableField field).bitlen / 8 ≤ buf.length →
    (tableField field).bitlen / 8 ≤ out.length →
    bytesAt (madDecodeField (madEncodeField buf field val) field out) 0
      ((tableField field).bitlen / 8) = bytesAt val 0 ((tableField field).bitlen / 8)

theorem tableField_zero : tableField 0 = ⟨0, 0⟩ := by decide +kernel

theorem ne_zero_of_bitlen_pos {field : Nat} (h : 0 < (tableField field).bitlen) : field ≠ 0 := by
  intro hzero
  rw [hzero, tableField_zero] at h
  exact Nat.lt_irrefl 0 h

theorem madField_roundTrips {field : Nat} (hpos : 0 < (tableField field).bitlen) :
    RoundTrips field := by
  have hne := ne_zero_of_bitlen_pos hpos
  constructor
  case num =>
    intro hlen buf baseOffs val h
    exact getField_setField (tableField_regular hpos hlen) h val
  case num64 =>
    intro _ buf baseOffs val h
    exact getField64_setField64 h val
  case array =>
    intro _ buf baseOffs val h hval
    exact getArray_setArray h hval
  case codedNum =>
    intro hlen buf val out h hout
    have hmod : hostInt val 4 % 2 ^ (tableField field).bitlen < 256 ^ 4 :=
      Nat.lt_of_le_of_lt (Nat.mod_le _ _) (hostInt_lt val 4)
    rw [madDecodeField, madEncodeField, if_neg hne, if_neg hne, decodeField, encodeField,
      if_pos hlen, if_pos hlen,
      getField_setField (tableField_regular hpos hlen) h, hostInt_toBytes hout hmod]
  case codedNum64 =>
    intro hlen buf val out h hout
    have hlong : ¬ (tableField field).bitlen ≤ 32 := by omega
    have hval : hostInt val 8 < 2 ^ 64 := hostInt_lt val 8
    rw [madDecodeField, madEncodeField, if_neg hne, if_neg hne, decodeField, encodeField,
      if_neg hlong, if_neg hlong,
      if_pos hlen, if_pos hlen, getField64_setField64 (by omega), UInt64.toNat_ofNat',
      Nat.mod_eq_of_lt hval, hostInt_toBytes hout hval]
  case codedArray =>
    intro hlong h64 buf val out h hout
    have hlong' : ¬ (tableField field).bitlen ≤ 32 := by omega
    rw [madDecodeField, madEncodeField, if_neg hne, if_neg hne, decodeField, encodeField,
      if_neg hlong', if_neg hlong',
      if_neg h64, if_neg h64, getArray_setArray (by omega) (bytesAt_length _ _ _)]
    have hroom : 0 + (bytesAt val 0 ((tableField field).bitlen / 8)).length ≤ out.length := by
      rw [bytesAt_length, Nat.zero_add]
      exact hout
    have hcopy := bytesAt_copyInto _ hroom
    rwa [bytesAt_length] at hcopy

theorem madField_roundTrips_linkState :
    getField (setField (List.replicate 64 0) 0 (tableField 39) 20) 0 (tableField 39) = 4 :=
  (madField_roundTrips (by decide +kernel)).num (by decide +kernel) _ 0 20
    (show ∀ i < (tableField 39).bitlen, _ by decide +kernel)

/-! ### What a write leaves alone -/

/-- No bit outside the field has changed. -/
def OnlyField (buf buf' : Bytes) (baseOffs : Nat) (f : IbField) : Prop :=
  ∀ k, k < f.start baseOffs ∨ f.start baseOffs + f.bitlen ≤ k → wordBit buf' k = wordBit buf k

/-- The value has a bit behind the field's last one that falls into the field's last byte, on a bit
that the buffer does not have set. -/
def Spills (buf : Bytes) (baseOffs : Nat) (f : IbField) (val : Nat) : Prop :=
  ∃ k, f.start baseOffs + f.bitlen ≤ k ∧ k < f.stop baseOffs ∧
    val.testBit (k - f.start baseOffs) = true ∧ wordBit buf k = false

/-- Fields that fit inside a byte or end with one do not spill, and neither do values in range. -/
theorem not_spills {buf : Bytes} {baseOffs : Nat} {f : IbField} {val : Nat}
    (h : f.InByte ∨ f.postbits = 0 ∨ val < 2 ^ f.bitlen) : ¬ Spills buf baseOffs f val := by
  rintro ⟨k, hstop, hk, hbit, _⟩
  rcases h with hbyte | hpost | hval
  · rw [IbField.stop, if_pos (Or.inl hbyte)] at hk
    omega
  · rw [IbField.stop, if_pos (Or.inr hpost)] at hk
    omega
  · have hlow : val < 2 ^ (k - f.start baseOffs) :=
      Nat.lt_of_lt_of_le hval (Nat.pow_le_pow_right Nat.two_pos (by omega))
    rw [Nat.testBit_lt_two_pow hlow] at hbit
    exact Bool.false_ne_true hbit

theorem setField_onlyField {f : IbField} (hf : f.Regular) {buf : Bytes} {baseOffs : Nat}
    (h : Holds buf baseOffs f) (val : Nat) :
    OnlyField buf (setField buf baseOffs f val) baseOffs f ↔ ¬ Spills buf baseOffs f val := by
  constructor
  case mp =>
    intro honly ⟨k, hstop, hk, hbit, hclear⟩
    have hsame := honly k (Or.inr hstop)
    rw [wordBit_setField hf h, if_neg (by omega), if_pos ⟨hstop, hk⟩, hbit, hclear] at hsame
    exact Bool.false_ne_true hsame.symm
  case mpr =>
    intro hno k hk
    rw [wordBit_setField hf h, if_neg (by omega)]
    by_cases hrest : f.start baseOffs + f.bitlen ≤ k ∧ k < f.stop baseOffs
    · rw [if_pos hrest]
      cases hset : wordBit buf k with
      | true => rfl
      | false =>
          cases hbit : val.testBit (k - f.start baseOffs) with
          | false => rfl
          | true => exact absurd ⟨k, hrest.1, hrest.2, hbit, hset⟩ hno
    · rw [if_neg hrest]

/-- `mad_set_field` and `mad_encode_field` touch the field alone exactly as long as the value does
not spill. -/
theorem madField_onlyField {field : Nat} (hpos : 0 < (tableField field).bitlen)
    (hlen : (tableField field).bitlen ≤ 32) :
    (∀ buf baseOffs val, Holds buf baseOffs (tableField field) →
      (OnlyField buf (setField buf baseOffs (tableField field) val) baseOffs (tableField field) ↔
        ¬ Spills buf baseOffs (tableField field) val)) ∧
    ∀ buf val, Holds buf 0 (tableField field) →
      (OnlyField buf (madEncodeField buf field val) 0 (tableField field) ↔
        ¬ Spills buf 0 (tableField field) (hostInt val 4)) := by
  have hreg := tableField_regular hpos hlen
  constructor
  · intro buf baseOffs val h
    exact setField_onlyField hreg h val
  · intro buf val h
    rw [madEncodeField, if_neg (ne_zero_of_bitlen_pos hpos), encodeField, if_pos hlen]
    exact setField_onlyField hreg h _

/-- The entries that may spill. -/
example : (ibMadTable.filter fun e => 0 < e.field.bitlen ∧ e.field.bitlen ≤ 32 ∧
    ¬ (e.field.InByte ∨ e.field.postbits = 0)).map FieldEntry.name =
    ["DrSmpStatus", "NoticeCount", "McastMemFlowLbl", "RedirectFL", "TrapFL", "CounterMasks1to9",
      "CounterMasks10to14", "CCT_Multiplier"] := by
  rw [ibMadTable_parts]
  decide +kernel

theorem madField_onlyField_linkState :
    OnlyField (List.replicate 64 0) (setField (List.replicate 64 0) 0 (tableField 39) 20) 0
      (tableField 39) :=
  ((madField_onlyField (by decide +kernel) (by decide +kernel)).1 _ 0 20
    (show ∀ i < (tableField 39).bitlen, _ by decide +kernel)).mpr
    (not_spills (Or.inl (by decide +kernel)))

/-- A multiplier of 2 ^ 14 in a congestion control table entry sets bits of the entry's shift. -/
theorem cctMultiplier_spills :
    ¬ OnlyField (List.replicate 4 0) (setField (List.replicate 4 0) 0 (tableField 579) (2 ^ 14)) 0
      (tableField 579) ∧
    ¬ OnlyField (List.replicate 4 0)
      (madEncodeField (List.replicate 4 0) 579 (LittleEndian.toBytes 4 (2 ^ 14))) 0
      (tableField 579) := by
  have hfield : tableField 579 = bitsOffs 2 14 := by
    rw [tableField_parts]
    decide +kernel
  rw [madEncodeField, hfield]
  constructor
  · intro h
    have hshift := h 30 (by decide +kernel)
    revert hshift
    decide +kernel
  · intro h
    have hshift := h 30 (by decide +kernel)
    revert hshift
    decide +kernel

/-! ### Bit numbers of the specification -/

/-- Bit `k` of a buffer in network order: from the highest bit of its first byte on. -/
def netBit (buf : Bytes) (k : Nat) : Bool := (byteAt buf (k / 8)).toNat.testBit (7 - k % 8)

theorem xor_three (n : Nat) : 3 ^^^ n = 4 * (n / 4) + (3 - n % 4) := by
  have hlow : ∀ m < 4, 3 ^^^ m = 3 - m := by decide
  have hhigh := xor_three_word n
  have hmod : (3 ^^^ n) % 4 = 3 ^^^ (n % 4) := by
    have h := Nat.xor_mod_two_pow (a := 3) (b := n) (n := 2)
    simpa using h
  have hsub := hlow (n % 4) (Nat.mod_lt n (by decide))
  omega

/-- The accessors count the bits of a 32-bit word from its end. -/
theorem wordBit_eq_netBit (buf : Bytes) (k : Nat) :
    wordBit buf k = netBit buf (32 * (k / 32) + (31 - k % 32)) := by
  have hbyte : 3 ^^^ (k / 8) = (32 * (k / 32) + (31 - k % 32)) / 8 := by
    rw [xor_three]
    omega
  have hbit : k % 8 = 7 - (32 * (k / 32) + (31 - k % 32)) % 8 := by omega
  rw [wordBit, netBit, hbyte, ← hbit]

theorem number_byte (buf : Bytes) (i : Nat) :
    BitRow.number (netBit buf) (8 * i) 8 = (byteAt buf i).toNat := by
  symm
  apply BitRow.eq_number
  intro j
  by_cases hj : j < 8
  · have hdiv : (8 * i + (8 - 1 - j)) / 8 = i := by omega
    have hmod : 7 - (8 * i + (8 - 1 - j)) % 8 = j := by omega
    rw [decide_eq_true hj, Bool.true_and, netBit, hdiv, hmod]
  · rw [decide_eq_false hj, Bool.false_and, testBit_byte_of_le _ (by omega)]

/-- Bytes put together as digits, the first one highest. -/
theorem foldl_bytes (buf : Bytes) (i n : Nat) :
    (List.range n).foldl (fun acc k => acc * 256 + (byteAt buf (i + k)).toNat) 0 =
      BitRow.number (netBit buf) (8 * i) (8 * n) := by
  induction n with
  | zero => rfl
  | succ n ih =>
      have hpos : 8 * i + 8 * n = 8 * (i + n) := by omega
      rw [List.range_succ, List.foldl_append, ih, Nat.mul_succ, BitRow.number_add, hpos,
        number_byte]
      rfl

/-- A field inside a 32-bit word of the specification. -/
theorem getField_bitsOffs {o w : Nat} (hword : o % 32 + w ≤ 32) (hf : (bitsOffs o w).Regular)
    (buf : Bytes) {baseOffs : Nat} (hbase : 4 ∣ baseOffs) :
    getField buf baseOffs (bitsOffs o w) = BitRow.number (netBit buf) (8 * baseOffs + o) w := by
  have hpos : 0 < w := hf.1.1
  have hoffs : (bitsOffs o w).bitoffs = 32 * (o / 32) + (32 - o % 32 - w) := by
    have hlow : 32 - o % 32 - w < 2 ^ 5 := by omega
    have hor := Nat.shiftLeft_add_eq_or_of_lt hlow (o / 32)
    rw [Nat.shiftLeft_eq] at hor
    show o / 32 * 32 ||| (32 - o % 32 - w) = _
    rw [← hor]
    omega
  obtain ⟨words, rfl⟩ := hbase
  apply BitRow.eq_number
  intro i
  rw [testBit_getField hf]
  show (decide (i < w) && _) = _
  by_cases hi : i < w
  · rw [decide_eq_true hi, Bool.true_and, Bool.true_and, wordBit_eq_netBit, IbField.start, hoffs]
    congr 1
    omega
  · rw [decide_eq_false hi, Bool.false_and, Bool.false_and]

/-- A field written with `BITSOFFS` that stays inside a word of the specification. -/
def FieldOffs.inWord : FieldOffs → Bool
  | .bitsOffs o w => o % 32 + w ≤ 32
  | _ => true

theorem ibMadTable_inWord : ∀ e ∈ ibMadTable, e.offs.inWord := by
  rw [ibMadTable_parts]
  decide +kernel

/-- The long entries consist of whole bytes, and their offset is written as it is. -/
theorem ibMadTable_bytes : ∀ e ∈ ibMadTable, 32 < e.field.bitlen →
    e.field.bitoffs % 8 = 0 ∧ e.field.bitlen % 8 = 0 ∧
      e.offs = .plain e.field.bitoffs e.field.bitlen := by
  rw [ibMadTable_parts]
  decide +kernel

/-- The fields of `ib_mad_f` read the bits that the specification numbers. -/
theorem madField_networkOrder {e : FieldEntry} (he : e ∈ ibMadTable) (buf : Bytes)
    {baseOffs : Nat} (hbase : 4 ∣ baseOffs) :
    (∀ o w, e.offs = .bitsOffs o w → 1 ≤ w → w ≤ 32 →
      getField buf baseOffs e.field = BitRow.number (netBit buf) (8 * baseOffs + o) w) ∧
    (∀ o, e.offs = .plain o 64 →
      (getField64 buf baseOffs e.field).toNat =
        BitRow.number (netBit buf) (8 * baseOffs + o) 64) ∧
    ∀ o w, e.offs = .plain o w → 32 < w →
      w = 8 * (getArray buf baseOffs e.field).length ∧
      ∀ j < (getArray buf baseOffs e.field).length,
        (byteAt (getArray buf baseOffs e.field) j).toNat =
          BitRow.number (netBit buf) (8 * baseOffs + o + 8 * j) 8 := by
  refine ⟨?_, ?_, ?_⟩
  · intro o w hoffs hpos hlen
    have hfield : e.field = bitsOffs o w := congrArg FieldOffs.field hoffs
    have hreg := ibMadTable_regular e he
    have hword := ibMadTable_inWord e he
    rw [hfield] at hreg ⊢
    rw [hoffs] at hword
    exact getField_bitsOffs (of_decide_eq_true hword) (hreg hpos hlen) buf hbase
  · intro o hoffs
    have hfield : e.field = ⟨o, 64⟩ := congrArg FieldOffs.field hoffs
    have hbytes := ibMadTable_bytes e he
    rw [hfield] at hbytes
    have hwhole : o % 8 = 0 := (hbytes (show 32 < 64 by decide)).1
    have hpos : 8 * (baseOffs + o / 8) = 8 * baseOffs + o := by omega
    rw [hfield, getField64, foldl_bytes, hpos, UInt64.toNat_ofNat']
    exact Nat.mod_eq_of_lt (BitRow.number_lt _ _ _)
  · intro o w hoffs hlen
    have hfield : e.field = ⟨o, w⟩ := congrArg FieldOffs.field hoffs
    have hbytes := ibMadTable_bytes e he
    rw [hfield] at hbytes ⊢
    obtain ⟨hoff, hwhole, -⟩ := hbytes hlen
    have hlength : (getArray buf baseOffs ⟨o, w⟩).length = w / 8 := bytesAt_length _ _ _
    rw [hlength]
    constructor
    · dsimp only at hwhole
      omega
    · intro j hj
      have hpos : 8 * baseOffs + o + 8 * j = 8 * (baseOffs + o / 8 + j) := by
        dsimp only at hoff
        omega
      rw [hpos, number_byte, getArray, byteAt_bytesAt _ _ hj]

theorem madField_networkOrder_physState :
    getField (List.replicate 128 0x21) 64 (bitsOffs 264 4) =
      BitRow.number (netBit (List.replicate 128 0x21)) (8 * 64 + 264) 4 :=
  (madField_networkOrder (e := ⟨.bitsOffs 264 4, "PhysLinkState"⟩) (by decide +kernel) _
    (by decide)).1 264 4 rfl (by decide) (by decide)

end InfinibandDiags
