import InfinibandDiags.Library.Saturate
import InfinibandDiags.Mad.Layouts
import InfinibandDiags.Perf.Aggregate

/-! The emulated AllPortSelect adds up every counter, and its buffer has the sums. -/
namespace InfinibandDiags

/-- The greatest value of a field. -/
def fieldCap (i : Nat) : Nat := 2 ^ (tableField i).bitlen - 1

/-! ### The accumulators -/

theorem aggregateUpTo_toNat (cap dest val : UInt32) :
    (aggregateUpTo cap dest val).toNat = min cap.toNat (dest.toNat + val.toNat) := by
  have hcap := cap.toNat_lt
  have hdest := dest.toNat_lt
  have hval := val.toNat_lt
  unfold aggregateUpTo
  simp only [UInt32.lt_iff_toNat_lt, gt_iff_lt, UInt32.toNat_add]
  split
  · omega
  · rw [UInt32.toNat_add]
    omega

theorem aggregate32bit_toNat (dest val : UInt32) :
    (aggregate32bit dest val).toNat = min (2 ^ 32 - 1) (dest.toNat + val.toNat) := by
  have hdest := dest.toNat_lt
  have hval := val.toNat_lt
  unfold aggregate32bit
  simp only [UInt32.lt_iff_toNat_lt, UInt32.toNat_add]
  split
  · have hmax : (0xffffffff : UInt32).toNat = 2 ^ 32 - 1 := rfl
    omega
  · rw [UInt32.toNat_add]
    omega

theorem aggregate64bit_toNat (dest val : UInt64) :
    (aggregate64bit dest val).toNat = min (2 ^ 64 - 1) (dest.toNat + val.toNat) := by
  have hdest := dest.toNat_lt
  have hval := val.toNat_lt
  unfold aggregate64bit
  simp only [UInt64.lt_iff_toNat_lt, UInt64.toNat_add]
  split
  · have hmax : (0xffffffffffffffff : UInt64).toNat = 2 ^ 64 - 1 := rfl
    omega
  · rw [UInt64.toNat_add]
    omega

/-- A field that is decoded into 32 or into 64 bits, and that ends before the buffer. -/
structure Counted (i : Nat) : Prop where
  ne_zero : i ≠ 0
  placed : (tableField i).Placed
  size : (tableField i).bitlen ≤ 32 ∨ (tableField i).bitlen = 64
  stop : (tableField i).bitoffs + (tableField i).bitlen ≤ 8 * 1024

instance (i : Nat) : Decidable (Counted i) :=
  decidable_of_iff (i ≠ 0 ∧ (tableField i).Placed ∧
      ((tableField i).bitlen ≤ 32 ∨ (tableField i).bitlen = 64) ∧
      (tableField i).bitoffs + (tableField i).bitlen ≤ 8 * 1024)
    ⟨fun h => ⟨h.1, h.2.1, h.2.2.1, h.2.2.2⟩, fun h => ⟨h.1, h.2, h.3, h.4⟩⟩

theorem counted_iff (i : Nat) : Counted i ↔ i ≠ 0 ∧ (tableField i).Placed ∧
    ((tableField i).bitlen ≤ 32 ∨ (tableField i).bitlen = 64) ∧
    (tableField i).bitoffs + (tableField i).bitlen ≤ 8 * 1024 :=
  ⟨fun h => ⟨h.1, h.2, h.3, h.4⟩, fun h => ⟨h.1, h.2.1, h.2.2.1, h.2.2.2⟩⟩

section Counted
variable {i : Nat} {pc : PcBuffer}

theorem Counted.regular (h : Counted i) (hlen : (tableField i).bitlen ≤ 32) :
    (tableField i).Regular :=
  h.placed.resolve_right fun hlong => absurd hlong.1 (by omega)

theorem Counted.decodedUint_lt (h : Counted i) (buf : Bytes) :
    decodedUint buf i < 2 ^ (tableField i).bitlen := by
  rw [decodedUint]
  split
  · next hlen => exact getField_lt_width (h.regular hlen) buf 0
  · next hlong =>
      rw [h.size.resolve_left hlong]
      exact UInt64.toNat_lt _

theorem decode32_toNat (h : Counted i) (hlen : (tableField i).bitlen ≤ 32) (pc : PcBuffer) :
    (decode32 pc i).toNat = decodedUint pc.toList i := by
  rw [decode32, UInt32.toNat_ofNat_of_lt']
  exact (h.decodedUint_lt _).trans_le (Nat.pow_le_pow_right Nat.two_pos hlen)

theorem decode64_toNat (h : Counted i) (hlen : (tableField i).bitlen = 64) (pc : PcBuffer) :
    (decode64 pc i).toNat = decodedUint pc.toList i := by
  rw [decode64, UInt64.toNat_ofNat_of_lt']
  have hlt := h.decodedUint_lt pc.toList
  rwa [hlen] at hlt

/-- The counters of PortCounters with a width. -/
def countersOfWidth (width : Nat) : List Nat :=
  if width = 4 then [ibPcErrLocalInteg, ibPcErrExcessOvr]
  else if width = 8 then [ibPcLinkRecovers, ibPcLinkDowned, ibPcErrXmtconstr, ibPcErrRcvconstr]
  else if width = 16 then
    [ibPcErrSym, ibPcErrRcv, ibPcErrPhysrcv, ibPcErrSwitchRel, ibPcXmtDiscards, ibPcQp1Drop,
      ibPcVl15Dropped]
  else if width = 32 then List.range' ibPcXmtBytes 5
  else List.range' ibPcExtXmtBytes 8 ++ List.range' ibPcExtErrSym 14

theorem countersOfWidth_counted : ∀ width ∈ [4, 8, 16, 32, 64], ∀ i ∈ countersOfWidth width,
    Counted i ∧ (tableField i).bitlen = width := by
  simp only [counted_iff, tableField_parts]
  decide +kernel

variable {dest : UInt32}

theorem aggregate4bit_decode (hi : i ∈ countersOfWidth 4) :
    (aggregate4bit dest (decode32 pc i)).toNat =
      min (fieldCap i) (dest.toNat + decodedUint pc.toList i) := by
  obtain ⟨h, hlen⟩ := countersOfWidth_counted 4 (by decide) i hi
  rw [aggregate4bit, aggregateUpTo_toNat, decode32_toNat h (hlen.trans_le (by decide)), fieldCap,
    hlen]
  rfl

theorem aggregate8bit_decode (hi : i ∈ countersOfWidth 8) :
    (aggregate8bit dest (decode32 pc i)).toNat =
      min (fieldCap i) (dest.toNat + decodedUint pc.toList i) := by
  obtain ⟨h, hlen⟩ := countersOfWidth_counted 8 (by decide) i hi
  rw [aggregate8bit, aggregateUpTo_toNat, decode32_toNat h (hlen.trans_le (by decide)), fieldCap,
    hlen]
  rfl

theorem aggregate16bit_decode (hi : i ∈ countersOfWidth 16) :
    (aggregate16bit dest (decode32 pc i)).toNat =
      min (fieldCap i) (dest.toNat + decodedUint pc.toList i) := by
  obtain ⟨h, hlen⟩ := countersOfWidth_counted 16 (by decide) i hi
  rw [aggregate16bit, aggregateUpTo_toNat, decode32_toNat h (hlen.trans_le (by decide)), fieldCap,
    hlen]
  rfl

theorem aggregate32bit_decode (hi : i ∈ countersOfWidth 32) :
    (aggregate32bit dest (decode32 pc i)).toNat =
      min (fieldCap i) (dest.toNat + decodedUint pc.toList i) := by
  obtain ⟨h, hlen⟩ := countersOfWidth_counted 32 (by decide) i hi
  rw [aggregate32bit_toNat, decode32_toNat h (hlen.trans_le (by decide)), fieldCap, hlen]

theorem aggregate64bit_decode {dest : UInt64} (hi : i ∈ countersOfWidth 64) :
    (aggregate64bit dest (decode64 pc i)).toNat =
      min (fieldCap i) (dest.toNat + decodedUint pc.toList i) := by
  obtain ⟨h, hlen⟩ := countersOfWidth_counted 64 (by decide) i hi
  rw [aggregate64bit_toNat, decode64_toNat h hlen, fieldCap, hlen]

end Counted

/-- One call adds the counters of a sample to the accumulators. -/
def addSample (pc : PcBuffer) (e : Nat × Nat) : Nat × Nat :=
  (e.1, min (fieldCap e.1) (e.2 + decodedUint pc.toList e.1))

theorem aggregatePerfcounters_counters (c : PerfCount) (pc : PcBuffer) :
    (aggregatePerfcounters c pc).counters = c.counters.map (addSample pc) := by
  simp (disch := decide) only [PerfCount.counters, aggregatePerfcounters, addSample, List.map_cons,
    List.map_nil, aggregate4bit_decode, aggregate8bit_decode, aggregate16bit_decode,
    aggregate32bit_decode]

theorem aggregateErrors_errorCounters {caps : PmCaps} (haddl : caps.addlPortCtrsExt = true)
    (c : PerfCountExt) (pc : PcBuffer) :
    (aggregateErrors caps c pc).errorCounters = c.errorCounters.map (addSample pc) := by
  rw [aggregateErrors, if_pos haddl]
  simp (disch := decide) only [PerfCountExt.errorCounters, addSample, List.map_cons, List.map_nil,
    aggregate64bit_decode]

theorem aggregateUnicast_unicastCounters {caps : PmCaps} (hwidth : caps.extWidthSupported = true)
    (c : PerfCountExt) (pc : PcBuffer) :
    (aggregateUnicast caps c pc).unicastCounters = c.unicastCounters.map (addSample pc) := by
  rw [aggregateUnicast, if_pos hwidth]
  simp (disch := decide) only [PerfCountExt.unicastCounters, addSample, List.map_cons,
    List.map_nil, aggregate64bit_decode]

/-- The error counters are apart from the others. -/
theorem aggregateErrors_others (caps : PmCaps) (c : PerfCountExt) (pc : PcBuffer) :
    (aggregateErrors caps c pc).unicastCounters = c.unicastCounters ∧
      (aggregateErrors caps c pc).baseCounters = c.baseCounters := by
  unfold aggregateErrors
  split <;> simp only [PerfCountExt.unicastCounters, PerfCountExt.baseCounters, and_self]

theorem aggregateUnicast_others (caps : PmCaps) (c : PerfCountExt) (pc : PcBuffer) :
    (aggregateUnicast caps c pc).baseCounters = c.baseCounters ∧
      (aggregateUnicast caps c pc).errorCounters = c.errorCounters := by
  unfold aggregateUnicast
  split <;> simp only [PerfCountExt.errorCounters, PerfCountExt.baseCounters, and_self]

theorem aggregatePerfcountersExt_counters (caps : PmCaps) (c : PerfCountExt) (pc : PcBuffer) :
    (aggregatePerfcountersExt caps c pc).counters caps = (c.counters caps).map (addSample pc) := by
  simp only [PerfCountExt.counters, List.map_append]
  unfold aggregatePerfcountersExt
  congr 1
  · congr 1
    · rw [(aggregateErrors_others _ _ _).2, (aggregateUnicast_others _ _ _).1]
      simp (disch := decide) only [PerfCountExt.baseCounters, addSample, List.map_cons,
        List.map_nil, aggregate64bit_decode]
    · split
      · next hwidth =>
          rw [(aggregateErrors_others _ _ _).1, aggregateUnicast_unicastCounters hwidth]
          simp only [PerfCountExt.unicastCounters]
      · rfl
  · split
    · next haddl =>
        rw [aggregateErrors_errorCounters haddl, (aggregateUnicast_others _ _ _).2]
        simp only [PerfCountExt.errorCounters]
    · rfl

/-! ### The buffer -/

/-- Bytes of the object that a field is encoded from. -/
def objectWidth (i : Nat) : Nat := if (tableField i).bitlen ≤ 32 then 4 else 8

section Encode
variable {i j val : Nat} {buf : Bytes}

theorem hostInt_object {width : Nat} (h : val < 256 ^ width) :
    hostInt (LittleEndian.toBytes width val) width = val := by
  have hbytes := bytesAt_length_self (LittleEndian.toBytes width val)
  rw [LittleEndian.length_toBytes] at hbytes
  rw [hostInt, hbytes, LittleEndian.ofBytes_toBytes h]

/-- Encoding a value of a field is setting the field. -/
theorem madEncodeField_object (h : Counted i) (hval : val < 2 ^ (tableField i).bitlen)
    (buf : Bytes) :
    madEncodeField buf i (LittleEndian.toBytes (objectWidth i) val) =
      if (tableField i).bitlen ≤ 32 then setField buf 0 (tableField i) val
      else setField64 buf 0 (tableField i) (UInt64.ofNat val) := by
  rw [madEncodeField, if_neg h.ne_zero, encodeField, objectWidth]
  by_cases hlen : (tableField i).bitlen ≤ 32
  · have hfits : val < 256 ^ 4 := hval.trans_le (Nat.pow_le_pow_right Nat.two_pos hlen)
    simp only [if_pos hlen, hostInt_object hfits]
  · have h64 := h.size.resolve_left hlen
    have hfits : val < 256 ^ 8 := by rwa [h64] at hval
    simp only [if_neg hlen, if_pos h64, hostInt_object hfits]

theorem madEncodeField_length (h : Counted i) (hval : val < 2 ^ (tableField i).bitlen) :
    (madEncodeField buf i (LittleEndian.toBytes (objectWidth i) val)).length = buf.length := by
  rw [madEncodeField_object h hval]
  split
  · exact setField_length buf 0 _ val
  · exact copyInto_length buf _ _

theorem Counted.holdsWords (h : Counted i) (hbuf : buf.length = 1024) :
    HoldsWords buf 0 (tableField i) := by
  have hstop := h.stop
  rw [HoldsWords, hbuf]
  omega

theorem decodedUint_encode (h : Counted i) (hval : val < 2 ^ (tableField i).bitlen)
    (hbuf : buf.length = 1024) :
    decodedUint (madEncodeField buf i (LittleEndian.toBytes (objectWidth i) val)) i = val := by
  have hholds := h.holdsWords hbuf
  rw [madEncodeField_object h hval, decodedUint]
  split
  · next hlen =>
      rw [getField_setField (h.regular hlen) (hholds.holds (Nat.dvd_zero 4)), Nat.mod_eq_of_lt hval]
  · next hlong =>
      have h64 := h.size.resolve_left hlong
      rw [h64] at hval
      rw [HoldsWords, h64] at hholds
      rw [getField64_setField64 (by omega), UInt64.toNat_ofNat_of_lt' hval]

theorem encode_onlyField (h : Counted i) (hval : val < 2 ^ (tableField i).bitlen)
    (hbuf : buf.length = 1024) :
    OnlyField buf (madEncodeField buf i (LittleEndian.toBytes (objectWidth i) val)) 0
      (tableField i) := by
  have hholds := h.holdsWords hbuf
  rw [madEncodeField_object h hval]
  split
  · next hlen =>
      exact (setField_onlyField (h.regular hlen) (hholds.holds (Nat.dvd_zero 4)) val).mpr
        (not_spills (.inr (.inr hval)))
  · next hlong =>
      have h64 := h.size.resolve_left hlong
      have hoffs : (tableField i).bitoffs % 32 = 0 :=
        (h.placed.resolve_left fun hreg => hlong hreg.1.2).2.1
      intro k hk
      rw [IbField.start] at hk
      exact wordBit_copyInto (bigEndian64 (UInt64.ofNat val)) (n := 8) (by simp [bigEndian64])
        (by omega) (by decide) (by omega)

/-- What is decoded depends on the bits of the field alone. -/
theorem decodedUint_congr {buf' : Bytes} (h : Counted i)
    (hbits : ∀ k, (tableField i).start 0 ≤ k → k < (tableField i).start 0 + (tableField i).bitlen →
      wordBit buf' k = wordBit buf k) : decodedUint buf' i = decodedUint buf i := by
  rw [decodedUint, decodedUint]
  split
  · next hlen => exact getField_congr (h.regular hlen) hbits
  · next hlong =>
      obtain ⟨-, hoffs, hwords⟩ := h.placed.resolve_left fun hreg => hlong hreg.1.2
      have h64 := h.size.resolve_left hlong
      have hbyte : ∀ k < 8, byteAt buf' (0 + (tableField i).bitoffs / 8 + k) =
          byteAt buf (0 + (tableField i).bitoffs / 8 + k) :=
        fun k hk => byteAt_words hoffs hwords (by decide) hbits (by omega)
      rw [getField64_eq_bytes, getField64_eq_bytes, bytesAt_congr hbyte]

/-- What is encoded elsewhere leaves a field as it is. -/
theorem decodedUint_encode_of_apart (h : Counted i) (hval : val < 2 ^ (tableField i).bitlen)
    (hbuf : buf.length = 1024) (hj : Counted j) (hapart : (tableField j).Apart (tableField i)) :
    decodedUint (madEncodeField buf i (LittleEndian.toBytes (objectWidth i) val)) j =
      decodedUint buf j := by
  refine decodedUint_congr hj fun k hk hk' => encode_onlyField h hval hbuf k ?_
  simp only [IbField.start, IbField.Apart] at *
  omega

/-- A value of a field that is encoded, in the bytes of its object. -/
structure Encodes (w : Nat × Bytes) (val : Nat) : Prop where
  counted : Counted w.1
  object : w.2 = LittleEndian.toBytes (objectWidth w.1) val
  lt : val < 2 ^ (tableField w.1).bitlen

/-- The field of a later write lies elsewhere, or it is the same with the same value. -/
def KeepsValue (w w' : Nat × Bytes) : Prop :=
  (tableField w.1).Apart (tableField w'.1) ∨
    tableField w.1 = tableField w'.1 ∧ w.2 = w'.2

variable {ws : List (Nat × Bytes)} {w : Nat × Bytes}

theorem encodeAll_cons (buf : Bytes) (w : Nat × Bytes) (ws : List (Nat × Bytes)) :
    encodeAll buf (w :: ws) = encodeAll (madEncodeField buf w.1 w.2) ws := rfl

theorem decodedUint_encodeAll_of_keeps (hws : ∀ w' ∈ ws, ∃ val', Encodes w' val')
    (hbuf : buf.length = 1024) (hw : Encodes w val) (hkeeps : ∀ w' ∈ ws, KeepsValue w w')
    (hread : decodedUint buf w.1 = val) : decodedUint (encodeAll buf ws) w.1 = val := by
  induction ws generalizing buf with
  | nil => exact hread
  | cons w' ws ih =>
      obtain ⟨val', hw'⟩ := hws w' List.mem_cons_self
      have hlength : (madEncodeField buf w'.1 w'.2).length = 1024 := by
        rw [hw'.object, madEncodeField_length hw'.counted hw'.lt, hbuf]
      have hread' : decodedUint (madEncodeField buf w'.1 w'.2) w.1 = val := by
        rcases hkeeps w' List.mem_cons_self with hapart | ⟨hfield, hsame⟩
        · rw [hw'.object, decodedUint_encode_of_apart hw'.counted hw'.lt hbuf hw.counted hapart,
            hread]
        · have hobject : w'.2 = LittleEndian.toBytes (objectWidth w'.1) val := by
            rw [← hsame, hw.object, objectWidth, objectWidth, hfield]
          have hown := decodedUint_encode hw'.counted (hfield ▸ hw.lt) hbuf
          rw [← hobject] at hown
          rwa [decodedUint, hfield]
      rw [encodeAll_cons]
      exact ih (fun v hv => hws v (List.mem_cons_of_mem w' hv)) hlength
        (fun v hv => hkeeps v (List.mem_cons_of_mem w' hv)) hread'

/-- Every value is decoded from the buffer at the end. -/
theorem decodedUint_encodeAll (hws : ∀ w' ∈ ws, ∃ val', Encodes w' val') (hbuf : buf.length = 1024)
    (hkeeps : ws.Pairwise KeepsValue) (hmem : w ∈ ws) (hw : Encodes w val) :
    decodedUint (encodeAll buf ws) w.1 = val := by
  induction ws generalizing buf with
  | nil => cases hmem
  | cons w' ws ih =>
      obtain ⟨hhead, htail⟩ := List.pairwise_cons.mp hkeeps
      obtain ⟨val', hw'⟩ := hws w' List.mem_cons_self
      have hlength : (madEncodeField buf w'.1 w'.2).length = 1024 := by
        rw [hw'.object, madEncodeField_length hw'.counted hw'.lt, hbuf]
      have hrest : ∀ v ∈ ws, ∃ val', Encodes v val' :=
        fun v hv => hws v (List.mem_cons_of_mem w' hv)
      rw [encodeAll_cons]
      rcases List.mem_cons.mp hmem with rfl | hmem
      · have hread : decodedUint (madEncodeField buf w.1 w.2) w.1 = val := by
          rw [hw.object, decodedUint_encode hw.counted hw.lt hbuf]
        exact decodedUint_encodeAll_of_keeps hrest hlength hw hhead hread
      · exact ih hrest hlength htail hmem

/-- A field and its value, as `mad_encode_field` is given them. -/
def object (e : Nat × Nat) : Nat × Bytes :=
  (e.1, LittleEndian.toBytes (objectWidth e.1) e.2)

/-- The values fit into fields that lie apart, or that are the same and have the same value. -/
structure Encodable (es : List (Nat × Nat)) : Prop where
  counted : ∀ e ∈ es, Counted e.1
  lt : ∀ e ∈ es, e.2 < 2 ^ (tableField e.1).bitlen
  pairs : es.Pairwise fun e e' =>
    (tableField e.1).Apart (tableField e'.1) ∨ tableField e.1 = tableField e'.1 ∧ e.2 = e'.2

theorem Encodable.decodes {es : List (Nat × Nat)} (h : Encodable es) (hbuf : buf.length = 1024)
    {e : Nat × Nat} (he : e ∈ es) : decodedUint (encodeAll buf (es.map object)) e.1 = e.2 := by
  have hobject : ∀ e ∈ es, Encodes (object e) e.2 :=
    fun e he => ⟨h.counted e he, rfl, h.lt e he⟩
  have hkeeps : (es.map object).Pairwise KeepsValue := by
    refine List.pairwise_map.mpr (h.pairs.imp fun hpair => ?_)
    refine hpair.imp_right fun hsame => ⟨hsame.1, ?_⟩
    simp only [object, objectWidth, hsame.1, hsame.2]
  refine decodedUint_encodeAll (fun w hw => ?_) hbuf hkeeps (List.mem_map_of_mem he) (hobject e he)
  obtain ⟨e', he', rfl⟩ := List.mem_map.mp hw
  exact ⟨e'.2, hobject e' he'⟩

end Encode

/-! ### All samples -/

def aggregated (samples : List PcBuffer) : PerfCount := samples.foldl aggregatePerfcounters {}

def aggregatedExt (caps : PmCaps) (samples : List PcBuffer) : PerfCountExt :=
  samples.foldl (aggregatePerfcountersExt caps) {}

/-- The sum of a counter, up to the greatest value of its field. -/
def sumOf (samples : List PcBuffer) (i : Nat) : Nat :=
  min (fieldCap i) (samples.map fun pc => decodedUint pc.toList i).sum

section Samples
variable (samples : List PcBuffer) (caps : PmCaps)

theorem counters_zero : ∀ e ∈ ({} : PerfCount).counters, e.2 = 0 := by decide

theorem countersExt_zero : ∀ e ∈ ({} : PerfCountExt).counters caps, e.2 = 0 := by
  intro e he
  unfold PerfCountExt.counters at he
  split at he <;> split at he <;> revert e <;> decide

theorem counters_le : ∀ e ∈ ({} : PerfCount).counters, e.2 ≤ fieldCap e.1 :=
  fun e he => (counters_zero e he).trans_le (Nat.zero_le _)

theorem countersExt_le : ∀ e ∈ ({} : PerfCountExt).counters caps, e.2 ≤ fieldCap e.1 :=
  fun e he => (countersExt_zero caps e he).trans_le (Nat.zero_le _)

theorem aggregated_sums : ∀ e ∈ (aggregated samples).counters, e.2 = sumOf samples e.1 := by
  intro e he
  rw [aggregated, Saturate.table_foldl PerfCount.counters aggregatePerfcounters_counters
    counters_le] at he
  obtain ⟨e₀, he₀, rfl⟩ := List.mem_map.mp he
  rw [counters_zero e₀ he₀, Nat.zero_add]
  rfl

theorem aggregatedExt_sums :
    ∀ e ∈ (aggregatedExt caps samples).counters caps, e.2 = sumOf samples e.1 := by
  intro e he
  rw [aggregatedExt, Saturate.table_foldl (fun c => PerfCountExt.counters c caps)
    (aggregatePerfcountersExt_counters caps) (countersExt_le caps)] at he
  obtain ⟨e₀, he₀, rfl⟩ := List.mem_map.mp he
  rw [countersExt_zero caps e₀ he₀, Nat.zero_add]
  rfl

theorem sumOf_lt (i : Nat) : sumOf samples i < 2 ^ (tableField i).bitlen := by
  have hpos := Nat.two_pow_pos (tableField i).bitlen
  unfold sumOf fieldCap
  omega

theorem decode32_lt {i : Nat} (h : Counted i) (hlen : (tableField i).bitlen ≤ 32) (pc : PcBuffer) :
    (decode32 pc i).toNat < 2 ^ (tableField i).bitlen := by
  rw [decode32_toNat h hlen]
  exact h.decodedUint_lt _

/-- The fields that are encoded as 32-bit values. -/
theorem short_counted : ∀ i ∈ List.range' ibPcPortSelect 20 ++
      [ibPcQp1Drop, ibPcExtPortSelect, ibPcExtCounterSelect, ibPcExtCounterSelect2],
    Counted i ∧ (tableField i).bitlen ≤ 32 := by
  simp only [counted_iff, tableField_parts]
  decide +kernel

theorem select_lt {i : Nat} (hi : i ∈ List.range' ibPcPortSelect 20 ++
      [ibPcQp1Drop, ibPcExtPortSelect, ibPcExtCounterSelect, ibPcExtCounterSelect2])
    (pc : PcBuffer) : (decode32 pc i).toNat < 2 ^ (tableField i).bitlen :=
  decode32_lt (short_counted i hi).1 (short_counted i hi).2 pc

/-- The selects are those of a sample. -/
theorem aggregated_counterselect :
    (aggregated samples).counterselect.toNat < 2 ^ (tableField ibPcCounterSelect).bitlen := by
  have hselect := @select_lt ibPcCounterSelect (by decide)
  generalize (tableField ibPcCounterSelect).bitlen = width at hselect ⊢
  exact List.foldlRecOn samples aggregatePerfcounters (b := {})
    (motive := fun c => c.counterselect.toNat < 2 ^ width) (Nat.two_pow_pos _)
    fun _ _ pc _ => hselect pc

theorem aggregatedExt_counterselect : (aggregatedExt caps samples).counterselect.toNat <
    2 ^ (tableField ibPcExtCounterSelect).bitlen := by
  have hselect := @select_lt ibPcExtCounterSelect (by decide)
  generalize (tableField ibPcExtCounterSelect).bitlen = width at hselect ⊢
  refine List.foldlRecOn samples (aggregatePerfcountersExt caps) (b := {})
    (motive := fun c => c.counterselect.toNat < 2 ^ width) (Nat.two_pow_pos _) fun c _ pc _ => ?_
  have hpc := hselect pc
  unfold aggregatePerfcountersExt aggregateErrors aggregateUnicast
  split <;> split <;> exact hpc

theorem aggregatedExt_counterSelect2 : (aggregatedExt caps samples).counterSelect2.toNat <
    2 ^ (tableField ibPcExtCounterSelect2).bitlen := by
  have hselect := @select_lt ibPcExtCounterSelect2 (by decide)
  generalize (tableField ibPcExtCounterSelect2).bitlen = width at hselect ⊢
  refine List.foldlRecOn samples (aggregatePerfcountersExt caps) (b := {})
    (motive := fun c => c.counterSelect2.toNat < 2 ^ width) (Nat.two_pow_pos _) fun c hc pc _ => ?_
  have hpc := hselect pc
  unfold aggregatePerfcountersExt aggregateErrors aggregateUnicast
  split
  · split <;> exact hpc
  · split <;> exact hc

theorem objectWidth_short {i : Nat}
    (hi : i ∈ List.range' ibPcPortSelect 20 ++
      [ibPcQp1Drop, ibPcExtPortSelect, ibPcExtCounterSelect, ibPcExtCounterSelect2]) :
    objectWidth i = 4 :=
  if_pos (short_counted i hi).2

theorem objectWidth_long {i : Nat} (hi : i ∈ countersOfWidth 64) : objectWidth i = 8 := by
  have hlen := (countersOfWidth_counted 64 (by decide) i hi).2
  rw [objectWidth, if_neg (by omega)]

/-- The values that `output_aggregate_perfcounters` encodes. -/
def PerfCount.values (c : PerfCount) : List (Nat × Nat) :=
  (ibPcPortSelect, 255) :: (ibPcCounterSelect, c.counterselect.toNat) :: c.counters

theorem PerfCount.encoded_eq (c : PerfCount) : c.encoded = c.values.map object := by
  have hports : (255 : Nat) = allPorts.toNat := rfl
  simp (disch := decide) only [PerfCount.encoded, PerfCount.values, PerfCount.counters,
    List.map_cons, List.map_nil, object, object32, objectWidth_short, hports]

/-- The values that `output_aggregate_perfcounters_ext` encodes. -/
def PerfCountExt.values (c : PerfCountExt) : List (Nat × Nat) :=
  (ibPcExtPortSelect, 255) :: (ibPcExtCounterSelect, c.counterselect.toNat) :: c.baseCounters ++
    (if caps.extWidthSupported then c.unicastCounters else []) ++
    if caps.addlPortCtrsExt then
      (ibPcExtCounterSelect2, c.counterSelect2.toNat) :: c.errorCounters else []

theorem PerfCountExt.encoded_eq (c : PerfCountExt) :
    c.encoded caps = (c.values caps).map object := by
  have hports : (255 : Nat) = allPorts.toNat := rfl
  simp only [PerfCountExt.encoded, PerfCountExt.values, List.map_append]
  refine congrArg₂ _ (congrArg₂ _ ?_ ?_) ?_
  · simp (disch := decide) only [PerfCountExt.baseCounters, List.map_cons, List.map_nil, object,
      object32, object64, objectWidth_short, objectWidth_long, hports]
  · split
    · simp (disch := decide) only [PerfCountExt.unicastCounters, List.map_cons, List.map_nil,
        object, object64, objectWidth_long]
    · rfl
  · split
    · simp (disch := decide) only [PerfCountExt.errorCounters, List.map_cons, List.map_nil, object,
        object32, object64, objectWidth_short, objectWidth_long]
    · rfl

theorem sumOf_congr {i j : Nat} (h : tableField i = tableField j) :
    sumOf samples i = sumOf samples j := by
  simp only [sumOf, fieldCap, decodedUint, h]

/-- The fields that `output_aggregate_perfcounters` encodes. The two of dropped packets are the
same bits. -/
theorem values_fields : (∀ i ∈ ({} : PerfCount).values.map Prod.fst, Counted i) ∧
    (({} : PerfCount).values.map Prod.fst).Pairwise fun i j =>
      (tableField i).Apart (tableField j) ∨ i = ibPcQp1Drop ∧ j = ibPcVl15Dropped := by
  simp only [counted_iff, tableField_parts]
  decide +kernel

theorem portSelect_fields : (tableField ibPcPortSelect).bitlen = 8 ∧
    (tableField ibPcExtPortSelect).bitlen = 8 ∧
    tableField ibPcQp1Drop = tableField ibPcVl15Dropped := by
  simp only [tableField_parts]
  decide +kernel

theorem encodable_aggregated : Encodable (aggregated samples).values := by
  have hsums := aggregated_sums samples
  have hfst : (aggregated samples).values.map Prod.fst = ({} : PerfCount).values.map Prod.fst := rfl
  have hmem : ∀ e ∈ (aggregated samples).values, e.1 ∈ ({} : PerfCount).values.map Prod.fst :=
    fun e he => hfst ▸ List.mem_map_of_mem he
  have hdropped : ∀ e ∈ (aggregated samples).values,
      e.1 = ibPcQp1Drop ∨ e.1 = ibPcVl15Dropped → e.2 = sumOf samples ibPcVl15Dropped := by
    intro e he hfield
    have hsame : sumOf samples e.1 = sumOf samples ibPcVl15Dropped := by
      rcases hfield with hfield | hfield <;> rw [hfield]
      exact sumOf_congr samples portSelect_fields.2.2
    rcases List.mem_cons.mp he with rfl | he
    · exact absurd hfield (by decide)
    · rcases List.mem_cons.mp he with rfl | he
      · have hne : ¬ (ibPcCounterSelect = ibPcQp1Drop ∨ ibPcCounterSelect = ibPcVl15Dropped) := by
          decide
        exact absurd hfield hne
      · rw [hsums e he, hsame]
  constructor
  case counted => exact fun e he => values_fields.1 e.1 (hmem e he)
  case lt =>
    intro e he
    rcases List.mem_cons.mp he with rfl | he
    · rw [portSelect_fields.1]
      decide
    · rcases List.mem_cons.mp he with rfl | he
      · exact aggregated_counterselect samples
      · rw [hsums e he]
        exact sumOf_lt samples e.1
  case pairs =>
    have hapart := values_fields.2
    rw [← hfst] at hapart
    refine (List.pairwise_map.mp hapart).imp_of_mem ?_
    intro e e' he he' hpair
    refine hpair.imp_right fun hboth => ?_
    refine ⟨?_, (hdropped e he (.inl hboth.1)).trans (hdropped e' he' (.inr hboth.2)).symm⟩
    rw [hboth.1, hboth.2]
    exact portSelect_fields.2.2

/-- All fields that `output_aggregate_perfcounters_ext` may encode. -/
def extFields : List Nat :=
  ibPcExtPortSelect :: ibPcExtCounterSelect :: ({} : PerfCountExt).baseCounters.map Prod.fst ++
    ({} : PerfCountExt).unicastCounters.map Prod.fst ++
    (ibPcExtCounterSelect2 :: ({} : PerfCountExt).errorCounters.map Prod.fst)

theorem extFields_counted : (∀ i ∈ extFields, Counted i) ∧
    extFields.Pairwise fun i j => (tableField i).Apart (tableField j) := by
  simp only [counted_iff, tableField_parts]
  decide +kernel

theorem values_sublist (c : PerfCountExt) :
    ((c.values caps).map Prod.fst).Sublist extFields := by
  simp only [PerfCountExt.values, List.map_append]
  refine List.Sublist.append (List.Sublist.append (List.Sublist.refl _) ?_) ?_
  · split
    · exact List.Sublist.refl _
    · exact List.nil_sublist _
  · split
    · exact List.Sublist.refl _
    · exact List.nil_sublist _

theorem counters_mem_values {c : PerfCountExt} {e : Nat × Nat} (he : e ∈ c.counters caps) :
    e ∈ c.values caps := by
  rcases List.mem_append.mp he with he | he
  · refine List.mem_append_left _ ?_
    rcases List.mem_append.mp he with he | he
    · exact List.mem_append_left _ (List.mem_cons_of_mem _ (List.mem_cons_of_mem _ he))
    · exact List.mem_append_right _ he
  · refine List.mem_append_right _ ?_
    split at he
    · next haddl =>
        rw [if_pos haddl]
        exact List.mem_cons_of_mem _ he
    · cases he

/-- What is encoded besides the selects are the counters. -/
theorem mem_values {c : PerfCountExt} {e : Nat × Nat} (he : e ∈ c.values caps) :
    e = (ibPcExtPortSelect, 255) ∨ e = (ibPcExtCounterSelect, c.counterselect.toNat) ∨
      e = (ibPcExtCounterSelect2, c.counterSelect2.toNat) ∨ e ∈ c.counters caps := by
  have hcounter : e ∈ c.counters caps ↔ (e ∈ c.baseCounters ∨
      e ∈ if caps.extWidthSupported then c.unicastCounters else []) ∨
        e ∈ if caps.addlPortCtrsExt then c.errorCounters else [] := by
    rw [PerfCountExt.counters, List.mem_append, List.mem_append]
  rw [hcounter]
  rcases List.mem_append.mp he with he | he
  · rcases List.mem_append.mp he with he | he
    · rcases List.mem_cons.mp he with rfl | he
      · exact .inl rfl
      · rcases List.mem_cons.mp he with rfl | he
        · exact .inr (.inl rfl)
        · exact .inr (.inr (.inr (.inl (.inl he))))
    · exact .inr (.inr (.inr (.inl (.inr he))))
  · split at he
    · next haddl =>
        rcases List.mem_cons.mp he with rfl | he
        · exact .inr (.inr (.inl rfl))
        · rw [if_pos haddl]
          exact .inr (.inr (.inr (.inr he)))
    · cases he

theorem encodable_aggregatedExt : Encodable ((aggregatedExt caps samples).values caps) := by
  have hsub := values_sublist caps (aggregatedExt caps samples)
  constructor
  case counted => exact fun e he => extFields_counted.1 e.1 (hsub.subset (List.mem_map_of_mem he))
  case lt =>
    intro e he
    rcases mem_values caps he with rfl | rfl | rfl | he
    · rw [portSelect_fields.2.1]
      decide
    · exact aggregatedExt_counterselect samples caps
    · exact aggregatedExt_counterSelect2 samples caps
    · rw [aggregatedExt_sums samples caps e he]
      exact sumOf_lt samples e.1
  case pairs => exact (List.pairwise_map.mp (extFields_counted.2.sublist hsub)).imp .inl

end Samples

/-- The accumulators have the sums of the counters, each up to the greatest value of its field, and
the buffer has them too, as AllPortSelect would bring them. -/
structure Emulates (samples : List PcBuffer) (counters : List (Nat × Nat)) (buf : Bytes)
    (select : Nat) : Prop where
  sums : ∀ e ∈ counters, e.2 = min (2 ^ (tableField e.1).bitlen - 1)
    (samples.map fun pc => decodedUint pc.toList e.1).sum
  decodes : ∀ e ∈ counters, decodedUint buf e.1 = e.2
  portSelect : decodedUint buf select = 255

theorem emulates_aggregated (samples : List PcBuffer) (pc : PcBuffer) :
    Emulates samples (aggregated samples).counters
      (outputAggregatePerfcounters (aggregated samples) pc) ibPcPortSelect := by
  have hdecodes : ∀ e ∈ (aggregated samples).values,
      decodedUint (outputAggregatePerfcounters (aggregated samples) pc) e.1 = e.2 := by
    intro e he
    rw [outputAggregatePerfcounters, PerfCount.encoded_eq]
    exact (encodable_aggregated samples).decodes pc.length_toList he
  constructor
  case sums =>
    intro e he
    rw [aggregated_sums samples e he, sumOf, fieldCap]
  case decodes =>
    exact fun e he => hdecodes e (List.mem_cons_of_mem _ (List.mem_cons_of_mem _ he))
  case portSelect =>
    have hselect := hdecodes (ibPcPortSelect, 255) List.mem_cons_self
    dsimp only at hselect
    exact hselect

theorem emulates_aggregatedExt (samples : List PcBuffer) (caps : PmCaps) (pc : PcBuffer) :
    Emulates samples ((aggregatedExt caps samples).counters caps)
      (outputAggregatePerfcountersExt caps (aggregatedExt caps samples) pc) ibPcExtPortSelect := by
  have hdecodes : ∀ e ∈ (aggregatedExt caps samples).values caps,
      decodedUint (outputAggregatePerfcountersExt caps (aggregatedExt caps samples) pc) e.1 =
        e.2 := by
    intro e he
    rw [outputAggregatePerfcountersExt, PerfCountExt.encoded_eq]
    exact (encodable_aggregatedExt samples caps).decodes pc.length_toList he
  have hselect : (ibPcExtPortSelect, 255) ∈ (aggregatedExt caps samples).values caps :=
    List.mem_append_left _ (List.mem_append_left _ List.mem_cons_self)
  constructor
  case sums =>
    intro e he
    rw [aggregatedExt_sums samples caps e he, sumOf, fieldCap]
  case decodes => exact fun e he => hdecodes e (counters_mem_values caps he)
  case portSelect =>
    have hport := hdecodes _ hselect
    dsimp only at hport
    exact hport

/-- perfquery's emulation of AllPortSelect, for PortCounters and for PortCountersExtended, in
whatever order the ports answer. -/
theorem aggregate_emulates {samples samples' : List PcBuffer} (hperm : samples.Perm samples')
    (caps : PmCaps) (pc : PcBuffer) :
    Emulates samples (aggregated samples).counters
        (outputAggregatePerfcounters (aggregated samples) pc) ibPcPortSelect ∧
      (aggregated samples').counters = (aggregated samples).counters ∧
      Emulates samples ((aggregatedExt caps samples).counters caps)
        (outputAggregatePerfcountersExt caps (aggregatedExt caps samples) pc) ibPcExtPortSelect ∧
      (aggregatedExt caps samples').counters caps = (aggregatedExt caps samples).counters caps :=
  ⟨emulates_aggregated samples pc,
    Saturate.table_foldl_perm PerfCount.counters aggregatePerfcounters_counters counters_le
      hperm.symm,
    emulates_aggregatedExt samples caps pc,
    Saturate.table_foldl_perm (fun c => PerfCountExt.counters c caps)
      (aggregatePerfcountersExt_counters caps) (countersExt_le caps) hperm.symm⟩

/-- Two ports with symbol errors, of which the second has more than fit into the sum. -/
def symbolErrorSamples : List PcBuffer :=
  [(Vector.replicate 1024 0).set 5 5, (Vector.replicate 1024 0).set 4 0xff]

theorem aggregate_emulates_symbolErrors :
    Emulates symbolErrorSamples (aggregated symbolErrorSamples).counters
        (outputAggregatePerfcounters (aggregated symbolErrorSamples) (.replicate 1024 0))
        ibPcPortSelect ∧
      (aggregated symbolErrorSamples.reverse).counters = (aggregated symbolErrorSamples).counters ∧
      Emulates symbolErrorSamples ((aggregatedExt ⟨0x200, 2⟩ symbolErrorSamples).counters ⟨0x200, 2⟩)
        (outputAggregatePerfcountersExt ⟨0x200, 2⟩ (aggregatedExt ⟨0x200, 2⟩ symbolErrorSamples)
          (.replicate 1024 0)) ibPcExtPortSelect ∧
      (aggregatedExt ⟨0x200, 2⟩ symbolErrorSamples.reverse).counters ⟨0x200, 2⟩ =
        (aggregatedExt ⟨0x200, 2⟩ symbolErrorSamples).counters ⟨0x200, 2⟩ :=
  aggregate_emulates (List.reverse_perm symbolErrorSamples).symm ⟨0x200, 2⟩ (.replicate 1024 0)

end InfinibandDiags
