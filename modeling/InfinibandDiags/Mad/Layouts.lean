import InfinibandDiags.Mad.Codec

/-! The record layouts that the `mad_dump_*` routines of dump.c print, as the ranges of fields they
pass to `_dump_fields`, and which of their fields share bits. -/
namespace InfinibandDiags

def madDumpNodeinfo : List FieldEntry := nodeInfoFields

def madDumpPortinfo : List FieldEntry :=
  portInfoFieldsToSpeed ++ portStateFields ++ portInfoFieldsFromDownDef ++ morePortInfoFields

def madDumpPortstates : List FieldEntry := portStateFields

def madDumpSwitchinfo : List FieldEntry := switchInfoFields

def madDumpPerfcounters : List FieldEntry :=
  portCountersFieldsToOverrun ++ [qp1Dropped, vl15Dropped] ++ portCountersFieldsFromXmitData

def madDumpPerfcountersExt : List FieldEntry := pcExtSelectFields ++ pcExtFields ++ morePcExtFields

def madDumpPerfcountersXmtSl : List FieldEntry := pcExtSelectFields ++ xmtDataSlFields

def madDumpPerfcountersRcvSl : List FieldEntry := pcExtSelectFields ++ rcvDataSlFields

def madDumpPerfcountersXmtDisc : List FieldEntry := pcExtSelectFields ++ xmtDiscFields

def madDumpPerfcountersRcvErr : List FieldEntry := pcExtSelectFields ++ rcvErrFields

def madDumpPortsamplesControl : List FieldEntry := portSamplesControlFields

def madDumpPortsamplesResult : List FieldEntry := portSamplesResultFields

def madDumpPortExtSpeedsCountersRsfecActive : List FieldEntry := rsfecFields

def madDumpPortExtSpeedsCounters : List FieldEntry := extSpeedsFields

def madDumpPerfcountersPortOpRcvCounters : List FieldEntry := pcExtSelectFields ++ opRcvFields

def madDumpPerfcountersPortFlowCtlCounters : List FieldEntry := pcExtSelectFields ++ flowCtlFields

def madDumpPerfcountersPortVlOpPacket : List FieldEntry := pcExtSelectFields ++ vlOpPacketsFields

def madDumpPerfcountersPortVlOpData : List FieldEntry := pcExtSelectFields ++ vlOpDataFields

def madDumpPerfcountersPortVlXmitFlowCtlUpdateErrors : List FieldEntry :=
  pcExtSelectFields ++ vlFlowCtlErrorFields

def madDumpPerfcountersPortVlXmitWaitCounters : List FieldEntry :=
  pcExtSelectFields ++ vlXmitWaitFields

def madDumpPerfcountersSwPortVlCongestion : List FieldEntry :=
  pcExtSelectFields ++ swVlCongestionFields

def madDumpPerfcountersRcvConCtrl : List FieldEntry := pcExtSelectFields ++ rcvConCtrlFields

def madDumpPerfcountersSlRcvFecn : List FieldEntry := pcExtSelectFields ++ slRcvFecnFields

def madDumpPerfcountersSlRcvBecn : List FieldEntry := pcExtSelectFields ++ slRcvBecnFields

def madDumpPerfcountersXmitConCtrl : List FieldEntry := pcExtSelectFields ++ xmitConCtrlFields

def madDumpPerfcountersVlXmitTimeCong : List FieldEntry := pcExtSelectFields ++ vlXmitTimeCongFields

def madDumpMlnxExtPortInfo : List FieldEntry := mlnxExtPortFields

def madDumpCcCongestioninfo : List FieldEntry := ccInfoFields

def madDumpCcCongestionkeyinfo : List FieldEntry := ccKeyInfoFields

def madDumpCcCongestionlog : List FieldEntry := ccLogFields

def madDumpCcCongestionlogswitch : List FieldEntry := ccLogSwitchFields

def madDumpCcCongestionlogentryswitch : List FieldEntry := ccLogEntrySwitchFields

def madDumpCcCongestionlogca : List FieldEntry := ccLogCaFields

def madDumpCcCongestionlogentryca : List FieldEntry := ccLogEntryCaFields

def madDumpCcSwitchcongestionsetting : List FieldEntry := ccSwitchSettingFields

def madDumpCcSwitchportcongestionsettingelement : List FieldEntry := ccSwitchPortSettingFields

def madDumpCcCacongestionsetting : List FieldEntry := ccCaSettingFields

def madDumpCcCacongestionentry : List FieldEntry := ccCaEntryFields

def madDumpCcCongestioncontroltable : List FieldEntry := ccTableFields

def madDumpCcCongestioncontroltableentry : List FieldEntry := ccTableEntryFields

def madDumpCcTimestamp : List FieldEntry := ccTimestampFields

def madDumpClassportinfo : List FieldEntry := classPortInfoFields

def madDumpPortinfoExt : List FieldEntry :=
  portInfoExtFields ++ [edrFecModeEnabled, hdrFecModeSupported, hdrFecModeEnabled]

def madDumpLayouts : List (List FieldEntry) :=
  [madDumpNodeinfo, madDumpPortinfo, madDumpPortstates, madDumpSwitchinfo, madDumpPerfcounters,
    madDumpPerfcountersExt, madDumpPerfcountersXmtSl, madDumpPerfcountersRcvSl,
    madDumpPerfcountersXmtDisc, madDumpPerfcountersRcvErr, madDumpPortsamplesControl,
    madDumpPortsamplesResult, madDumpPortExtSpeedsCountersRsfecActive,
    madDumpPortExtSpeedsCounters, madDumpPerfcountersPortOpRcvCounters,
    madDumpPerfcountersPortFlowCtlCounters, madDumpPerfcountersPortVlOpPacket,
    madDumpPerfcountersPortVlOpData, madDumpPerfcountersPortVlXmitFlowCtlUpdateErrors,
    madDumpPerfcountersPortVlXmitWaitCounters, madDumpPerfcountersSwPortVlCongestion,
    madDumpPerfcountersRcvConCtrl, madDumpPerfcountersSlRcvFecn, madDumpPerfcountersSlRcvBecn,
    madDumpPerfcountersXmitConCtrl, madDumpPerfcountersVlXmitTimeCong, madDumpMlnxExtPortInfo,
    madDumpCcCongestioninfo, madDumpCcCongestionkeyinfo, madDumpCcCongestionlog,
    madDumpCcCongestionlogswitch, madDumpCcCongestionlogentryswitch, madDumpCcCongestionlogca,
    madDumpCcCongestionlogentryca, madDumpCcSwitchcongestionsetting,
    madDumpCcSwitchportcongestionsettingelement, madDumpCcCacongestionsetting,
    madDumpCcCacongestionentry, madDumpCcCongestioncontroltable,
    madDumpCcCongestioncontroltableentry, madDumpCcTimestamp, madDumpClassportinfo,
    madDumpPortinfoExt]

/-- A field of at most 32 bits, or a run of whole 32-bit words. -/
def IbField.Placed (f : IbField) : Prop :=
  f.Regular ∨ 32 < f.bitlen ∧ f.bitoffs % 32 = 0 ∧ f.bitlen % 32 = 0

instance (f : IbField) : Decidable f.Placed := inferInstanceAs (Decidable (_ ∨ _))

/-- No bit of one field is a bit of the other. -/
def IbField.Apart (f g : IbField) : Prop :=
  f.bitoffs + f.bitlen ≤ g.bitoffs ∨ g.bitoffs + g.bitlen ≤ f.bitoffs

instance (f g : IbField) : Decidable (f.Apart g) := inferInstanceAs (Decidable (_ ∨ _))

/-- The counters whose entries name the same bits: one of each pair is written without
`BITSOFFS`. -/
def sharedPlaces : List (FieldEntry × FieldEntry) :=
  [(qp1Dropped, vl15Dropped), (vl15Dropped, qp1Dropped),
    (hdrFecModeSupported, edrFecModeEnabled), (edrFecModeEnabled, hdrFecModeSupported)]

theorem madDumpLayouts_placed : ∀ layout ∈ madDumpLayouts, ∀ e ∈ layout, e.field.Placed := by
  decide +kernel

theorem madDumpLayouts_apart : ∀ layout ∈ madDumpLayouts, layout.Pairwise fun f g =>
    f.field.Apart g.field ∨ (f, g) ∈ sharedPlaces := by
  decide +kernel

theorem sharedPlaces_field : ∀ p ∈ sharedPlaces, p.1.field = p.2.field ∧ p.1.field.bitlen = 16 := by
  decide +kernel

theorem sharedPlaces_swap : ∀ p ∈ sharedPlaces, (p.2, p.1) ∈ sharedPlaces := by decide +kernel

/-- The 32-bit words of a field are words of the buffer. -/
def HoldsWords (buf : Bytes) (baseOffs : Nat) (f : IbField) : Prop :=
  baseOffs + 4 * ((f.bitoffs + f.bitlen + 31) / 32) ≤ buf.length

theorem HoldsWords.holds {buf : Bytes} {baseOffs : Nat} {f : IbField}
    (h : HoldsWords buf baseOffs f) (hbase : 4 ∣ baseOffs) : Holds buf baseOffs f := by
  intro i hi
  rw [HoldsWords] at h
  rw [xor_three, IbField.start]
  omega

/-- A copy of whole words leaves the bits of all other words. -/
theorem wordBit_copyInto {buf : Bytes} {i k n : Nat} (bs : List UInt8) (hlen : bs.length ≤ n)
    (hi : i % 4 = 0) (hn : n % 4 = 0) (hk : k < 8 * i ∨ 8 * i + 8 * n ≤ k) :
    wordBit (copyInto buf i bs) k = wordBit buf k := by
  have hbyte : byteAt (copyInto buf i bs) (3 ^^^ (k / 8)) = byteAt buf (3 ^^^ (k / 8)) := by
    rw [xor_three]
    rcases hk with hbefore | hbehind
    · exact byteAt_copyInto_of_lt bs (by omega)
    · exact byteAt_copyInto_of_ge bs (by omega)
  rw [wordBit, wordBit, hbyte]

/-- Writing a value in range changes no bit outside the field. -/
theorem encodeField_onlyField {f : IbField} (hf : f.Placed) {buf : Bytes} {baseOffs : Nat}
    (hbase : 4 ∣ baseOffs) (h : HoldsWords buf baseOffs f) {val : Bytes}
    (hval : f.bitlen ≤ 32 → hostInt val 4 < 2 ^ f.bitlen) :
    OnlyField buf (encodeField buf baseOffs f val) baseOffs f := by
  rcases hf with hreg | ⟨hlong, hoffs, hwords⟩
  · have hlen : f.bitlen ≤ 32 := hreg.1.2
    rw [encodeField, if_pos hlen]
    exact (setField_onlyField hreg (h.holds hbase) _).mpr
      (not_spills (Or.inr (Or.inr (hval hlen))))
  · intro k hk
    rw [IbField.start] at hk
    have hlong' : ¬ f.bitlen ≤ 32 := by omega
    have hi : (baseOffs + f.bitoffs / 8) % 4 = 0 := by omega
    have hn : f.bitlen / 8 % 4 = 0 := by omega
    have hout : k < 8 * (baseOffs + f.bitoffs / 8) ∨
        8 * (baseOffs + f.bitoffs / 8) + 8 * (f.bitlen / 8) ≤ k := by omega
    rw [encodeField, if_neg hlong']
    by_cases h64 : f.bitlen = 64
    · rw [if_pos h64, setField64]
      refine wordBit_copyInto _ ?_ hi hn hout
      rw [h64]
      exact Nat.le_refl 8
    · rw [if_neg h64, setArray]
      exact wordBit_copyInto _ (List.length_take_le _ _) hi hn hout

theorem byteAt_congr {buf buf' : Bytes} {i : Nat}
    (h : ∀ j < 8, wordBit buf' (8 * (3 ^^^ i) + j) = wordBit buf (8 * (3 ^^^ i) + j)) :
    byteAt buf' i = byteAt buf i := by
  apply UInt8.toNat_inj.mp
  apply Nat.eq_of_testBit_eq
  intro j
  by_cases hj : j < 8
  · have hbit := h j hj
    rwa [wordBit_byte _ _ hj, wordBit_byte _ _ hj, Nat.xor_xor_cancel_left] at hbit
  · rw [testBit_byte_of_le _ (by omega), testBit_byte_of_le _ (by omega)]

theorem getField64_eq_bytes (buf : Bytes) (baseOffs : Nat) (f : IbField) :
    getField64 buf baseOffs f = UInt64.ofNat
      ((bytesAt buf (baseOffs + f.bitoffs / 8) 8).foldl (fun acc b => acc * 256 + b.toNat) 0) := by
  rw [getField64, bytesAt, List.foldl_map]

/-- The bytes of a run of words are made up of its bits. -/
theorem byteAt_words {f : IbField} (hoffs : f.bitoffs % 32 = 0) (hwords : f.bitlen % 32 = 0)
    {buf buf' : Bytes} {baseOffs : Nat} (hbase : 4 ∣ baseOffs)
    (h : ∀ k, f.start baseOffs ≤ k → k < f.start baseOffs + f.bitlen →
      wordBit buf' k = wordBit buf k) {k : Nat} (hk : k < f.bitlen / 8) :
    byteAt buf' (baseOffs + f.bitoffs / 8 + k) = byteAt buf (baseOffs + f.bitoffs / 8 + k) := by
  apply byteAt_congr
  intro j hj
  rw [IbField.start] at h
  rw [xor_three]
  apply h <;> omega

theorem getField_congr {f : IbField} (hf : f.Regular) {buf buf' : Bytes} {baseOffs : Nat}
    (h : ∀ k, f.start baseOffs ≤ k → k < f.start baseOffs + f.bitlen →
      wordBit buf' k = wordBit buf k) :
    getField buf' baseOffs f = getField buf baseOffs f := by
  apply Nat.eq_of_testBit_eq
  intro i
  rw [testBit_getField hf, testBit_getField hf]
  by_cases hi : i < f.bitlen
  · rw [h _ (by omega) (by omega)]
  · rw [decide_eq_false hi, Bool.false_and, Bool.false_and]

/-- Reading a field depends on the bits of the field alone. -/
theorem decodeField_congr {f : IbField} (hf : f.Placed) {buf buf' : Bytes} {baseOffs : Nat}
    (hbase : 4 ∣ baseOffs)
    (h : ∀ k, f.start baseOffs ≤ k → k < f.start baseOffs + f.bitlen →
      wordBit buf' k = wordBit buf k) :
    decodeField buf' baseOffs f = decodeField buf baseOffs f := by
  rcases hf with hreg | ⟨hlong, hoffs, hwords⟩
  · rw [decodeField, decodeField, if_pos hreg.1.2, if_pos hreg.1.2, getField_congr hreg h]
  · have hlong' : ¬ f.bitlen ≤ 32 := by omega
    have hbyte : ∀ k < f.bitlen / 8, byteAt buf' (baseOffs + f.bitoffs / 8 + k) =
        byteAt buf (baseOffs + f.bitoffs / 8 + k) :=
      fun k hk => byteAt_words hoffs hwords hbase h hk
    rw [decodeField, decodeField, if_neg hlong', if_neg hlong']
    by_cases h64 : f.bitlen = 64
    · rw [h64] at hbyte
      rw [if_pos h64, if_pos h64, getField64_eq_bytes, getField64_eq_bytes, bytesAt_congr hbyte]
    · rw [if_neg h64, if_neg h64]
      exact bytesAt_congr hbyte

theorem getField_lt_width {f : IbField} (hf : f.Regular) (buf : Bytes) (baseOffs : Nat) :
    getField buf baseOffs f < 2 ^ f.bitlen := by
  apply Nat.lt_pow_two_of_testBit
  intro i hi
  rw [testBit_getField hf, decide_eq_false (Nat.not_lt.mpr hi), Bool.false_and]

theorem getField_lt {f : IbField} (hf : f.Regular) (buf : Bytes) (baseOffs : Nat) :
    getField buf baseOffs f < 256 ^ 4 :=
  (getField_lt_width hf buf baseOffs).trans_le (Nat.pow_le_pow_right Nat.two_pos hf.1.2)

theorem toBytes_inj {m n : Nat} (hm : m < 256 ^ 4) (hn : n < 256 ^ 4) :
    LittleEndian.toBytes 4 m = LittleEndian.toBytes 4 n ↔ m = n := by
  constructor
  · intro h
    rw [← LittleEndian.ofBytes_toBytes hm, h, LittleEndian.ofBytes_toBytes hn]
  · intro h
    rw [h]

/-- Two fields of a record, at different positions of its layout, are apart or a known pair. -/
theorem layout_apart {layout : List FieldEntry} (hlayout : layout ∈ madDumpLayouts)
    {i j : Nat} {f g : FieldEntry} (hi : layout[i]? = some f) (hj : layout[j]? = some g)
    (hij : i ≠ j) : f.field.Apart g.field ∨ (f, g) ∈ sharedPlaces := by
  have hpairs := List.pairwise_iff_getElem.mp (madDumpLayouts_apart layout hlayout)
  obtain ⟨hi', rfl⟩ := List.getElem?_eq_some_iff.mp hi
  obtain ⟨hj', rfl⟩ := List.getElem?_eq_some_iff.mp hj
  rcases Nat.lt_or_gt_of_ne hij with hlt | hgt
  · exact hpairs i j hi' hj' hlt
  · rcases hpairs j i hj' hi' hgt with hapart | hshared
    · exact Or.inl hapart.symm
    · exact Or.inr (sharedPlaces_swap _ hshared)

/-- Setting a field of a record leaves what is read for another one exactly as long as the two are
no pair that shares its bits, or the value is there already. -/
theorem layout_independent {layout : List FieldEntry} (hlayout : layout ∈ madDumpLayouts)
    {i j : Nat} {f g : FieldEntry} (hi : layout[i]? = some f) (hj : layout[j]? = some g)
    (hij : i ≠ j) {buf : Bytes} {baseOffs : Nat} (hbase : 4 ∣ baseOffs)
    (hbuf : HoldsWords buf baseOffs f.field) {val : Bytes}
    (hval : f.field.bitlen ≤ 32 → hostInt val 4 < 2 ^ f.field.bitlen) :
    decodeField (encodeField buf baseOffs f.field val) baseOffs g.field =
        decodeField buf baseOffs g.field ↔
      ((f, g) ∈ sharedPlaces → getField buf baseOffs f.field = hostInt val 4) := by
  have hf := madDumpLayouts_placed layout hlayout f (List.mem_of_getElem? hi)
  have hg := madDumpLayouts_placed layout hlayout g (List.mem_of_getElem? hj)
  by_cases hshared : (f, g) ∈ sharedPlaces
  · obtain ⟨hsame, hlen⟩ := sharedPlaces_field _ hshared
    dsimp only at hsame hlen
    have hshort : f.field.bitlen ≤ 32 := by omega
    have hreg : f.field.Regular := hf.resolve_right fun hlong => by omega
    have hback := getField_setField hreg (hbuf.holds hbase) (hostInt val 4)
    rw [Nat.mod_eq_of_lt (hval hshort)] at hback
    rw [← hsame, decodeField, decodeField, encodeField, if_pos hshort, if_pos hshort,
      if_pos hshort, hback, toBytes_inj (hostInt_lt val 4) (getField_lt hreg buf baseOffs)]
    exact ⟨fun h _ => h.symm, fun h => (h hshared).symm⟩
  · have hapart := (layout_apart hlayout hi hj hij).resolve_right hshared
    have honly := encodeField_onlyField hf hbase hbuf hval
    have hread : decodeField (encodeField buf baseOffs f.field val) baseOffs g.field =
        decodeField buf baseOffs g.field := by
      apply decodeField_congr hg hbase
      intro k hk hk'
      apply honly
      simp only [IbField.start, IbField.Apart] at *
      omega
    exact ⟨fun _ h => absurd h hshared, fun _ => hread⟩

/-- Setting QP1Dropped of a PortCounters record to 5 makes VL15Dropped 5, and the same with the
FEC modes of a PortInfoExtended record. -/
theorem shared_counters_change :
    (qp1Dropped ∈ madDumpPerfcounters ∧ vl15Dropped ∈ madDumpPerfcounters ∧
      getField (setField (List.replicate 64 0) 0 qp1Dropped.field 5) 0 vl15Dropped.field = 5 ∧
      getField (List.replicate 64 0) 0 vl15Dropped.field = 0) ∧
    (hdrFecModeSupported ∈ madDumpPortinfoExt ∧ edrFecModeEnabled ∈ madDumpPortinfoExt ∧
      getField (setField (List.replicate 64 0) 0 hdrFecModeSupported.field 5) 0
        edrFecModeEnabled.field = 5 ∧
      getField (List.replicate 64 0) 0 edrFecModeEnabled.field = 0) := by
  decide +kernel

/-- Setting the LinkState of a PortInfo record leaves the PhysLinkState. -/
theorem layout_independent_portStates :
    decodeField (encodeField (List.replicate 64 0x12) 0 (bitsOffs 260 4) [4, 0, 0, 0]) 0
      (bitsOffs 264 4) = decodeField (List.replicate 64 0x12) 0 (bitsOffs 264 4) := by
  have hlayout : madDumpPortstates ∈ madDumpLayouts := by decide +kernel
  have hi : madDumpPortstates[0]? = some ⟨.bitsOffs 260 4, "LinkState"⟩ := rfl
  have hj : madDumpPortstates[1]? = some ⟨.bitsOffs 264 4, "PhysLinkState"⟩ := rfl
  have hbuf : HoldsWords (List.replicate 64 0x12) 0 (bitsOffs 260 4) :=
    show 0 + 4 * ((280 + 4 + 31) / 32) ≤ (List.replicate 64 (0x12 : UInt8)).length by decide
  have hval : (bitsOffs 260 4).bitlen ≤ 32 → hostInt [4, 0, 0, 0] 4 < 2 ^ (bitsOffs 260 4).bitlen :=
    fun _ => by decide +kernel
  exact (layout_independent hlayout hi hj (by decide) (by decide) hbuf hval).mpr
    (by decide +kernel)

end InfinibandDiags
