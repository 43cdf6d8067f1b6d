import InfinibandDiags.Mad.Writes
import InfinibandDiags.Mad.Packet

/-! The header of a MAD, as `mad_encode` writes it and the field accessors read it. -/
namespace InfinibandDiags

def ibSaDataOffs : Nat := 56
def ibCcLogDataOffs : Nat := 32
def ibVendorRange2DataOffs : Nat := 40

/-- `IB_VENDOR_RANGE1_DATA_OFFS` and `IB_BM_BKEY_OFFS`: the end of the common header. -/
def ibVendorRange1DataOffs : Nat := 24

/-- The `int` that `mad_build_pkt` returns, `p - mad` or -1. -/
def madBuildPktLength (built : Option (Bytes × Rpc × TridState)) : Int :=
  if built.isSome then ibMadSize else -1

namespace Rpc
variable (rpc : Rpc) (path : DrPath)

def isResp : Bool := rpc.method &&& ibMadResponse ≠ 0

def respBit : Nat := if rpc.isResp then 1 else 0

def firstWord : List FieldWrite :=
  [(.madMethod, .num rpc.method), (.madResponse, .num rpc.respBit),
    (.madClassver, .num (if rpc.mgtclass % 256 = ibSaClass ∨ rpc.mgtclass % 256 = ibCcClass then 2
      else 1)),
    (.madMgmtclass, .num (rpc.mgtclass % 256)), (.madBasever, .num 1)]

def secondWord : List FieldWrite :=
  if rpc.mgtclass % 256 = ibSmiDirectClass then
    [(.drsmpHopcnt, .num path.cnt), (.drsmpHopptr, .num (if rpc.isResp then path.cnt + 1 else 0)),
      (.drsmpStatus, .num rpc.rstatus), (.drsmpDirection, .num rpc.respBit)]
  else [(.madStatus, .num rpc.rstatus)]

def commonWords : List FieldWrite :=
  [(.madTrid, .num64 rpc.trid), (.madAttrid, .num rpc.attrId), (.madAttrmod, .num rpc.attrMod),
    (.madMkey, .num64 rpc.mkey)]

def routeWords : List FieldWrite :=
  if rpc.mgtclass % 256 = ibSmiDirectClass then
    [(.drsmpDrdlid, .num (if path.drdlid = 0 then 0xffff else path.drdlid)),
      (.drsmpDrslid, .num (if path.drslid = 0 then 0xffff else path.drslid)),
      (if rpc.isResp then .drsmpRpath else .drsmpPath, .array path.p.toList)]
  else []

def classWords : List FieldWrite :=
  (if rpc.mgtclass % 256 = ibSaClass then [(.saCompmask, .num64 rpc.mask)] else []) ++
    if rpc.mgtclass % 256 = ibCcClass then [(.ccCckey, .num64 rpc.cckey)] else []

/-- Everything that is written in front of the payload. -/
def headerWrites : List FieldWrite :=
  rpc.firstWord ++ rpc.secondWord path ++ rpc.commonWords ++ rpc.routeWords path ++ rpc.classWords

/-- The OUI follows the payload. -/
def vendorWrites : List FieldWrite :=
  if madIsVendorRange2 (rpc.mgtclass % 256) then [(.vend2Oui, .num rpc.oui)] else []

def copyPayload (buf : Bytes) (data : Option Bytes) : Bytes :=
  data.elim buf fun data => copyInto buf rpc.dataoffs (data.take rpc.datasz)

end Rpc

/-- The transaction id of the packet, and the counter behind it. -/
def Rpc.drawn (rpc : Rpc) (s : TridState) : UInt64 × TridState :=
  if rpc.trid = 0 then madTrid s else (rpc.trid, s)

/-- `mad_encode` as a list of writes. -/
theorem madEncode_writes {buf : Bytes} {rpc : Rpc} {path : DrPath} (data : Option Bytes)
    (s : TridState)
    (hcnt : rpc.mgtclass % 256 = ibSmiDirectClass → path.cnt < ibSubnetPathHopsMax) :
    madEncode buf rpc (if rpc.mgtclass % 256 ≠ ibSmiDirectClass then none else some path) data s =
      (let sent : Rpc := { rpc with trid := (rpc.drawn s).1 }
      some (writeAll (sent.copyPayload (writeAll buf (sent.headerWrites path)) data)
        sent.vendorWrites, sent, (rpc.drawn s).2)) := by
  have hvendor : ∀ buf, ∀ rpc : Rpc, writeAll buf rpc.vendorWrites =
      if madIsVendorRange2 (rpc.mgtclass % 256) then madSetField buf 0 .vend2Oui rpc.oui
      else buf := by
    intro buf rpc
    unfold Rpc.vendorWrites
    split <;> simp [writeAll, FieldValue.write]
  dsimp only
  rw [hvendor]
  unfold madEncode
  by_cases hdirect : rpc.mgtclass % 256 = ibSmiDirectClass
  · have hroom := Nat.not_le.mpr (hcnt hdirect)
    have hsa : ¬ ibSmiDirectClass = ibSaClass := by decide
    have hcc : ¬ ibSmiDirectClass = ibCcClass := by decide
    cases data <;> simp [Rpc.headerWrites, Rpc.firstWord, Rpc.secondWord,
      Rpc.commonWords, Rpc.routeWords, Rpc.classWords, Rpc.copyPayload, Rpc.respBit, Rpc.isResp,
      Rpc.drawn, hdirect, hroom, hsa, hcc, writeAll, FieldValue.write]
  · by_cases hsa : rpc.mgtclass % 256 = ibSaClass
    · have hsmi : ¬ ibSaClass = ibSmiDirectClass := by decide
      have hcc : ¬ ibSaClass = ibCcClass := by decide
      cases data <;> simp [Rpc.headerWrites, Rpc.firstWord, Rpc.secondWord, Rpc.commonWords,
        Rpc.routeWords, Rpc.classWords, Rpc.copyPayload, Rpc.respBit, Rpc.isResp, Rpc.drawn, hsa,
        hsmi, hcc, writeAll, FieldValue.write]
    · by_cases hcc : rpc.mgtclass % 256 = ibCcClass
      · have hsmi : ¬ ibCcClass = ibSmiDirectClass := by decide
        have hsa : ¬ ibCcClass = ibSaClass := by decide
        cases data <;> simp [Rpc.headerWrites, Rpc.firstWord, Rpc.secondWord, Rpc.commonWords,
          Rpc.routeWords, Rpc.classWords, Rpc.copyPayload, Rpc.respBit, Rpc.isResp, Rpc.drawn, hcc,
          hsmi, hsa, writeAll, FieldValue.write]
      · cases data <;> simp [Rpc.headerWrites, Rpc.firstWord, Rpc.secondWord, Rpc.commonWords,
          Rpc.routeWords, Rpc.classWords, Rpc.copyPayload, Rpc.respBit, Rpc.isResp, Rpc.drawn,
          hdirect, hsa, hcc, writeAll, FieldValue.write]
/-- With a transaction id none is drawn. -/
theorem madEncode_eq {buf : Bytes} {rpc : Rpc} {path : DrPath} (data : Option Bytes) (s : TridState)
    (htrid : rpc.trid ≠ 0)
    (hcnt : rpc.mgtclass % 256 = ibSmiDirectClass → path.cnt < ibSubnetPathHopsMax) :
    madEncode buf rpc (if rpc.mgtclass % 256 ≠ ibSmiDirectClass then none else some path) data s =
      some (writeAll (rpc.copyPayload (writeAll buf (rpc.headerWrites path)) data) rpc.vendorWrites,
        rpc, s) := by
  have hdrawn : rpc.drawn s = (rpc.trid, s) := if_neg htrid
  rw [madEncode_writes data s hcnt, hdrawn]

/-- The fields in front of the payload, for the kinds of class that have fields of their own. -/
def headerFields (direct resp sa cc : Bool) : List MadField :=
  [.madMethod, .madResponse, .madClassver, .madMgmtclass, .madBasever] ++
    (if direct then [.drsmpHopcnt, .drsmpHopptr, .drsmpStatus, .drsmpDirection]
      else [.madStatus]) ++
    [.madTrid, .madAttrid, .madAttrmod, .madMkey] ++
    (if direct then [.drsmpDrdlid, .drsmpDrslid, if resp then .drsmpRpath else .drsmpPath]
      else []) ++
    ((if sa then [.saCompmask] else []) ++ if cc then [.ccCckey] else [])

/-- Only the CC key takes the place of another field. -/
theorem headerFields_apart (direct resp sa cc : Bool) :
    (headerFields direct resp sa cc).Pairwise fun f g =>
      (cc = true → f ≠ .madMkey) → (ibMadF f).Apart (ibMadF g) := by
  revert direct resp sa cc
  decide +kernel

/-- The words of all fields are words of a MAD. -/
theorem headerFields_holds (direct resp sa cc : Bool) : ∀ f ∈ headerFields direct resp sa cc,
    4 * (((ibMadF f).bitoffs + (ibMadF f).bitlen + 31) / 32) ≤ ibMadSize := by
  revert direct resp sa cc
  decide +kernel

theorem headerFields_oui (direct resp sa cc : Bool) : ∀ f ∈ headerFields direct resp sa cc,
    (ibMadF f).Apart (ibMadF .vend2Oui) := by
  revert direct resp sa cc
  decide +kernel

section Header
variable {rpc : Rpc} {path : DrPath}

theorem headerWrites_fields (rpc : Rpc) (path : DrPath) : (rpc.headerWrites path).map Prod.fst =
    headerFields (rpc.mgtclass % 256 = ibSmiDirectClass) rpc.isResp
      (rpc.mgtclass % 256 = ibSaClass) (rpc.mgtclass % 256 = ibCcClass) := by
  have hsecond : (rpc.secondWord path).map Prod.fst =
      if rpc.mgtclass % 256 = ibSmiDirectClass then
        [.drsmpHopcnt, .drsmpHopptr, .drsmpStatus, .drsmpDirection] else [.madStatus] := by
    unfold Rpc.secondWord
    split <;> rfl
  have hroute : (rpc.routeWords path).map Prod.fst =
      if rpc.mgtclass % 256 = ibSmiDirectClass then
        [.drsmpDrdlid, .drsmpDrslid, if rpc.isResp then .drsmpRpath else .drsmpPath] else [] := by
    unfold Rpc.routeWords
    split <;> rfl
  have hclass : rpc.classWords.map Prod.fst =
      (if rpc.mgtclass % 256 = ibSaClass then [.saCompmask] else []) ++
        if rpc.mgtclass % 256 = ibCcClass then [.ccCckey] else [] := by
    unfold Rpc.classWords
    split <;> split <;> rfl
  simp only [Rpc.headerWrites, List.map_append, hsecond, hroute, hclass, headerFields,
    decide_eq_true_eq]
  rfl

theorem mem_headerFields {w : FieldWrite} (hw : w ∈ rpc.headerWrites path) :
    w.1 ∈ headerFields (rpc.mgtclass % 256 = ibSmiDirectClass) rpc.isResp
      (rpc.mgtclass % 256 = ibSaClass) (rpc.mgtclass % 256 = ibCcClass) :=
  headerWrites_fields rpc path ▸ List.mem_map_of_mem hw

theorem mem_firstWord {w : FieldWrite} (hw : w ∈ rpc.firstWord) : w ∈ rpc.headerWrites path := by
  simp [Rpc.headerWrites, hw]

theorem mem_secondWord {w : FieldWrite} (hw : w ∈ rpc.secondWord path) :
    w ∈ rpc.headerWrites path := by
  simp [Rpc.headerWrites, hw]

theorem mem_commonWords {w : FieldWrite} (hw : w ∈ rpc.commonWords) :
    w ∈ rpc.headerWrites path := by
  simp [Rpc.headerWrites, hw]

theorem mem_routeWords {w : FieldWrite} (hw : w ∈ rpc.routeWords path) :
    w ∈ rpc.headerWrites path := by
  simp [Rpc.headerWrites, hw]

theorem mem_classWords {w : FieldWrite} (hw : w ∈ rpc.classWords) : w ∈ rpc.headerWrites path := by
  simp [Rpc.headerWrites, hw]

theorem fits_num {f : MadField}
    (h : (ibMadF f).Regular ∧ ((ibMadF f).InByte ∨ (ibMadF f).postbits = 0)) (val : Nat) :
    (FieldValue.num val).Fits f :=
  ⟨h.1, h.2.imp_right .inl⟩

/-- The only field that has to be checked is the status of directed routes. -/
theorem headerWrites_fits (hstatus : rpc.mgtclass % 256 = ibSmiDirectClass → rpc.rstatus < 2 ^ 15) :
    ∀ w ∈ rpc.headerWrites path, w.2.Fits w.1 := by
  have hnum : ∀ f ∈ [MadField.madMethod, .madResponse, .madClassver, .madMgmtclass, .madBasever,
      .drsmpHopcnt, .drsmpHopptr, .drsmpDirection, .madStatus, .madAttrid, .madAttrmod,
      .drsmpDrdlid, .drsmpDrslid], ∀ val, (FieldValue.num val).Fits f := by
    intro f hf
    refine fits_num ?_
    revert f
    decide +kernel
  have hnum64 : ∀ f ∈ [MadField.madTrid, .madMkey, .saCompmask, .ccCckey], ∀ val,
      (FieldValue.num64 val).Fits f := by
    have hwords : ∀ f ∈ [MadField.madTrid, .madMkey, .saCompmask, .ccCckey],
        FieldValue.Words (ibMadF f) ∧ (ibMadF f).bitlen = 64 := by decide +kernel
    exact fun f hf val => hwords f hf
  have harray : (FieldValue.array path.p.toList).Fits .drsmpPath ∧
      (FieldValue.array path.p.toList).Fits .drsmpRpath := by
    have hlen : path.p.toList.length = 64 := Vector.length_toList
    exact ⟨⟨by decide, hlen⟩, ⟨by decide, hlen⟩⟩
  have hdirect : rpc.mgtclass % 256 = ibSmiDirectClass →
      (FieldValue.num rpc.rstatus).Fits .drsmpStatus :=
    fun h => ⟨by decide, .inr (.inr (hstatus h))⟩
  have hnil : ∀ w ∈ ([] : List FieldWrite), w.2.Fits w.1 := fun w hw => by cases hw
  simp only [Rpc.headerWrites, List.forall_mem_append]
  refine ⟨⟨⟨⟨?_, ?_⟩, ?_⟩, ?_⟩, ?_⟩
  · simp only [Rpc.firstWord, List.forall_mem_cons]
    exact ⟨hnum _ (by decide) _, hnum _ (by decide) _, hnum _ (by decide) _, hnum _ (by decide) _,
      hnum _ (by decide) _, hnil⟩
  · unfold Rpc.secondWord
    split
    · next h =>
        simp only [List.forall_mem_cons]
        exact ⟨hnum _ (by decide) _, hnum _ (by decide) _, hdirect h, hnum _ (by decide) _, hnil⟩
    · simp only [List.forall_mem_cons]
      exact ⟨hnum _ (by decide) _, hnil⟩
  · simp only [Rpc.commonWords, List.forall_mem_cons]
    exact ⟨hnum64 _ (by decide) _, hnum _ (by decide) _, hnum _ (by decide) _,
      hnum64 _ (by decide) _, hnil⟩
  · unfold Rpc.routeWords
    split
    · simp only [List.forall_mem_cons]
      refine ⟨hnum _ (by decide) _, hnum _ (by decide) _, ?_, hnil⟩
      split
      · exact harray.2
      · exact harray.1
    · exact hnil
  · unfold Rpc.classWords
    rw [List.forall_mem_append]
    constructor <;> split
    · exact List.forall_mem_cons.mpr ⟨hnum64 .saCompmask (by decide) _, hnil⟩
    · exact hnil
    · exact List.forall_mem_cons.mpr ⟨hnum64 .ccCckey (by decide) _, hnil⟩
    · exact hnil

theorem headerWrites_writable {buf : Bytes} (hbuf : buf.length = ibMadSize)
    (hstatus : rpc.mgtclass % 256 = ibSmiDirectClass → rpc.rstatus < 2 ^ 15) :
    Writable buf (rpc.headerWrites path) := by
  refine ⟨headerWrites_fits hstatus, fun w hw => ?_⟩
  have hholds := headerFields_holds _ _ _ _ w.1 (mem_headerFields hw)
  rw [HoldsWords, hbuf, Nat.zero_add]
  exact hholds

end Header

/-- The bytes of a MAD that a class leaves to its data. Classes without a layout of their own have
everything behind the common header. -/
def dataArea (mgtclass : Nat) : Nat × Nat :=
  if mgtclass = ibSmiDirectClass ∨ mgtclass = ibSmiClass then
    (ibSmpDataOffs, ibSmpDataOffs + ibSmpDataSize)
  else if mgtclass = ibSaClass then (ibSaDataOffs, ibMadSize)
  else if mgtclass = ibCcClass then (ibCcLogDataOffs, ibMadSize)
  else if madIsVendorRange2 mgtclass then (ibVendorRange2DataOffs, ibMadSize)
  else (ibVendorRange1DataOffs, ibMadSize)

/-- The payload is as long as `datasz` says, and lies in the data area of its class. -/
structure Rpc.Carries (rpc : Rpc) (data : Bytes) : Prop where
  length : data.length = rpc.datasz
  first : (dataArea (rpc.mgtclass % 256)).1 ≤ rpc.dataoffs
  last : rpc.dataoffs + rpc.datasz ≤ (dataArea (rpc.mgtclass % 256)).2

section Payload
variable {rpc : Rpc} {path : DrPath} {data : Bytes}

/-- No field of the header but the M_Key has a word in the data area. -/
theorem headerFields_beside (mgtclass : Nat) (resp : Bool) :
    ∀ f ∈ headerFields (mgtclass = ibSmiDirectClass) resp (mgtclass = ibSaClass)
      (mgtclass = ibCcClass), f = .madMkey ∨
        ((ibMadF f).bitoffs + (ibMadF f).bitlen + 31) / 32 * 4 ≤ (dataArea mgtclass).1 ∨
        (dataArea mgtclass).2 ≤ (ibMadF f).bitoffs / 32 * 4 := by
  by_cases hdirect : mgtclass = ibSmiDirectClass
  · subst hdirect
    revert resp
    decide +kernel
  · by_cases hsa : mgtclass = ibSaClass
    · subst hsa
      revert resp
      decide +kernel
    · by_cases hcc : mgtclass = ibCcClass
      · subst hcc
        revert resp
        decide +kernel
      · have hfirst : ibVendorRange1DataOffs ≤ (dataArea mgtclass).1 := by
          unfold dataArea
          split_ifs <;> decide
        have hplain : ∀ f ∈ headerFields false resp false false, f = .madMkey ∨
            ((ibMadF f).bitoffs + (ibMadF f).bitlen + 31) / 32 * 4 ≤ ibVendorRange1DataOffs := by
          revert resp
          decide +kernel
        intro f hf
        rw [decide_eq_false hdirect, decide_eq_false hsa, decide_eq_false hcc] at hf
        exact (hplain f hf).imp_right fun h => .inl (h.trans hfirst)

/-- A field of the header is beside the payload, unless it is the M_Key and the payload begins in
front of byte 32. -/
theorem Rpc.Carries.beside (h : rpc.Carries data) {w : FieldWrite} (hw : w ∈ rpc.headerWrites path)
    (hmkey : w.1 = .madMkey → 32 ≤ rpc.dataoffs) :
    ((ibMadF w.1).bitoffs + (ibMadF w.1).bitlen + 31) / 32 * 4 ≤ rpc.dataoffs ∨
      rpc.dataoffs + data.length ≤ (ibMadF w.1).bitoffs / 32 * 4 := by
  have hfirst := h.first
  have hlast := h.last
  rw [← h.length] at hlast
  rcases headerFields_beside _ _ w.1 (mem_headerFields hw) with hf | hf | hf
  · refine .inl (le_trans ?_ (hmkey hf))
    rw [hf]
    decide
  · exact .inl (hf.trans hfirst)
  · exact .inr (hlast.trans hf)

/-- Fields behind a byte, or in front of it, are written without touching it. -/
theorem byteAt_write {buf : Bytes} {f : MadField} {v : FieldValue} (hfits : v.Fits f)
    (hbuf : HoldsWords buf 0 (ibMadF f)) {i : Nat}
    (hi : ((ibMadF f).bitoffs + (ibMadF f).bitlen + 31) / 32 * 4 ≤ i) :
    byteAt (v.write buf f) i = byteAt buf i := by
  apply byteAt_congr
  intro j hj
  refine FieldValue.write_onlyField hfits hbuf _ (.inr ?_)
  rw [IbField.start, xor_three]
  omega

theorem byteAt_writeAll {buf : Bytes} {ws : List FieldWrite} (hws : Writable buf ws) {i : Nat}
    (hi : ∀ w ∈ ws, ((ibMadF w.1).bitoffs + (ibMadF w.1).bitlen + 31) / 32 * 4 ≤ i) :
    byteAt (writeAll buf ws) i = byteAt buf i := by
  induction ws generalizing buf with
  | nil => rfl
  | cons w ws ih =>
      have hfirst := byteAt_write (hws.fits w List.mem_cons_self) (hws.holds w List.mem_cons_self)
        (hi w List.mem_cons_self)
      exact (ih hws.tail fun v hv => hi v (List.mem_cons_of_mem w hv)).trans hfirst

/-- The MAD in its three steps. -/
def Rpc.packet (rpc : Rpc) (path : DrPath) (data : Option Bytes) : Bytes :=
  writeAll (rpc.copyPayload (writeAll (List.replicate ibMadSize 0) (rpc.headerWrites path)) data)
    rpc.vendorWrites

theorem copyPayload_length (buf : Bytes) (data : Option Bytes) :
    (rpc.copyPayload buf data).length = buf.length := by
  cases data with
  | none => rfl
  | some data => exact copyInto_length buf _ _

theorem packet_length (data : Option Bytes) : (rpc.packet path data).length = ibMadSize := by
  rw [Rpc.packet, writeAll_length, copyPayload_length, writeAll_length, List.length_replicate]

theorem vendorWrites_writable {buf : Bytes} (hbuf : buf.length = ibMadSize) :
    Writable buf rpc.vendorWrites := by
  have hlen : 4 * (((ibMadF .vend2Oui).bitoffs + (ibMadF .vend2Oui).bitlen + 31) / 32) ≤ ibMadSize := by
    decide
  constructor <;> unfold Rpc.vendorWrites <;> split <;> intro w hw
  · rw [List.mem_singleton.mp hw]
    exact fits_num (f := .vend2Oui) (by decide) rpc.oui
  · cases hw
  · rw [List.mem_singleton.mp hw, HoldsWords, hbuf, Nat.zero_add]
    exact hlen
  · cases hw

variable (rpc path) in
theorem writeAll_vendorWrites_writable {buf : Bytes} (hbuf : buf.length = ibMadSize)
    (data : Option Bytes) : Writable (rpc.copyPayload (writeAll buf (rpc.headerWrites path)) data)
      rpc.vendorWrites := by
  refine vendorWrites_writable ?_
  rw [copyPayload_length, writeAll_length, hbuf]

/-- A payload does not lie over the M_Key. -/
def Rpc.SparesMkey (rpc : Rpc) (data : Option Bytes) : Prop :=
  data = none ∨ rpc.datasz = 0 ∨ 32 ≤ rpc.dataoffs

/-- What was written into the header is in the packet, whatever was in the buffer. -/
theorem encoded_readBack {buf : Bytes} (hbuf : buf.length = ibMadSize) {data : Option Bytes}
    (hstatus : rpc.mgtclass % 256 = ibSmiDirectClass → rpc.rstatus < 2 ^ 15)
    (hdata : ∀ d ∈ data, rpc.Carries d) {w : FieldWrite} (hw : w ∈ rpc.headerWrites path)
    (hcc : rpc.mgtclass % 256 = ibCcClass → w.1 ≠ .madMkey)
    (hmkey : w.1 = .madMkey → rpc.SparesMkey data) :
    w.2.ReadBack (writeAll (rpc.copyPayload (writeAll buf (rpc.headerWrites path)) data)
      rpc.vendorWrites) w.1 := by
  have hfits := headerWrites_fits hstatus w hw
  have hpairs : (rpc.headerWrites path).Pairwise fun w w' =>
      (decide (rpc.mgtclass % 256 = ibCcClass) = true → w.1 ≠ .madMkey) →
        (ibMadF w.1).Apart (ibMadF w'.1) := by
    have h := headerFields_apart (rpc.mgtclass % 256 = ibSmiDirectClass) rpc.isResp
      (rpc.mgtclass % 256 = ibSaClass) (rpc.mgtclass % 256 = ibCcClass)
    have hfields := headerWrites_fields rpc path
    rw [← hfields] at h
    exact List.pairwise_map.mp h
  have hheader := readBack_writeAll
    (fun f => decide (rpc.mgtclass % 256 = ibCcClass) = true → f ≠ .madMkey)
    (headerWrites_writable hbuf hstatus) hpairs hw (by simpa using hcc)
  have hpayload : w.2.ReadBack (rpc.copyPayload (writeAll buf (rpc.headerWrites path)) data)
      w.1 := by
    cases data with
    | none => exact hheader
    | some d =>
        have hcarries := hdata d rfl
        rw [Rpc.copyPayload, Option.elim_some, ← hcarries.length, List.take_length]
        by_cases hempty : d = []
        · rw [hempty]
          exact hheader
        · have hpos : rpc.datasz ≠ 0 := by
            rw [← hcarries.length]
            exact fun h => hempty (List.length_eq_zero_iff.mp h)
          refine readBack_copyInto hfits (hcarries.beside hw fun hf => ?_) hheader
          exact ((hmkey hf).resolve_left (by simp)).resolve_left hpos
  refine readBack_writeAll_of_apart (writeAll_vendorWrites_writable _ _ hbuf _) hfits
    (fun w' hw' => ?_) hpayload
  unfold Rpc.vendorWrites at hw'
  split at hw'
  · rw [List.mem_singleton.mp hw']
    exact headerFields_oui _ _ _ _ w.1 (mem_headerFields hw)
  · cases hw'

theorem packet_readBack {data : Option Bytes}
    (hstatus : rpc.mgtclass % 256 = ibSmiDirectClass → rpc.rstatus < 2 ^ 15)
    (hdata : ∀ d ∈ data, rpc.Carries d) {w : FieldWrite} (hw : w ∈ rpc.headerWrites path)
    (hcc : rpc.mgtclass % 256 = ibCcClass → w.1 ≠ .madMkey)
    (hmkey : w.1 = .madMkey → rpc.SparesMkey data) :
    w.2.ReadBack (rpc.packet path data) w.1 :=
  encoded_readBack List.length_replicate hstatus hdata hw hcc hmkey

/-- The OUI is the last thing that is written. -/
theorem encoded_oui {buf : Bytes} (hbuf : buf.length = ibMadSize) {data : Option Bytes}
    (hvendor : madIsVendorRange2 (rpc.mgtclass % 256)) :
    madGetField (writeAll (rpc.copyPayload (writeAll buf (rpc.headerWrites path)) data)
      rpc.vendorWrites) 0 .vend2Oui = rpc.oui % 2 ^ 24 := by
  have hwrites : rpc.vendorWrites = [(.vend2Oui, .num rpc.oui)] := if_pos hvendor
  have hread := readBack_writeAll (fun _ => True)
    (writeAll_vendorWrites_writable rpc path hbuf data)
    (by rw [hwrites]; exact List.pairwise_singleton _ _)
    (w := (.vend2Oui, .num rpc.oui)) (by rw [hwrites]; exact List.mem_singleton_self _) trivial
  exact hread

end Payload
end InfinibandDiags
