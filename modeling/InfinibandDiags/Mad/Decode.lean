import InfinibandDiags.Mad.Header

/-! A packet of `mad_build_pkt`, decoded again. -/
namespace InfinibandDiags

/-- The fields of a directed route. -/
structure DecodesRoute (mad : Bytes) (rpc : Rpc) (path : DrPath) : Prop where
  hopcnt : madGetField mad 0 .drsmpHopcnt = path.cnt
  hopptr : madGetField mad 0 .drsmpHopptr = if rpc.isResp then path.cnt + 1 else 0
  direction : madGetField mad 0 .drsmpDirection = rpc.respBit
  drdlid : madGetField mad 0 .drsmpDrdlid = if path.drdlid = 0 then 0xffff else path.drdlid
  drslid : madGetField mad 0 .drsmpDrslid = if path.drslid = 0 then 0xffff else path.drslid
  path : getArray mad 0 (ibMadF (if rpc.isResp then .drsmpRpath else .drsmpPath)) = path.p.toList

/-- The accessors give back what the caller has asked for. A payload that begins in front of byte 32
takes the place of the M_Key. -/
structure Decodes (mad : Bytes) (rpc : Rpc) (path : DrPath) (data : Option Bytes) : Prop where
  method : madGetField mad 0 .madMethod + 128 * madGetField mad 0 .madResponse = rpc.method
  response : madGetField mad 0 .madResponse = rpc.respBit
  mgmtclass : madGetField mad 0 .madMgmtclass = rpc.mgtclass % 256
  status : madGetField mad 0 (if rpc.mgtclass % 256 = ibSmiDirectClass then .drsmpStatus
    else .madStatus) = rpc.rstatus
  trid : madGetField64 mad 0 .madTrid = rpc.trid
  attrid : madGetField mad 0 .madAttrid = rpc.attrId
  attrmod : madGetField mad 0 .madAttrmod = rpc.attrMod
  mkey : rpc.mgtclass % 256 ≠ ibCcClass → rpc.SparesMkey data →
    madGetField64 mad 0 .madMkey = rpc.mkey
  cckey : rpc.mgtclass % 256 = ibCcClass → madGetField64 mad 0 .ccCckey = rpc.cckey
  compmask : rpc.mgtclass % 256 = ibSaClass → madGetField64 mad 0 .saCompmask = rpc.mask
  oui : madIsVendorRange2 (rpc.mgtclass % 256) → madGetField mad 0 .vend2Oui = rpc.oui % 2 ^ 24
  route : rpc.mgtclass % 256 = ibSmiDirectClass → DecodesRoute mad rpc path
  payload : ∀ d ∈ data, bytesAt mad rpc.dataoffs rpc.datasz = d

/-- What a caller may ask for: values that fit into their fields. -/
structure Rpc.Encodable (rpc : Rpc) (path : DrPath) (data : Option Bytes) : Prop where
  method : rpc.method < 256
  attrid : rpc.attrId < 2 ^ 16
  attrmod : rpc.attrMod < 2 ^ 32
  status : rpc.rstatus < if rpc.mgtclass % 256 = ibSmiDirectClass then 2 ^ 15 else 2 ^ 16
  trid : rpc.trid ≠ 0
  data : ∀ d ∈ data, rpc.Carries d
  drslid : path.drslid < 2 ^ 16
  drdlid : path.drdlid < 2 ^ 16

section Decode
variable {rpc : Rpc} {path : DrPath} {data : Option Bytes}

theorem Rpc.Encodable.directStatus (h : rpc.Encodable path data) :
    rpc.mgtclass % 256 = ibSmiDirectClass → rpc.rstatus < 2 ^ 15 := by
  intro hdirect
  have hstatus := h.status
  rwa [if_pos hdirect] at hstatus

/-- Any field but the M_Key. -/
theorem Rpc.Encodable.readBack (h : rpc.Encodable path data) {f : MadField} {v : FieldValue}
    (hw : (f, v) ∈ rpc.headerWrites path) (hmkey : f ≠ .madMkey) :
    v.ReadBack (rpc.packet path data) f :=
  packet_readBack h.directStatus h.data hw (fun _ => hmkey) fun hf => absurd hf hmkey

/-- A number that fits. -/
theorem Rpc.Encodable.num (h : rpc.Encodable path data) {f : MadField} {val : Nat}
    (hw : (f, FieldValue.num val) ∈ rpc.headerWrites path) (hmkey : f ≠ .madMkey)
    (hval : val < 2 ^ (ibMadF f).bitlen) : madGetField (rpc.packet path data) 0 f = val :=
  Eq.trans (h.readBack hw hmkey) (Nat.mod_eq_of_lt hval)

theorem respBit_lt (rpc : Rpc) : rpc.respBit < 2 ^ 1 := by
  unfold Rpc.respBit
  split <;> decide

theorem Rpc.Encodable.decodesRoute (h : rpc.Encodable path data)
    (hdirect : rpc.mgtclass % 256 = ibSmiDirectClass) (hcnt : path.cnt < ibSubnetPathHopsMax) :
    DecodesRoute (rpc.packet path data) rpc path := by
  have hcnt64 : path.cnt < 64 := hcnt
  have hdlid := h.drdlid
  have hslid := h.drslid
  constructor
  · refine h.num (mem_secondWord ?_) (by decide) (hcnt64.trans (by decide))
    simp [Rpc.secondWord, hdirect]
  · refine h.num (mem_secondWord ?_) (by decide) ?_
    · simp [Rpc.secondWord, hdirect]
    · change _ < 256
      split <;> omega
  · refine h.num (mem_secondWord ?_) (by decide) (respBit_lt rpc)
    simp [Rpc.secondWord, hdirect]
  · refine h.num (mem_routeWords ?_) (by decide) ?_
    · simp [Rpc.routeWords, hdirect]
    · change _ < 2 ^ 16
      split <;> omega
  · refine h.num (mem_routeWords ?_) (by decide) ?_
    · simp [Rpc.routeWords, hdirect]
    · change _ < 2 ^ 16
      split <;> omega
  · have hmkey : (if rpc.isResp then MadField.drsmpRpath else .drsmpPath) ≠ .madMkey := by
      split <;> decide
    refine h.readBack (v := .array path.p.toList) (mem_routeWords ?_) hmkey
    simp [Rpc.routeWords, hdirect]

/-- A byte's response bit and the rest of it. -/
theorem method_split : ∀ m < 256, m % 2 ^ 7 + 128 * (if m &&& ibMadResponse ≠ 0 then 1 else 0) = m := by
  decide +kernel

/-- The OUI is written in front of the payload's first byte. -/
theorem Rpc.Encodable.payload (h : rpc.Encodable path data) :
    ∀ d ∈ data, bytesAt (rpc.packet path data) rpc.dataoffs rpc.datasz = d := by
  intro d hd
  obtain rfl : data = some d := hd
  have hcarries := h.data d rfl
  have hlast : rpc.dataoffs + d.length ≤ ibMadSize := by
    have hend : (dataArea (rpc.mgtclass % 256)).2 ≤ ibMadSize := by
      unfold dataArea
      split_ifs <;> decide
    rw [hcarries.length]
    exact hcarries.last.trans hend
  generalize hheader : writeAll (List.replicate ibMadSize 0) (rpc.headerWrites path) = header
  have hlen : header.length = ibMadSize := by
    rw [← hheader, writeAll_length, List.length_replicate]
  have hcopied : bytesAt (rpc.copyPayload header (some d)) rpc.dataoffs rpc.datasz = d := by
    rw [Rpc.copyPayload, Option.elim_some, ← hcarries.length, List.take_length]
    exact bytesAt_copyInto d (hlen ▸ hlast)
  rw [Rpc.packet, hheader]
  refine Eq.trans (bytesAt_congr fun k _ => ?_) hcopied
  have hwritable : Writable (rpc.copyPayload header (some d)) rpc.vendorWrites :=
    vendorWrites_writable ((copyPayload_length header (some d)).trans hlen)
  by_cases hvendor : madIsVendorRange2 (rpc.mgtclass % 256)
  · have hwrites : rpc.vendorWrites = [(.vend2Oui, .num rpc.oui)] := if_pos hvendor
    have hmem : (MadField.vend2Oui, FieldValue.num rpc.oui) ∈ rpc.vendorWrites := by simp [hwrites]
    have hfirst : ibVendorRange2DataOffs ≤ rpc.dataoffs := by
      have harea : (dataArea (rpc.mgtclass % 256)).1 = ibVendorRange2DataOffs := by
        have hrange : ∀ m < 256, madIsVendorRange2 m = true →
            (dataArea m).1 = ibVendorRange2DataOffs := by decide +kernel
        exact hrange _ (Nat.mod_lt _ (by decide)) hvendor
      exact harea ▸ hcarries.first
    rw [hwrites]
    have hend : ((ibMadF .vend2Oui).bitoffs + (ibMadF .vend2Oui).bitlen + 31) / 32 * 4 ≤
        ibVendorRange2DataOffs := by decide
    exact byteAt_write (hwritable.fits _ hmem) (hwritable.holds _ hmem)
      (hend.trans (hfirst.trans (Nat.le_add_right _ _)))
  · have hwrites : rpc.vendorWrites = [] := if_neg hvendor
    rw [hwrites]
    rfl

theorem Rpc.Encodable.decodes (h : rpc.Encodable path data)
    (hcnt : rpc.mgtclass % 256 = ibSmiDirectClass → path.cnt < ibSubnetPathHopsMax) :
    Decodes (rpc.packet path data) rpc path data := by
  have hresp : madGetField (rpc.packet path data) 0 .madResponse = rpc.respBit :=
    h.num (mem_firstWord (by simp [Rpc.firstWord])) (by decide) (respBit_lt rpc)
  constructor
  case method =>
    have hmethod : madGetField (rpc.packet path data) 0 .madMethod = rpc.method % 2 ^ 7 :=
      h.readBack (v := .num rpc.method) (mem_firstWord (by simp [Rpc.firstWord]))
        (by decide)
    have hbit : rpc.respBit = if rpc.method &&& ibMadResponse ≠ 0 then 1 else 0 := by
      simp [Rpc.respBit, Rpc.isResp]
    rw [hmethod, hresp, hbit]
    exact method_split rpc.method h.method
  case response => exact hresp
  case mgmtclass =>
    exact h.num (mem_firstWord (by simp [Rpc.firstWord])) (by decide) (Nat.mod_lt _ (by decide))
  case status =>
    have hstatus := h.status
    split
    · next hdirect =>
        rw [if_pos hdirect] at hstatus
        exact h.num (mem_secondWord (by simp [Rpc.secondWord, hdirect])) (by decide) hstatus
    · next hdirect =>
        rw [if_neg hdirect] at hstatus
        exact h.num (mem_secondWord (by simp [Rpc.secondWord, hdirect])) (by decide) hstatus
  case trid =>
    exact h.readBack (v := .num64 rpc.trid)
      (mem_commonWords (by simp [Rpc.commonWords])) (by decide)
  case attrid =>
    exact h.num (mem_commonWords (by simp [Rpc.commonWords])) (by decide) h.attrid
  case attrmod =>
    exact h.num (mem_commonWords (by simp [Rpc.commonWords])) (by decide) h.attrmod
  case mkey =>
    intro hcc hmkey
    exact packet_readBack (w := (.madMkey, .num64 rpc.mkey)) h.directStatus h.data
      (mem_commonWords (by simp [Rpc.commonWords])) (fun h => absurd h hcc) fun _ => hmkey
  case cckey =>
    intro hcc
    exact h.readBack (v := .num64 rpc.cckey)
      (mem_classWords (by simp [Rpc.classWords, hcc])) (by decide)
  case compmask =>
    intro hsa
    exact h.readBack (v := .num64 rpc.mask)
      (mem_classWords (by simp [Rpc.classWords, hsa])) (by decide)
  case oui => exact encoded_oui List.length_replicate
  case route => exact fun hdirect => h.decodesRoute hdirect (hcnt hdirect)
  case payload => exact h.payload

/-- `mad_build_pkt` builds a packet of 256 bytes that decodes to what it was given, and refuses a
directed route that is too long. -/
theorem madBuildPkt_decodes {dport : PortId} (h : rpc.Encodable dport.drpath data) (s : TridState) :
    ((rpc.mgtclass % 256 = ibSmiDirectClass → dport.drpath.cnt < ibSubnetPathHopsMax) →
      madBuildPktLength (madBuildPkt rpc dport data s) = 256 ∧
        ∃ mad, madBuildPkt rpc dport data s = some (mad, rpc, s) ∧ mad.length = 256 ∧
          Decodes mad rpc dport.drpath data) ∧
    (rpc.mgtclass % 256 = ibSmiDirectClass → ibSubnetPathHopsMax ≤ dport.drpath.cnt →
      madBuildPktLength (madBuildPkt rpc dport data s) = -1) := by
  constructor
  · intro hcnt
    have hbuilt : madBuildPkt rpc dport data s = some (rpc.packet dport.drpath data, rpc, s) :=
      madEncode_eq data s h.trid hcnt
    refine ⟨by rw [hbuilt]; rfl, _, hbuilt, packet_length data, h.decodes hcnt⟩
  · intro hdirect hlong
    have hnone : madBuildPkt rpc dport data s = none := by
      simp [madBuildPkt, madEncode, hdirect, hlong]
    rw [hnone]
    rfl

end Decode

section Cases

def zeroTrids : TridState := ⟨0, 0⟩

/-- A reply along a route of one hop. -/
def nodeInfoReply : Rpc where
  mgtclass := ibSmiDirectClass
  method := 0x81
  attrId := ibAttrNodeInfo
  attrMod := 0
  dataoffs := ibSmpDataOffs
  datasz := 3
  mkey := 7
  trid := 5
  timeout := 0

def oneHop : PortId := ⟨0, ⟨1, (Vector.replicate 64 0).set 1 19, 0, 12⟩⟩

theorem nodeInfoReply_encodable : nodeInfoReply.Encodable oneHop.drpath (some [1, 2, 3]) := by
  refine ⟨by decide, by decide, by decide, by decide, by decide, ?_, by decide, by decide⟩
  intro d hd
  cases hd
  exact ⟨rfl, by decide, by decide⟩

theorem madBuildPkt_decodes_nodeInfoReply :
    ∃ mad, madBuildPkt nodeInfoReply oneHop (some [1, 2, 3]) zeroTrids =
        some (mad, nodeInfoReply, zeroTrids) ∧ mad.length = 256 ∧
      Decodes mad nodeInfoReply oneHop.drpath (some [1, 2, 3]) :=
  ((madBuildPkt_decodes nodeInfoReply_encodable zeroTrids).1 fun _ => by decide).2

/-- A request of `bm_call_via`, whose payload starts with the BKey. -/
def boardCall : Rpc where
  mgtclass := 5
  method := ibMadMethodGet
  attrId := 1
  attrMod := 0
  dataoffs := ibVendorRange1DataOffs
  datasz := 8
  mkey := 0
  trid := 5
  timeout := 0

def boardData : Bytes := [0, 0, 0, 0, 0, 0, 0, 9]

theorem boardCall_encodable : boardCall.Encodable oneHop.drpath (some boardData) := by
  refine ⟨by decide, by decide, by decide, by decide, by decide, ?_, by decide, by decide⟩
  intro d hd
  cases hd
  exact ⟨rfl, by decide, by decide⟩

/-- The M_Key that is decoded is the payload's. -/
theorem boardCall_mkey : boardCall.Encodable oneHop.drpath (some boardData) ∧
    boardCall.mkey = 0 ∧ (madBuildPkt boardCall oneHop (some boardData) zeroTrids).map
      (fun built => madGetField64 built.1 0 .madMkey) = some 9 :=
  ⟨boardCall_encodable, rfl, by decide +kernel⟩

end Cases
end InfinibandDiags
