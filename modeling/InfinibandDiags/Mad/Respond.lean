import InfinibandDiags.Fault
import InfinibandDiags.Mad.Header

/-! `mad_respond_via` (serv.c), which writes a response over the request it answers. -/
namespace InfinibandDiags

def ibMadMethodSet : Nat := 0x2
def ibMadMethodSend : Nat := 0x3

def respondMethod (method : Nat) : Nat :=
  let method := if method = ibMadMethodSet then ibMadMethodGet else method
  if method ≠ ibMadMethodSend then method ||| ibMadResponse else method

/-- The `ib_rpc_t` of the response. What is not set here is cleared. -/
def respondRpc (mad : Bytes) (rstatus : Nat) : Rpc where
  mgtclass := madGetField mad 0 .madMgmtclass
  method := respondMethod (madGetField mad 0 .madMethod)
  attrId := madGetField mad 0 .madAttrid
  attrMod := madGetField mad 0 .madAttrmod
  rstatus := rstatus
  dataoffs := 0
  datasz := 0
  mkey := 0
  trid := madGetField64 mad 0 .madTrid
  timeout := 0
  oui := if madIsVendorRange2 (madGetField mad 0 .madMgmtclass) then madGetField mad 0 .vend2Oui
    else 0

/-- The MAD that `mad_respond_via` sends. `sourceLid` is where the request came from, for a caller
that names no destination. -/
def madRespondVia (mad : Bytes) (portid : Option PortId) (sourceLid rstatus : Nat) (s : TridState) :
    Except Fault (Option (Bytes × Rpc × TridState)) :=
  let rpc := respondRpc mad rstatus
  let portid := portid.getD ⟨sourceLid, .empty⟩
  -- the `ib_rpc_t` on the stack ends before the CC key that `mad_encode` reads
  if rpc.mgtclass % 256 = ibCcClass then .error .outOfBounds
  else .ok (madEncode mad rpc
    (if rpc.mgtclass % 256 ≠ ibSmiDirectClass then none else some portid.drpath) none s)

/-- Where the data area of a class begins. -/
def respondOffs (mgtclass : Nat) : Nat :=
  if mgtclass = ibSaClass then ibSaDataOffs
  else if madIsVendorRange2 mgtclass then ibVendorRange2DataOffs
  else ibSmpDataOffs

/-- What a response has in common with its request. -/
structure Mirrors (req resp : Bytes) (rstatus : Nat) : Prop where
  length : resp.length = ibMadSize
  mgmtclass : madGetField resp 0 .madMgmtclass = madGetField req 0 .madMgmtclass
  attrid : madGetField resp 0 .madAttrid = madGetField req 0 .madAttrid
  attrmod : madGetField resp 0 .madAttrmod = madGetField req 0 .madAttrmod
  trid : madGetField64 resp 0 .madTrid = madGetField64 req 0 .madTrid
  status : madGetField resp 0 .madStatus = rstatus
  oui : madIsVendorRange2 (madGetField req 0 .madMgmtclass) →
    madGetField resp 0 .vend2Oui = madGetField req 0 .vend2Oui
  method : madGetField resp 0 .madMethod =
    if madGetField req 0 .madMethod = ibMadMethodSet then ibMadMethodGet
    else madGetField req 0 .madMethod
  response : madGetField resp 0 .madResponse =
    if madGetField req 0 .madMethod = ibMadMethodSend then 0 else 1
  payload : ∀ i, respondOffs (madGetField req 0 .madMgmtclass) ≤ i → byteAt resp i = byteAt req i

def RespondExact (req : Bytes) (portid : Option PortId) (sourceLid rstatus : Nat) (s : TridState) :
    Prop :=
  ∃ resp rpc s', madRespondVia req portid sourceLid rstatus s = .ok (some (resp, rpc, s')) ∧
    Mirrors req resp rstatus

theorem respondMethod_split : ∀ m < 2 ^ 7,
    respondMethod m % 2 ^ 7 = (if m = ibMadMethodSet then ibMadMethodGet else m) ∧
      (respondMethod m &&& ibMadResponse ≠ 0 ↔ m ≠ ibMadMethodSend) := by
  decide +kernel

/-- Where the header ends, without the fields of directed routes and of congestion control. -/
theorem headerFields_end (resp sa : Bool) : ∀ f ∈ headerFields false resp sa false,
    ((ibMadF f).bitoffs + (ibMadF f).bitlen + 31) / 32 * 4 ≤
      if sa then ibSaDataOffs else ibVendorRange2DataOffs := by
  revert resp sa
  decide +kernel

section Respond
variable {req : Bytes} {portid : Option PortId} {sourceLid rstatus : Nat} {s : TridState}

/-- The response is made of the request's header fields, of the draw for its transaction id and of
what it leaves of the request. -/
def respondSent (req : Bytes) (rstatus : Nat) (s : TridState) : Rpc :=
  { respondRpc req rstatus with trid := ((respondRpc req rstatus).drawn s).1 }

def responseOf (req : Bytes) (path : DrPath) (rstatus : Nat) (s : TridState) : Bytes :=
  writeAll (writeAll req ((respondSent req rstatus s).headerWrites path))
    (respondSent req rstatus s).vendorWrites

theorem respondSent_class :
    (respondSent req rstatus s).mgtclass % 256 = madGetField req 0 .madMgmtclass := by
  have hbyte : madGetField req 0 .madMgmtclass < 2 ^ (ibMadF .madMgmtclass).bitlen :=
    getField_lt_width (by decide) req 0
  exact Nat.mod_eq_of_lt hbyte

theorem madRespondVia_eq (hdirect : madGetField req 0 .madMgmtclass ≠ ibSmiDirectClass)
    (hcc : madGetField req 0 .madMgmtclass ≠ ibCcClass) :
    madRespondVia req portid sourceLid rstatus s =
      .ok (some (responseOf req (portid.getD ⟨sourceLid, .empty⟩).drpath rstatus s,
        respondSent req rstatus s, ((respondRpc req rstatus).drawn s).2)) := by
  have hclass : (respondRpc req rstatus).mgtclass % 256 = madGetField req 0 .madMgmtclass :=
    @respondSent_class req rstatus s
  rw [madRespondVia, if_neg (hclass.symm ▸ hcc), madEncode_writes]
  · rfl
  · exact fun h => absurd (hclass.symm.trans h) hdirect

variable {path : DrPath}

/-- A field of the header, of a request of another class than directed routes. -/
theorem responseOf_readBack (hlen : req.length = ibMadSize)
    (hdirect : madGetField req 0 .madMgmtclass ≠ ibSmiDirectClass) {f : MadField} {v : FieldValue}
    (hw : (f, v) ∈ (respondSent req rstatus s).headerWrites path) (hmkey : f ≠ .madMkey) :
    v.ReadBack (responseOf req path rstatus s) f := by
  have hlid : ¬ (respondSent req rstatus s).mgtclass % 256 = ibSmiDirectClass :=
    fun h => hdirect (respondSent_class.symm.trans h)
  have hnone : ∀ d ∈ (none : Option Bytes), (respondSent req rstatus s).Carries d :=
    fun d hd => by cases hd
  exact encoded_readBack hlen (fun h => absurd h hlid) hnone hw (fun _ => hmkey)
    fun hf => absurd hf hmkey

theorem responseOf_num (hlen : req.length = ibMadSize)
    (hdirect : madGetField req 0 .madMgmtclass ≠ ibSmiDirectClass) {f : MadField} {val : Nat}
    (hw : (f, FieldValue.num val) ∈ (respondSent req rstatus s).headerWrites path)
    (hmkey : f ≠ .madMkey) (hval : val < 2 ^ (ibMadF f).bitlen) :
    madGetField (responseOf req path rstatus s) 0 f = val :=
  Eq.trans (responseOf_readBack hlen hdirect hw hmkey) (Nat.mod_eq_of_lt hval)

/-- Behind the header of its class the response is the request. -/
theorem responseOf_payload (hlen : req.length = ibMadSize)
    (hdirect : madGetField req 0 .madMgmtclass ≠ ibSmiDirectClass)
    (hcc : madGetField req 0 .madMgmtclass ≠ ibCcClass) {i : Nat}
    (hi : respondOffs (madGetField req 0 .madMgmtclass) ≤ i) :
    byteAt (responseOf req path rstatus s) i = byteAt req i := by
  have hclass := @respondSent_class req rstatus s
  have hlid : (respondSent req rstatus s).mgtclass % 256 = ibSmiDirectClass →
      (respondSent req rstatus s).rstatus < 2 ^ 15 :=
    fun h => absurd (hclass.symm.trans h) hdirect
  have hheader : ∀ w ∈ (respondSent req rstatus s).headerWrites path,
      ((ibMadF w.1).bitoffs + (ibMadF w.1).bitlen + 31) / 32 * 4 ≤ i := by
    intro w hw
    have hmem := mem_headerFields hw
    rw [hclass, decide_eq_false hdirect, decide_eq_false hcc] at hmem
    refine (headerFields_end _ _ _ hmem).trans (le_trans ?_ hi)
    unfold respondOffs
    by_cases hsa : madGetField req 0 .madMgmtclass = ibSaClass
    · simp [hsa]
    · rw [decide_eq_false hsa, if_neg hsa, if_neg Bool.false_ne_true]
      split <;> decide
  have hvendor : ∀ w ∈ (respondSent req rstatus s).vendorWrites,
      ((ibMadF w.1).bitoffs + (ibMadF w.1).bitlen + 31) / 32 * 4 ≤ i := by
    intro w hw
    rw [Rpc.vendorWrites, hclass] at hw
    split at hw
    · next hrange =>
        have hend : ((ibMadF .vend2Oui).bitoffs + (ibMadF .vend2Oui).bitlen + 31) / 32 * 4 ≤
            ibVendorRange2DataOffs := by decide
        rw [List.mem_singleton.mp hw]
        refine hend.trans (le_trans ?_ hi)
        unfold respondOffs
        split_ifs <;> decide
    · cases hw
  have hwritten : (writeAll req ((respondSent req rstatus s).headerWrites path)).length =
      ibMadSize := by
    rw [writeAll_length, hlen]
  rw [responseOf, byteAt_writeAll (vendorWrites_writable hwritten) hvendor,
    byteAt_writeAll (headerWrites_writable hlen hlid) hheader]

/-- Everything but the transaction id. -/
theorem responseOf_mirrors (hlen : req.length = ibMadSize)
    (hdirect : madGetField req 0 .madMgmtclass ≠ ibSmiDirectClass)
    (hcc : madGetField req 0 .madMgmtclass ≠ ibCcClass) (hstatus : rstatus < 2 ^ 16)
    (htrid : madGetField64 (responseOf req path rstatus s) 0 .madTrid =
      madGetField64 req 0 .madTrid) : Mirrors req (responseOf req path rstatus s) rstatus := by
  have hclass := @respondSent_class req rstatus s
  have hlid : ¬ (respondSent req rstatus s).mgtclass % 256 = ibSmiDirectClass :=
    fun h => hdirect (hclass.symm.trans h)
  have hwidth : ∀ f, (ibMadF f).Regular → madGetField req 0 f < 2 ^ (ibMadF f).bitlen :=
    fun f hf => getField_lt_width hf req 0
  have hmethod := respondMethod_split (madGetField req 0 .madMethod) (hwidth .madMethod (by decide))
  constructor
  case length => rw [responseOf, writeAll_length, writeAll_length, hlen]
  case mgmtclass =>
    rw [← hclass]
    exact responseOf_num hlen hdirect (mem_firstWord (by simp [Rpc.firstWord])) (by decide)
      (Nat.mod_lt _ (by decide))
  case attrid =>
    have hword : (MadField.madAttrid, FieldValue.num (madGetField req 0 .madAttrid)) ∈
        (respondSent req rstatus s).commonWords := .tail _ (.head _)
    exact responseOf_num hlen hdirect (mem_commonWords hword) (by decide)
      (hwidth .madAttrid (by decide))
  case attrmod =>
    have hword : (MadField.madAttrmod, FieldValue.num (madGetField req 0 .madAttrmod)) ∈
        (respondSent req rstatus s).commonWords := .tail _ (.tail _ (.head _))
    exact responseOf_num hlen hdirect (mem_commonWords hword) (by decide)
      (hwidth .madAttrmod (by decide))
  case trid => exact htrid
  case status =>
    have hword : (MadField.madStatus, FieldValue.num rstatus) ∈
        (respondSent req rstatus s).secondWord path := by
      rw [Rpc.secondWord, if_neg hlid]
      exact .head _
    exact responseOf_num hlen hdirect (mem_secondWord hword) (by decide) hstatus
  case oui =>
    intro hvendor
    have hoffered : (respondSent req rstatus s).oui = madGetField req 0 .vend2Oui := if_pos hvendor
    refine Eq.trans (@encoded_oui _ path req hlen none (hclass.symm ▸ hvendor)) ?_
    rw [hoffered]
    exact Nat.mod_eq_of_lt (hwidth .vend2Oui (by decide))
  case method =>
    have hword : (MadField.madMethod, FieldValue.num
        (respondMethod (madGetField req 0 .madMethod))) ∈ (respondSent req rstatus s).firstWord :=
      .head _
    exact Eq.trans (responseOf_readBack hlen hdirect (mem_firstWord hword) (by decide)) hmethod.1
  case response =>
    have hword : (MadField.madResponse, FieldValue.num (respondSent req rstatus s).respBit) ∈
        (respondSent req rstatus s).firstWord := .tail _ (.head _)
    refine (responseOf_num hlen hdirect (mem_firstWord hword) (by decide) ?_).trans ?_
    · unfold Rpc.respBit
      split <;> decide
    · have hbit : (respondSent req rstatus s).isResp = true ↔
          madGetField req 0 .madMethod ≠ ibMadMethodSend :=
        decide_eq_true_iff.trans hmethod.2
      rw [Rpc.respBit]
      by_cases hsend : madGetField req 0 .madMethod = ibMadMethodSend
      · rw [if_pos hsend, if_neg fun h => hbit.mp h hsend]
      · rw [if_neg hsend, if_pos (hbit.mpr hsend)]
  case payload => exact fun i hi => responseOf_payload hlen hdirect hcc hi

/-- A request's own transaction id is kept unless it is 0. -/
theorem responseOf_trid (hlen : req.length = ibMadSize)
    (hdirect : madGetField req 0 .madMgmtclass ≠ ibSmiDirectClass) :
    madGetField64 (responseOf req path rstatus s) 0 .madTrid =
      ((respondRpc req rstatus).drawn s).1 := by
  have hword : (MadField.madTrid, FieldValue.num64 ((respondRpc req rstatus).drawn s).1) ∈
      (respondSent req rstatus s).commonWords := .head _
  exact responseOf_readBack hlen hdirect (mem_commonWords hword) (by decide)

/-- What the response's transaction id has to be. -/
theorem RespondExact.drawn_eq (hlen : req.length = ibMadSize)
    (hdirect : madGetField req 0 .madMgmtclass ≠ ibSmiDirectClass)
    (hcc : madGetField req 0 .madMgmtclass ≠ ibCcClass)
    (h : RespondExact req portid sourceLid rstatus s) :
    ((respondRpc req rstatus).drawn s).1 = madGetField64 req 0 .madTrid := by
  obtain ⟨resp, rpc, s', hsent, hmirrors⟩ := h
  rw [madRespondVia_eq hdirect hcc] at hsent
  cases hsent
  exact (responseOf_trid hlen hdirect).symm.trans hmirrors.trid

theorem drawn_eq_iff : ((respondRpc req rstatus).drawn s).1 = madGetField64 req 0 .madTrid ↔
    madGetField64 req 0 .madTrid ≠ 0 ∨ (madTrid s).1 = 0 := by
  have htrid : (respondRpc req rstatus).trid = madGetField64 req 0 .madTrid := rfl
  rw [Rpc.drawn, htrid]
  by_cases hzero : madGetField64 req 0 .madTrid = 0
  · rw [if_pos hzero, hzero]
    simp
  · rw [if_neg hzero]
    exact iff_of_true rfl (.inl hzero)

theorem respondExact_iff (hlen : req.length = ibMadSize)
    (hdirect : madGetField req 0 .madMgmtclass ≠ ibSmiDirectClass)
    (hcc : madGetField req 0 .madMgmtclass ≠ ibCcClass) (hstatus : rstatus < 2 ^ 16) :
    RespondExact req portid sourceLid rstatus s ↔
      madGetField64 req 0 .madTrid ≠ 0 ∨ (madTrid s).1 = 0 := by
  rw [← @drawn_eq_iff req rstatus s]
  refine ⟨fun h => h.drawn_eq hlen hdirect hcc, fun h => ?_⟩
  exact ⟨_, _, _, madRespondVia_eq hdirect hcc, responseOf_mirrors hlen hdirect hcc hstatus
    ((responseOf_trid hlen hdirect).trans h)⟩

/-- A Get of class 4, performance management, with a transaction id. -/
def getRequest (trid : UInt64) : Bytes :=
  writeAll (List.replicate ibMadSize 0)
    [(.madMethod, .num ibMadMethodGet), (.madMgmtclass, .num 4), (.madTrid, .num64 trid)]

theorem respondExact_iff_get : RespondExact (getRequest 5) none 3 0 ⟨0, 0⟩ :=
  (respondExact_iff (by decide +kernel) (by decide +kernel) (by decide +kernel)
    (by decide)).mpr (.inl (by decide +kernel))

/-- Transaction id 0 is answered with the next one of the counter. -/
theorem trid0_replaced : ¬ ∀ (req : Bytes) (portid : Option PortId) (sourceLid rstatus : Nat)
    (s : TridState), req.length = ibMadSize → madGetField req 0 .madMgmtclass ≠ ibSmiDirectClass →
      madGetField req 0 .madMgmtclass ≠ ibCcClass → rstatus < 2 ^ 16 →
        RespondExact req portid sourceLid rstatus s := fun hall => by
  have hlen : (getRequest 0).length = ibMadSize := by decide +kernel
  have hdirect : madGetField (getRequest 0) 0 .madMgmtclass ≠ ibSmiDirectClass := by decide +kernel
  have hcc : madGetField (getRequest 0) 0 .madMgmtclass ≠ ibCcClass := by decide +kernel
  have hexact : RespondExact (getRequest 0) none 3 0 ⟨0, 0⟩ :=
    hall _ _ _ _ _ hlen hdirect hcc (by decide)
  have hdrawn := hexact.drawn_eq hlen hdirect hcc
  revert hdrawn
  decide +kernel

end Respond

end InfinibandDiags
