import InfinibandDiags.Mad.Fields

/-! Building a MAD (mad.c): addresses, the transaction id counter and `mad_encode`. -/
namespace InfinibandDiags

def ibSubnetPathHopsMax : Nat := 64
def ibMadSize : Nat := 256
def ibSmpDataOffs : Nat := 64
def ibSmpDataSize : Nat := 64

def ibSmiClass : Nat := 0x1
def ibSmiDirectClass : Nat := 0x81
def ibSaClass : Nat := 0x3
def ibCcClass : Nat := 0x21
def ibMadMethodGet : Nat := 0x1
def ibMadResponse : Nat := 0x80

def ibAttrNodeDesc : Nat := 0x10
def ibAttrNodeInfo : Nat := 0x11
def ibAttrSwitchInfo : Nat := 0x12
def ibAttrPortInfo : Nat := 0x15
def ibAttrLinearforwtbl : Nat := 0x19
def ibAttrMulticastforwtbl : Nat := 0x1b
def ibAttrMlnxExtPortInfo : Nat := 0xff90

/-- `ib_dr_path_t`. Hop `i` of the path leaves through `p[i]`, for `1 ≤ i ≤ cnt`. -/
structure DrPath where
  cnt : Nat
  p : Vector UInt8 64
  drslid : Nat
  drdlid : Nat
  deriving DecidableEq

def DrPath.empty : DrPath := ⟨0, .replicate 64 0, 0, 0⟩

/-- The part of `ib_portid_t` that directed and LID routed SMPs use. -/
structure PortId where
  lid : Nat
  drpath : DrPath
  deriving DecidableEq

/-- `ib_rpc_t`, with the CC key of `ib_rpc_cc_t`. -/
structure Rpc where
  mgtclass : Nat
  method : Nat
  attrId : Nat
  attrMod : Nat
  rstatus : Nat := 0
  dataoffs : Nat
  datasz : Nat
  mkey : UInt64
  trid : UInt64
  mask : UInt64 := 0
  timeout : Nat
  oui : Nat := 0
  cckey : UInt64 := 0
  deriving DecidableEq

/-- The static counter of `mad_trid` and what `random()` answers when it is seeded. -/
structure TridState where
  trid : UInt64
  random : UInt64
  deriving DecidableEq

/-- The counter once `if (!trid)` has seeded it. -/
def TridState.seeded (s : TridState) : UInt64 := if s.trid = 0 then s.random else s.trid

/-- `mad_trid`: only the low 32 bits of the counter are handed out. -/
def madTrid (s : TridState) : UInt64 × TridState :=
  let next := s.seeded + 1
  (UInt64.ofNat (next.toNat % 2 ^ 32), { s with trid := next })

/-- As long as the counter does not wrap, the draws count up from the seed. -/
theorem madTrid_spec {s : TridState} (h : s.seeded.toNat + 1 < 2 ^ 64) :
    (madTrid s).2.seeded.toNat = s.seeded.toNat + 1 ∧
      (madTrid s).1.toNat = (s.seeded.toNat + 1) % 2 ^ 32 := by
  have hnext : (s.seeded + 1).toNat = s.seeded.toNat + 1 := by
    rw [UInt64.toNat_add, UInt64.toNat_one]
    exact Nat.mod_eq_of_lt h
  have hne : s.seeded + 1 ≠ 0 := by
    intro h0
    have := congrArg UInt64.toNat h0
    rw [hnext] at this
    simp at this
  refine ⟨?_, ?_⟩
  · have hseed : (madTrid s).2.seeded = s.seeded + 1 := if_neg hne
    rw [hseed, hnext]
  · simp only [madTrid, hnext, UInt64.toNat_ofNat']
    exact Nat.mod_eq_of_lt (by omega)

def madIsVendorRange2 (mgmt : Nat) : Bool := 0x30 ≤ mgmt && mgmt ≤ 0x4f

/-- `mad_encode`: the encoded buffer, with the transaction id drawn when the caller gave none.
`none` is the NULL returned for a directed route that is absent or too long. -/
def madEncode (buf : Bytes) (rpc : Rpc) (drpath : Option DrPath) (data : Option Bytes)
    (s : TridState) : Option (Bytes × Rpc × TridState) :=
  let isResp := rpc.method &&& ibMadResponse ≠ 0
  let respBit := if isResp then 1 else 0
  let mgtclass := rpc.mgtclass % 256
  -- first word
  let buf := madSetField buf 0 .madMethod rpc.method
  let buf := madSetField buf 0 .madResponse respBit
  let buf := madSetField buf 0 .madClassver
    (if mgtclass = ibSaClass ∨ mgtclass = ibCcClass then 2 else 1)
  let buf := madSetField buf 0 .madMgmtclass mgtclass
  let buf := madSetField buf 0 .madBasever 1
  -- second word
  let second :=
    if mgtclass = ibSmiDirectClass then
      match drpath with
      | none => none
      | some path =>
          if ibSubnetPathHopsMax ≤ path.cnt then none
          else
            let buf := madSetField buf 0 .drsmpHopcnt path.cnt
            let buf := madSetField buf 0 .drsmpHopptr (if isResp then path.cnt + 1 else 0)
            let buf := madSetField buf 0 .drsmpStatus rpc.rstatus
            some (madSetField buf 0 .drsmpDirection respBit)
    else some (madSetField buf 0 .madStatus rpc.rstatus)
  second.map fun buf =>
    -- words 3,4,5,6
    let drawn := if rpc.trid = 0 then madTrid s else (rpc.trid, s)
    let rpc := { rpc with trid := drawn.1 }
    let buf := madSetField64 buf 0 .madTrid rpc.trid
    let buf := madSetField buf 0 .madAttrid rpc.attrId
    let buf := madSetField buf 0 .madAttrmod rpc.attrMod
    -- words 7,8
    let buf := madSetField64 buf 0 .madMkey rpc.mkey
    let buf :=
      if mgtclass = ibSmiDirectClass then
        let path := drpath.getD .empty
        let buf := madSetField buf 0 .drsmpDrdlid (if path.drdlid = 0 then 0xffff else path.drdlid)
        let buf := madSetField buf 0 .drsmpDrslid (if path.drslid = 0 then 0xffff else path.drslid)
        madSetArray buf 0 (if isResp then .drsmpRpath else .drsmpPath) path.p.toList
      else buf
    let buf := if mgtclass = ibSaClass then madSetField64 buf 0 .saCompmask rpc.mask else buf
    let buf := if mgtclass = ibCcClass then madSetField64 buf 0 .ccCckey rpc.cckey else buf
    let buf := match data with
      | some data => copyInto buf rpc.dataoffs (data.take rpc.datasz)
      | none => buf
    let buf := if madIsVendorRange2 mgtclass then madSetField buf 0 .vend2Oui rpc.oui else buf
    (buf, rpc, drawn.2)

/-- `mad_build_pkt` without an RMPP header: the MAD it leaves in the zeroed umad buffer. -/
def madBuildPkt (rpc : Rpc) (dport : PortId) (data : Option Bytes) (s : TridState) :
    Option (Bytes × Rpc × TridState) :=
  let lidRouted := rpc.mgtclass % 256 ≠ ibSmiDirectClass
  madEncode (List.replicate ibMadSize 0) rpc (if lidRouted then none else some dport.drpath) data s

@[simp] theorem madSetField_length (buf : Bytes) (o : Nat) (f : MadField) (v : Nat) :
    (madSetField buf o f v).length = buf.length :=
  setField_length buf o (ibMadF f) v

/-- Whatever is written behind the transaction id leaves it in place. -/
theorem madTrid_kept {buf buf' : Bytes} {trid : UInt64} (hlen : 16 ≤ buf.length)
    (h : ∀ k < 8, byteAt buf' (8 + k) = byteAt (madSetField64 buf 0 .madTrid trid) (8 + k)) :
    madGetField64 buf' 0 .madTrid = trid := by
  refine getField64_congr fun k hk => (h k hk).trans ?_
  exact byteAt_copyInto (by simpa [bigEndian64] using hk) (by simpa [bigEndian64, ibMadF] using hlen)

/-- The MAD carries the transaction id that the caller's `rpc` holds afterwards. -/
theorem madEncode_spec {buf mad : Bytes} {rpc rpc' : Rpc} {drpath : Option DrPath}
    {s s' : TridState} (hlen : 16 ≤ buf.length)
    (h : madEncode buf rpc drpath none s = some (mad, rpc', s')) :
    (rpc', s') = (let drawn := if rpc.trid = 0 then madTrid s else (rpc.trid, s)
      ({ rpc with trid := drawn.1 }, drawn.2)) ∧ madGetField64 mad 0 .madTrid = rpc'.trid := by
  unfold madEncode at h
  obtain ⟨second, hsecond, hrest⟩ := Option.map_eq_some_iff.mp h
  have hlen₂ : 16 ≤ second.length := by
    clear h hrest
    revert hsecond
    split
    · split
      · intro h; cases h
      · split
        · intro h; cases h
        · intro h; rw [← Option.some.inj h]; simpa using hlen
    · intro h; rw [← Option.some.inj h]; simpa using hlen
  simp only [Prod.mk.injEq] at hrest
  obtain ⟨rfl, rfl, rfl⟩ := hrest
  refine ⟨rfl, madTrid_kept hlen₂ fun k hk => ?_⟩
  -- every later field starts in a later word
  have hset : ∀ (b : Bytes) (f : MadField) (v : Nat), 16 ≤ (ibMadF f).bitoffs / 8 →
      byteAt (madSetField b 0 f v) (8 + k) = byteAt b (8 + k) :=
    fun b f v hf => byteAt_setField (by omega)
  have hset64 : ∀ (b : Bytes) (f : MadField) (v : UInt64), 16 ≤ (ibMadF f).bitoffs / 8 →
      byteAt (madSetField64 b 0 f v) (8 + k) = byteAt b (8 + k) :=
    fun b f v hf => byteAt_copyInto_of_lt _ (by omega)
  have harr : ∀ (b : Bytes) (f : MadField) (v : List UInt8), 16 ≤ (ibMadF f).bitoffs / 8 →
      byteAt (madSetArray b 0 f v) (8 + k) = byteAt b (8 + k) :=
    fun b f v hf => byteAt_copyInto_of_lt _ (by omega)
  have hif : ∀ (c : Prop) [Decidable c] {b b' : Bytes}, byteAt b' (8 + k) = byteAt b (8 + k) →
      byteAt (if c then b' else b) (8 + k) = byteAt b (8 + k) := by
    intro c _ b b' heq
    split
    · exact heq
    · rfl
  refine (hif _ (hset _ .vend2Oui _ (by decide))).trans ?_
  refine (hif _ (hset64 _ .ccCckey _ (by decide))).trans ?_
  refine (hif _ (hset64 _ .saCompmask _ (by decide))).trans ?_
  refine (hif _ ((harr _ _ _ ?_).trans ((hset _ .drsmpDrslid _ (by decide)).trans
    (hset _ .drsmpDrdlid _ (by decide))))).trans ?_
  · split <;> decide
  · exact (hset64 _ .madMkey _ (by decide)).trans
      ((hset _ .madAttrmod _ (by decide)).trans (hset _ .madAttrid _ (by decide)))

/-- Only an over-long directed route is refused. -/
theorem madEncode_isSome {buf : Bytes} {rpc : Rpc} {path : DrPath} {s : TridState}
    (h : path.cnt < ibSubnetPathHopsMax) :
    (madEncode buf rpc (if rpc.mgtclass % 256 ≠ ibSmiDirectClass then none else some path)
      none s).isSome := by
  unfold madEncode
  by_cases hc : rpc.mgtclass % 256 = ibSmiDirectClass
  · simp [hc, Nat.not_le.mpr h]
  · simp [hc]

theorem madBuildPkt_spec {rpc rpc' : Rpc} {dport : PortId} {s s' : TridState} {mad : Bytes}
    (h : madBuildPkt rpc dport none s = some (mad, rpc', s')) :
    (rpc', s') = (let drawn := if rpc.trid = 0 then madTrid s else (rpc.trid, s)
      ({ rpc with trid := drawn.1 }, drawn.2)) ∧ madGetField64 mad 0 .madTrid = rpc'.trid :=
  madEncode_spec (by rw [List.length_replicate]; decide) h

end InfinibandDiags
