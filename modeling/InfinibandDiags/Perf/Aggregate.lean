import InfinibandDiags.Errors.Thresholds

/-! The counters of all ports of a node as perfquery adds them up, where the node itself has no
AllPortSelect. -/
namespace InfinibandDiags

/-! Numbers of `enum MAD_FIELDS`. -/

def ibPcPortSelect : Nat := 121
def ibPcCounterSelect : Nat := 122
def ibPcLinkRecovers : Nat := 124
def ibPcLinkDowned : Nat := 125
def ibPcErrPhysrcv : Nat := 127
def ibPcErrSwitchRel : Nat := 128
def ibPcErrXmtconstr : Nat := 130
def ibPcErrRcvconstr : Nat := 131
def ibPcXmtBytes : Nat := 136
def ibPcRcvBytes : Nat := 137
def ibPcXmtPkts : Nat := 138
def ibPcRcvPkts : Nat := 139
def ibPcQp1Drop : Nat := 659
def ibPcExtPortSelect : Nat := 194
def ibPcExtCounterSelect : Nat := 195
def ibPcExtXmtBytes : Nat := 196
def ibPcExtRcvBytes : Nat := 197
def ibPcExtXmtPkts : Nat := 198
def ibPcExtRcvPkts : Nat := 199
def ibPcExtXmtUpkts : Nat := 200
def ibPcExtRcvUpkts : Nat := 201
def ibPcExtXmtMpkts : Nat := 202
def ibPcExtRcvMpkts : Nat := 203
def ibPcExtCounterSelect2 : Nat := 643
def ibPcExtLinkRecovers : Nat := 645
def ibPcExtLinkDowned : Nat := 646
def ibPcExtErrRcv : Nat := 647
def ibPcExtErrPhysrcv : Nat := 648
def ibPcExtErrSwitchRel : Nat := 649
def ibPcExtXmtDiscards : Nat := 650
def ibPcExtErrXmtconstr : Nat := 651
def ibPcExtErrRcvconstr : Nat := 652
def ibPcExtQp1Drop : Nat := 657

/-- The buffer `pc` of perfquery.c. -/
abbrev PcBuffer := Vector UInt8 1024

structure PerfCount where
  portselect : UInt32 := 0
  counterselect : UInt32 := 0
  symbolerrors : UInt32 := 0
  linkrecovers : UInt32 := 0
  linkdowned : UInt32 := 0
  rcverrors : UInt32 := 0
  rcvremotephyerrors : UInt32 := 0
  rcvswrelayerrors : UInt32 := 0
  xmtdiscards : UInt32 := 0
  xmtconstrainterrors : UInt32 := 0
  rcvconstrainterrors : UInt32 := 0
  linkintegrityerrors : UInt32 := 0
  excbufoverrunerrors : UInt32 := 0
  qp1dropped : UInt32 := 0
  vl15dropped : UInt32 := 0
  xmtdata : UInt32 := 0
  rcvdata : UInt32 := 0
  xmtpkts : UInt32 := 0
  rcvpkts : UInt32 := 0
  xmtwait : UInt32 := 0

structure PerfCountExt where
  portselect : UInt32 := 0
  counterselect : UInt32 := 0
  portxmitdata : UInt64 := 0
  portrcvdata : UInt64 := 0
  portxmitpkts : UInt64 := 0
  portrcvpkts : UInt64 := 0
  portunicastxmitpkts : UInt64 := 0
  portunicastrcvpkts : UInt64 := 0
  portmulticastxmitpkits : UInt64 := 0
  portmulticastrcvpkts : UInt64 := 0
  counterSelect2 : UInt32 := 0
  symbolErrorCounter : UInt64 := 0
  linkErrorRecoveryCounter : UInt64 := 0
  linkDownedCounter : UInt64 := 0
  portRcvErrors : UInt64 := 0
  portRcvRemotePhysicalErrors : UInt64 := 0
  portRcvSwitchRelayErrors : UInt64 := 0
  portXmitDiscards : UInt64 := 0
  portXmitConstraintErrors : UInt64 := 0
  portRcvConstraintErrors : UInt64 := 0
  localLinkIntegrityErrors : UInt64 := 0
  excessiveBufferOverrunErrors : UInt64 := 0
  vl15Dropped : UInt64 := 0
  portXmitWait : UInt64 := 0
  qp1Dropped : UInt64 := 0

/-- `aggregate_4bit`, `aggregate_8bit` and `aggregate_16bit`. -/
def aggregateUpTo (cap dest val : UInt32) : UInt32 :=
  if dest + val < dest ∨ dest + val > cap then cap else dest + val

def aggregate4bit (dest val : UInt32) : UInt32 := aggregateUpTo 0xf dest val
def aggregate8bit (dest val : UInt32) : UInt32 := aggregateUpTo 0xff dest val
def aggregate16bit (dest val : UInt32) : UInt32 := aggregateUpTo 0xffff dest val

def aggregate32bit (dest val : UInt32) : UInt32 :=
  if dest + val < dest then 0xffffffff else dest + val

def aggregate64bit (dest val : UInt64) : UInt64 :=
  if dest + val < dest then 0xffffffffffffffff else dest + val

/-- `mad_decode_field` into a `uint32_t`. -/
def decode32 (pc : PcBuffer) (field : Nat) : UInt32 := UInt32.ofNat (decodedUint pc.toList field)

/-- `mad_decode_field` into a `uint64_t`. -/
def decode64 (pc : PcBuffer) (field : Nat) : UInt64 := UInt64.ofNat (decodedUint pc.toList field)

def aggregatePerfcounters (c : PerfCount) (pc : PcBuffer) : PerfCount where
  portselect := decode32 pc ibPcPortSelect
  counterselect := decode32 pc ibPcCounterSelect
  symbolerrors := aggregate16bit c.symbolerrors (decode32 pc ibPcErrSym)
  linkrecovers := aggregate8bit c.linkrecovers (decode32 pc ibPcLinkRecovers)
  linkdowned := aggregate8bit c.linkdowned (decode32 pc ibPcLinkDowned)
  rcverrors := aggregate16bit c.rcverrors (decode32 pc ibPcErrRcv)
  rcvremotephyerrors := aggregate16bit c.rcvremotephyerrors (decode32 pc ibPcErrPhysrcv)
  rcvswrelayerrors := aggregate16bit c.rcvswrelayerrors (decode32 pc ibPcErrSwitchRel)
  xmtdiscards := aggregate16bit c.xmtdiscards (decode32 pc ibPcXmtDiscards)
  xmtconstrainterrors := aggregate8bit c.xmtconstrainterrors (decode32 pc ibPcErrXmtconstr)
  rcvconstrainterrors := aggregate8bit c.rcvconstrainterrors (decode32 pc ibPcErrRcvconstr)
  linkintegrityerrors := aggregate4bit c.linkintegrityerrors (decode32 pc ibPcErrLocalInteg)
  excbufoverrunerrors := aggregate4bit c.excbufoverrunerrors (decode32 pc ibPcErrExcessOvr)
  qp1dropped := aggregate16bit c.qp1dropped (decode32 pc ibPcQp1Drop)
  vl15dropped := aggregate16bit c.vl15dropped (decode32 pc ibPcVl15Dropped)
  xmtdata := aggregate32bit c.xmtdata (decode32 pc ibPcXmtBytes)
  rcvdata := aggregate32bit c.rcvdata (decode32 pc ibPcRcvBytes)
  xmtpkts := aggregate32bit c.xmtpkts (decode32 pc ibPcXmtPkts)
  rcvpkts := aggregate32bit c.rcvpkts (decode32 pc ibPcRcvPkts)
  xmtwait := aggregate32bit c.xmtwait (decode32 pc ibPcXmtWait)

/-- `mad_encode_field` of one object after the other. -/
def encodeAll (pc : Bytes) (ws : List (Nat × Bytes)) : Bytes :=
  ws.foldl (fun pc w => madEncodeField pc w.1 w.2) pc

def object32 (val : UInt32) : Bytes := LittleEndian.toBytes 4 val.toNat

def object64 (val : UInt64) : Bytes := LittleEndian.toBytes 8 val.toNat

def allPorts : UInt32 := 0xff

/-- What `output_aggregate_perfcounters` encodes. -/
def PerfCount.encoded (c : PerfCount) : List (Nat × Bytes) :=
  [(ibPcPortSelect, object32 allPorts), (ibPcCounterSelect, object32 c.counterselect),
    (ibPcErrSym, object32 c.symbolerrors), (ibPcLinkRecovers, object32 c.linkrecovers),
    (ibPcLinkDowned, object32 c.linkdowned), (ibPcErrRcv, object32 c.rcverrors),
    (ibPcErrPhysrcv, object32 c.rcvremotephyerrors),
    (ibPcErrSwitchRel, object32 c.rcvswrelayerrors), (ibPcXmtDiscards, object32 c.xmtdiscards),
    (ibPcErrXmtconstr, object32 c.xmtconstrainterrors),
    (ibPcErrRcvconstr, object32 c.rcvconstrainterrors),
    (ibPcErrLocalInteg, object32 c.linkintegrityerrors),
    (ibPcErrExcessOvr, object32 c.excbufoverrunerrors), (ibPcQp1Drop, object32 c.qp1dropped),
    (ibPcVl15Dropped, object32 c.vl15dropped), (ibPcXmtBytes, object32 c.xmtdata),
    (ibPcRcvBytes, object32 c.rcvdata), (ibPcXmtPkts, object32 c.xmtpkts),
    (ibPcRcvPkts, object32 c.rcvpkts), (ibPcXmtWait, object32 c.xmtwait)]

/-- The buffer that `output_aggregate_perfcounters` dumps. -/
def outputAggregatePerfcounters (c : PerfCount) (pc : PcBuffer) : Bytes :=
  encodeAll pc.toList c.encoded

/-- `cap_mask & IB_PM_EXT_WIDTH_SUPPORTED`. -/
def PmCaps.extWidthSupported (caps : PmCaps) : Bool := caps.capMask &&& 0x200 ≠ 0

section Extended
variable (caps : PmCaps)

def aggregateUnicast (c : PerfCountExt) (pc : PcBuffer) : PerfCountExt :=
  if caps.extWidthSupported then
    { c with
      portunicastxmitpkts := aggregate64bit c.portunicastxmitpkts (decode64 pc ibPcExtXmtUpkts)
      portunicastrcvpkts := aggregate64bit c.portunicastrcvpkts (decode64 pc ibPcExtRcvUpkts)
      portmulticastxmitpkits := aggregate64bit c.portmulticastxmitpkits (decode64 pc ibPcExtXmtMpkts)
      portmulticastrcvpkts := aggregate64bit c.portmulticastrcvpkts (decode64 pc ibPcExtRcvMpkts) }
  else c

def aggregateErrors (c : PerfCountExt) (pc : PcBuffer) : PerfCountExt :=
  if caps.addlPortCtrsExt then
    { c with
      counterSelect2 := decode32 pc ibPcExtCounterSelect2
      symbolErrorCounter := aggregate64bit c.symbolErrorCounter (decode64 pc ibPcExtErrSym)
      linkErrorRecoveryCounter :=
        aggregate64bit c.linkErrorRecoveryCounter (decode64 pc ibPcExtLinkRecovers)
      linkDownedCounter := aggregate64bit c.linkDownedCounter (decode64 pc ibPcExtLinkDowned)
      portRcvErrors := aggregate64bit c.portRcvErrors (decode64 pc ibPcExtErrRcv)
      portRcvRemotePhysicalErrors :=
        aggregate64bit c.portRcvRemotePhysicalErrors (decode64 pc ibPcExtErrPhysrcv)
      portRcvSwitchRelayErrors :=
        aggregate64bit c.portRcvSwitchRelayErrors (decode64 pc ibPcExtErrSwitchRel)
      portXmitDiscards := aggregate64bit c.portXmitDiscards (decode64 pc ibPcExtXmtDiscards)
      portXmitConstraintErrors :=
        aggregate64bit c.portXmitConstraintErrors (decode64 pc ibPcExtErrXmtconstr)
      portRcvConstraintErrors :=
        aggregate64bit c.portRcvConstraintErrors (decode64 pc ibPcExtErrRcvconstr)
      localLinkIntegrityErrors :=
        aggregate64bit c.localLinkIntegrityErrors (decode64 pc ibPcExtErrLocalInteg)
      excessiveBufferOverrunErrors :=
        aggregate64bit c.excessiveBufferOverrunErrors (decode64 pc ibPcExtErrExcessOvr)
      vl15Dropped := aggregate64bit c.vl15Dropped (decode64 pc ibPcExtVl15Dropped)
      portXmitWait := aggregate64bit c.portXmitWait (decode64 pc ibPcExtXmtWait)
      qp1Dropped := aggregate64bit c.qp1Dropped (decode64 pc ibPcExtQp1Drop) }
  else c

def aggregatePerfcountersExt (c : PerfCountExt) (pc : PcBuffer) : PerfCountExt :=
  let c := { c with
    portselect := decode32 pc ibPcExtPortSelect
    counterselect := decode32 pc ibPcExtCounterSelect
    portxmitdata := aggregate64bit c.portxmitdata (decode64 pc ibPcExtXmtBytes)
    portrcvdata := aggregate64bit c.portrcvdata (decode64 pc ibPcExtRcvBytes)
    portxmitpkts := aggregate64bit c.portxmitpkts (decode64 pc ibPcExtXmtPkts)
    portrcvpkts := aggregate64bit c.portrcvpkts (decode64 pc ibPcExtRcvPkts) }
  aggregateErrors caps (aggregateUnicast caps c pc) pc

/-- What `output_aggregate_perfcounters_ext` encodes. -/
def PerfCountExt.encoded (c : PerfCountExt) : List (Nat × Bytes) :=
  [(ibPcExtPortSelect, object32 allPorts), (ibPcExtCounterSelect, object32 c.counterselect),
    (ibPcExtXmtBytes, object64 c.portxmitdata), (ibPcExtRcvBytes, object64 c.portrcvdata),
    (ibPcExtXmtPkts, object64 c.portxmitpkts), (ibPcExtRcvPkts, object64 c.portrcvpkts)] ++
  (if caps.extWidthSupported then
    [(ibPcExtXmtUpkts, object64 c.portunicastxmitpkts),
      (ibPcExtRcvUpkts, object64 c.portunicastrcvpkts),
      (ibPcExtXmtMpkts, object64 c.portmulticastxmitpkits),
      (ibPcExtRcvMpkts, object64 c.portmulticastrcvpkts)]
  else []) ++
  (if caps.addlPortCtrsExt then
    [(ibPcExtCounterSelect2, object32 c.counterSelect2),
      (ibPcExtErrSym, object64 c.symbolErrorCounter),
      (ibPcExtLinkRecovers, object64 c.linkErrorRecoveryCounter),
      (ibPcExtLinkDowned, object64 c.linkDownedCounter), (ibPcExtErrRcv, object64 c.portRcvErrors),
      (ibPcExtErrPhysrcv, object64 c.portRcvRemotePhysicalErrors),
      (ibPcExtErrSwitchRel, object64 c.portRcvSwitchRelayErrors),
      (ibPcExtXmtDiscards, object64 c.portXmitDiscards),
      (ibPcExtErrXmtconstr, object64 c.portXmitConstraintErrors),
      (ibPcExtErrRcvconstr, object64 c.portRcvConstraintErrors),
      (ibPcExtErrLocalInteg, object64 c.localLinkIntegrityErrors),
      (ibPcExtErrExcessOvr, object64 c.excessiveBufferOverrunErrors),
      (ibPcExtVl15Dropped, object64 c.vl15Dropped), (ibPcExtXmtWait, object64 c.portXmitWait),
      (ibPcExtQp1Drop, object64 c.qp1Dropped)]
  else [])

/-- The buffer that `output_aggregate_perfcounters_ext` dumps. -/
def outputAggregatePerfcountersExt (c : PerfCountExt) (pc : PcBuffer) : Bytes :=
  encodeAll pc.toList (c.encoded caps)

end Extended

/-- The counters that `aggregate_perfcounters` adds up, each with its accumulator. -/
def PerfCount.counters (c : PerfCount) : List (Nat × Nat) :=
  [(ibPcErrSym, c.symbolerrors.toNat), (ibPcLinkRecovers, c.linkrecovers.toNat),
    (ibPcLinkDowned, c.linkdowned.toNat), (ibPcErrRcv, c.rcverrors.toNat),
    (ibPcErrPhysrcv, c.rcvremotephyerrors.toNat), (ibPcErrSwitchRel, c.rcvswrelayerrors.toNat),
    (ibPcXmtDiscards, c.xmtdiscards.toNat), (ibPcErrXmtconstr, c.xmtconstrainterrors.toNat),
    (ibPcErrRcvconstr, c.rcvconstrainterrors.toNat),
    (ibPcErrLocalInteg, c.linkintegrityerrors.toNat),
    (ibPcErrExcessOvr, c.excbufoverrunerrors.toNat), (ibPcQp1Drop, c.qp1dropped.toNat),
    (ibPcVl15Dropped, c.vl15dropped.toNat), (ibPcXmtBytes, c.xmtdata.toNat),
    (ibPcRcvBytes, c.rcvdata.toNat), (ibPcXmtPkts, c.xmtpkts.toNat),
    (ibPcRcvPkts, c.rcvpkts.toNat), (ibPcXmtWait, c.xmtwait.toNat)]

namespace PerfCountExt
variable (c : PerfCountExt)

def baseCounters : List (Nat × Nat) :=
  [(ibPcExtXmtBytes, c.portxmitdata.toNat), (ibPcExtRcvBytes, c.portrcvdata.toNat),
    (ibPcExtXmtPkts, c.portxmitpkts.toNat), (ibPcExtRcvPkts, c.portrcvpkts.toNat)]

def unicastCounters : List (Nat × Nat) :=
  [(ibPcExtXmtUpkts, c.portunicastxmitpkts.toNat), (ibPcExtRcvUpkts, c.portunicastrcvpkts.toNat),
    (ibPcExtXmtMpkts, c.portmulticastxmitpkits.toNat),
    (ibPcExtRcvMpkts, c.portmulticastrcvpkts.toNat)]

def errorCounters : List (Nat × Nat) :=
  [(ibPcExtErrSym, c.symbolErrorCounter.toNat),
    (ibPcExtLinkRecovers, c.linkErrorRecoveryCounter.toNat),
    (ibPcExtLinkDowned, c.linkDownedCounter.toNat), (ibPcExtErrRcv, c.portRcvErrors.toNat),
    (ibPcExtErrPhysrcv, c.portRcvRemotePhysicalErrors.toNat),
    (ibPcExtErrSwitchRel, c.portRcvSwitchRelayErrors.toNat),
    (ibPcExtXmtDiscards, c.portXmitDiscards.toNat),
    (ibPcExtErrXmtconstr, c.portXmitConstraintErrors.toNat),
    (ibPcExtErrRcvconstr, c.portRcvConstraintErrors.toNat),
    (ibPcExtErrLocalInteg, c.localLinkIntegrityErrors.toNat),
    (ibPcExtErrExcessOvr, c.excessiveBufferOverrunErrors.toNat),
    (ibPcExtVl15Dropped, c.vl15Dropped.toNat), (ibPcExtXmtWait, c.portXmitWait.toNat),
    (ibPcExtQp1Drop, c.qp1Dropped.toNat)]

/-- The extended counters that the masks announce, each with its accumulator. -/
def counters (caps : PmCaps) : List (Nat × Nat) :=
  c.baseCounters ++ (if caps.extWidthSupported then c.unicastCounters else []) ++
    if caps.addlPortCtrsExt then c.errorCounters else []

end PerfCountExt
end InfinibandDiags
