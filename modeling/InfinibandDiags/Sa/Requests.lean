import InfinibandDiags.Library.Flags

/-! The PathRecord and MCMemberRecord requests that saquery builds from its options. Quantities in
network order are kept as the numbers they stand for. -/
namespace InfinibandDiags
namespace Saquery

/-- `IB_PR_COMPMASK_*`. -/
inductive PrComponent
  | serviceid | sgid | dgid | slid | dlid | hoplimit | flowlabel | tclass | reversible | numbpath
  | pkey | sl | qosClass | mtu | mtuselec | rate | rateselec | pktlifetime | pktlifetimeselec
  deriving DecidableEq

/-- `IB_MCR_COMPMASK_*`. -/
inductive McrComponent
  | mgid | portGid | mlid | qkey | mtu | mtuSel | rate | rateSel | life | lifeSel | tclass | pkey
  | sl | flow | hop | scope | joinState | proxy
  deriving DecidableEq

/-- What the header of the record types gives: the component masks, and how it packs SL, flow label
and hop limit of an MCMemberRecord. -/
structure IbTypes where
  prCompmask : Flags.Masks PrComponent 64
  mcrCompmask : Flags.Masks McrComponent 64
  pathRecSlMask : Nat
  memberSetSlFlowHop : Nat → Nat → Nat → Nat
  pathRecSlMask_eq : pathRecSlMask = 0xf
  memberSetSlFlowHop_eq : ∀ sl flow hop, sl < 2 ^ 4 → flow < 2 ^ 20 → hop < 2 ^ 8 →
    memberSetSlFlowHop sl flow hop = sl * 2 ^ 28 + flow * 2 ^ 8 + hop

/-- The sixteen bytes of an `ibmad_gid_t`. -/
abbrev Gid := BitVec 128

structure QueryParams where
  serviceId : UInt64
  sgid : Gid
  dgid : Gid
  gid : Gid
  mgid : Gid
  slid : UInt16
  dlid : UInt16
  mlid : UInt16
  flowLabel : UInt32
  hopLimit : Int
  tclass : UInt8
  reversible : Int
  numbPath : Int
  pkey : UInt16
  qosClass : Int
  sl : Int
  mtu : UInt8
  rate : UInt8
  pktLife : UInt8
  qkey : UInt32
  scope : UInt8
  joinState : UInt8
  proxyJoin : Int

/-- Before the options are read. -/
def QueryParams.unset : QueryParams where
  serviceId := 0
  sgid := 0
  dgid := 0
  gid := 0
  mgid := 0
  slid := 0
  dlid := 0
  mlid := 0
  flowLabel := 0
  hopLimit := -1
  tclass := 0
  reversible := -1
  numbPath := -1
  pkey := 0
  qosClass := -1
  sl := -1
  mtu := 0
  rate := 0
  pktLife := 0
  qkey := 0
  scope := 0
  joinState := 0
  proxyJoin := -1

/-- The condition of `CHECK_AND_SET_VAL`, on values of the signed type of the size. -/
def differs (val : Int) (size : Nat) (compWith : Int) : Bool :=
  BitVec.ofInt size val ≠ BitVec.ofInt size compWith

/-- `CHECK_AND_SET_VAL`: the target, and the component mask. -/
def checkAndSetVal (val : Int) (size : Nat) (compWith : Int) (target : Nat)
    (mask compMask : BitVec 64) : Nat × BitVec 64 :=
  if differs val size compWith then ((val % 2 ^ size).toNat, compMask ||| mask)
  else (target, compMask)

def validGid (gid : Gid) : Bool := gid ≠ 0

/-- `CHECK_AND_SET_GID`. -/
def checkAndSetGid (val target : Gid) (mask compMask : BitVec 64) : Gid × BitVec 64 :=
  if validGid val then (val, compMask ||| mask) else (target, compMask)

/-- `CHECK_AND_SET_VAL_AND_SEL`. -/
def checkAndSetValAndSel (val target : UInt8) (maskSel mask compMask : BitVec 64) :
    UInt8 × BitVec 64 :=
  if val ≠ 0 then (val, compMask ||| maskSel ||| mask) else (target, compMask)

/-- `ib_path_rec_t`, as far as it is set. -/
structure PathRec where
  serviceId : Nat
  dgid : Gid
  sgid : Gid
  dlid : Nat
  slid : Nat
  hopFlowRaw : Nat
  tclass : Nat
  numPath : Nat
  pkey : Nat
  qosClassSl : Nat
  mtu : UInt8
  rate : UInt8
  pktLife : UInt8

/-- A record and its component mask. -/
structure Request (R : Type) where
  record : R
  compMask : BitVec 64

def queryPathRecords (h : IbTypes) (p : QueryParams) : Request PathRec :=
  let mask := h.prCompmask.bits
  let serviceId := checkAndSetVal p.serviceId.toNat 64 0 0 (mask .serviceid) 0#64
  let sgid := checkAndSetGid p.sgid 0 (mask .sgid) serviceId.2
  let dgid := checkAndSetGid p.dgid 0 (mask .dgid) sgid.2
  let slid := checkAndSetVal p.slid.toNat 16 0 0 (mask .slid) dgid.2
  let dlid := checkAndSetVal p.dlid.toNat 16 0 0 (mask .dlid) slid.2
  let hopFlowRaw := checkAndSetVal p.hopLimit 32 (-1) 0 (mask .hoplimit) dlid.2
  let flow := checkAndSetVal p.flowLabel.toNat 8 0 0 (mask .flowlabel) hopFlowRaw.2
  let tclass := checkAndSetVal p.tclass.toNat 8 0 0 (mask .tclass) flow.2
  let reversible := checkAndSetVal p.reversible 8 (-1) 0 (mask .reversible) tclass.2
  let numPath := checkAndSetVal p.numbPath 8 (-1) 0 (mask .numbpath) reversible.2
  let pkey := checkAndSetVal p.pkey.toNat 16 0 0 (mask .pkey) numPath.2
  let qosClassSl := checkAndSetVal p.sl 16 (-1) 0 (mask .sl) pkey.2
  -- `-1 << 4` is `-16`
  let qosClass := checkAndSetVal (p.qosClass * 2 ^ 4) 16 (-1) 0 (mask .qosClass) qosClassSl.2
  let mtu := checkAndSetValAndSel p.mtu 0 (mask .mtuselec) (mask .mtu) qosClass.2
  let rate := checkAndSetValAndSel p.rate 0 (mask .rateselec) (mask .rate) mtu.2
  let pktLife :=
    checkAndSetValAndSel p.pktLife 0 (mask .pktlifetimeselec) (mask .pktlifetime) rate.2
  { record :=
      { serviceId := serviceId.1
        dgid := dgid.1
        sgid := sgid.1
        dlid := dlid.1
        slid := slid.1
        hopFlowRaw := hopFlowRaw.1 ||| (flow.1 <<< 8) % 2 ^ 32
        tclass := tclass.1
        numPath := (numPath.1 ||| reversible.1 <<< 7) % 2 ^ 8
        pkey := pkey.1
        qosClassSl := qosClassSl.1 &&& h.pathRecSlMask ||| qosClass.1
        mtu := mtu.1
        rate := rate.1
        pktLife := pktLife.1 }
    compMask := pktLife.2 }

/-- `ib_member_rec_t`, as far as it is set. -/
structure MemberRec where
  mgid : Gid
  portGid : Gid
  qkey : Nat
  mlid : Nat
  mtu : UInt8
  tclass : Nat
  pkey : Nat
  rate : UInt8
  pktLife : UInt8
  slFlowHop : Nat
  scopeState : Nat
  proxyJoin : Nat

def queryMcmemberRecords (h : IbTypes) (p : QueryParams) : Request MemberRec :=
  let mask := h.mcrCompmask.bits
  let mgid := checkAndSetGid p.mgid 0 (mask .mgid) 0#64
  let portGid := checkAndSetGid p.gid 0 (mask .portGid) mgid.2
  let mlid := checkAndSetVal p.mlid.toNat 16 0 0 (mask .mlid) portGid.2
  let qkey := checkAndSetVal p.qkey.toNat 32 0 0 (mask .qkey) mlid.2
  let mtu := checkAndSetValAndSel p.mtu 0 (mask .mtuSel) (mask .mtu) qkey.2
  let rate := checkAndSetValAndSel p.rate 0 (mask .rateSel) (mask .rate) mtu.2
  let pktLife := checkAndSetValAndSel p.pktLife 0 (mask .lifeSel) (mask .life) rate.2
  let tclass := checkAndSetVal p.tclass.toNat 8 0 0 (mask .tclass) pktLife.2
  let pkey := checkAndSetVal p.pkey.toNat 16 0 0 (mask .pkey) tclass.2
  let sl := checkAndSetVal p.sl 8 (-1) 0 (mask .sl) pkey.2
  let flow := checkAndSetVal p.flowLabel.toNat 8 0 0 (mask .flow) sl.2
  let hop := checkAndSetVal p.hopLimit 8 (-1) 0 (mask .hop) flow.2
  let scope := checkAndSetVal p.scope.toNat 8 0 0 (mask .scope) hop.2
  let joinState := checkAndSetVal p.joinState.toNat 8 0 0 (mask .joinState) scope.2
  let proxyJoin := checkAndSetVal p.proxyJoin 8 (-1) 0 (mask .proxy) joinState.2
  { record :=
      { mgid := mgid.1
        portGid := portGid.1
        qkey := qkey.1
        mlid := mlid.1
        mtu := mtu.1
        tclass := tclass.1
        pkey := pkey.1
        rate := rate.1
        pktLife := pktLife.1
        slFlowHop := h.memberSetSlFlowHop sl.1 flow.1 hop.1
        scopeState := (joinState.1 ||| scope.1 <<< 4) % 2 ^ 8
        proxyJoin := proxyJoin.1 }
    compMask := proxyJoin.2 }

end Saquery
end InfinibandDiags
