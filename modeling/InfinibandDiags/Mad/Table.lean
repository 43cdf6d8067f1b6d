import InfinibandDiags.Library.Folds
import InfinibandDiags.Mad.Fields

/-! The field table `ib_mad_f` of fields.c, in the order of `enum MAD_FIELDS`. -/
namespace InfinibandDiags

/-- How an entry of `ib_mad_f` writes its offset and its length. -/
inductive FieldOffs
  | bitsOffs (o w : Nat)
  | beOffs (o w : Nat)
  | plain (bitoffs bitlen : Nat)
  deriving DecidableEq, Repr

def FieldOffs.field : FieldOffs → IbField
  | .bitsOffs o w => InfinibandDiags.bitsOffs o w
  | .beOffs o w => InfinibandDiags.beOffs o w
  | .plain bitoffs bitlen => ⟨bitoffs, bitlen⟩

/-- `ib_field_t` without the dump function. -/
structure FieldEntry where
  offs : FieldOffs
  name : String
  deriving DecidableEq, Repr

def FieldEntry.field (e : FieldEntry) : IbField := e.offs.field

/-- `{}`: an entry that names no field. -/
def reserved : FieldEntry := ⟨.plain 0 0, ""⟩

/-- A run of entries that differ in their number alone. -/
def series (name : String) (count : Nat) (offs : Nat → FieldOffs) : List FieldEntry :=
  (List.range count).map fun i => ⟨offs i, name ++ toString i⟩

def gidFields : List FieldEntry := [⟨.plain 0 64, "GidPrefix"⟩, ⟨.plain 64 64, "GidGuid"⟩]

/-- Header fields: common, direct route, and SA. -/
def madFields : List FieldEntry :=
  [⟨.beOffs 0 7, "MadMethod"⟩, ⟨.beOffs 7 1, "MadIsResponse"⟩, ⟨.beOffs 8 8, "MadClassVersion"⟩,
    ⟨.beOffs 16 8, "MadMgmtClass"⟩, ⟨.beOffs 24 8, "MadBaseVersion"⟩, ⟨.beOffs 48 16, "MadStatus"⟩,
    ⟨.beOffs 32 8, "DrSmpHopCnt"⟩, ⟨.beOffs 40 8, "DrSmpHopPtr"⟩, ⟨.beOffs 48 15, "DrSmpStatus"⟩,
    ⟨.beOffs 63 1, "DrSmpDirection"⟩, ⟨.plain 64 64, "MadTRID"⟩, ⟨.beOffs 144 16, "MadAttr"⟩,
    ⟨.plain 160 32, "MadModifier"⟩, ⟨.plain 192 64, "MadMkey"⟩, ⟨.beOffs 256 16, "DrSmpDLID"⟩,
    ⟨.beOffs 272 16, "DrSmpSLID"⟩, ⟨.plain 288 64, "SaSMkey"⟩, ⟨.beOffs (46 * 8) 16, "SaAttrOffs"⟩,
    ⟨.plain (48 * 8) 64, "SaCompMask"⟩, ⟨.plain (56 * 8) ((256 - 56) * 8), "SaData"⟩]

def dataFields : List FieldEntry :=
  [⟨.plain (64 * 8) ((256 - 64) * 8), "GsData"⟩, ⟨.plain 1024 512, "DrSmpPath"⟩,
    ⟨.plain 1536 512, "DrSmpRetPath"⟩]

/-- PortInfo, up to LinkSpeedSupported. -/
def portInfoFieldsToSpeed : List FieldEntry :=
  [⟨.plain 0 64, "Mkey"⟩, ⟨.plain 64 64, "GidPrefix"⟩, ⟨.bitsOffs 128 16, "Lid"⟩,
    ⟨.bitsOffs 144 16, "SMLid"⟩, ⟨.plain 160 32, "CapMask"⟩, ⟨.bitsOffs 192 16, "DiagCode"⟩,
    ⟨.bitsOffs 208 16, "MkeyLeasePeriod"⟩, ⟨.bitsOffs 224 8, "LocalPort"⟩,
    ⟨.bitsOffs 232 8, "LinkWidthEnabled"⟩, ⟨.bitsOffs 240 8, "LinkWidthSupported"⟩,
    ⟨.bitsOffs 248 8, "LinkWidthActive"⟩, ⟨.bitsOffs 256 4, "LinkSpeedSupported"⟩]

def portStateFields : List FieldEntry :=
  [⟨.bitsOffs 260 4, "LinkState"⟩, ⟨.bitsOffs 264 4, "PhysLinkState"⟩]

def portInfoFieldsFromDownDef : List FieldEntry :=
  [⟨.bitsOffs 268 4, "LinkDownDefState"⟩, ⟨.bitsOffs 272 2, "ProtectBits"⟩,
    ⟨.bitsOffs 277 3, "LMC"⟩, ⟨.bitsOffs 280 4, "LinkSpeedActive"⟩,
    ⟨.bitsOffs 284 4, "LinkSpeedEnabled"⟩, ⟨.bitsOffs 288 4, "NeighborMTU"⟩,
    ⟨.bitsOffs 292 4, "SMSL"⟩, ⟨.bitsOffs 296 4, "VLCap"⟩, ⟨.bitsOffs 300 4, "InitType"⟩,
    ⟨.bitsOffs 304 8, "VLHighLimit"⟩, ⟨.bitsOffs 312 8, "VLArbHighCap"⟩,
    ⟨.bitsOffs 320 8, "VLArbLowCap"⟩, ⟨.bitsOffs 328 4, "InitReply"⟩, ⟨.bitsOffs 332 4, "MtuCap"⟩,
    ⟨.bitsOffs 336 3, "VLStallCount"⟩, ⟨.bitsOffs 339 5, "HoqLife"⟩, ⟨.bitsOffs 344 4, "OperVLs"⟩,
    ⟨.bitsOffs 348 1, "PartEnforceInb"⟩, ⟨.bitsOffs 349 1, "PartEnforceOutb"⟩,
    ⟨.bitsOffs 350 1, "FilterRawInb"⟩, ⟨.bitsOffs 351 1, "FilterRawOutb"⟩,
    ⟨.bitsOffs 352 16, "MkeyViolations"⟩, ⟨.bitsOffs 368 16, "PkeyViolations"⟩,
    ⟨.bitsOffs 384 16, "QkeyViolations"⟩, ⟨.bitsOffs 400 8, "GuidCap"⟩,
    ⟨.bitsOffs 408 1, "ClientReregister"⟩, ⟨.bitsOffs 409 2, "McastPkeyTrapSuppressionEnabled"⟩,
    ⟨.bitsOffs 411 5, "SubnetTimeout"⟩, ⟨.bitsOffs 419 5, "RespTimeVal"⟩,
    ⟨.bitsOffs 424 4, "LocalPhysErr"⟩, ⟨.bitsOffs 428 4, "OverrunErr"⟩,
    ⟨.bitsOffs 432 16, "MaxCreditHint"⟩, ⟨.bitsOffs 456 24, "RoundTrip"⟩]

def nodeInfoFields : List FieldEntry :=
  [⟨.bitsOffs 0 8, "BaseVers"⟩, ⟨.bitsOffs 8 8, "ClassVers"⟩, ⟨.bitsOffs 16 8, "NodeType"⟩,
    ⟨.bitsOffs 24 8, "NumPorts"⟩, ⟨.plain 32 64, "SystemGuid"⟩, ⟨.plain 96 64, "Guid"⟩,
    ⟨.plain 160 64, "PortGuid"⟩, ⟨.bitsOffs 224 16, "PartCap"⟩, ⟨.bitsOffs 240 16, "DevId"⟩,
    ⟨.plain 256 32, "Revision"⟩, ⟨.bitsOffs 288 8, "LocalPort"⟩, ⟨.bitsOffs 296 24, "VendorId"⟩]

def switchInfoFields : List FieldEntry :=
  [⟨.bitsOffs 0 16, "LinearFdbCap"⟩, ⟨.bitsOffs 16 16, "RandomFdbCap"⟩,
    ⟨.bitsOffs 32 16, "McastFdbCap"⟩, ⟨.bitsOffs 48 16, "LinearFdbTop"⟩,
    ⟨.bitsOffs 64 8, "DefPort"⟩, ⟨.bitsOffs 72 8, "DefMcastPrimPort"⟩,
    ⟨.bitsOffs 80 8, "DefMcastNotPrimPort"⟩, ⟨.bitsOffs 88 5, "LifeTime"⟩,
    ⟨.bitsOffs 93 1, "StateChange"⟩, ⟨.bitsOffs 94 2, "OptSLtoVLMapping"⟩,
    ⟨.bitsOffs 96 16, "LidsPerPort"⟩, ⟨.bitsOffs 112 16, "PartEnforceCap"⟩,
    ⟨.bitsOffs 128 1, "InboundPartEnf"⟩, ⟨.bitsOffs 129 1, "OutboundPartEnf"⟩,
    ⟨.bitsOffs 130 1, "FilterRawInbound"⟩, ⟨.bitsOffs 131 1, "FilterRawOutbound"⟩,
    ⟨.bitsOffs 132 1, "EnhancedPort0"⟩, ⟨.bitsOffs 144 16, "MulticastFDBTop"⟩]

def smpTableFields : List FieldEntry :=
  [⟨.plain 0 512, "LinearForwTbl"⟩, ⟨.plain 0 512, "MulticastForwTbl"⟩,
    ⟨.plain 0 (64 * 8), "NodeDesc"⟩]

def noticeFields : List FieldEntry :=
  [⟨.bitsOffs 0 1, "NoticeIsGeneric"⟩, ⟨.bitsOffs 1 7, "NoticeType"⟩,
    ⟨.bitsOffs 8 24, "NoticeProducerType"⟩, ⟨.bitsOffs 32 16, "NoticeTrapNumber"⟩,
    ⟨.bitsOffs 48 16, "NoticeIssuerLID"⟩, ⟨.bitsOffs 64 1, "NoticeToggle"⟩,
    ⟨.bitsOffs 65 15, "NoticeCount"⟩, ⟨.plain 80 432, "NoticeDataDetails"⟩,
    ⟨.bitsOffs 80 16, "NoticeDataLID"⟩, ⟨.bitsOffs 96 16, "NoticeDataTrap144LID"⟩,
    ⟨.bitsOffs 128 32, "NoticeDataTrap144CapMask"⟩]

/-- PortCounters, up to ExcessiveBufferOverrunErrors. -/
def portCountersFieldsToOverrun : List FieldEntry :=
  [⟨.bitsOffs 8 8, "PortSelect"⟩, ⟨.bitsOffs 16 16, "CounterSelect"⟩,
    ⟨.bitsOffs 32 16, "SymbolErrorCounter"⟩, ⟨.bitsOffs 48 8, "LinkErrorRecoveryCounter"⟩,
    ⟨.bitsOffs 56 8, "LinkDownedCounter"⟩, ⟨.bitsOffs 64 16, "PortRcvErrors"⟩,
    ⟨.bitsOffs 80 16, "PortRcvRemotePhysicalErrors"⟩, ⟨.bitsOffs 96 16, "PortRcvSwitchRelayErrors"⟩,
    ⟨.bitsOffs 112 16, "PortXmitDiscards"⟩, ⟨.bitsOffs 128 8, "PortXmitConstraintErrors"⟩,
    ⟨.bitsOffs 136 8, "PortRcvConstraintErrors"⟩, ⟨.bitsOffs 144 8, "CounterSelect2"⟩,
    ⟨.bitsOffs 152 4, "LocalLinkIntegrityErrors"⟩,
    ⟨.bitsOffs 156 4, "ExcessiveBufferOverrunErrors"⟩]

def vl15Dropped : FieldEntry := ⟨.bitsOffs 176 16, "VL15Dropped"⟩

def portCountersFieldsFromXmitData : List FieldEntry :=
  [⟨.plain 192 32, "PortXmitData"⟩, ⟨.plain 224 32, "PortRcvData"⟩,
    ⟨.plain 256 32, "PortXmitPkts"⟩, ⟨.plain 288 32, "PortRcvPkts"⟩,
    ⟨.plain 320 32, "PortXmitWait"⟩]

def smInfoFields : List FieldEntry :=
  [⟨.plain 0 64, "SmInfoGuid"⟩, ⟨.plain 64 64, "SmInfoKey"⟩, ⟨.plain 128 32, "SmActivity"⟩,
    ⟨.bitsOffs 160 4, "SmPriority"⟩, ⟨.bitsOffs 164 4, "SmState"⟩]

def rmppFields : List FieldEntry :=
  [⟨.beOffs (24 * 8 + 24) 8, "RmppVers"⟩, ⟨.beOffs (24 * 8 + 16) 8, "RmppType"⟩,
    ⟨.beOffs (24 * 8 + 11) 5, "RmppResp"⟩, ⟨.beOffs (24 * 8 + 8) 3, "RmppFlags"⟩,
    ⟨.beOffs (24 * 8 + 0) 8, "RmppStatus"⟩, ⟨.plain (28 * 8) 32, "RmppData1"⟩,
    ⟨.plain (28 * 8) 32, "RmppSegNum"⟩, ⟨.plain (32 * 8) 32, "RmppData2"⟩,
    ⟨.plain (32 * 8) 32, "RmppPayload"⟩, ⟨.plain (32 * 8) 32, "RmppNewWin"⟩]

def multiPathFields : List FieldEntry :=
  [⟨.bitsOffs 41 7, "MultiPathNumPath"⟩, ⟨.bitsOffs 120 8, "MultiPathNumSrc"⟩,
    ⟨.bitsOffs 128 8, "MultiPathNumDest"⟩, ⟨.plain 192 128, "MultiPathGid"⟩]

def pathRecordFields : List FieldEntry :=
  [⟨.plain 64 128, "PathRecDGid"⟩, ⟨.plain 192 128, "PathRecSGid"⟩,
    ⟨.bitsOffs 320 16, "PathRecDLid"⟩, ⟨.bitsOffs 336 16, "PathRecSLid"⟩,
    ⟨.bitsOffs 393 7, "PathRecNumPath"⟩, ⟨.bitsOffs 428 4, "PathRecSL"⟩]

def mcMemberFields : List FieldEntry :=
  [⟨.plain 0 128, "McastMemMGid"⟩, ⟨.plain 128 128, "McastMemPortGid"⟩,
    ⟨.plain 256 32, "McastMemQkey"⟩, ⟨.bitsOffs 288 16, "McastMemMLid"⟩,
    ⟨.bitsOffs 352 4, "McastMemSL"⟩, ⟨.bitsOffs 306 6, "McastMemMTU"⟩,
    ⟨.bitsOffs 338 6, "McastMemRate"⟩, ⟨.bitsOffs 312 8, "McastMemTClass"⟩,
    ⟨.bitsOffs 320 16, "McastMemPkey"⟩, ⟨.bitsOffs 356 20, "McastMemFlowLbl"⟩,
    ⟨.bitsOffs 388 4, "McastMemJoinState"⟩, ⟨.bitsOffs 392 1, "McastMemProxyJoin"⟩]

/-- Service record, and the ATS record inside its data. -/
def serviceRecordFields : List FieldEntry :=
  [⟨.plain 0 64, "ServRecID"⟩, ⟨.plain 64 128, "ServRecGid"⟩, ⟨.bitsOffs 192 16, "ServRecPkey"⟩,
    ⟨.plain 224 32, "ServRecLease"⟩, ⟨.plain 256 128, "ServRecKey"⟩,
    ⟨.plain 384 512, "ServRecName"⟩, ⟨.plain 896 512, "ServRecData"⟩,
    ⟨.plain (12 * 8) 32, "ATSNodeAddr"⟩, ⟨.bitsOffs (16 * 8) 16, "ATSMagicKey"⟩,
    ⟨.bitsOffs (18 * 8) 16, "ATSNodeType"⟩, ⟨.plain (32 * 8) (32 * 8), "ATSNodeName"⟩]

/-- SL to VL mapping, VL arbitration, and vendor classes of range 2. -/
def otherTableFields : List FieldEntry :=
  [⟨.plain 0 64, "SLToVLMap"⟩, ⟨.plain 0 512, "VLArbTbl"⟩, ⟨.beOffs (36 * 8) 24, "OUI"⟩,
    ⟨.plain (40 * 8) ((256 - 40) * 8), "Vendor2Data"⟩]

def pcExtSelectFields : List FieldEntry :=
  [⟨.bitsOffs 8 8, "PortSelect"⟩, ⟨.bitsOffs 16 16, "CounterSelect"⟩]

def pcExtFields : List FieldEntry :=
  [⟨.plain 64 64, "PortXmitData"⟩, ⟨.plain 128 64, "PortRcvData"⟩, ⟨.plain 192 64, "PortXmitPkts"⟩,
    ⟨.plain 256 64, "PortRcvPkts"⟩, ⟨.plain 320 64, "PortUnicastXmitPkts"⟩,
    ⟨.plain 384 64, "PortUnicastRcvPkts"⟩, ⟨.plain 448 64, "PortMulticastXmitPkts"⟩,
    ⟨.plain 512 64, "PortMulticastRcvPkts"⟩]

def guid0Field : List FieldEntry := [⟨.plain 0 64, "GUID0"⟩]

def classPortInfoFields : List FieldEntry :=
  [⟨.bitsOffs 0 8, "BaseVersion"⟩, ⟨.bitsOffs 8 8, "ClassVersion"⟩,
    ⟨.bitsOffs 16 16, "CapabilityMask"⟩, ⟨.bitsOffs 32 27, "CapabilityMask2"⟩,
    ⟨.bitsOffs 59 5, "RespTimeVal"⟩, ⟨.plain 64 128, "RedirectGID"⟩,
    ⟨.bitsOffs 192 8, "RedirectTC"⟩, ⟨.bitsOffs 200 4, "RedirectSL"⟩,
    ⟨.bitsOffs 204 20, "RedirectFL"⟩, ⟨.bitsOffs 224 16, "RedirectLID"⟩,
    ⟨.bitsOffs 240 16, "RedirectPKey"⟩, ⟨.bitsOffs 264 24, "RedirectQP"⟩,
    ⟨.plain 288 32, "RedirectQKey"⟩, ⟨.plain 320 128, "TrapGID"⟩, ⟨.bitsOffs 448 8, "TrapTC"⟩,
    ⟨.bitsOffs 456 4, "TrapSL"⟩, ⟨.bitsOffs 460 20, "TrapFL"⟩, ⟨.bitsOffs 480 16, "TrapLID"⟩,
    ⟨.bitsOffs 496 16, "TrapPKey"⟩, ⟨.bitsOffs 512 8, "TrapHL"⟩, ⟨.bitsOffs 520 24, "TrapQP"⟩,
    ⟨.plain 544 32, "TrapQKey"⟩]

def xmtDataSlFields : List FieldEntry := series "XmtDataSL" 16 fun i => .plain (32 + 32 * i) 32

def rcvDataSlFields : List FieldEntry := series "RcvDataSL" 16 fun i => .plain (32 + 32 * i) 32

def xmtDiscFields : List FieldEntry :=
  [⟨.bitsOffs 32 16, "PortInactiveDiscards"⟩, ⟨.bitsOffs 48 16, "PortNeighborMTUDiscards"⟩,
    ⟨.bitsOffs 64 16, "PortSwLifetimeLimitDiscards"⟩,
    ⟨.bitsOffs 80 16, "PortSwHOQLifetimeLimitDiscards"⟩]

def rcvErrFields : List FieldEntry :=
  [⟨.bitsOffs 32 16, "PortLocalPhysicalErrors"⟩, ⟨.bitsOffs 48 16, "PortMalformedPktErrors"⟩,
    ⟨.bitsOffs 64 16, "PortBufferOverrunErrors"⟩, ⟨.bitsOffs 80 16, "PortDLIDMappingErrors"⟩,
    ⟨.bitsOffs 96 16, "PortVLMappingErrors"⟩, ⟨.bitsOffs 112 16, "PortLoopingErrors"⟩]

def portSamplesControlFields : List FieldEntry :=
  [⟨.bitsOffs 0 8, "OpCode"⟩, ⟨.bitsOffs 8 8, "PortSelect"⟩, ⟨.bitsOffs 16 8, "Tick"⟩,
    ⟨.bitsOffs 29 3, "CounterWidth"⟩, ⟨.bitsOffs 34 3, "CounterMask0"⟩,
    ⟨.bitsOffs 37 27, "CounterMasks1to9"⟩, ⟨.bitsOffs 65 15, "CounterMasks10to14"⟩,
    ⟨.bitsOffs 80 8, "SampleMechanisms"⟩, ⟨.bitsOffs 94 2, "SampleStatus"⟩,
    ⟨.plain 96 64, "OptionMask"⟩, ⟨.plain 160 64, "VendorMask"⟩, ⟨.plain 224 32, "SampleStart"⟩,
    ⟨.plain 256 32, "SampleInterval"⟩, ⟨.bitsOffs 288 16, "Tag"⟩] ++
    (series "CounterSelect" 15 fun i => .bitsOffs (304 + 16 * i) 16) ++
    [⟨.plain 576 64, "SamplesOnlyOptionMask"⟩]

def guidInfoFields : List FieldEntry := series "GUID" 8 fun i => .plain (64 * i) 64

def guidInfoRecordFields : List FieldEntry :=
  [⟨.bitsOffs 0 16, "Lid"⟩, ⟨.bitsOffs 16 8, "BlockNum"⟩] ++
    series "Guid" 8 fun i => .plain (64 + 64 * i) 64

def morePortInfoFields : List FieldEntry :=
  [⟨.bitsOffs 480 16, "CapabilityMask2"⟩, ⟨.bitsOffs 496 4, "LinkSpeedExtActive"⟩,
    ⟨.bitsOffs 500 4, "LinkSpeedExtSupported"⟩, ⟨.bitsOffs 507 5, "LinkSpeedExtEnabled"⟩]

def extSpeedsFields : List FieldEntry :=
  [⟨.bitsOffs 8 8, "PortSelect"⟩, ⟨.plain 64 64, "CounterSelect"⟩,
    ⟨.bitsOffs 128 16, "SyncHeaderErrorCounter"⟩, ⟨.bitsOffs 144 16, "UnknownBlockCounter"⟩] ++
    (series "ErrorDetectionCounterLane" 12 fun i => .bitsOffs (160 + 16 * i) 16) ++
    (series "FECCorrectableBlockCtrLane" 12 fun i => .plain (352 + 32 * i) 32) ++
    series "FECUncorrectableBlockCtrLane" 12 fun i => .plain (736 + 32 * i) 32

def opRcvFields : List FieldEntry :=
  [⟨.plain 32 32, "PortOpRcvPkts"⟩, ⟨.plain 64 32, "PortOpRcvData"⟩]

def flowCtlFields : List FieldEntry :=
  [⟨.plain 32 32, "PortXmitFlowPkts"⟩, ⟨.plain 64 32, "PortRcvFlowPkts"⟩]

def vlOpPacketsFields : List FieldEntry :=
  series "PortVLOpPackets" 16 fun i => .bitsOffs (32 + 16 * i) 16

def vlOpDataFields : List FieldEntry := series "PortVLOpData" 16 fun i => .plain (32 + 32 * i) 32

def vlFlowCtlErrorFields : List FieldEntry :=
  series "PortVLXmitFlowCtlUpdateErrors" 16 fun i => .bitsOffs (32 + 2 * i) 2

def vlXmitWaitFields : List FieldEntry :=
  series "PortVLXmitWait" 16 fun i => .bitsOffs (32 + 16 * i) 16

def swVlCongestionFields : List FieldEntry :=
  series "SWPortVLCongestion" 16 fun i => .bitsOffs (32 + 16 * i) 16

def rcvConCtrlFields : List FieldEntry :=
  [⟨.plain 32 32, "PortPktRcvFECN"⟩, ⟨.plain 64 32, "PortPktRcvBECN"⟩]

def slRcvFecnFields : List FieldEntry :=
  series "PortSLRcvFECN" 16 fun i => .plain (32 + 32 * i) 32

def slRcvBecnFields : List FieldEntry :=
  series "PortSLRcvBECN" 16 fun i => .plain (32 + 32 * i) 32

def xmitConCtrlFields : List FieldEntry := [⟨.plain 32 32, "PortXmitTimeCong"⟩]

def vlXmitTimeCongFields : List FieldEntry :=
  series "PortVLXmitTimeCong" 15 fun i => .plain (32 + 32 * i) 32

def mlnxExtPortFields : List FieldEntry :=
  [⟨.bitsOffs 24 8, "StateChangeEnable"⟩, ⟨.bitsOffs 56 8, "LinkSpeedSupported"⟩,
    ⟨.bitsOffs 88 8, "LinkSpeedEnabled"⟩, ⟨.bitsOffs 120 8, "LinkSpeedActive"⟩]

def ccCckeyField : List FieldEntry := [⟨.plain 192 64, "CC_Key"⟩]

def ccInfoFields : List FieldEntry :=
  [⟨.bitsOffs 0 16, "CongestionInfo"⟩, ⟨.bitsOffs 16 8, "ControlTableCap"⟩]

def ccKeyInfoFields : List FieldEntry :=
  [⟨.plain 0 64, "CC_Key"⟩, ⟨.bitsOffs 64 1, "CC_KeyProtectBit"⟩,
    ⟨.bitsOffs 80 16, "CC_KeyLeasePeriod"⟩, ⟨.bitsOffs 96 16, "CC_KeyViolations"⟩]

def ccLogFields : List FieldEntry :=
  [⟨.bitsOffs 0 8, "LogType"⟩, ⟨.bitsOffs 8 8, "CongestionFlags"⟩]

def ccLogSwitchFields : List FieldEntry :=
  [⟨.bitsOffs 16 16, "LogEventsCounter"⟩, ⟨.plain 32 32, "CurrentTimeStamp"⟩,
    ⟨.plain 64 256, "PortMap"⟩]

def ccLogEntrySwitchFields : List FieldEntry :=
  [⟨.bitsOffs 0 16, "SLID"⟩, ⟨.bitsOffs 16 16, "DLID"⟩, ⟨.bitsOffs 32 4, "SL"⟩,
    ⟨.plain 64 32, "Timestamp"⟩]

def ccLogCaFields : List FieldEntry :=
  [⟨.bitsOffs 16 16, "ThresholdEventCounter"⟩, ⟨.bitsOffs 32 16, "ThresholdCongestionEventMap"⟩,
    ⟨.bitsOffs 64 32, "CurrentTimeStamp"⟩]

def ccLogEntryCaFields : List FieldEntry :=
  [⟨.bitsOffs 0 24, "Local_QP_CN_Entry"⟩, ⟨.bitsOffs 24 4, "SL_CN_Entry"⟩,
    ⟨.bitsOffs 28 4, "Service_Type_CN_Entry"⟩, ⟨.bitsOffs 32 24, "Remote_QP_Number_CN_Entry"⟩,
    ⟨.bitsOffs 64 16, "Local_LID_CN"⟩, ⟨.bitsOffs 80 16, "Remote_LID_CN_Entry"⟩,
    ⟨.bitsOffs 96 32, "Timestamp_CN_Entry"⟩]

def ccSwitchSettingFields : List FieldEntry :=
  [⟨.plain 0 32, "Control_Map"⟩, ⟨.plain 32 256, "Victim_Mask"⟩, ⟨.plain 288 256, "Credit_Mask"⟩,
    ⟨.bitsOffs 544 4, "Threshold"⟩, ⟨.bitsOffs 552 8, "Packet_Size"⟩,
    ⟨.bitsOffs 560 4, "CS_Threshold"⟩, ⟨.bitsOffs 576 16, "CS_ReturnDelay"⟩,
    ⟨.bitsOffs 592 16, "Marking_Rate"⟩]

def ccSwitchPortSettingFields : List FieldEntry :=
  [⟨.bitsOffs 0 1, "Valid"⟩, ⟨.bitsOffs 1 1, "Control_Type"⟩, ⟨.bitsOffs 4 4, "Threshold"⟩,
    ⟨.bitsOffs 8 8, "Packet_Size"⟩, ⟨.bitsOffs 16 16, "Cong_Parm_Marking_Rate"⟩]

def ccCaSettingFields : List FieldEntry :=
  [⟨.bitsOffs 0 16, "Port_Control"⟩, ⟨.bitsOffs 16 16, "Control_Map"⟩]

def ccCaEntryFields : List FieldEntry :=
  [⟨.bitsOffs 0 16, "CCTI_Timer"⟩, ⟨.bitsOffs 16 8, "CCTI_Increase"⟩,
    ⟨.bitsOffs 24 8, "Trigger_Threshold"⟩, ⟨.bitsOffs 32 8, "CCTI_Min"⟩]

def ccTableFields : List FieldEntry := [⟨.bitsOffs 0 16, "CCTI_Limit"⟩]

def ccTableEntryFields : List FieldEntry :=
  [⟨.bitsOffs 0 2, "CCT_Shift"⟩, ⟨.bitsOffs 2 14, "CCT_Multiplier"⟩]

def ccTimestampFields : List FieldEntry := [⟨.plain 0 32, "Timestamp"⟩]

def nodeRecordFields : List FieldEntry :=
  [⟨.bitsOffs 0 16, "Lid"⟩, ⟨.bitsOffs 32 8, "BaseVers"⟩, ⟨.bitsOffs 40 8, "ClassVers"⟩,
    ⟨.bitsOffs 48 8, "NodeType"⟩, ⟨.bitsOffs 56 8, "NumPorts"⟩, ⟨.plain 64 64, "SystemGuid"⟩,
    ⟨.plain 128 64, "Guid"⟩, ⟨.plain 192 64, "PortGuid"⟩, ⟨.bitsOffs 256 16, "PartCap"⟩,
    ⟨.bitsOffs 272 16, "DevId"⟩, ⟨.plain 288 32, "Revision"⟩, ⟨.bitsOffs 320 8, "LocalPort"⟩,
    ⟨.bitsOffs 328 24, "VendorId"⟩, ⟨.plain 352 (64 * 8), "NodeDesc"⟩]

def portSamplesResultFields : List FieldEntry :=
  [⟨.bitsOffs 0 16, "Tag"⟩, ⟨.bitsOffs 30 2, "SampleStatus"⟩] ++
    series "Counter" 15 fun i => .plain (32 + 32 * i) 32

/-- PortInfoExtended, up to EDRFECModeSupported. -/
def portInfoExtFields : List FieldEntry :=
  [⟨.plain 0 32, "CapMask"⟩, ⟨.bitsOffs 32 16, "FECModeActive"⟩,
    ⟨.bitsOffs 48 16, "FDRFECModeSupported"⟩, ⟨.bitsOffs 64 16, "FDRFECModeEnabled"⟩,
    ⟨.bitsOffs 80 16, "EDRFECModeSupported"⟩]

def edrFecModeEnabled : FieldEntry := ⟨.bitsOffs 96 16, "EDRFECModeEnabled"⟩

def rsfecFields : List FieldEntry :=
  [⟨.bitsOffs 8 8, "PortSelect"⟩, ⟨.plain 64 64, "CounterSelect"⟩,
    ⟨.bitsOffs 128 16, "SyncHeaderErrorCounter"⟩, ⟨.bitsOffs 144 16, "UnknownBlockCounter"⟩] ++
    (series "FECCorrectableSymbolCtrLane" 12 fun i => .plain (352 + 32 * i) 32) ++
    [⟨.plain 1120 32, "PortFECCorrectableBlockCtr"⟩,
    ⟨.plain 1152 32, "PortFECUncorrectableBlockCtr"⟩, ⟨.plain 1184 32, "PortFECCorrectedSymbolCtr"⟩]

def morePcExtFields : List FieldEntry :=
  [⟨.plain 32 32, "CounterSelect2"⟩, ⟨.plain 576 64, "SymbolErrorCounter"⟩,
    ⟨.plain 640 64, "LinkErrorRecoveryCounter"⟩, ⟨.plain 704 64, "LinkDownedCounter"⟩,
    ⟨.plain 768 64, "PortRcvErrors"⟩, ⟨.plain 832 64, "PortRcvRemotePhysicalErrors"⟩,
    ⟨.plain 896 64, "PortRcvSwitchRelayErrors"⟩, ⟨.plain 960 64, "PortXmitDiscards"⟩,
    ⟨.plain 1024 64, "PortXmitConstraintErrors"⟩, ⟨.plain 1088 64, "PortRcvConstraintErrors"⟩,
    ⟨.plain 1152 64, "LocalLinkIntegrityErrors"⟩, ⟨.plain 1216 64, "ExcessiveBufferOverrunErrors"⟩,
    ⟨.plain 1280 64, "VL15Dropped"⟩, ⟨.plain 1344 64, "PortXmitWait"⟩,
    ⟨.plain 1408 64, "QP1Dropped"⟩]

def qp1Dropped : FieldEntry := ⟨.plain 160 16, "QP1Dropped"⟩

def hdrFecModeSupported : FieldEntry := ⟨.plain 112 16, "HDRFECModeSupported"⟩

def hdrFecModeEnabled : FieldEntry := ⟨.plain 128 16, "HDRFECModeEnabled"⟩

def ibMadTable : List FieldEntry :=
  [reserved] ++ gidFields ++ madFields ++ [reserved] ++ dataFields ++ portInfoFieldsToSpeed ++
    portStateFields ++ portInfoFieldsFromDownDef ++ [reserved] ++ nodeInfoFields ++ [reserved] ++
    switchInfoFields ++ [reserved] ++ smpTableFields ++ noticeFields ++
    portCountersFieldsToOverrun ++ [vl15Dropped] ++ portCountersFieldsFromXmitData ++
    [reserved] ++ smInfoFields ++ rmppFields ++ multiPathFields ++ pathRecordFields ++
    mcMemberFields ++ serviceRecordFields ++ otherTableFields ++ pcExtSelectFields ++
    pcExtFields ++ [reserved] ++ guid0Field ++ classPortInfoFields ++ xmtDataSlFields ++
    [reserved] ++ rcvDataSlFields ++ [reserved] ++ xmtDiscFields ++ [reserved] ++ rcvErrFields ++
    [reserved] ++ portSamplesControlFields ++ [reserved] ++ guidInfoFields ++
    guidInfoRecordFields ++ morePortInfoFields ++ [reserved] ++ extSpeedsFields ++ [reserved] ++
    opRcvFields ++ [reserved] ++ flowCtlFields ++ [reserved] ++ vlOpPacketsFields ++ [reserved] ++
    vlOpDataFields ++ [reserved] ++ vlFlowCtlErrorFields ++ [reserved] ++ vlXmitWaitFields ++
    [reserved] ++ swVlCongestionFields ++ [reserved] ++ rcvConCtrlFields ++ [reserved] ++
    slRcvFecnFields ++ [reserved] ++ slRcvBecnFields ++ [reserved] ++ xmitConCtrlFields ++
    [reserved] ++ vlXmitTimeCongFields ++ [reserved] ++ mlnxExtPortFields ++ [reserved] ++
    ccCckeyField ++ ccInfoFields ++ [reserved] ++ ccKeyInfoFields ++ [reserved] ++ ccLogFields ++
    [reserved] ++ ccLogSwitchFields ++ [reserved] ++ ccLogEntrySwitchFields ++ [reserved] ++
    ccLogCaFields ++ [reserved] ++ ccLogEntryCaFields ++ [reserved] ++ ccSwitchSettingFields ++
    [reserved] ++ ccSwitchPortSettingFields ++ [reserved] ++ ccCaSettingFields ++ [reserved] ++
    ccCaEntryFields ++ [reserved] ++ ccTableFields ++ [reserved] ++ ccTableEntryFields ++
    [reserved] ++ ccTimestampFields ++ [reserved] ++ nodeRecordFields ++ [reserved] ++
    portSamplesResultFields ++ [reserved] ++ portInfoExtFields ++ [edrFecModeEnabled, reserved] ++
    rsfecFields ++ [reserved] ++ morePcExtFields ++
    [reserved, qp1Dropped, hdrFecModeSupported, hdrFecModeEnabled, reserved, reserved]

/-- The parts of the table behind its first entry. -/
def ibMadTableParts : List (List FieldEntry) :=
  [gidFields, madFields, [reserved], dataFields, portInfoFieldsToSpeed, portStateFields,
    portInfoFieldsFromDownDef, [reserved], nodeInfoFields, [reserved], switchInfoFields, [reserved],
    smpTableFields, noticeFields, portCountersFieldsToOverrun, [vl15Dropped],
    portCountersFieldsFromXmitData, [reserved], smInfoFields, rmppFields, multiPathFields,
    pathRecordFields, mcMemberFields, serviceRecordFields, otherTableFields, pcExtSelectFields,
    pcExtFields, [reserved], guid0Field, classPortInfoFields, xmtDataSlFields, [reserved],
    rcvDataSlFields, [reserved], xmtDiscFields, [reserved], rcvErrFields, [reserved],
    portSamplesControlFields, [reserved], guidInfoFields, guidInfoRecordFields, morePortInfoFields,
    [reserved], extSpeedsFields, [reserved], opRcvFields, [reserved], flowCtlFields, [reserved],
    vlOpPacketsFields, [reserved], vlOpDataFields, [reserved], vlFlowCtlErrorFields, [reserved],
    vlXmitWaitFields, [reserved], swVlCongestionFields, [reserved], rcvConCtrlFields, [reserved],
    slRcvFecnFields, [reserved], slRcvBecnFields, [reserved], xmitConCtrlFields, [reserved],
    vlXmitTimeCongFields, [reserved], mlnxExtPortFields, [reserved], ccCckeyField, ccInfoFields,
    [reserved], ccKeyInfoFields, [reserved], ccLogFields, [reserved], ccLogSwitchFields, [reserved],
    ccLogEntrySwitchFields, [reserved], ccLogCaFields, [reserved], ccLogEntryCaFields, [reserved],
    ccSwitchSettingFields, [reserved], ccSwitchPortSettingFields, [reserved], ccCaSettingFields,
    [reserved], ccCaEntryFields, [reserved], ccTableFields, [reserved], ccTableEntryFields,
    [reserved], ccTimestampFields, [reserved], nodeRecordFields, [reserved],
    portSamplesResultFields, [reserved], portInfoExtFields, [edrFecModeEnabled, reserved],
    rsfecFields, [reserved], morePcExtFields, [reserved, qp1Dropped, hdrFecModeSupported,
    hdrFecModeEnabled, reserved, reserved]]

/-- The nested appends of `ibMadTable` are slow to evaluate. -/
theorem ibMadTable_parts : ibMadTable = reserved :: ibMadTableParts.flatten := by
  have hparts : ibMadTableParts.foldl (fun l part => l ++ part) [reserved] = ibMadTable := by
    unfold ibMadTableParts ibMadTable
    repeat rw [List.foldl_cons]
    rw [List.foldl_nil]
  exact hparts.symm.trans (Folds.foldl_append_flatten [reserved] ibMadTableParts)

end InfinibandDiags
