import InfinibandDiags.Fault
import InfinibandDiags.Mad.Codec

/-! The counters of a port that ibqueryerrors finds over their thresholds. -/
namespace InfinibandDiags

/-! Numbers of `enum MAD_FIELDS`, which are places in `ib_mad_f`. -/

def ibPcErrSym : Nat := 123
def ibPcErrRcv : Nat := 126
def ibPcXmtDiscards : Nat := 129
def ibPcCounterSelect2 : Nat := 132
def ibPcErrLocalInteg : Nat := 133
def ibPcErrExcessOvr : Nat := 134
def ibPcVl15Dropped : Nat := 135
def ibPcXmtWait : Nat := 140
def ibPcXmtInactDisc : Nat := 262
def ibPcXmtDiscLast : Nat := 266
def ibPcRcvLocalPhyErr : Nat := 267
def ibPcRcvErrLast : Nat := 273
def ibPcExtErrSym : Nat := 644
def ibPcExtErrLocalInteg : Nat := 653
def ibPcExtErrExcessOvr : Nat := 654
def ibPcExtVl15Dropped : Nat := 655
def ibPcExtXmtWait : Nat := 656

def ibClassPortInfo : Nat := 0x1
def ibGsiPortCounters : Nat := 0x12
def ibGsiPortRcvErrorDetails : Nat := 0x15
def ibGsiPortXmitDiscardDetails : Nat := 0x16
def ibGsiPortCountersExt : Nat := 0x1d

/-- `IB_PC_DATA_SZ` bytes. -/
abbrev PmaData := Vector UInt8 192

/-- What `pma_query_via` gets from the port with a LID, for a PortSelect and an attribute: `none`
where the query fails. -/
abbrev Pma := Nat → Nat → Nat → Option PmaData

/-- The masks of a ClassPortInfo, in the order of the host; the second one is shifted already. -/
structure PmCaps where
  capMask : Nat
  capMask2 : Nat

namespace PmCaps
variable (caps : PmCaps)

/-- `cap_mask & IB_PM_ALL_PORT_SELECT`. -/
def allPortSelect : Bool := caps.capMask &&& 0x100 ≠ 0

/-- `cap_mask & (IB_PM_EXT_WIDTH_SUPPORTED | IB_PM_EXT_WIDTH_NOIETF_SUP)`. -/
def extWidth : Bool := caps.capMask &&& (0x200 ||| 0x400) ≠ 0

/-- `cap_mask & IB_PM_PC_XMIT_WAIT_SUP`. -/
def xmitWait : Bool := caps.capMask &&& 0x1000 ≠ 0

/-- `htonl(cap_mask2) & IB_PM_IS_ADDL_PORT_CTRS_EXT_SUP`. -/
def addlPortCtrsExt : Bool := caps.capMask2 &&& 0x2 ≠ 0

end PmCaps

/-- The masks that `query_cap_mask` takes out of a reply. -/
def PmaData.capMasks (data : PmaData) : PmCaps where
  capMask := (byteAt data.toList 2).toNat * 2 ^ 8 + (byteAt data.toList 3).toNat
  capMask2 := ((byteAt data.toList 4).toNat * 2 ^ 24 + (byteAt data.toList 5).toNat * 2 ^ 16 +
    (byteAt data.toList 6).toNat * 2 ^ 8 + (byteAt data.toList 7).toNat) >>> 5

/-- The options of ibqueryerrors: `suppressed` is `suppressed_fields` up to `sup_total`. -/
structure ErrorOptions where
  nodeTypeToPrint : Nat
  suppressed : List Nat
  thresholds : Bytes
  details : Bool
  dataCountersOnly : Bool

/-- `mad_decode_field` into an integer. -/
def decodedUint (buf : Bytes) (field : Nat) : Nat :=
  if (tableField field).bitlen ≤ 32 then getField buf 0 (tableField field)
  else (getField64 buf 0 (tableField field)).toNat

/-- `mad_field_name`: NULL for an entry that names no field. -/
def madFieldName (field : Nat) : Option String :=
  let name := (ibMadTable.getD field reserved).name
  if name = "" then none else some name

theorem madFieldName_parts (field : Nat) : madFieldName field =
    if ((reserved :: ibMadTableParts.flatten).getD field reserved).name = "" then none
    else some ((reserved :: ibMadTableParts.flatten).getD field reserved).name := by
  rw [madFieldName, ibMadTable_parts]

/-- A counter as it is printed, `" [%s == %u]"`. -/
structure CounterText where
  field : Nat
  val : Nat
  deriving DecidableEq

namespace ErrorOptions
variable (options : ErrorOptions)

def suppress (field : Nat) : Bool := options.suppressed.contains field

def exceedsThreshold (field val : Nat) : Bool := decodedUint options.thresholds field < val

/-- `check_threshold`. The pointer to the extended counters may be NULL. -/
def checkThreshold (caps : PmCaps) (pc : Bytes) (pce : Option Bytes) (i extI : Nat) :
    Except Fault (Option CounterText) :=
  if caps.addlPortCtrsExt then
    match pce with
    | none => .error .nullDeref
    | some pce =>
        let val := decodedUint pce extI
        .ok (if options.exceedsThreshold extI val then some ⟨extI, val⟩ else none)
  else
    let val := decodedUint pc i
    .ok (if options.exceedsThreshold extI val then some ⟨i, val⟩ else none)

/-- `query_and_dump`: the texts, or `none` where the query fails. -/
def queryAndDump (query : Nat → Option PmaData) (attrId startField endField : Nat) :
    Option (List CounterText) :=
  (query attrId).map fun pc =>
    ((List.range' startField (endField - startField)).map fun i => ⟨i, decodedUint pc.toList i⟩).filter
      fun text => text.val ≠ 0

/-- The details that go with a counter, for those that have some. -/
def queryDetails (query : Nat → Option PmaData) (i : Nat) : Option (List CounterText) :=
  if i = ibPcXmtDiscards ∧ options.details then
    queryAndDump query ibGsiPortXmitDiscardDetails ibPcRcvLocalPhyErr ibPcRcvErrLast
  else if i = ibPcErrRcv ∧ options.details then
    queryAndDump query ibGsiPortRcvErrorDetails ibPcXmtInactDisc ibPcXmtDiscLast
  else some []

/-- What `print_results` has written into its buffer, and the number of queries for details that
failed. -/
structure Findings where
  texts : List CounterText
  failures : Nat

def Findings.append (first rest : Findings) : Findings :=
  ⟨first.texts ++ rest.texts, first.failures + rest.failures⟩

/-- A counter over its threshold, with its details. -/
def findings (query : Nat → Option PmaData) (i : Nat) : Option CounterText → Findings
  | none => ⟨[], 0⟩
  | some text =>
      match options.queryDetails query i with
      | none => ⟨[text], 1⟩
      | some details => ⟨text :: details, 0⟩

/-- The loop of `print_results` over the counters. -/
def checkCounters (query : Nat → Option PmaData) (caps : PmCaps) (pc : Bytes)
    (pce : Option Bytes) : List Nat → Nat → Except Fault Findings
  | [], _ => .ok ⟨[], 0⟩
  | i :: rest, extI =>
      if options.suppress i then checkCounters query caps pc pce rest (extI + 1)
      else if i = ibPcCounterSelect2 then
        -- not a counter: `ext_i--`, and `ext_i++` for the next
        checkCounters query caps pc pce rest extI
      else do
        let text ← options.checkThreshold caps pc pce i extI
        let found ← checkCounters query caps pc pce rest (extI + 1)
        .ok ((options.findings query i text).append found)

/-- All that `print_results` compares with thresholds: the loop, and PortXmitWait. -/
def checkResults (query : Nat → Option PmaData) (caps : PmCaps) (pc : Bytes) (pce : Option Bytes) :
    Except Fault Findings := do
  let found ← options.checkCounters query caps pc pce
    (List.range' ibPcErrSym (ibPcVl15Dropped + 1 - ibPcErrSym)) ibPcExtErrSym
  if options.suppress ibPcXmtWait then .ok found
  else
    let text ← options.checkThreshold caps pc pce ibPcXmtWait ibPcExtXmtWait
    .ok (found.append ⟨text.toList, 0⟩)

end ErrorOptions
end InfinibandDiags
