import InfinibandDiags.Fabric.Basic
import InfinibandDiags.Mad.Codec

/-! The tables that smpquery reads block by block: P_Keys, GUIDs and VL arbitration. -/
namespace InfinibandDiags
namespace Smpquery

def ibAttrGuidInfo : Nat := 0x14
def ibAttrPkeyTbl : Nat := 0x16
def ibAttrVlArbitration : Nat := 0x18

def ibPortVlArbitrationHighCapF : Nat := 51
def ibPortVlArbitrationLowCapF : Nat := 52
def ibPortGuidCapF : Nat := 65
def ibNodeTypeF : Nat := 77
def ibNodeNportsF : Nat := 78
def ibNodePartitionCapF : Nat := 82
def ibSwPartitionEnforceCapF : Nat := 99
def ibSwEnhancedPort0F : Nat := 104

/-- What `smp_query_via` reads, for each attribute and modifier. -/
abbrev SmpQuery := Nat → BitVec 32 → Option SmpData

/-- Where a table ends early: with an error text, or in a fault. -/
inductive TableError
  | text (message : String)
  | fault (f : Fault)
  deriving DecidableEq

def SmpQuery.ask (query : SmpQuery) (attr : Nat) (mod : BitVec 32) (message : String) :
    Except TableError SmpData :=
  (query attr mod).elim (.error (.text message)) .ok

def fieldOf (data : SmpData) (f : Nat) : Nat := getField data.bytes 0 (tableField f)

/-- `ntohs`, `be64toh`. -/
def networkValue (bytes : Bytes) : Nat := bytes.foldl (fun v b => v * 256 + b.toNat) 0

/-- Entry `i` of a block, if the block has it. -/
def entryAt (data : SmpData) (width i : Nat) : Except TableError Nat :=
  if (i + 1) * width ≤ ibSmpDataSize then .ok (networkValue (bytesAt data.bytes (i * width) width))
  else .error (.fault .outOfBounds)

/-- A printed line, after the index of its first entry. -/
structure TableRow where
  index : Nat
  entries : List Nat
  deriving DecidableEq

/-- The entries with their indices. -/
def TableRow.shown (row : TableRow) : List (Nat × Nat) :=
  (row.entries.zipIdx row.index).map Prod.swap

/-- How many entries a block and a line have, and the bytes of an entry. -/
structure Paging where
  block : Nat
  line : Nat
  width : Nat
  line_pos : 0 < line
  line_dvd : line ∣ block
  fits : block * width = ibSmpDataSize

namespace Paging
variable (t : Paging)

/-- The loop over the lines of block `i`, for `k` entries. -/
def dumpBlock (data : SmpData) (i k : Nat) : Except TableError (List TableRow) :=
  (List.range ((k + (t.line - 1)) / t.line)).mapM fun r => do
    let entries ← (List.range t.line).mapM fun e => entryAt data t.width (r * t.line + e)
    pure ⟨i * t.block + r * t.line, entries⟩

def blocks (n : Nat) : Nat := (n + (t.block - 1)) / t.block

/-- The entries to show of block `i`: the last one is cut to lines. -/
def blockEntries (n i : Nat) : Nat :=
  if i + 1 = t.blocks n then (n + (t.line - 1) - i * t.block) / t.line * t.line else t.block

/-- The loop over the blocks. -/
def dump (query : SmpQuery) (attr : Nat) (mod : Nat → BitVec 32) (message : String) (n : Nat) :
    Except TableError (List TableRow) := do
  let rows ← (List.range (t.blocks n)).mapM fun i => do
    let data ← query.ask attr (mod i) message
    t.dumpBlock data i (t.blockEntries n i)
  pure rows.flatten

end Paging

/-- The lines of a table, and the capacity below them. -/
structure ShownTable where
  rows : List TableRow
  capacity : Nat
  deriving DecidableEq

def ShownTable.shown (table : ShownTable) : List (Nat × Nat) := table.rows.flatMap TableRow.shown

def pkeyPaging : Paging := ⟨32, 8, 2, by decide, by decide, by decide⟩

def pkeyMod (portnum : BitVec 32) (i : Nat) : BitVec 32 := BitVec.ofNat 32 i ||| portnum <<< 16

/-- `pkey_table`, as far as the capacity. -/
def pkeyCapacity (query : SmpQuery) (portnum : BitVec 32) : Except TableError Nat := do
  let data ← query.ask ibAttrNodeInfo 0#32 "node info query failed"
  if (fieldOf data ibNodeNportsF : Int) < portnum.toInt then .error (.text "invalid port number")
  else if fieldOf data ibNodeTypeF = ibNodeSwitch ∧ portnum ≠ 0#32 then do
    let data ← query.ask ibAttrSwitchInfo 0#32 "switch info failed"
    pure (fieldOf data ibSwPartitionEnforceCapF)
  else pure (fieldOf data ibNodePartitionCapF)

def pkeyTable (query : SmpQuery) (portnum : BitVec 32) : Except TableError ShownTable := do
  let n ← pkeyCapacity query portnum
  let rows ← pkeyPaging.dump query ibAttrPkeyTbl (pkeyMod portnum) "pkey table query failed" n
  pure ⟨rows, n⟩

def guidPaging : Paging := ⟨8, 2, 8, by decide, by decide, by decide⟩

def guidInfo (query : SmpQuery) : Except TableError ShownTable := do
  let data ← query.ask ibAttrPortInfo 0#32 "port info failed"
  let n := fieldOf data ibPortGuidCapF
  let rows ← guidPaging.dump query ibAttrGuidInfo (BitVec.ofNat 32) "guid info query failed" n
  pure ⟨rows, n⟩

/-- `vl_entry[i]` is two bytes, `res_vl` and `weight`. -/
def vlEntryByte (data : SmpData) (i : Nat) : Except TableError Nat :=
  if i < ibSmpDataSize then .ok (byteAt data.bytes i).toNat else .error (.fault .outOfBounds)

def resVl (data : SmpData) (i : Nat) : Except TableError Nat := do
  let b ← vlEntryByte data (2 * i)
  pure (b &&& 0x0f)

def weight (data : SmpData) (i : Nat) : Except TableError Nat := vlEntryByte data (2 * i + 1)

/-- A line of `mad_dump_vlarbitration` from entry `i` on, behind `n` characters, five for each entry:
what it shows, and where it ends unless the buffer is full. -/
def arbLine (read : Nat → Except TableError Nat) (bufsz : Nat) :
    Nat → Nat → Nat → Except TableError (List Nat × Option Nat)
  | 0, _, n => .ok ([], some n)
  | left + 1, i, n => do
      let v ← read i
      if bufsz ≤ n + 5 then .ok ([], none)
      else do
        let rest ← arbLine read bufsz left (i + 1) (n + 5)
        .ok (v :: rest.1, rest.2)

/-- The two lines of `mad_dump_vlarbitration`. -/
structure ArbBlock where
  vls : List Nat
  weights : List Nat
  deriving DecidableEq

def madDumpVlarbitration (bufsz : Nat) (data : SmpData) (num : Nat) : Except TableError ArbBlock :=
  if bufsz ≤ 10 then .ok ⟨[], []⟩
  else do
    let vls ← arbLine (resVl data) bufsz (num / 2) 0 10
    vls.2.elim (.ok ⟨vls.1, []⟩) fun n =>
      if bufsz ≤ n + 10 then .ok ⟨vls.1, []⟩
      else do
        let weights ← arbLine (weight data) bufsz (num / 2) 0 (n + 10)
        .ok ⟨vls.1, weights.1⟩

def vlarbMod (portnum : BitVec 32) (offset : Nat) : BitVec 32 :=
  BitVec.ofNat 32 offset <<< 16 ||| portnum

def vlarbDumpTableEntry (query : SmpQuery) (portnum : BitVec 32) (offset cap : Nat) :
    Except TableError ArbBlock := do
  let data ← query.ask ibAttrVlArbitration (vlarbMod portnum offset) "vl arb query failed"
  madDumpVlarbitration 2048 data (cap * 2)

def vlarbDumpTable (query : SmpQuery) (portnum : BitVec 32) (offset cap : Nat) :
    Except TableError (List ArbBlock) := do
  let first ← vlarbDumpTableEntry query portnum offset (if cap < 32 then cap else 32)
  if 32 < cap then do
    let second ← vlarbDumpTableEntry query portnum (offset + 1) (cap - 32)
    pure [first, second]
  else pure [first]

/-- The low and the high priority table. -/
structure ArbTables where
  low : List ArbBlock
  high : List ArbBlock
  deriving DecidableEq

/-- A switch without enhanced port 0, asked for port 0. -/
def basicPort0 (query : SmpQuery) (portnum : BitVec 32) : Except TableError Bool :=
  if portnum = 0#32 then do
    let data ← query.ask ibAttrNodeInfo 0#32 "node info query failed"
    if fieldOf data ibNodeTypeF = ibNodeSwitch then do
      let data ← query.ask ibAttrSwitchInfo 0#32 "switch info query failed"
      pure (fieldOf data ibSwEnhancedPort0F = 0)
    else pure false
  else pure false

/-- A table with a capacity of 0 is not dumped. -/
def vlarbTablePart (query : SmpQuery) (portnum : BitVec 32) (offset cap : Nat) :
    Except TableError (List ArbBlock) :=
  if 0 < cap then vlarbDumpTable query portnum offset cap else .ok []

/-- `vlarb_table`, with nothing for "No VLArbitration tables". -/
def vlarbTable (query : SmpQuery) (portnum : BitVec 32) : Except TableError (Option ArbTables) := do
  let basic ← basicPort0 query portnum
  if basic then pure none
  else do
    let data ← query.ask ibAttrPortInfo portnum "port info query failed"
    let lowcap := fieldOf data ibPortVlArbitrationLowCapF
    let highcap := fieldOf data ibPortVlArbitrationHighCapF
    let low ← vlarbTablePart query portnum 1 lowcap
    let high ← vlarbTablePart query portnum 3 highcap
    pure (some ⟨low, high⟩)

/-- The entries of a VL arbitration table, each a VL and a weight, by their place in it. -/
def shownArb (blocks : List ArbBlock) : List (Nat × Nat × Nat) :=
  ((blocks.flatMap fun b => b.vls.zip b.weights).zipIdx).map Prod.swap

end Smpquery
end InfinibandDiags
