import InfinibandDiags.Route.LftDump
import InfinibandDiags.Trace.Multicast

/-! `dump_multicast_tables` of ibroute.c and dump_fts.c, which print a multicast forwarding table
by blocks of 32 MLIDs and chunks of 16 ports. -/
namespace InfinibandDiags

/-- `__be16 mft[16][IB_MLIDS_IN_BLOCK]`, which is static. -/
abbrev Mft := Vector SmpData 16

/-- A line of the dump: `"0x%04x      %s\n"`. -/
structure MftLine where
  mlid : Nat
  text : Bytes
  deriving DecidableEq

section LineBuffer

/-- `sizeof str`. -/
def lineSize : Nat := 512

/-- More bytes behind those that the line has been filled with from its start on. -/
def put (str bytes : Bytes) : Except Fault Bytes :=
  if str.length + bytes.length ≤ lineSize then .ok (str ++ bytes) else .error .outOfBounds

/-- A NUL behind them. -/
def putNul (str : Bytes) : Except Fault Bytes :=
  if str.length < lineSize then .ok str else .error .outOfBounds

def hexDigit (d : Nat) : UInt8 := UInt8.ofNat (if d < 10 then 48 + d else 87 + d)

/-- `"%04hx"`. -/
def hex4 (v : Nat) : Bytes := [12, 8, 4, 0].map fun s => hexDigit ((v >>> s) % 16)

end LineBuffer

/-- `ntohs(mft[chunk][mlid % IB_MLIDS_IN_BLOCK])`. -/
def entryMask (mft : Mft) (chunk mlid : Nat) : Except Fault Nat :=
  match mft[chunk]? with
  | some block => .ok (Ibtracert.mcMask block (mlid % 32))
  | none => .error .outOfBounds

/-- `if (mask) nonzero++`. -/
def countNonzero (nonzero mask : Nat) : Nat := if mask ≠ 0 then nonzero + 1 else nonzero

/-- The loop of `dump_mlid` over the chunks; `snprintf` keeps within the line. -/
def maskLoop (mft : Mft) (mlid : Nat) : List Nat → Bytes → Nat → Except Fault (Bytes × Nat)
  | [], str, nonzero => .ok (str, nonzero)
  | i :: is, str, nonzero => do
      let mask ← entryMask mft i mlid
      let str := str ++ hex4 mask
      if str.length ≥ lineSize then .ok (str.take (lineSize - 1), countNonzero nonzero mask)
      else maskLoop mft mlid is str (countNonzero nonzero mask)

/-- The loop of `dump_mlid` over the ports. -/
def portLoop (mft : Mft) (mlid : Nat) : List Nat → Bytes → Nat → Except Fault (Bytes × Nat)
  | [], str, nonzero => .ok (str, nonzero)
  | i :: is, str, nonzero => do
      let mask ← entryMask mft (i / 16) mlid
      let str ← put str [if mask.testBit (i % 16) then 120 else 32, 32]
      portLoop mft mlid is str (countNonzero nonzero mask)

/-- The line with the tens of the ports, from port 10 on. -/
def tensHeading (nports : Nat) : Except Fault (List Bytes) :=
  if nports > 9 then do
    let str ← (List.range (nports + 1)).foldlM (fun str i =>
      put str [if i % 10 ≠ 0 then 32 else UInt8.ofNat (48 + i / 10), 32]) []
    let str ← putNul str
    .ok [str]
  else .ok []

/-- The line with the ones, which `sprintf` ends with a NUL after each port. -/
def onesHeading (nports : Nat) : Except Fault Bytes :=
  (List.range (nports + 1)).foldlM (fun str i => do
    let str ← put str [UInt8.ofNat (48 + i % 10), 32]
    putNul str) []

/-- What a dump is asked for, the MLIDs clipped already. -/
structure MftRequest where
  nports : Nat
  startlid : Nat
  endlid : Nat
  brief : Bool
  dumpAll : Bool

/-- `IB_MIN_MCAST_LID`. -/
def ibMinMcastLid : Nat := 0xc000

/-- `IB_MAX_MCAST_LID`. -/
def ibMaxMcastLid : Nat := 0xffff - 1

namespace MftRequest

/-- The request for a switch with `MulticastFDBCap` and `MulticastFDBTop`. -/
def clip (nports cap top startlid endlid : Nat) (brief dumpAll : Bool) : MftRequest :=
  let endlid :=
    if endlid = 0 ∨ endlid > ibMinMcastLid + cap - 1 then ibMinMcastLid + cap - 1 else endlid
  let endlid :=
    if dumpAll = false ∧ top ≠ 0 ∧ top < endlid then
      if top < ibMinMcastLid - 1 then endlid else top
    else endlid
  let startlid :=
    if startlid = 0 then ibMinMcastLid
    else if startlid < ibMinMcastLid then ibMinMcastLid else startlid
  let endlid := if endlid > ibMaxMcastLid then ibMaxMcastLid else endlid
  { nports, startlid, endlid, brief, dumpAll }

variable (request : MftRequest)

/-- The lines that name the ports. -/
def headings : Except Fault (List Bytes) :=
  if request.brief then .ok []
  else do
    let tens ← tensHeading request.nports
    let ones ← onesHeading request.nports
    .ok (tens ++ [ones])

/-- `ALIGN(nports + 1, 16) / 16`. -/
def chunks : Nat := (request.nports + 1 + 15) / 16 * 16 / 16

/-- `dump_mlid`: the text, or `none` where it returns 0. -/
def dumpMlid (mft : Mft) (mlid : Nat) : Except Fault (Option Bytes) :=
  if request.brief then do
    let (str, nonzero) ← maskLoop mft mlid (List.range request.chunks) [] 0
    .ok (if nonzero = 0 ∧ request.dumpAll = false then none else some str)
  else do
    let (str, nonzero) ← portLoop mft mlid (List.range (request.nports + 1)) [] 0
    if nonzero = 0 ∧ request.dumpAll = false then .ok none
    else do
      let str ← putNul str
      .ok (some str)

/-- The loop over the MLIDs of a block, with the number of MLIDs left. -/
def dumpMlids (mft : Mft) : Nat → Nat → Except Fault (List MftLine)
  | 0, _ => .ok []
  | left + 1, i => do
      let str ← request.dumpMlid mft i
      let lines ← dumpMlids mft left (i + 1)
      .ok ((str.map (MftLine.mk i)).toList ++ lines)

/-- The loop over the chunks of a block, with the number of chunks left: a query that fails ends
the dump of ibroute (`stops`), and leaves dump_fts with the chunk before. The second result tells
whether the loop came to its end. -/
def readChunks (stops : Bool) (query : Nat → Option SmpData) (block : Nat) :
    Nat → Nat → Mft → Except Fault (Mft × Bool)
  | 0, _, mft => .ok (mft, true)
  | left + 1, j, mft =>
      match query ((block - ibMinMcastLid / 32) ||| (j <<< 28)) with
      | none => if stops then .ok (mft, false) else readChunks stops query block left (j + 1) mft
      | some data =>
          if j < 16 then readChunks stops query block left (j + 1) (mft.setIfInBounds j data)
          else .error .outOfBounds

/-- The loop over the blocks, with the number of blocks left. -/
def dumpBlocks (stops : Bool) (query : Nat → Option SmpData) :
    Nat → Nat → Mft → Except Fault (Mft × List MftLine × Bool)
  | 0, _, mft => .ok (mft, [], true)
  | left + 1, block, mft => do
      let (mft, complete) ← readChunks stops query block request.chunks 0 mft
      if complete then do
        let i := max (block * 32) request.startlid
        let e := min (block * 32 + 32) (request.endlid + 1)
        let lines ← request.dumpMlids mft (e - i) i
        let (mft, rest, complete) ← dumpBlocks stops query left (block + 1) mft
        .ok (mft, lines ++ rest, complete)
      else .ok (mft, [], false)

end MftRequest

/-- What is printed: the MLIDs of the heading, the lines that name the ports, the lines of the
table, and the number behind `"mlids dumped"`, which comes at the end only. -/
structure MftDump where
  startlid : Nat
  endlid : Nat
  ports : List Bytes
  lines : List MftLine
  count : Option Nat
  deriving DecidableEq

/-- What both programs do once they know the switch. -/
def MftRequest.dump (request : MftRequest) (stops : Bool) (query : Nat → Option SmpData)
    (mft : Mft) : Except Fault (Mft × MftDump) := do
  let ports ← request.headings
  let startblock := request.startlid / 32
  let lastblock := request.endlid / 32
  let (mft, lines, complete) ←
    request.dumpBlocks stops query (lastblock + 1 - startblock) startblock mft
  .ok (mft, ⟨request.startlid, request.endlid, ports, lines,
    if complete then some lines.length else none⟩)

namespace Ibroute

/-- `dump_multicast_tables` of ibroute: the message it returns, or what it prints. `cap` and `top`
are those of the SwitchInfo that `check_switch` reads. -/
def dumpMulticastTables (replies : SwitchReplies) (cap top startlid endlid : Nat)
    (brief dumpAll : Bool) (query : Nat → Option SmpData) (mft : Mft) :
    Except Fault (Except String MftDump) :=
  match replies.checkSwitch with
  | .error message => .ok (.error message)
  | .ok (nports, _) => do
      let (_, printed) ←
        (MftRequest.clip nports cap top startlid endlid brief dumpAll).dump true query mft
      .ok (.ok printed)

end Ibroute

namespace DumpFts

/-- `dump_multicast_tables` of dump_fts, which leaves its table to the next switch. -/
def dumpMulticastTables (numports cap top startl endl : Nat) (brief dumpAll : Bool)
    (query : Nat → Option SmpData) (mft : Mft) : Except Fault (Mft × MftDump) :=
  (MftRequest.clip numports cap top startl endl brief dumpAll).dump false query mft

end DumpFts
end InfinibandDiags
