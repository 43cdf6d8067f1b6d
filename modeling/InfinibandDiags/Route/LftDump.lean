import InfinibandDiags.Library.Listing
import InfinibandDiags.Discover.DirectRoute

/-! `dump_unicast_tables` of ibroute.c and dump_fts.c, which print a linear forwarding table block
by block. -/
namespace InfinibandDiags

/-- A line of the dump: `"0x%04x %03u"` and a text about the LID. -/
structure LftLine where
  lid : Int
  outport : Nat
  deriving DecidableEq

/-- `ALIGN`. -/
def align (l size : Int) : Int := (l + (size - 1)).tdiv size * size

/-- A `char`, which has a sign, as an `unsigned`. -/
def unsignedOfChar (c : UInt8) : Nat := if c.toNat < 128 then c.toNat else 2 ^ 32 - 256 + c.toNat

/-- What a dump is asked for: the LIDs, clipped already, and whether invalid entries count. -/
structure LftRequest where
  nports : Nat
  startlid : Int
  endlid : Int
  dumpAll : Bool

namespace LftRequest
variable (request : LftRequest)

/-- The loop over the LIDs of a block, with the number of LIDs left. -/
def dumpLids (lft : Vector UInt8 64) : Nat → Int → Except Fault (List LftLine)
  | 0, _ => .ok []
  | left + 1, i =>
      if 0 ≤ i.tmod 64 then do
        let outport := unsignedOfChar (lft.toList.getD (i.tmod 64).toNat 0)
        let lines ← dumpLids lft left (i + 1)
        if outport ≤ request.nports || request.dumpAll then
          .ok (⟨i, outport % 256⟩ :: lines)
        else .ok lines
      else .error .outOfBounds

/-- The loop over the blocks, with the number of blocks left. A query that fails ends the dump of
ibroute (`stops`), and leaves dump_fts with the block before. The second result tells whether the
loop came to its end. -/
def dumpBlocks (stops : Bool) (query : Int → Option (Vector UInt8 64)) :
    Nat → Int → Vector UInt8 64 → Except Fault (List LftLine × Bool)
  | 0, _, _ => .ok ([], true)
  | left + 1, block, lft =>
      if (query block).isNone && stops then .ok ([], false)
      else do
        let lft := (query block).getD lft
        let i := max (block * 64) request.startlid
        let e := min (block * 64 + 64) (request.endlid + 1)
        let lines ← request.dumpLids lft (e - i).toNat i
        let (rest, complete) ← dumpBlocks stops query left (block + 1) lft
        .ok (lines ++ rest, complete)

end LftRequest

/-- `IB_MAX_UCAST_LID`. -/
def ibMaxUcastLid : Int := 0xc000 - 1

/-- What both programs do once they know the switch: `endlid` is clipped, and the blocks are dumped.
The number is the one behind `"lids dumped"`, printed at the end only. -/
def dumpTable (stops : Bool) (nports top : Nat) (startlid endlid : Int) (dumpAll : Bool)
    (query : Int → Option (Vector UInt8 64)) : Except Fault (List LftLine × Option Nat) := do
  let endlid := if endlid = 0 ∨ endlid > top then (top : Int) else endlid
  let endlid := if endlid > ibMaxUcastLid then ibMaxUcastLid else endlid
  let request : LftRequest := ⟨nports, startlid, endlid, dumpAll⟩
  let startblock := startlid.tdiv 64
  let endblock := (align endlid 64).tdiv 64
  let (lines, complete) ← request.dumpBlocks stops query (endblock - startblock).toNat startblock
    (.replicate 64 0)
  .ok (lines, if complete then some lines.length else none)

/-- The replies that `check_switch` asks for, `none` where a query fails: type and ports of the
NodeInfo, the description, and the top of the SwitchInfo. -/
structure SwitchReplies where
  nodeInfo : Option (Nat × Nat)
  nodeDesc : Option Bytes
  switchInfo : Option Nat

/-- `check_switch`: the ports and the top, or a message. -/
def SwitchReplies.checkSwitch (replies : SwitchReplies) : Except String (Nat × Nat) :=
  match replies.nodeInfo with
  | none => .error "node info failed: valid addr?"
  | some (type, nports) =>
      match replies.nodeDesc with
      | none => .error "node desc failed"
      | some _ =>
          if type ≠ ibNodeSwitch then .error "not a switch"
          else
            match replies.switchInfo with
            | none => .error "switch info failed: is a switch node?"
            | some top => .ok (nports, top)

namespace Ibroute

/-- `dump_unicast_tables` of ibroute: the message it returns, if any, and what it prints. -/
def dumpUnicastTables (replies : SwitchReplies) (startlid endlid : Int) (dumpAll : Bool)
    (query : Int → Option (Vector UInt8 64)) :
    Except Fault (Option String × List LftLine × Option Nat) :=
  match replies.checkSwitch with
  | .error message => .ok (some message, [], none)
  | .ok (nports, top) => do
      let printed ← dumpTable true nports top startlid endlid dumpAll query
      .ok (none, printed)

end Ibroute

namespace DumpFts

/-- `dump_unicast_tables` of dump_fts, with `numports` and the top that the scan has found. -/
def dumpUnicastTables (numports top : Nat) (startl endl : Int) (dumpAll : Bool)
    (query : Int → Option (Vector UInt8 64)) : Except Fault (List LftLine × Option Nat) :=
  dumpTable false numports top startl endl dumpAll query

end DumpFts
end InfinibandDiags
