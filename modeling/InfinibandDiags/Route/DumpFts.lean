import InfinibandDiags.Library.Emit
import InfinibandDiags.Route.MftDump

/-! dump_fts over the switches of a fabric: `process_switch` is called for each of them, and the
table of the multicast dump is static. -/
namespace InfinibandDiags
namespace DumpFts

/-- A switch of the fabric: what the scan has found, and its replies to the queries for a block. -/
structure FtsSwitch where
  numports : Nat
  numports_le : numports ≤ 255
  linearTop : Nat
  mcastCap : Nat
  mcastTop : Nat
  linearForwTbl : Int → Option (Vector UInt8 64)
  multicastForwTbl : Nat → Option SmpData

/-- The options, and the two `unsigned` LIDs. -/
structure FtsOptions where
  multicast : Bool
  brief : Bool
  dumpAll : Bool
  startlid : Nat
  endlid : Nat

/-- What is printed for a switch. -/
inductive FtsDump
  | unicast (lines : List LftLine) (count : Option Nat)
  | multicast (dump : MftDump)

variable (o : FtsOptions)

/-- `dump_node`: the unicast dump takes its LIDs as `int`. -/
def dumpNode (mft : Mft) (node : FtsSwitch) : Except Fault (Mft × FtsDump) :=
  if o.multicast then do
    let (mft, dump) ← dumpMulticastTables node.numports node.mcastCap node.mcastTop o.startlid
      o.endlid o.brief o.dumpAll node.multicastForwTbl mft
    .ok (mft, .multicast dump)
  else do
    let (lines, count) ← dumpUnicastTables node.numports node.linearTop
      ((o.startlid : Int).bmod (2 ^ 32)) ((o.endlid : Int).bmod (2 ^ 32)) o.dumpAll
      node.linearForwTbl
    .ok (mft, .unicast lines count)

/-- `process_switch`, what is printed being kept with the switch it is printed for. -/
def processSwitch (mft : Mft) (node : FtsSwitch) :
    Except Fault (Mft × List (FtsSwitch × FtsDump)) := do
  let (mft, dump) ← dumpNode o mft node
  .ok (mft, [(node, dump)])

/-- `ibnd_iter_nodes_type` over the switches. -/
def processSwitches (nodes : List FtsSwitch) (mft : Mft) :
    Except Fault (Mft × List (FtsSwitch × FtsDump)) :=
  Emit.run (processSwitch o) mft nodes

end DumpFts
end InfinibandDiags
