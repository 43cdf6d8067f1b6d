import InfinibandDiags.Route.DumpFts
import InfinibandDiags.Route.LftExact
import InfinibandDiags.Route.MftExact

/-! When dump_fts prints no line from a block that it could not read: a query that fails leaves the
loop over the LIDs with the block, or the static table, of a query before. -/
namespace InfinibandDiags
open Emit (FineAlong Writes writes_run)

/-- Rounds that write, brought to another form of the result. -/
theorem map_writes {σ τ ω ε : Type} {x : Except ε (σ × List ω)} {f : σ × List ω → τ}
    {good : ω → Prop} {P : τ → Prop} (hP : ∀ r, P (f r) ↔ ∀ l ∈ r.2, good l) :
    (∃ t, x.map f = .ok t ∧ P t) ↔ Writes good x := by
  cases x with
  | error e => simp [Except.map, Writes]
  | ok r => simp [Except.map, Writes, hP, Prod.ext_iff]

namespace LftRequest
variable {r : LftRequest} {query : Int → Option (Vector UInt8 64)}

/-- The entry of a LID in the block that is at hand. -/
def entry (lft : Vector UInt8 64) (lid : Int) : UInt8 := lft.toList.getD (lid.tmod 64).toNat 0

/-- The loop over the LIDs prints one with this entry. -/
def Prints (r : LftRequest) (c : UInt8) : Prop := unsignedOfChar c ≤ r.nports ∨ r.dumpAll = true

/-- The block with the line's LID was read, and the line has what it holds there. -/
def LidRead (query : Int → Option (Vector UInt8 64)) (line : LftLine) : Prop :=
  ∃ data, query (line.lid / 64) = some data ∧
    line.outport = (data.toList.getD (line.lid % 64).toNat 0).toNat

/-- A LID of a block that is asked for. -/
structure Asked (r : LftRequest) (block lid : Int) : Prop where
  inBlock : block * 64 ≤ lid ∧ lid < block * 64 + 64
  inRange : r.startlid ≤ lid ∧ lid ≤ r.endlid

/-- The loop over the LIDs prints what is read: the index is none below 0, and where the query has
failed, no line is printed from the block before. -/
def BlockFine (r : LftRequest) (query : Int → Option (Vector UInt8 64)) (lft : Vector UInt8 64)
    (block : Int) : Prop :=
  ∀ lid, r.Asked block lid → 0 ≤ lid.tmod 64 ∧ (query block = none → ¬ r.Prints (entry lft lid))

/-- The block at hand after a query. -/
def nextBlock (query : Int → Option (Vector UInt8 64)) (lft : Vector UInt8 64) (block : Int) :
    Vector UInt8 64 :=
  (query block).getD lft

/-- A round of the loop over the blocks in dump_fts. -/
def blockStep (r : LftRequest) (query : Int → Option (Vector UInt8 64)) (lft : Vector UInt8 64)
    (block : Int) : Except Fault (Vector UInt8 64 × List LftLine) :=
  (r.dumpLids (nextBlock query lft block)
    (min (block * 64 + 64) (r.endlid + 1) - max (block * 64) r.startlid).toNat
    (max (block * 64) r.startlid)).map fun lines => (nextBlock query lft block, lines)

def blocksFrom (block : Int) : Nat → List Int
  | 0 => []
  | left + 1 => block :: blocksFrom (block + 1) left

theorem dumpBlocks_eq_run (left : Nat) (block : Int) (lft : Vector UInt8 64) :
    r.dumpBlocks false query left block lft =
      (Emit.run (r.blockStep query) lft (blocksFrom block left)).map fun t => (t.2, true) := by
  induction left generalizing block lft with
  | zero => rfl
  | succ left ih =>
      rw [dumpBlocks, Bool.and_false, if_neg (by simp), blocksFrom, Emit.run, blockStep]
      dsimp only [nextBlock]
      generalize dumpLids _ _ _ _ = lines
      cases lines with
      | error e => rfl
      | ok lines =>
          dsimp only [bind, Except.bind, Except.map]
          rw [ih]
          cases Emit.run (r.blockStep query) ((query block).getD lft) (blocksFrom (block + 1) left)
            <;> rfl

/-- The loop over the LIDs prints nothing but good lines if and only if the line of each LID is
good, or not printed. -/
theorem dumpLids_all_iff {P : LftLine → Prop} (lft : Vector UInt8 64) (left : Nat) (i : Int) :
    (∃ lines, r.dumpLids lft left i = .ok lines ∧ ∀ line ∈ lines, P line) ↔
      ∀ lid, i ≤ lid → lid < i + left →
        0 ≤ lid.tmod 64 ∧ (r.Prints (entry lft lid) → P ⟨lid, (entry lft lid).toNat⟩) := by
  induction left generalizing i with
  | zero =>
      refine iff_of_true ⟨[], rfl, fun line hline => absurd hline List.not_mem_nil⟩ ?_
      intro lid hlo hhi
      omega
  | succ left ih =>
      have hsplit : (∀ lid, i ≤ lid → lid < i + (left + 1 : Nat) →
          0 ≤ lid.tmod 64 ∧ (r.Prints (entry lft lid) → P ⟨lid, (entry lft lid).toNat⟩)) ↔
          (0 ≤ i.tmod 64 ∧ (r.Prints (entry lft i) → P ⟨i, (entry lft i).toNat⟩)) ∧
            ∀ lid, i + 1 ≤ lid → lid < i + 1 + left →
              0 ≤ lid.tmod 64 ∧ (r.Prints (entry lft lid) → P ⟨lid, (entry lft lid).toNat⟩) := by
        constructor
        · intro h
          exact ⟨h i (Int.le_refl i) (by omega), fun lid hlo hhi => h lid (by omega) (by omega)⟩
        · rintro ⟨hfirst, hothers⟩ lid hlo hhi
          rcases hlo.eq_or_lt with rfl | hlt
          · exact hfirst
          · exact hothers lid hlt (by omega)
      rw [hsplit, ← ih (i + 1), dumpLids]
      by_cases hplace : 0 ≤ i.tmod 64
      · rw [if_pos hplace]
        dsimp only
        rw [unsignedOfChar_mod]
        have hprints : (decide (unsignedOfChar (lft.toList.getD (i.tmod 64).toNat 0) ≤ r.nports) ||
            r.dumpAll) = true ↔ r.Prints (entry lft i) := by
          simp [Prints, entry]
        cases r.dumpLids lft left (i + 1) with
        | error e =>
            refine iff_of_false ?_ ?_
            · rintro ⟨lines, h, -⟩
              cases h
            · rintro ⟨-, lines, h, -⟩
              cases h
        | ok lines =>
            dsimp only [bind, Except.bind]
            by_cases hprint : r.Prints (entry lft i)
            · rw [if_pos (hprints.mpr hprint)]
              simp only [Except.ok.injEq, exists_eq_left', List.forall_mem_cons, hplace, hprint,
                true_and, forall_const]
              rfl
            · rw [if_neg fun h => hprint (hprints.mp h)]
              simp [hplace, hprint]
      · rw [if_neg hplace]
        refine iff_of_false ?_ fun h => hplace h.1.1
        rintro ⟨lines, h, -⟩
        cases h

theorem tmod_eq_emod {lid : Int} (h : 0 ≤ lid.tmod 64) : lid.tmod 64 = lid % 64 := by
  rcases Int.le_total 0 lid with hpos | hneg
  · exact Int.tmod_eq_emod_of_nonneg hpos
  · have hneg' : lid.tmod 64 = - ((-lid) % 64) := by
      rw [← Int.tmod_eq_emod_of_nonneg (by omega), Int.neg_tmod, Int.neg_neg]
    omega

/-- A round prints what is read, or nothing of a LID that is asked for. -/
theorem blockStep_writes (lft : Vector UInt8 64) (block : Int) :
    Writes (LidRead query) (r.blockStep query lft block) ↔ r.BlockFine query lft block := by
  have hmap : Writes (LidRead query) (r.blockStep query lft block) ↔
      ∃ lines, r.dumpLids (nextBlock query lft block)
        (min (block * 64 + 64) (r.endlid + 1) - max (block * 64) r.startlid).toNat
        (max (block * 64) r.startlid) = .ok lines ∧ ∀ line ∈ lines, LidRead query line := by
    unfold blockStep Writes
    generalize dumpLids _ _ _ _ = dumped
    cases dumped <;> simp [Except.map]
  rw [hmap, dumpLids_all_iff]
  have hread : ∀ lid, r.Asked block lid → 0 ≤ lid.tmod 64 →
      ((r.Prints (entry (nextBlock query lft block) lid) →
        LidRead query ⟨lid, (entry (nextBlock query lft block) lid).toNat⟩) ↔
      (query block = none → ¬ r.Prints (entry lft lid))) := by
    intro lid hasked hplace
    have hblock : lid / 64 = block := by
      have hin := hasked.inBlock
      omega
    cases hquery : query block with
    | none => simp [LidRead, nextBlock, hquery, hblock]
    | some data => simp [LidRead, nextBlock, hquery, hblock, entry, tmod_eq_emod hplace]
  constructor
  · intro h lid hasked
    obtain ⟨hin, hrange⟩ := hasked
    have hlid := h lid (by omega) (by omega)
    exact ⟨hlid.1, (hread lid ⟨hin, hrange⟩ hlid.1).mp hlid.2⟩
  · intro h lid hlo hhi
    have hasked : r.Asked block lid := ⟨by omega, by omega⟩
    have hlid := h lid hasked
    exact ⟨hlid.1, (hread lid hasked hlid.1).mpr hlid.2⟩

/-- The blocks print what is read if and only if each is fine with the block at hand before it. -/
theorem dumpBlocks_reads_iff (left : Nat) (block : Int) (lft : Vector UInt8 64) :
    Writes (LidRead query) (Emit.run (r.blockStep query) lft (blocksFrom block left)) ↔
      FineAlong (nextBlock query) (r.BlockFine query) lft (blocksFrom block left) := by
  refine writes_run (fun s x _ => blockStep_writes s x) (fun s x _ t out h => ?_) lft
  unfold blockStep at h
  generalize dumpLids _ _ _ _ = dumped at h
  cases dumped with
  | error e => cases h
  | ok lines => exact (Prod.mk.inj (Except.ok.inj h)).1.symm

end LftRequest

namespace MftRequest
variable {r : MftRequest} {query : Nat → Option SmpData}

/-- The mask of an MLID in a chunk that was read. -/
def readEntry (query : Nat → Option SmpData) (mlid chunk : Nat) : Option Nat :=
  (query (McSubnet.tableModifier chunk (mlid - ibMinMcastLid))).map fun data =>
    Ibtracert.mcMask data (mlid % 32)

/-- Every chunk with ports was read, in the block of the MLID. -/
def AllRead (query : Nat → Option SmpData) (nports mlid : Nat) : Prop :=
  ∀ chunk ∈ List.range (nports / 16 + 1), (readEntry query mlid chunk).isSome = true

/-- The chunks of the line were read, and the line has what they hold. -/
def MlidRead (r : MftRequest) (query : Nat → Option SmpData) (line : MftLine) : Prop :=
  AllRead query r.nports line.mlid ∧
    line.text = r.text fun chunk => (readEntry query line.mlid chunk).getD 0

/-- An MLID of a block that is asked for. -/
structure Asked (r : MftRequest) (block mlid : Nat) : Prop where
  inBlock : block * 32 ≤ mlid ∧ mlid < block * 32 + 32
  inRange : r.startlid ≤ mlid ∧ mlid ≤ r.endlid

/-- The table after the queries for a block. -/
def nextTable (r : MftRequest) (query : Nat → Option SmpData) (mft : Mft) (block : Nat) : Mft :=
  refresh query block 0 r.chunks mft

/-- Where a query for the block has failed, none of its MLIDs has a line: not all are asked for, and
neither the chunks that were read nor those from before have a member. -/
def BlockFine (r : MftRequest) (query : Nat → Option SmpData) (mft : Mft) (block : Nat) : Prop :=
  ∀ mlid, r.Asked block mlid → AllRead query r.nports mlid ∨
    ¬ (r.dumpAll = true ∨ HasMember ((r.nextTable query mft block).mask mlid) r.nports)

/-- A round of the loop over the blocks in dump_fts. -/
def blockStep (r : MftRequest) (query : Nat → Option SmpData) (mft : Mft) (block : Nat) :
    Except Fault (Mft × List MftLine) :=
  (r.dumpMlids (r.nextTable query mft block)
    (min (block * 32 + 32) (r.endlid + 1) - max (block * 32) r.startlid)
    (max (block * 32) r.startlid)).map fun lines => (r.nextTable query mft block, lines)

def blocks (r : MftRequest) : List Nat :=
  List.range' (r.startlid / 32) (r.endlid / 32 + 1 - r.startlid / 32)

theorem dumpBlocks_eq_run (hports : r.nports ≤ 255) (left block : Nat) (mft : Mft) :
    r.dumpBlocks false query left block mft =
      (Emit.run (r.blockStep query) mft (List.range' block left)).map fun t => (t.1, t.2, true) := by
  induction left generalizing block mft with
  | zero => rfl
  | succ left ih =>
      have hroom : 0 + r.chunks ≤ 16 := by
        rw [chunks_eq]
        omega
      rw [dumpBlocks, readChunks_eq mft hroom (by simp), ok_bind, List.range'_succ, Emit.run,
        blockStep]
      dsimp only [nextTable]
      rw [if_pos rfl]
      generalize dumpMlids _ _ _ _ = lines
      cases lines with
      | error e => rfl
      | ok lines =>
          dsimp only [bind, Except.bind, Except.map]
          rw [ih]
          cases Emit.run (r.blockStep query) (refresh query block 0 r.chunks mft)
            (List.range' (block + 1) left) <;> rfl

/-- In the table after the queries, the chunks that were read have what was read. -/
theorem nextTable_mask (hports : r.nports ≤ 255) (hrange : r.InRange) (mft : Mft)
    {block mlid : Nat} (hasked : r.Asked block mlid) {chunk : Nat}
    (hchunk : chunk ∈ List.range (r.nports / 16 + 1))
    (hread : (readEntry query mlid chunk).isSome = true) :
    (r.nextTable query mft block).mask mlid chunk = (readEntry query mlid chunk).getD 0 := by
  rw [List.mem_range] at hchunk
  have hmin : ibMinMcastLid ≤ mlid := hrange.low.trans hasked.inRange.1
  have hmax : mlid < 2 ^ 16 := by
    have hhigh := hasked.inRange.2.trans hrange.high
    rw [ibMaxMcastLid] at hhigh
    omega
  have hmlid : block = mlid / 32 := by
    have hin := hasked.inBlock
    omega
  rw [nextTable, mask_refresh mft mlid (by rw [chunks_eq]; exact hchunk) (by rw [chunks_eq]; omega),
    hmlid, modifier_eq hmin hmax]
  unfold readEntry at hread ⊢
  cases hquery : query (McSubnet.tableModifier chunk (mlid - ibMinMcastLid)) with
  | none =>
      rw [hquery] at hread
      cases hread
  | some data => rfl

/-- A round prints what is read, or nothing of an MLID that is asked for. -/
theorem blockStep_writes (hports : r.nports ≤ 255) (hfits : r.FitsLine) (hrange : r.InRange)
    (mft : Mft) (block : Nat) :
    Writes (r.MlidRead query) (r.blockStep query mft block) ↔ r.BlockFine query mft block := by
  obtain ⟨lines, hlines, hlists⟩ := dumpMlids_block hports hfits (r.nextTable query mft block) block
  have hwrites : Writes (r.MlidRead query) (r.blockStep query mft block) ↔
      ∀ line ∈ lines, r.MlidRead query line := by
    rw [blockStep, hlines]
    simp [Except.map, Writes]
  rw [hwrites]
  constructor
  · intro h mlid hasked
    by_contra hbad
    rw [not_or, not_not] at hbad
    have hline := (hlists.mem ⟨mlid, r.text ((r.nextTable query mft block).mask mlid)⟩).mpr
      ⟨hasked.inBlock.1, hasked.inBlock.2, hasked.inRange, hbad.2, rfl⟩
    exact hbad.1 (h _ hline).1
  · intro h line hline
    obtain ⟨hlo, hhi, hin, hshown, htext⟩ := (hlists.mem line).mp hline
    have hasked : r.Asked block line.mlid := ⟨⟨hlo, hhi⟩, hin⟩
    have hread := (h line.mlid hasked).resolve_right (not_not.mpr hshown)
    refine ⟨hread, htext.trans (text_congr fun chunk hchunk => ?_)⟩
    exact nextTable_mask hports hrange mft hasked hchunk (hread chunk hchunk)

theorem blockStep_state {mft mft' : Mft} {block : Nat} {lines : List MftLine}
    (h : r.blockStep query mft block = .ok (mft', lines)) : mft' = r.nextTable query mft block := by
  unfold blockStep at h
  generalize dumpMlids _ _ _ _ = dumped at h
  cases dumped with
  | error e => cases h
  | ok lines => exact (Prod.mk.inj (Except.ok.inj h)).1.symm

/-- Where the lines fit, the dump is what the loop over the blocks comes to. -/
theorem dump_eq_run (query : Nat → Option SmpData) (hports : r.nports ≤ 255) (hfits : r.FitsLine)
    (mft : Mft) : ∃ ports,
    r.dump false query mft = (Emit.run (r.blockStep query) mft r.blocks).map fun t =>
      (t.1, ⟨r.startlid, r.endlid, ports, t.2, some t.2.length⟩) := by
  obtain ⟨ports, hheadings⟩ := headings_ok hfits
  refine ⟨ports, ?_⟩
  rw [dump, hheadings, ok_bind]
  dsimp only
  rw [dumpBlocks_eq_run hports, blocks]
  generalize Emit.run (r.blockStep query) mft _ = dumped
  cases dumped <;> rfl

theorem dump_state {mft mft' : Mft} {printed : MftDump} (hports : r.nports ≤ 255)
    (h : r.dump false query mft = .ok (mft', printed)) :
    mft' = r.blocks.foldl (r.nextTable query) mft := by
  by_cases hfits : r.FitsLine
  · obtain ⟨ports, hdump⟩ := dump_eq_run query hports hfits mft
    rw [hdump] at h
    cases hrun : Emit.run (r.blockStep query) mft r.blocks with
    | error e =>
        rw [hrun] at h
        cases h
    | ok t =>
        rw [hrun] at h
        obtain ⟨rfl, -⟩ := Prod.mk.inj (Except.ok.inj h)
        exact Emit.run_state (fun s x _ t out hx => blockStep_state hx) hrun
  · unfold FitsLine at hfits
    rw [not_or, Bool.not_eq_true] at hfits
    rw [dump_error hfits.1 (by omega)] at h
    cases h

/-- The dump prints what is read if and only if it keeps within its line, and each block is fine
with the table that those before it have left. -/
theorem dump_reads_iff (hports : r.nports ≤ 255) (hrange : r.InRange) (mft : Mft) :
    (∃ printed, r.dump false query mft = .ok printed ∧
        ∀ line ∈ printed.2.lines, r.MlidRead query line) ↔
      r.FitsLine ∧ FineAlong (r.nextTable query) (r.BlockFine query) mft r.blocks := by
  by_cases hfits : r.FitsLine
  · obtain ⟨ports, hdump⟩ := dump_eq_run query hports hfits mft
    rw [hdump, and_iff_right hfits, map_writes fun t => Iff.rfl]
    exact writes_run (fun s x _ => blockStep_writes hports hfits hrange s x)
      (fun s x _ t out hx => blockStep_state hx) mft
  · refine iff_of_false ?_ fun h => hfits h.1
    unfold FitsLine at hfits
    rw [not_or, Bool.not_eq_true] at hfits
    rw [dump_error hfits.1 (by omega)]
    rintro ⟨printed, h, -⟩
    cases h

end MftRequest

namespace DumpFts
variable (o : FtsOptions)

/-- The LIDs that a switch is asked for. -/
def lftRequest (node : FtsSwitch) : LftRequest where
  nports := node.numports
  startlid := (o.startlid : Int).bmod (2 ^ 32)
  endlid := lastLid ((o.endlid : Int).bmod (2 ^ 32)) node.linearTop
  dumpAll := o.dumpAll

/-- Its blocks: up to the last one that ends before the last LID, or with it. -/
def lftBlocks (node : FtsSwitch) : List Int :=
  let request := lftRequest o node
  LftRequest.blocksFrom (request.startlid.tdiv 64)
    ((request.endlid + 63).tdiv 64 - request.startlid.tdiv 64).toNat

/-- The MLIDs that a switch is asked for. -/
def mftRequest (node : FtsSwitch) : MftRequest :=
  .clip node.numports node.mcastCap node.mcastTop o.startlid o.endlid o.brief o.dumpAll

/-- Each line is from a block, or from chunks, that were read from the switch, and has what they
hold. -/
def Reads : FtsSwitch × FtsDump → Prop
  | (node, .unicast lines _) => ∀ line ∈ lines, LftRequest.LidRead node.linearForwTbl line
  | (node, .multicast dump) =>
      ∀ line ∈ dump.lines, (mftRequest o node).MlidRead node.multicastForwTbl line

/-- The static table that a switch leaves to the next. -/
def nextMft (mft : Mft) (node : FtsSwitch) : Mft :=
  if o.multicast then
    (mftRequest o node).blocks.foldl ((mftRequest o node).nextTable node.multicastForwTbl) mft
  else mft

/-- No query that fails leads to a line: of a LID from the block before, of an MLID from the chunks
that were read and those that an earlier block or switch has left. The dump keeps within its
buffers. -/
def Harmless (mft : Mft) (node : FtsSwitch) : Prop :=
  if o.multicast then
    (mftRequest o node).FitsLine ∧ FineAlong ((mftRequest o node).nextTable node.multicastForwTbl)
      ((mftRequest o node).BlockFine node.multicastForwTbl) mft (mftRequest o node).blocks
  else
    FineAlong (LftRequest.nextBlock node.linearForwTbl)
      ((lftRequest o node).BlockFine node.linearForwTbl) (.replicate 64 0) (lftBlocks o node)

variable {o}

theorem dumpUnicastTables_reads_iff (node : FtsSwitch) :
    (∃ printed, dumpUnicastTables node.numports node.linearTop ((o.startlid : Int).bmod (2 ^ 32))
          ((o.endlid : Int).bmod (2 ^ 32)) o.dumpAll node.linearForwTbl = .ok printed ∧
        ∀ line ∈ printed.1, LftRequest.LidRead node.linearForwTbl line) ↔
      FineAlong (LftRequest.nextBlock node.linearForwTbl)
        ((lftRequest o node).BlockFine node.linearForwTbl) (.replicate 64 0) (lftBlocks o node) := by
  have hdump : dumpUnicastTables node.numports node.linearTop ((o.startlid : Int).bmod (2 ^ 32))
      ((o.endlid : Int).bmod (2 ^ 32)) o.dumpAll node.linearForwTbl =
      (Emit.run ((lftRequest o node).blockStep node.linearForwTbl) (.replicate 64 0)
        (lftBlocks o node)).map fun t => (t.2, some t.2.length) := by
    rw [dumpUnicastTables, dumpTable_eq, LftRequest.dumpBlocks_eq_run, lftBlocks, lftRequest]
    dsimp only
    generalize Emit.run _ _ _ = dumped
    cases dumped <;> rfl
  rw [hdump, map_writes fun t => Iff.rfl]
  exact LftRequest.dumpBlocks_reads_iff _ _ _

theorem dumpMulticastTables_reads_iff (mft : Mft) (node : FtsSwitch) :
    (∃ printed, dumpMulticastTables node.numports node.mcastCap node.mcastTop o.startlid o.endlid
          o.brief o.dumpAll node.multicastForwTbl mft = .ok printed ∧
        ∀ line ∈ printed.2.lines, (mftRequest o node).MlidRead node.multicastForwTbl line) ↔
      (mftRequest o node).FitsLine ∧ FineAlong ((mftRequest o node).nextTable node.multicastForwTbl)
        ((mftRequest o node).BlockFine node.multicastForwTbl) mft (mftRequest o node).blocks :=
  MftRequest.dump_reads_iff node.numports_le MftRequest.clip_inRange mft

theorem processSwitch_reads_iff (mft : Mft) (node : FtsSwitch) :
    Writes (Reads o) (processSwitch o mft node) ↔ Harmless o mft node := by
  unfold processSwitch dumpNode Harmless
  cases o.multicast with
  | true =>
      rw [if_pos rfl, if_pos rfl, ← dumpMulticastTables_reads_iff]
      generalize dumpMulticastTables _ _ _ _ _ _ _ _ mft = printed
      cases printed with
      | error e => simp [Writes, bind, Except.bind]
      | ok printed => simp [Writes, bind, Except.bind, Reads]
  | false =>
      rw [if_neg (by simp), if_neg (by simp), ← dumpUnicastTables_reads_iff]
      generalize dumpUnicastTables _ _ _ _ _ _ = printed
      cases printed with
      | error e => simp [Writes, bind, Except.bind]
      | ok printed => simp [Writes, bind, Except.bind, Reads]

theorem processSwitch_state {mft mft' : Mft} {node : FtsSwitch} {out : List (FtsSwitch × FtsDump)}
    (h : processSwitch o mft node = .ok (mft', out)) : mft' = nextMft o mft node := by
  unfold processSwitch dumpNode at h
  unfold nextMft
  cases hmulticast : o.multicast with
  | true =>
      rw [hmulticast, if_pos rfl] at h
      obtain ⟨printed, hprinted, hrest⟩ := bind_eq_ok.mp h
      obtain ⟨dumped, hdumped, hdump⟩ := bind_eq_ok.mp hprinted
      cases hdump
      cases hrest
      rw [if_pos rfl]
      exact MftRequest.dump_state (r := mftRequest o node) node.numports_le hdumped
  | false =>
      rw [hmulticast, if_neg (by simp)] at h
      obtain ⟨printed, hprinted, hrest⟩ := bind_eq_ok.mp h
      obtain ⟨dumped, -, hdump⟩ := bind_eq_ok.mp hprinted
      cases hdump
      cases hrest
      rw [if_neg (by simp)]

theorem processSwitches_reads_iff (nodes : List FtsSwitch) (mft : Mft) :
    Writes (Reads o) (processSwitches o nodes mft) ↔ FineAlong (nextMft o) (Harmless o) mft nodes :=
  writes_run (fun s x _ => processSwitch_reads_iff s x)
    (fun _ _ _ _ _ h => processSwitch_state h) mft

/-- dump_fts ends and prints no line from what it has not read, if and only if no query that fails
leads to a line. -/
theorem dumpFts_reads_iff (o : FtsOptions) (nodes : List FtsSwitch) :
    Writes (Reads o) (processSwitches o nodes (.replicate 16 .zero)) ↔
      FineAlong (nextMft o) (Harmless o) (.replicate 16 .zero) nodes :=
  processSwitches_reads_iff nodes _

section Counterexample

/-- A switch that does not answer. -/
def silentSwitch : FtsSwitch := ⟨36, by decide, 10, 64, 0, fun _ => none, fun _ => none⟩

/-- A switch with MLID 0xc000 on port 1. -/
def groupSwitch : FtsSwitch :=
  ⟨8, by decide, 10, 64, 0, fun _ => none, fun _ => some (.ofBytes [0, 2])⟩

/-- The LIDs of a switch that does not answer lead to port 0; its MLIDs to the port of the switch
before. -/
theorem not_dumpFts_reads_silent :
    ¬ Writes (Reads ⟨false, false, false, 1, 0⟩)
        (processSwitches ⟨false, false, false, 1, 0⟩ [silentSwitch] (.replicate 16 .zero)) ∧
      ¬ Writes (Reads ⟨true, false, false, 0, 0⟩)
        (processSwitches ⟨true, false, false, 0, 0⟩ [groupSwitch, silentSwitch]
          (.replicate 16 .zero)) := by
  constructor
  · rw [processSwitches_reads_iff]
    rintro ⟨hfine, -⟩
    have hblock := hfine.1 1 ⟨by decide, by decide⟩
    exact hblock.2 rfl (.inl (by decide))
  · rw [processSwitches_reads_iff]
    rintro ⟨-, hfine, -⟩
    rcases hfine.2.1 0xc000 ⟨by decide, by decide⟩ with hread | hshown
    · exact absurd (hread 0 (by decide)) (by decide)
    · exact hshown (.inr ⟨0, by decide, by decide +kernel⟩)

end Counterexample

end DumpFts
end InfinibandDiags
