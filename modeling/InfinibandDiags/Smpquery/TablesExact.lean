import InfinibandDiags.Library.Folds
import InfinibandDiags.Library.Paged
import InfinibandDiags.Smpquery.Tables

/-! Which entries of its tables smpquery shows. -/
namespace InfinibandDiags
namespace Smpquery

/-- The entries `0 .. n - 1` with their indices. -/
theorem zipIdx_map_range {α : Type} (f : Nat → α) (n b : Nat) :
    (((List.range n).map f).zipIdx b).map Prod.swap =
      (List.range n).map fun i => (b + i, f i) := by
  rw [List.zipIdx_eq_zip_range', List.length_map, List.length_range, List.range'_eq_map_range,
    List.zip_map', List.map_map]
  rfl

/-- A device that answers every query. -/
def answering (answer : Nat → BitVec 32 → SmpData) : SmpQuery := fun attr mod =>
  some (answer attr mod)

theorem ask_answering (answer : Nat → BitVec 32 → SmpData) (attr : Nat) (mod : BitVec 32)
    (message : String) : (answering answer).ask attr mod message = .ok (answer attr mod) := rfl

namespace Paging
variable (t : Paging)

def entry (data : SmpData) (i : Nat) : Nat := networkValue (bytesAt data.bytes (i * t.width) t.width)

theorem entryAt_eq (data : SmpData) {i : Nat} (hi : i < t.block) :
    entryAt data t.width i = .ok (t.entry data i) := by
  refine if_pos ?_
  rw [← t.fits]
  exact Nat.mul_le_mul_right t.width hi

theorem dumpBlock_eq (data : SmpData) (i m : Nat) (hm : m * t.line ≤ t.block) :
    t.dumpBlock data i (m * t.line) = .ok ((List.range m).map fun r =>
      ⟨i * t.block + r * t.line, (List.range t.line).map fun e => t.entry data (r * t.line + e)⟩) := by
  have hrows : (m * t.line + (t.line - 1)) / t.line = m := by
    have hless : (t.line - 1) / t.line = 0 := Nat.div_eq_of_lt (Nat.sub_one_lt t.line_pos.ne')
    rw [Nat.mul_comm, Nat.mul_add_div t.line_pos, hless, Nat.add_zero]
  rw [dumpBlock, hrows]
  refine Folds.mapM_ok fun r hr => ?_
  have hline : (r + 1) * t.line ≤ m * t.line := Nat.mul_le_mul_right t.line (List.mem_range.mp hr)
  rw [Nat.succ_mul] at hline
  have hentries : ((List.range t.line).mapM fun e => entryAt data t.width (r * t.line + e)) =
      .ok ((List.range t.line).map fun e => t.entry data (r * t.line + e)) := by
    refine Folds.mapM_ok fun e he => t.entryAt_eq data ?_
    have he := List.mem_range.mp he
    omega
  rw [hentries]
  rfl

/-- The rows of a block, entry for entry. -/
theorem shown_rows (data : SmpData) (i m : Nat) :
    (((List.range m).map fun r => (⟨i * t.block + r * t.line,
      (List.range t.line).map fun e => t.entry data (r * t.line + e)⟩ : TableRow)).flatMap
        TableRow.shown) =
      (List.range (m * t.line)).map fun j => (i * t.block + j, t.entry data j) := by
  rw [List.flatMap_map, ← Paged.flatMap_rows]
  refine List.flatMap_congr fun r _ => ?_
  rw [TableRow.shown, zipIdx_map_range]
  simp only [Nat.add_assoc]

/-- The lines of block `i`. -/
def lines (n i : Nat) : Nat :=
  if i + 1 = t.blocks n then (n + (t.line - 1) - i * t.block) / t.line else t.block / t.line

theorem block_pos : 0 < t.block := by
  refine Nat.pos_of_ne_zero fun hzero => ?_
  have hfits := t.fits
  rw [hzero, Nat.zero_mul] at hfits
  exact absurd hfits (by decide)

theorem blockEntries_eq (n i : Nat) : t.blockEntries n i = t.lines n i * t.line := by
  unfold blockEntries lines
  split
  · rfl
  · exact (Nat.div_mul_cancel t.line_dvd).symm

/-- Behind the full blocks, the last one has the rest of the table. -/
theorem last_block {n b : Nat} (hb : t.blocks n = b + 1) :
    b * t.block < n ∧ n ≤ b * t.block + t.block := by
  have hpos := t.block_pos
  have hlow : (b + 1) * t.block ≤ n + (t.block - 1) := by
    rw [← hb]
    exact Nat.div_mul_le_self _ _
  have hhigh : n + (t.block - 1) < (b + 2) * t.block := by
    rw [← Nat.div_lt_iff_lt_mul hpos]
    rw [show (n + (t.block - 1)) / t.block = b + 1 from hb]
    exact Nat.lt_succ_self _
  rw [Nat.succ_mul] at hlow
  rw [Nat.add_mul, Nat.two_mul] at hhigh
  omega

theorem lines_le (n i : Nat) : t.lines n i * t.line ≤ t.block := by
  unfold lines
  split
  · next hlast =>
      have hend := (t.last_block hlast.symm).2
      obtain ⟨c, hc⟩ := t.line_dvd
      have hle : (n + (t.line - 1) - i * t.block) / t.line ≤ c := by
        rw [Nat.div_le_iff_le_mul_add_pred t.line_pos, ← hc]
        omega
      calc (n + (t.line - 1) - i * t.block) / t.line * t.line
          ≤ c * t.line := Nat.mul_le_mul_right t.line hle
        _ = t.block := by rw [hc, Nat.mul_comm]
  · exact Nat.div_mul_le_self _ _

theorem le_last {n b : Nat} (hb : t.blocks n = b + 1) :
    n ≤ b * t.block + t.lines n b * t.line := by
  have hstart := (t.last_block hb).1
  have hmod := Nat.div_add_mod (n + (t.line - 1) - b * t.block) t.line
  have hlt := Nat.mod_lt (n + (t.line - 1) - b * t.block) t.line_pos
  rw [lines, if_pos hb.symm, Nat.mul_comm _ t.line]
  omega

section Answered
variable (answer : Nat → BitVec 32 → SmpData) (attr : Nat) (mod : Nat → BitVec 32)

/-- What block `i` is shown as. -/
def blockRows (n i : Nat) : List TableRow :=
  (List.range (t.lines n i)).map fun r => ⟨i * t.block + r * t.line,
    (List.range t.line).map fun e => t.entry (answer attr (mod i)) (r * t.line + e)⟩

/-- The entry in the block that holds it. -/
def heldEntry (q : Nat) : Nat := t.entry (answer attr (mod (q / t.block))) (q % t.block)

theorem dump_eq (message : String) (n : Nat) :
    t.dump (answering answer) attr mod message n =
      .ok ((List.range (t.blocks n)).flatMap (t.blockRows answer attr mod n)) := by
  have hblocks : ((List.range (t.blocks n)).mapM fun i => do
      let data ← (answering answer).ask attr (mod i) message
      t.dumpBlock data i (t.blockEntries n i)) =
      .ok ((List.range (t.blocks n)).map (t.blockRows answer attr mod n)) := by
    refine Folds.mapM_ok fun i _ => ?_
    rw [ask_answering, ok_bind, t.blockEntries_eq, t.dumpBlock_eq _ i _ (t.lines_le n i)]
    rfl
  rw [dump, hblocks, List.flatMap_def]
  rfl

theorem shown_blockRows (n i : Nat) : (t.blockRows answer attr mod n i).flatMap TableRow.shown =
    (List.range (t.lines n i * t.line)).map fun j =>
      (i * t.block + j, t.heldEntry answer attr mod (i * t.block + j)) := by
  rw [blockRows, shown_rows]
  refine List.map_congr_left fun j hj => ?_
  have hblock : j < t.block := (List.mem_range.mp hj).trans_le (t.lines_le n i)
  have hdiv : (i * t.block + j) / t.block = i := by
    rw [Nat.mul_comm, Nat.mul_add_div t.block_pos, Nat.div_eq_of_lt hblock, Nat.add_zero]
  have hmod : (i * t.block + j) % t.block = j := by
    rw [Nat.mul_comm, Nat.mul_add_mod, Nat.mod_eq_of_lt hblock]
  rw [heldEntry, hdiv, hmod]

/-- All entries up to the capacity, and what the last line has behind them. -/
theorem shown_dump (n : Nat) : ∃ N, n ≤ N ∧
    ((List.range (t.blocks n)).flatMap (t.blockRows answer attr mod n)).flatMap TableRow.shown =
      (List.range N).map fun q => (q, t.heldEntry answer attr mod q) := by
  cases hb : t.blocks n with
  | zero =>
      refine ⟨0, ?_, rfl⟩
      have hless := (Nat.div_eq_zero_iff_lt t.block_pos).mp hb
      omega
  | succ b =>
      refine ⟨b * t.block + t.lines n b * t.line, t.le_last hb, ?_⟩
      have hfull : ∀ i ∈ List.range b, (t.blockRows answer attr mod n i).flatMap TableRow.shown =
          (List.range t.block).map fun j =>
            (i * t.block + j, t.heldEntry answer attr mod (i * t.block + j)) := by
        intro i hi
        have hne : i + 1 ≠ t.blocks n := by
          have hi := List.mem_range.mp hi
          omega
        rw [shown_blockRows, lines, if_neg hne, Nat.div_mul_cancel t.line_dvd]
      rw [List.range_succ, List.flatMap_append, List.flatMap_append, List.flatMap_singleton,
        shown_blockRows, List.flatMap_assoc, List.flatMap_congr hfull,
        Paged.flatMap_rows fun q => (q, t.heldEntry answer attr mod q), List.range_add,
        List.map_append, List.map_map]
      rfl

/-- The rounding of the last block loses no entry. -/
theorem dump_shows (message : String) (n : Nat) :
    ∃ rows, t.dump (answering answer) attr mod message n = .ok rows ∧
      Paged.ShowsOnce n (rows.flatMap TableRow.shown) (t.heldEntry answer attr mod) := by
  obtain ⟨N, hN, hshown⟩ := t.shown_dump answer attr mod n
  refine ⟨_, t.dump_eq answer attr mod message n, ?_⟩
  rw [hshown]
  exact Paged.showsOnce_range hN

end Answered
end Paging

section Arb

/-- An entry of a VL arbitration block: its VL and its weight. -/
def arbEntry (data : SmpData) (i : Nat) : Nat × Nat :=
  ((byteAt data.bytes (2 * i)).toNat &&& 0x0f, (byteAt data.bytes (2 * i + 1)).toNat)

variable {data : SmpData} {i : Nat}

theorem resVl_eq (hi : i < 32) : resVl data i = .ok (arbEntry data i).1 := by
  have hbyte : 2 * i < ibSmpDataSize := Nat.mul_lt_mul_of_pos_left hi (by decide)
  rw [resVl, vlEntryByte, if_pos hbyte]
  rfl

theorem weight_eq (hi : i < 32) : weight data i = .ok (arbEntry data i).2 := by
  have hbyte : 2 * i + 1 < ibSmpDataSize := by
    have hsize : ibSmpDataSize = 64 := rfl
    omega
  exact if_pos hbyte

theorem resVl_past : resVl data 32 = .error (.fault .outOfBounds) := rfl

variable {read : Nat → Except TableError Nat} {f : Nat → Nat} {bufsz left n : Nat}

/-- A line that has room, five characters for each entry. -/
theorem arbLine_ok (hread : ∀ j < i + left, read j = .ok (f j)) (hroom : n + 5 * left < bufsz) :
    arbLine read bufsz left i n =
      .ok ((List.range left).map fun j => f (i + j), some (n + 5 * left)) := by
  induction left generalizing i n with
  | zero => rfl
  | succ left ih =>
      have hhead : read i = .ok (f i) := hread i (by omega)
      have htail : arbLine read bufsz left (i + 1) (n + 5) = _ :=
        ih (fun j hj => hread j (by omega)) (by omega)
      have hchars : n + 5 + 5 * left = n + 5 * (left + 1) := by omega
      rw [arbLine, hhead, ok_bind, if_neg (by omega), htail, ok_bind, hchars,
        List.range_succ_eq_map, List.map_cons, List.map_map]
      refine congrArg (fun vs => Except.ok (f i :: vs, some _)) (List.map_congr_left fun j _ => ?_)
      rw [Function.comp_apply, Nat.succ_eq_add_one, Nat.add_right_comm, Nat.add_assoc]

/-- A line that has room as far as an entry behind the block. -/
theorem arbLine_past {e : TableError} {k : Nat} (hread : ∀ j < k, read j = .ok (f j))
    (hpast : read k = .error e) (hi : i ≤ k) (hleft : k < i + left)
    (hroom : n + 5 * (k - i) < bufsz) : arbLine read bufsz left i n = .error e := by
  induction left generalizing i n with
  | zero => omega
  | succ left ih =>
      rw [arbLine]
      by_cases hend : i = k
      · rw [hend, hpast]
        rfl
      · have hhead : read i = .ok (f i) := hread i (by omega)
        have htail : arbLine read bufsz left (i + 1) (n + 5) = .error e :=
          ih (by omega) (by omega) (by omega)
        rw [hhead, ok_bind, if_neg (by omega), htail]
        rfl

variable {num : Nat}

def arbBlock (data : SmpData) (num : Nat) : ArbBlock :=
  ⟨(List.range num).map fun j => (arbEntry data j).1,
    (List.range num).map fun j => (arbEntry data j).2⟩

theorem zip_arbBlock : (arbBlock data num).vls.zip (arbBlock data num).weights =
    (List.range num).map (arbEntry data) := by
  rw [arbBlock, List.zip_map']

/-- A block within its 32 entries is dumped whole. -/
theorem madDumpVlarbitration_ok (hnum : num ≤ 32) :
    madDumpVlarbitration 2048 data (num * 2) = .ok (arbBlock data num) := by
  have hvls : arbLine (resVl data) 2048 num 0 10 = _ :=
    arbLine_ok (fun j hj => resVl_eq (by omega)) (by omega)
  have hweights : arbLine (weight data) 2048 num 0 (10 + 5 * num + 10) = _ :=
    arbLine_ok (fun j hj => weight_eq (by omega)) (by omega)
  rw [madDumpVlarbitration, if_neg (by decide), Nat.mul_div_cancel num Nat.two_pos, hvls, ok_bind]
  dsimp only [Option.elim_some]
  rw [if_neg (by omega), hweights, ok_bind]
  simp only [Nat.zero_add, arbBlock]

theorem madDumpVlarbitration_past (hnum : 32 < num) :
    madDumpVlarbitration 2048 data (num * 2) = .error (.fault .outOfBounds) := by
  have hvls : arbLine (resVl data) 2048 num 0 10 = .error (.fault .outOfBounds) :=
    arbLine_past (k := 32) (fun j hj => resVl_eq hj) resVl_past (by decide) (by omega) (by decide)
  rw [madDumpVlarbitration, if_neg (by decide), Nat.mul_div_cancel num Nat.two_pos, hvls]
  rfl

variable {answer : Nat → BitVec 32 → SmpData} {portnum : BitVec 32} {offset cap : Nat}

/-- The entry in the block that holds it, of the two blocks from `offset` on. -/
def heldArb (answer : Nat → BitVec 32 → SmpData) (portnum : BitVec 32) (offset q : Nat) :
    Nat × Nat :=
  arbEntry (answer ibAttrVlArbitration (vlarbMod portnum (offset + q / 32))) (q % 32)

theorem vlarbDumpTableEntry_ok (hnum : num ≤ 32) :
    vlarbDumpTableEntry (answering answer) portnum offset num =
      .ok (arbBlock (answer ibAttrVlArbitration (vlarbMod portnum offset)) num) :=
  madDumpVlarbitration_ok hnum

variable {q : Nat}

theorem heldArb_first (hq : q < 32) : heldArb answer portnum offset q =
    arbEntry (answer ibAttrVlArbitration (vlarbMod portnum offset)) q := by
  rw [heldArb, Nat.div_eq_of_lt hq, Nat.mod_eq_of_lt hq, Nat.add_zero]

theorem heldArb_second (hq : q < 32) : heldArb answer portnum offset (32 + q) =
    arbEntry (answer ibAttrVlArbitration (vlarbMod portnum (offset + 1))) q := by
  rw [heldArb, Nat.add_div_left q (by decide), Nat.add_mod_left, Nat.div_eq_of_lt hq,
    Nat.mod_eq_of_lt hq]

/-- The second block goes on where the first one ends. -/
theorem heldArb_blocks (hsecond : 32 < cap) (hcap : cap ≤ 64) :
    (List.range 32).map (arbEntry (answer ibAttrVlArbitration (vlarbMod portnum offset))) ++
        (List.range (cap - 32)).map
          (arbEntry (answer ibAttrVlArbitration (vlarbMod portnum (offset + 1)))) =
      (List.range cap).map (heldArb answer portnum offset) := by
  have hsplit : cap = 32 + (cap - 32) := by omega
  have hfirst : (List.range 32).map (heldArb answer portnum offset) = _ :=
    List.map_congr_left fun q hq => heldArb_first (List.mem_range.mp hq)
  have hrest : (List.range (cap - 32)).map (fun q => heldArb answer portnum offset (32 + q)) = _ :=
    List.map_congr_left fun q hq =>
      heldArb_second ((List.mem_range.mp hq).trans_le (by omega))
  calc (List.range 32).map (arbEntry (answer ibAttrVlArbitration (vlarbMod portnum offset))) ++
        (List.range (cap - 32)).map
          (arbEntry (answer ibAttrVlArbitration (vlarbMod portnum (offset + 1))))
      = (List.range 32).map (heldArb answer portnum offset) ++
          (List.range (cap - 32)).map fun q => heldArb answer portnum offset (32 + q) := by
        rw [hfirst, hrest]
    _ = (List.range (32 + (cap - 32))).map (heldArb answer portnum offset) := by
        rw [List.range_add, List.map_append, List.map_map]
        rfl
    _ = (List.range cap).map (heldArb answer portnum offset) := by rw [← hsplit]

theorem vlarbDumpTable_ok (hcap : cap ≤ 64) :
    ∃ blocks, vlarbDumpTable (answering answer) portnum offset cap = .ok blocks ∧
      shownArb blocks = (List.range cap).map fun q => (q, heldArb answer portnum offset q) := by
  rw [vlarbDumpTable]
  by_cases hsecond : 32 < cap
  · have hfirst : (if cap < 32 then cap else 32) = 32 := if_neg (by omega)
    rw [hfirst, vlarbDumpTableEntry_ok (le_refl 32), ok_bind, if_pos hsecond,
      vlarbDumpTableEntry_ok (by omega)]
    refine ⟨_, rfl, ?_⟩
    rw [shownArb, List.flatMap_cons, List.flatMap_singleton, zip_arbBlock, zip_arbBlock,
      heldArb_blocks hsecond hcap, zipIdx_map_range]
    simp only [Nat.zero_add]
  · have hfirst : (if cap < 32 then cap else 32) = cap := by
      split <;> omega
    rw [hfirst, vlarbDumpTableEntry_ok (by omega), ok_bind, if_neg hsecond]
    refine ⟨_, rfl, ?_⟩
    rw [shownArb, List.flatMap_singleton, zip_arbBlock, zipIdx_map_range]
    refine List.map_congr_left fun q hq => ?_
    rw [Nat.zero_add, heldArb_first ((List.mem_range.mp hq).trans_le (Nat.not_lt.mp hsecond))]

theorem vlarbDumpTable_past (hcap : 64 < cap) :
    vlarbDumpTable (answering answer) portnum offset cap = .error (.fault .outOfBounds) := by
  have hfirst : (if cap < 32 then cap else 32) = 32 := if_neg (by omega)
  have hsecond : vlarbDumpTableEntry (answering answer) portnum (offset + 1) (cap - 32) =
      .error (.fault .outOfBounds) := madDumpVlarbitration_past (by omega)
  rw [vlarbDumpTable, hfirst, vlarbDumpTableEntry_ok (le_refl 32), ok_bind, if_pos (by omega),
    hsecond]
  rfl

end Arb

section Exact
variable (answer : Nat → BitVec 32 → SmpData) (portnum : BitVec 32)

def PkeysShown : Prop :=
  ∀ n, pkeyCapacity (answering answer) portnum = .ok n →
    ∃ rows, pkeyTable (answering answer) portnum = .ok ⟨rows, n⟩ ∧
      Paged.ShowsOnce n (ShownTable.shown ⟨rows, n⟩)
        (pkeyPaging.heldEntry answer ibAttrPkeyTbl (pkeyMod portnum))

def guidCap : Nat := fieldOf (answer ibAttrPortInfo 0#32) ibPortGuidCapF

def GuidsShown : Prop :=
  ∃ rows, guidInfo (answering answer) = .ok ⟨rows, guidCap answer⟩ ∧
    Paged.ShowsOnce (guidCap answer) (ShownTable.shown ⟨rows, guidCap answer⟩)
      (guidPaging.heldEntry answer ibAttrGuidInfo (BitVec.ofNat 32))

def arbCap (f : Nat) : Nat := fieldOf (answer ibAttrPortInfo portnum) f

/-- The first low priority block is block 1, the first high priority block is block 3. -/
def ArbShown : Prop :=
  ∃ tables, vlarbTable (answering answer) portnum = .ok tables ∧ ∀ shown, tables = some shown →
    Paged.ShowsOnce (arbCap answer portnum ibPortVlArbitrationLowCapF) (shownArb shown.low)
        (heldArb answer portnum 1) ∧
      Paged.ShowsOnce (arbCap answer portnum ibPortVlArbitrationHighCapF) (shownArb shown.high)
        (heldArb answer portnum 3)

/-- What the three commands show of a device that answers every query. -/
structure TablesShown : Prop where
  pkeys : PkeysShown answer portnum
  guids : GuidsShown answer
  arb : ArbShown answer portnum

/-- A switch without enhanced port 0, asked for port 0, has no VL arbitration tables. -/
def NoArbTables : Prop :=
  portnum = 0#32 ∧ fieldOf (answer ibAttrNodeInfo 0#32) ibNodeTypeF = ibNodeSwitch ∧
    fieldOf (answer ibAttrSwitchInfo 0#32) ibSwEnhancedPort0F = 0

/-- The VL arbitration tables have at most two blocks each. -/
def ArbFits : Prop :=
  NoArbTables answer portnum ∨ arbCap answer portnum ibPortVlArbitrationLowCapF ≤ 64 ∧
    arbCap answer portnum ibPortVlArbitrationHighCapF ≤ 64

theorem pkeysShown : PkeysShown answer portnum := fun n hn => by
  obtain ⟨rows, hdump, hshown⟩ := pkeyPaging.dump_shows answer ibAttrPkeyTbl (pkeyMod portnum)
    "pkey table query failed" n
  refine ⟨rows, ?_, hshown⟩
  rw [pkeyTable, hn, ok_bind, hdump]
  rfl

theorem guidsShown : GuidsShown answer := by
  obtain ⟨rows, hdump, hshown⟩ := guidPaging.dump_shows answer ibAttrGuidInfo (BitVec.ofNat 32)
    "guid info query failed" (guidCap answer)
  refine ⟨rows, ?_, hshown⟩
  rw [guidInfo, ask_answering, ok_bind]
  exact (congrArg (fun dumped => dumped >>= _) hdump).trans rfl

theorem basicPort0_eq : ∃ b, basicPort0 (answering answer) portnum = .ok b ∧
    (b = true ↔ NoArbTables answer portnum) := by
  rw [basicPort0]
  by_cases hport : portnum = 0#32
  · rw [if_pos hport, ask_answering, ok_bind]
    by_cases hswitch : fieldOf (answer ibAttrNodeInfo 0#32) ibNodeTypeF = ibNodeSwitch
    · rw [if_pos hswitch, ask_answering, ok_bind]
      refine ⟨_, rfl, decide_eq_true_iff.trans ?_⟩
      rw [NoArbTables, and_iff_right hport, and_iff_right hswitch]
    · exact ⟨false, if_neg hswitch, iff_of_false (by decide) fun h => hswitch h.2.1⟩
  · exact ⟨false, if_neg hport, iff_of_false (by decide) fun h => hport h.1⟩

variable {answer portnum}

/-- A table of no entries is not asked for. -/
theorem vlarbTablePart_ok (offset : Nat) {cap : Nat} (hcap : cap ≤ 64) :
    ∃ blocks, vlarbTablePart (answering answer) portnum offset cap = .ok blocks ∧
      Paged.ShowsOnce cap (shownArb blocks) (heldArb answer portnum offset) := by
  by_cases hpos : 0 < cap
  · have hok : ∃ blocks, vlarbDumpTable (answering answer) portnum offset cap = .ok blocks ∧ _ :=
      vlarbDumpTable_ok hcap
    obtain ⟨blocks, hdump, hshown⟩ := hok
    refine ⟨blocks, (if_pos hpos).trans hdump, ?_⟩
    rw [hshown]
    exact Paged.showsOnce_range (le_refl cap)
  · exact ⟨[], if_neg hpos, fun q hq => absurd hq (by omega)⟩

theorem vlarbTablePart_past (offset : Nat) {cap : Nat} (hcap : 64 < cap) :
    vlarbTablePart (answering answer) portnum offset cap = .error (.fault .outOfBounds) :=
  (if_pos (by omega)).trans (vlarbDumpTable_past hcap)

theorem arbShown_iff : ArbShown answer portnum ↔ ArbFits answer portnum := by
  obtain ⟨b, hbasic, hb⟩ := basicPort0_eq answer portnum
  rw [ArbShown, vlarbTable, hbasic, ok_bind, ArbFits, ← hb]
  cases b with
  | true => exact iff_of_true ⟨none, rfl, fun shown h => by cases h⟩ (.inl rfl)
  | false =>
      rw [or_iff_right (by decide), if_neg (by decide), ask_answering, ok_bind]
      dsimp only
      rw [← arbCap, ← arbCap]
      by_cases hlow : arbCap answer portnum ibPortVlArbitrationLowCapF ≤ 64
      · obtain ⟨low, hlowdump, hlowshown⟩ := vlarbTablePart_ok 1 hlow
        rw [hlowdump, ok_bind, and_iff_right hlow]
        by_cases hhigh : arbCap answer portnum ibPortVlArbitrationHighCapF ≤ 64
        · obtain ⟨high, hhighdump, hhighshown⟩ := vlarbTablePart_ok 3 hhigh
          rw [hhighdump]
          refine iff_of_true ⟨some ⟨low, high⟩, rfl, fun shown h => ?_⟩ hhigh
          cases h
          exact ⟨hlowshown, hhighshown⟩
        · rw [vlarbTablePart_past 3 (Nat.not_le.mp hhigh)]
          exact iff_of_false (fun ⟨tables, h, _⟩ => by cases h) hhigh
      · rw [vlarbTablePart_past 1 (Nat.not_le.mp hlow)]
        exact iff_of_false (fun ⟨tables, h, _⟩ => by cases h) fun h => hlow h.1

theorem tablesShown_iff : TablesShown answer portnum ↔ ArbFits answer portnum :=
  ⟨fun h => arbShown_iff.mp h.arb, fun h => ⟨pkeysShown _ _, guidsShown _, arbShown_iff.mpr h⟩⟩

/-- Of 65 entries the last one is read from behind the second block. -/
theorem capacity65_past : ¬ ∀ (answer : Nat → BitVec 32 → SmpData) (portnum : BitVec 32),
    TablesShown answer portnum := fun hall => by
  obtain ⟨tables, h, _⟩ := (hall (fun _ _ => .ofBytes (List.replicate 64 65)) 1#32).arb
  have hfault : vlarbTable (answering fun _ _ => .ofBytes (List.replicate 64 65)) 1#32 =
      .error (.fault .outOfBounds) := by
    decide +kernel
  rw [hfault] at h
  cases h

end Exact

end Smpquery
end InfinibandDiags
