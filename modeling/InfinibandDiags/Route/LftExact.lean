import InfinibandDiags.Route.LftDump

/-! When the dump of a forwarding table has one line for each LID of the range that leads to a
port, and no other. -/
namespace InfinibandDiags

/-- The block that answers a query, of a table that answers all. -/
def blockOf (lft : Int → UInt8) (block : Int) : Vector UInt8 64 :=
  Vector.ofFn fun place => lft (block * 64 + place.val)

/-- A dump in which every query succeeds. -/
def answers (lft : Int → UInt8) (block : Int) : Option (Vector UInt8 64) := some (blockOf lft block)

/-- The last LID that a range asks for; 0 stands for the top. -/
def lastLid (endlid : Int) (top : Nat) : Int :=
  min (if endlid = 0 then (top : Int) else min endlid top) ibMaxUcastLid

/-- A line that the dump owes: for a LID of the range whose entry is a port. -/
def Owed (lft : Int → UInt8) (nports : Nat) (startlid last : Int) (line : LftLine) : Prop :=
  (startlid ≤ line.lid ∧ line.lid ≤ last) ∧ (lft line.lid).toNat ≤ nports ∧
    line.outport = (lft line.lid).toNat

/-- One line for each LID from 0 on that is owed one, by increasing LID. -/
def DumpExact (lft : Int → UInt8) (nports : Nat) (startlid last : Int) (lines : List LftLine) :
    Prop :=
  Lists LftLine.lid (Owed lft nports startlid last) 0 (last + 1) lines

/-- A line that the code prints: the entry passes as a `char`. -/
def Printed (request : LftRequest) (lft : Int → UInt8) (line : LftLine) : Prop :=
  (request.startlid ≤ line.lid ∧ line.lid ≤ request.endlid) ∧
    unsignedOfChar (lft line.lid) ≤ request.nports ∧ line.outport = (lft line.lid).toNat

section Loops
variable {r : LftRequest} {lft : Int → UInt8}

theorem unsignedOfChar_mod (c : UInt8) : unsignedOfChar c % 256 = c.toNat := by
  have hlt := c.toNat_lt
  unfold unsignedOfChar
  split <;> omega

theorem blockOf_get (lft : Int → UInt8) {block i : Int} (hblock : 0 ≤ block) (hlo : block * 64 ≤ i)
    (hhi : i < block * 64 + 64) :
    0 ≤ i.tmod 64 ∧ (blockOf lft block).toList.getD (i.tmod 64).toNat 0 = lft i := by
  have hmod : i.tmod 64 = i - block * 64 := by
    rw [Int.tmod_eq_emod_of_nonneg (by omega)]
    omega
  have hplace : (i.tmod 64).toNat < 64 := by omega
  refine ⟨by omega, ?_⟩
  rw [List.getD_eq_getElem?_getD, List.getElem?_eq_getElem (by simpa using hplace), Option.getD_some]
  simp only [blockOf, Vector.getElem_toList, Vector.getElem_ofFn]
  congr 1
  omega

/-- The LIDs of a block, all within the range. -/
theorem dumpLids_lists (lft : Int → UInt8) {block : Int} (hall : r.dumpAll = false)
    (hblock : 0 ≤ block) (left : Nat) {i : Int} (hlo : block * 64 ≤ i) (hhi : i + left ≤ block * 64 + 64)
    (hstart : r.startlid ≤ i) (hend : i + left ≤ r.endlid + 1) :
    ∃ lines, r.dumpLids (blockOf lft block) left i = .ok lines ∧
      Lists LftLine.lid (Printed r lft) i (i + left) lines := by
  induction left generalizing i with
  | zero => exact ⟨[], rfl, .empty (by simp)⟩
  | succ left ih =>
      obtain ⟨hplace, hentry⟩ := blockOf_get lft hblock hlo (by omega)
      obtain ⟨lines, hlines, hlists⟩ := ih (i := i + 1) (by omega) (by omega) (by omega) (by omega)
      have hrest : Lists LftLine.lid (Printed r lft) (i + 1) (i + (left + 1 : Nat)) lines :=
        hlists.congr fun x => by rw [show i + 1 + (left : Int) = i + (left + 1 : Nat) by omega]
      rw [LftRequest.dumpLids, if_pos hplace, hentry, hlines, hall]
      dsimp only [bind, Except.bind]
      rw [Bool.or_false]
      by_cases hprinted : unsignedOfChar (lft i) ≤ r.nports
      · rw [if_pos (by simpa using hprinted), unsignedOfChar_mod]
        refine ⟨[⟨i, (lft i).toNat⟩] ++ lines, rfl, ?_⟩
        refine Lists.append (b := i + 1) (by omega) (by omega) ?_ hrest
        refine Lists.singleton ⟨⟨hstart, ?_⟩, hprinted, rfl⟩ (Int.le_refl i) (Int.lt_succ i) ?_
        · change i ≤ r.endlid
          omega
        · rintro ⟨lid, outport⟩ hge hlt ⟨-, -, hport⟩
          obtain rfl : lid = i := by
            dsimp only at hge hlt
            omega
          dsimp only at hport
          rw [hport]
      · rw [if_neg (by simpa using hprinted)]
        refine ⟨[] ++ lines, rfl, ?_⟩
        refine Lists.append (b := i + 1) (by omega) (by omega) ?_ hrest
        refine .nil fun line hge hlt hline => hprinted ?_
        obtain rfl : line.lid = i := by omega
        exact hline.2.1

section Block
variable {stops : Bool} {left : Nat} {block : Int} {buffer : Vector UInt8 64}

theorem dumpBlocks_succ (lines rest : List LftLine)
    (hlines : r.dumpLids (blockOf lft block)
      (min (block * 64 + 64) (r.endlid + 1) - max (block * 64) r.startlid).toNat
      (max (block * 64) r.startlid) = .ok lines)
    (hrest : r.dumpBlocks stops (answers lft) left (block + 1) (blockOf lft block) =
      .ok (rest, true)) :
    r.dumpBlocks stops (answers lft) (left + 1) block buffer = .ok (lines ++ rest, true) := by
  rw [LftRequest.dumpBlocks, answers]
  dsimp only [Option.isNone, Bool.false_and, Option.getD]
  rw [if_neg (by simp), hlines, ok_bind, hrest]
  rfl

theorem dumpBlocks_error {fault : Fault}
    (hlines : r.dumpLids (blockOf lft block)
      (min (block * 64 + 64) (r.endlid + 1) - max (block * 64) r.startlid).toNat
      (max (block * 64) r.startlid) = .error fault) :
    r.dumpBlocks stops (answers lft) (left + 1) block buffer = .error fault := by
  rw [LftRequest.dumpBlocks, answers]
  dsimp only [Option.isNone, Bool.false_and, Option.getD]
  rw [if_neg (by simp), hlines]
  rfl

end Block

theorem dumpBlocks_lists (lft : Int → UInt8) (hall : r.dumpAll = false) (stops : Bool)
    (left : Nat) {block : Int} (hblock : 0 ≤ block) (buffer : Vector UInt8 64) :
    ∃ lines, r.dumpBlocks stops (answers lft) left block buffer = .ok (lines, true) ∧
      Lists LftLine.lid (Printed r lft) (block * 64) ((block + left) * 64) lines := by
  induction left generalizing block buffer with
  | zero => exact ⟨[], rfl, .empty (by simp)⟩
  | succ left ih =>
      let i := max (block * 64) r.startlid
      let e := min (block * 64 + 64) (r.endlid + 1)
      have hlids : ∃ lines, r.dumpLids (blockOf lft block) (e - i).toNat i = .ok lines ∧
          Lists LftLine.lid (Printed r lft) (block * 64) (block * 64 + 64) lines := by
        by_cases hempty : e ≤ i
        · refine ⟨[], by rw [Int.toNat_eq_zero.mpr (by omega)]; rfl, .nil ?_⟩
          rintro line hge hlt ⟨⟨hstart, hend⟩, -⟩
          omega
        · obtain ⟨lines, hlines, hlists⟩ := dumpLids_lists lft hall hblock
            (e - i).toNat (i := i) (by omega) (by omega) (by omega) (by omega)
          refine ⟨lines, hlines, hlists.congr fun line => ?_⟩
          constructor
          · rintro ⟨hge, hlt, hprinted⟩
            exact ⟨by omega, by omega, hprinted⟩
          · rintro ⟨hge, hlt, hprinted⟩
            have hrange := hprinted.1
            exact ⟨by omega, by omega, hprinted⟩
      obtain ⟨lines, hlines, hlists⟩ := hlids
      obtain ⟨rest, hrest, hrestLists⟩ := ih (Int.le_add_one hblock) (blockOf lft block)
      refine ⟨lines ++ rest, dumpBlocks_succ lines rest hlines hrest, ?_⟩
      refine Lists.append (b := block * 64 + 64) (by omega) (by omega) hlists ?_
      refine hrestLists.congr fun line => ?_
      rw [show (block + 1) * 64 = block * 64 + 64 by omega,
        show (block + 1 + (left : Int)) * 64 = (block + (left + 1 : Nat)) * 64 by omega]

end Loops

/-- What a range and a table must be like. A start below -63 is a block of negative LIDs; the last
LID of the range must not begin a block; and entries must be positive as a `char`. -/
structure LftFine (lft : Int → UInt8) (nports : Nat) (startlid last : Int) : Prop where
  start : -64 < startlid ∨ last < startlid.tdiv 64 * 64 ∨
    (last = startlid.tdiv 64 * 64 ∧ nports < unsignedOfChar (lft last))
  aligned : 0 ≤ last → startlid ≤ last → last % 64 = 0 → nports < (lft last).toNat
  ports : ∀ lid, 0 ≤ lid → startlid ≤ lid → lid ≤ last → 128 ≤ (lft lid).toNat →
    nports < (lft lid).toNat

section Fine
variable {lft : Int → UInt8} {nports : Nat} {startlid last : Int}

theorem unsignedOfChar_le_iff {c : UInt8} (hports : nports ≤ 254) :
    unsignedOfChar c ≤ nports ↔ c.toNat < 128 ∧ c.toNat ≤ nports := by
  have hlt := c.toNat_lt
  unfold unsignedOfChar
  split <;> omega

/-- Division of C in terms of division that rounds down. -/
theorem tdiv_eq (a : Int) : a.tdiv 64 = if 0 ≤ a then a / 64 else -(-a / 64) := by
  split
  · next h => exact Int.tdiv_eq_ediv_of_nonneg h
  · next h => rw [← Int.tdiv_eq_ediv_of_nonneg (by omega), Int.neg_tdiv, Int.neg_neg]

theorem endblock_eq (last : Int) : (align last 64).tdiv 64 = (last + 63).tdiv 64 := by
  rw [align, Int.mul_tdiv_cancel _ (by decide)]
  rfl

theorem startblock_nonneg (hstart : -64 < startlid) : 0 ≤ startlid.tdiv 64 := by
  rw [tdiv_eq]
  split <;> omega

theorem startblock_lids (hstart : -64 < startlid) :
    startlid.tdiv 64 * 64 ≤ max 0 startlid := by
  rw [tdiv_eq]
  split <;> omega

/-- Where the blocks end, counted in LIDs. -/
theorem endblock_lids (last : Int) :
    (last % 64 = 0 → 0 ≤ last → (last + 63).tdiv 64 * 64 = last) ∧
    (last % 64 ≠ 0 → 0 ≤ last → last < (last + 63).tdiv 64 * 64) := by
  rw [tdiv_eq]
  split <;> omega

/-- From a start above -64 on, the blocks are those of the table. -/
theorem dumpBlocks_exact_iff (lft : Int → UInt8) (last : Int) (hports : nports ≤ 254)
    (hstart : -64 < startlid) (stops : Bool) :
    ∃ lines, LftRequest.dumpBlocks ⟨nports, startlid, last, false⟩ stops (answers lft)
        ((last + 63).tdiv 64 - startlid.tdiv 64).toNat (startlid.tdiv 64) (.replicate 64 0) =
          .ok (lines, true) ∧
      (DumpExact lft nports startlid last lines ↔ LftFine lft nports startlid last) := by
  have hnonneg := startblock_nonneg hstart
  obtain ⟨lines, hlines, hlists⟩ := dumpBlocks_lists (r := ⟨nports, startlid, last, false⟩) lft rfl
    stops ((last + 63).tdiv 64 - startlid.tdiv 64).toNat hnonneg (.replicate 64 0)
  refine ⟨lines, hlines, ?_⟩
  have hfirst := startblock_lids hstart
  obtain ⟨haligned, hunaligned⟩ := endblock_lids last
  rw [DumpExact, hlists.lists_iff]
  simp only [Printed, Owed, unsignedOfChar_le_iff hports]
  constructor
  · intro h
    refine ⟨.inl hstart, fun h0 hlo hmod => ?_, fun lid h0 hlo hhi hbig => ?_⟩
    · by_contra hport
      have hline := (h ⟨last, (lft last).toNat⟩).mpr
        ⟨h0, Int.lt_succ last, ⟨hlo, Int.le_refl last⟩, Nat.not_lt.mp hport, rfl⟩
      dsimp only at hline
      omega
    · by_contra hport
      have hline := (h ⟨lid, (lft lid).toNat⟩).mpr
        ⟨h0, Int.lt_add_one_of_le hhi, ⟨hlo, hhi⟩, Nat.not_lt.mp hport, rfl⟩
      exact absurd hbig (Nat.not_le.mpr hline.2.2.2.1.1)
  · intro hfine line
    constructor
    · rintro ⟨hge, hlt, hrange, hentry, hport⟩
      exact ⟨by omega, by omega, hrange, hentry.2, hport⟩
    · rintro ⟨hge, hlt, hrange, hentry, hport⟩
      have hsmall : (lft line.lid).toNat < 128 := by
        by_contra hbig
        exact absurd hentry
          (Nat.not_le.mpr (hfine.ports line.lid hge hrange.1 hrange.2 (Nat.not_lt.mp hbig)))
      have hlast : last % 64 = 0 → line.lid ≠ last := by
        intro hmod heq
        have hnot := hfine.aligned (heq ▸ hge) (heq ▸ hrange.1) hmod
        rw [← heq] at hnot
        exact absurd hentry (Nat.not_le.mpr hnot)
      exact ⟨by omega, by omega, hrange, ⟨hsmall, hentry⟩, hport⟩

/-- The second LID of a negative block is an index below 0. -/
theorem dumpLids_negative {request : LftRequest} (block : Vector UInt8 64) (left : Nat) {i : Int}
    (hi : i < 0) (hmod : i % 64 = 0) :
    request.dumpLids block (left + 2) i = .error .outOfBounds := by
  have hplace : 0 ≤ i.tmod 64 :=
    Int.le_of_eq (Int.tmod_eq_zero_of_dvd (Int.dvd_of_emod_eq_zero hmod)).symm
  have hnext : ¬ 0 ≤ (i + 1).tmod 64 := by
    rw [← Int.neg_neg (i + 1), Int.neg_tmod, Int.tmod_eq_emod_of_nonneg (by omega)]
    omega
  rw [LftRequest.dumpLids, if_pos hplace, LftRequest.dumpLids, if_neg hnext]
  rfl

theorem dumpExact_neg {lines : List LftLine} (hlast : last < 0) :
    DumpExact lft nports startlid last lines ↔ lines = [] := by
  constructor
  · intro h
    refine List.eq_nil_iff_forall_not_mem.mpr fun line hline => ?_
    have hlid := (h.mem line).mp hline
    omega
  · rintro rfl
    exact .empty (by omega)

/-- A range that ends with the first LID of a negative block. -/
theorem dumpBlocks_first (lft : Int → UInt8) (nports : Nat) (stops : Bool) {block : Int}
    (hlow : startlid ≤ block * 64) (hlast : last = block * 64) : ∃ lines,
    LftRequest.dumpBlocks ⟨nports, startlid, last, false⟩ stops (answers lft) (0 + 1) block
        (.replicate 64 0) = .ok (lines, true) ∧
      (lines = [] ↔ nports < unsignedOfChar (lft last)) := by
  have hmax : max (block * 64) startlid = block * 64 := max_eq_left hlow
  have hplace : (block * 64).tmod 64 = 0 := Int.mul_tmod_left block 64
  have hlen : (min (block * 64 + 64) (last + 1) - block * 64).toNat = 0 + 1 := by omega
  have hentry : (blockOf lft block).toList.getD ((block * 64).tmod 64).toNat 0 = lft last := by
    rw [hplace, hlast, List.getD_eq_getElem?_getD, List.getElem?_eq_getElem (by simp),
      Option.getD_some]
    simp [blockOf]
  refine ⟨_, dumpBlocks_succ (if unsignedOfChar (lft last) ≤ nports then
    [⟨block * 64, unsignedOfChar (lft last) % 256⟩] else []) [] ?_ rfl, ?_⟩
  · dsimp only
    rw [hmax, hlen, LftRequest.dumpLids, if_pos hplace.ge, hentry]
    dsimp only [bind, Except.bind, LftRequest.dumpLids]
    rw [Bool.or_false]
    split <;> simp_all
  · rw [List.append_nil]
    split <;> simp <;> omega

/-- From a start below, no block of the table may be reached, and no line printed. -/
theorem dumpBlocks_negative_iff (hstart : startlid ≤ -64) (stops : Bool) :
    (∃ lines, LftRequest.dumpBlocks ⟨nports, startlid, last, false⟩ stops (answers lft)
        ((last + 63).tdiv 64 - startlid.tdiv 64).toNat (startlid.tdiv 64) (.replicate 64 0) =
          .ok (lines, true) ∧ DumpExact lft nports startlid last lines) ↔
      LftFine lft nports startlid last := by
  have hfirst : startlid ≤ startlid.tdiv 64 * 64 ∧ startlid.tdiv 64 ≤ -1 := by
    rw [tdiv_eq]
    split <;> omega
  obtain ⟨hlow, hneg⟩ := hfirst
  generalize hblock : startlid.tdiv 64 = block at hlow hneg ⊢
  have hmax : max (block * 64) startlid = block * 64 := max_eq_left hlow
  have hfine : LftFine lft nports startlid last ↔ last < block * 64 ∨
      (last = block * 64 ∧ nports < unsignedOfChar (lft last)) := by
    constructor
    · intro h
      exact hblock ▸ h.start.resolve_left (by omega)
    · intro h
      refine ⟨.inr (hblock ▸ h), fun h0 => ?_, fun lid h0 _ hhi => ?_⟩ <;> omega
  rw [hfine]
  rcases lt_trichotomy last (block * 64) with hlt | heq | hgt
  · refine iff_of_true ⟨[], ?_, .empty (by omega)⟩ (.inl hlt)
    have hleft : (last + 63).tdiv 64 - block ≤ 1 := by
      rw [tdiv_eq]
      split <;> omega
    rcases Nat.eq_zero_or_pos ((last + 63).tdiv 64 - block).toNat with hzero | hpos
    · rw [hzero]
      rfl
    · rw [show ((last + 63).tdiv 64 - block).toNat = 0 + 1 by omega]
      refine dumpBlocks_succ [] [] ?_ rfl
      dsimp only
      rw [hmax, Int.toNat_eq_zero.mpr (by omega)]
      rfl
  · have hleft : ((last + 63).tdiv 64 - block).toNat = 0 + 1 := by
      rw [tdiv_eq, if_neg (by omega)]
      omega
    obtain ⟨lines, hlines, hnil⟩ := dumpBlocks_first lft nports stops hlow heq
    rw [hleft, hlines]
    constructor
    · rintro ⟨lines', hok, hexact⟩
      obtain rfl : lines = lines' := (Prod.mk.inj (Except.ok.inj hok)).1
      exact .inr ⟨heq, hnil.mp ((dumpExact_neg (by omega)).mp hexact)⟩
    · intro h
      have hport := (h.resolve_left (by omega)).2
      exact ⟨lines, rfl, (dumpExact_neg (by omega)).mpr (hnil.mpr hport)⟩
  · refine iff_of_false ?_ (by omega)
    rintro ⟨lines, hlines, -⟩
    have hleft : 1 ≤ (last + 63).tdiv 64 - block := by
      rw [tdiv_eq]
      split <;> omega
    obtain ⟨more, hmore⟩ : ∃ more, (min (block * 64 + 64) (last + 1) - block * 64).toNat = more + 2 :=
      ⟨(min (block * 64 + 64) (last + 1) - block * 64).toNat - 2, by omega⟩
    rw [show ((last + 63).tdiv 64 - block).toNat = (((last + 63).tdiv 64 - block).toNat - 1) + 1 by
      omega, dumpBlocks_error] at hlines
    · cases hlines
    · dsimp only
      rw [hmax, hmore]
      exact dumpLids_negative _ more (by omega) (by omega)

end Fine

section Dump
variable {lft : Int → UInt8} {nports top : Nat} {startlid endlid : Int}

/-- A dump that ends, with its count of lines. -/
def TableExact (stops : Bool) (lft : Int → UInt8) (nports top : Nat) (startlid endlid : Int) : Prop :=
  ∃ lines, dumpTable stops nports top startlid endlid false (answers lft) =
      .ok (lines, some lines.length) ∧ DumpExact lft nports startlid (lastLid endlid top) lines

/-- `endlid`, clipped. -/
theorem clip_eq (endlid : Int) (top : Nat) :
    (let endlid := if endlid = 0 ∨ endlid > top then (top : Int) else endlid
      if endlid > ibMaxUcastLid then ibMaxUcastLid else endlid) = lastLid endlid top := by
  dsimp only [lastLid, ibMaxUcastLid]
  split <;> split <;> omega

theorem dumpTable_eq (stops dumpAll : Bool) (query : Int → Option (Vector UInt8 64)) :
    dumpTable stops nports top startlid endlid dumpAll query =
      (LftRequest.dumpBlocks ⟨nports, startlid, lastLid endlid top, dumpAll⟩ stops query
        ((lastLid endlid top + 63).tdiv 64 - startlid.tdiv 64).toNat (startlid.tdiv 64)
        (.replicate 64 0)).map fun dumped =>
          (dumped.1, if dumped.2 then some dumped.1.length else none) := by
  unfold dumpTable
  dsimp only
  rw [← endblock_eq, ← clip_eq]
  dsimp only
  generalize LftRequest.dumpBlocks _ stops query _ _ _ = dumped
  cases dumped <;> rfl

theorem dumpBlocks_iff {last : Int} (hports : nports ≤ 254) (stops : Bool) :
    (∃ lines, LftRequest.dumpBlocks ⟨nports, startlid, last, false⟩ stops (answers lft)
        ((last + 63).tdiv 64 - startlid.tdiv 64).toNat (startlid.tdiv 64) (.replicate 64 0) =
          .ok (lines, true) ∧ DumpExact lft nports startlid last lines) ↔
      LftFine lft nports startlid last := by
  rcases Int.lt_or_le (-64) startlid with hstart | hstart
  · obtain ⟨lines, hlines, hiff⟩ := dumpBlocks_exact_iff lft last hports hstart stops
    rw [← hiff]
    constructor
    · rintro ⟨lines', hlines', hexact⟩
      rw [hlines] at hlines'
      obtain rfl : lines = lines' := (Prod.mk.inj (Except.ok.inj hlines')).1
      exact hexact
    · exact fun hexact => ⟨lines, hlines, hexact⟩
  · exact dumpBlocks_negative_iff hstart stops

theorem tableExact_iff (hports : nports ≤ 254) (stops : Bool) :
    TableExact stops lft nports top startlid endlid ↔
      LftFine lft nports startlid (lastLid endlid top) := by
  rw [TableExact, dumpTable_eq, ← dumpBlocks_iff hports stops]
  constructor
  · rintro ⟨lines, hok, hexact⟩
    generalize LftRequest.dumpBlocks _ stops (answers lft) _ _ _ = dumped at hok ⊢
    rcases dumped with fault | ⟨lines', complete⟩
    · cases hok
    · obtain ⟨rfl, hcount⟩ := Prod.mk.inj (Except.ok.inj hok)
      cases complete with
      | false => cases hcount
      | true => exact ⟨lines', rfl, hexact⟩
  · rintro ⟨lines, hok, hexact⟩
    refine ⟨lines, ?_, hexact⟩
    rw [hok]
    rfl

/-- ibroute, once the three queries of `check_switch` have shown a switch. -/
def IbrouteExact (lft : Int → UInt8) (nports top : Nat) (startlid endlid : Int) : Prop :=
  ∀ nodeDesc, ∃ lines, Ibroute.dumpUnicastTables ⟨some (ibNodeSwitch, nports), some nodeDesc, some top⟩
      startlid endlid false (answers lft) = .ok (none, lines, some lines.length) ∧
    DumpExact lft nports startlid (lastLid endlid top) lines

def DumpFtsExact (lft : Int → UInt8) (nports top : Nat) (startl endl : Int) : Prop :=
  ∃ lines, DumpFts.dumpUnicastTables nports top startl endl false (answers lft) =
      .ok (lines, some lines.length) ∧ DumpExact lft nports startl (lastLid endl top) lines

theorem ibrouteExact_iff : IbrouteExact lft nports top startlid endlid ↔
    TableExact true lft nports top startlid endlid := by
  have hswitch : ∀ nodeDesc, Ibroute.dumpUnicastTables
      ⟨some (ibNodeSwitch, nports), some nodeDesc, some top⟩ startlid endlid false (answers lft) =
        (dumpTable true nports top startlid endlid false (answers lft)).map fun printed =>
          (none, printed) := by
    intro nodeDesc
    unfold Ibroute.dumpUnicastTables SwitchReplies.checkSwitch
    dsimp only
    rw [if_neg (by simp)]
    dsimp only
    cases dumpTable true nports top startlid endlid false (answers lft) <;> rfl
  simp only [IbrouteExact, hswitch, TableExact]
  cases dumpTable true nports top startlid endlid false (answers lft) with
  | error fault => simp [Except.map]
  | ok printed => simp [Except.map]

/-- Both programs print just the lines that a range asks for, if the range and the table are fine,
and else they do not. -/
theorem lftDump_iff (lft : Int → UInt8) {nports : Nat} (hports : nports ≤ 254) (top : Nat)
    (startlid endlid : Int) :
    (IbrouteExact lft nports top startlid endlid ↔
      LftFine lft nports startlid (lastLid endlid top)) ∧
    (DumpFtsExact lft nports top startlid endlid ↔
      LftFine lft nports startlid (lastLid endlid top)) :=
  ⟨ibrouteExact_iff.trans (tableExact_iff hports true), tableExact_iff hports false⟩

theorem lftFine_toPort1 : LftFine (fun _ => 1) 36 1 (lastLid 0 70) := by
  refine ⟨.inl (by decide), fun _ _ h => absurd h (by decide), fun _ _ _ _ h => absurd h (by decide)⟩

theorem lftDump_iff_toPort1 :
    IbrouteExact (fun _ => 1) 36 70 1 0 ∧ DumpFtsExact (fun _ => 1) 36 70 1 0 :=
  ⟨(lftDump_iff (fun _ => 1) (by decide) 70 1 0).1.mpr lftFine_toPort1,
    (lftDump_iff (fun _ => 1) (by decide) 70 1 0).2.mpr lftFine_toPort1⟩

/-- LID 64 of a range up to 64 gets no line, nor does a LID behind port 200. -/
theorem not_lftDump_aligned :
    (¬ IbrouteExact (fun _ => 1) 36 70 1 64 ∧ ¬ DumpFtsExact (fun _ => 1) 36 70 1 64) ∧
      ¬ IbrouteExact (fun _ => 200) 254 70 1 10 ∧ ¬ DumpFtsExact (fun _ => 200) 254 70 1 10 := by
  have haligned : ¬ LftFine (fun _ => 1) 36 1 (lastLid 64 70) := fun h =>
    absurd (h.aligned (by decide) (by decide) (by decide)) (by decide)
  have hport : ¬ LftFine (fun _ => 200) 254 1 (lastLid 10 70) := fun h =>
    absurd (h.ports 1 (by decide) (by decide) (by decide) (by decide)) (by decide)
  refine ⟨⟨?_, ?_⟩, ?_, ?_⟩
  · exact fun h => haligned ((tableExact_iff (by decide) true).mp (ibrouteExact_iff.mp h))
  · exact fun h => haligned ((tableExact_iff (by decide) false).mp h)
  · exact fun h => hport ((tableExact_iff (by decide) true).mp (ibrouteExact_iff.mp h))
  · exact fun h => hport ((tableExact_iff (by decide) false).mp h)

end Dump
end InfinibandDiags
