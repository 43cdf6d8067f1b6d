import InfinibandDiags.Route.MftDump
import InfinibandDiags.Trace.McSubnet

/-! When the dump of a multicast forwarding table has the lines that its range asks for, and stays
within the line it writes. -/
namespace InfinibandDiags

/-- The masks of an MLID in a table that is read already. -/
def Mft.mask (mft : Mft) (mlid chunk : Nat) : Nat :=
  (mft[chunk]?).elim 0 fun block => Ibtracert.mcMask block (mlid % 32)

/-- The masks as hexadecimal numbers. -/
def maskText (entry : Nat → Nat) (nports : Nat) : Bytes :=
  (List.range (nports / 16 + 1)).flatMap fun chunk => hex4 (entry chunk)

/-- A mark for each port that is a member, each followed by a blank. -/
def markText (entry : Nat → Nat) (nports : Nat) : Bytes :=
  (List.range (nports + 1)).flatMap fun p =>
    [if (entry (p / 16)).testBit (p % 16) then 120 else 32, 32]

/-- The chunks that hold the ports up to `nports` have a member. -/
def HasMember (entry : Nat → Nat) (nports : Nat) : Prop :=
  ∃ chunk ∈ List.range (nports / 16 + 1), entry chunk ≠ 0

instance (entry : Nat → Nat) (nports : Nat) : Decidable (HasMember entry nports) :=
  inferInstanceAs (Decidable (∃ chunk ∈ _, _))

section Loops

theorem entryMask_eq (mft : Mft) (mlid : Nat) {chunk : Nat} (hchunk : chunk < 16) :
    entryMask mft chunk mlid = .ok (mft.mask mlid chunk) := by
  rw [entryMask, Mft.mask, Vector.getElem?_eq_getElem hchunk]
  rfl

theorem put_eq {str bytes : Bytes} (hroom : str.length + bytes.length ≤ lineSize) :
    put str bytes = .ok (str ++ bytes) :=
  if_pos hroom

theorem putNul_eq {str : Bytes} (hroom : str.length < lineSize) : putNul str = .ok str :=
  if_pos hroom

@[simp] theorem hex4_length (v : Nat) : (hex4 v).length = 4 := rfl

theorem countNonzero_pos_iff {nonzero mask : Nat} :
    countNonzero nonzero mask = 0 ↔ nonzero = 0 ∧ mask = 0 := by
  unfold countNonzero
  split <;> simp_all

theorem maskLoop_eq (mft : Mft) (mlid : Nat) (is : List Nat) (str : Bytes) (nonzero : Nat)
    (hchunks : ∀ i ∈ is, i < 16)
    (hroom : str.length + 4 * is.length < lineSize) : ∃ nonzero',
      maskLoop mft mlid is str nonzero =
        .ok (str ++ is.flatMap fun i => hex4 (mft.mask mlid i), nonzero') ∧
      (nonzero' = 0 ↔ nonzero = 0 ∧ ∀ i ∈ is, mft.mask mlid i = 0) := by
  induction is generalizing str nonzero with
  | nil => exact ⟨nonzero, by simp [maskLoop], by simp⟩
  | cons i is ih =>
      rw [List.forall_mem_cons] at hchunks
      rw [List.length_cons] at hroom
      have hshort : (str ++ hex4 (mft.mask mlid i)).length + 4 * is.length < lineSize := by
        rw [List.length_append, hex4_length]
        omega
      obtain ⟨nonzero', hloop, hzero⟩ := ih (str ++ hex4 (mft.mask mlid i))
        (countNonzero nonzero (mft.mask mlid i)) hchunks.2 hshort
      refine ⟨nonzero', ?_, ?_⟩
      · rw [maskLoop, entryMask_eq mft mlid hchunks.1, ok_bind]
        dsimp only
        rw [if_neg (by omega), hloop, List.append_assoc, List.flatMap_cons]
      · rw [hzero, countNonzero_pos_iff, List.forall_mem_cons, and_assoc]

theorem portLoop_eq (mft : Mft) (mlid : Nat) (is : List Nat) (str : Bytes) (nonzero : Nat)
    (hports : ∀ i ∈ is, i / 16 < 16)
    (hroom : str.length + 2 * is.length ≤ lineSize) : ∃ nonzero',
      portLoop mft mlid is str nonzero =
        .ok (str ++ is.flatMap fun i =>
          [if (mft.mask mlid (i / 16)).testBit (i % 16) then 120 else 32, 32], nonzero') ∧
      (nonzero' = 0 ↔ nonzero = 0 ∧ ∀ i ∈ is, mft.mask mlid (i / 16) = 0) := by
  induction is generalizing str nonzero with
  | nil => exact ⟨nonzero, by simp [portLoop], by simp⟩
  | cons i is ih =>
      rw [List.forall_mem_cons] at hports
      rw [List.length_cons] at hroom
      obtain ⟨nonzero', hloop, hzero⟩ :=
        ih (str ++ [if (mft.mask mlid (i / 16)).testBit (i % 16) then 120 else 32, 32])
          (countNonzero nonzero (mft.mask mlid (i / 16))) hports.2
          (by simp only [List.length_append, List.length_cons, List.length_nil]; omega)
      refine ⟨nonzero', ?_, ?_⟩
      · rw [portLoop, entryMask_eq mft mlid hports.1, ok_bind, put_eq (by simp; omega), ok_bind,
          hloop, List.append_assoc, List.flatMap_cons]
      · rw [hzero, countNonzero_pos_iff, List.forall_mem_cons, and_assoc]

/-- Two characters for each port. -/
theorem flatMap_pair_length {α β : Type*} (xs : List α) (f g : α → β) :
    (xs.flatMap fun x => [f x, g x]).length = 2 * xs.length := by
  induction xs with
  | nil => rfl
  | cons x xs ih => simp only [List.flatMap_cons, List.length_append, ih, List.length_cons,
      List.length_nil]; omega

theorem markText_length (entry : Nat → Nat) (nports : Nat) :
    (markText entry nports).length = 2 * (nports + 1) := by
  rw [markText, flatMap_pair_length, List.length_range]

end Loops

namespace MftRequest
variable {r : MftRequest} {mft : Mft} {mlid : Nat}

/-- The line keeps within `str`. -/
def FitsLine (r : MftRequest) : Prop := r.brief = true ∨ r.nports ≤ 254

/-- The text of the MLID's line. -/
def text (r : MftRequest) (entry : Nat → Nat) : Bytes :=
  if r.brief then maskText entry r.nports else markText entry r.nports

theorem chunks_eq (r : MftRequest) : r.chunks = r.nports / 16 + 1 := by
  unfold chunks
  omega

/-- The chunks of the ports are those of the table. -/
theorem forall_ports_iff {nports : Nat} {P : Nat → Prop} :
    (∀ i ∈ List.range (nports + 1), P (i / 16)) ↔
      ∀ chunk ∈ List.range (nports / 16 + 1), P chunk := by
  simp only [List.mem_range]
  constructor
  · intro h chunk hchunk
    have hport := h (16 * chunk) (by omega)
    rwa [Nat.mul_div_cancel_left _ (by decide)] at hport
  · intro h i hi
    exact h _ (by omega)

theorem not_hasMember_iff {entry : Nat → Nat} {nports : Nat} :
    ¬ HasMember entry nports ↔ ∀ chunk ∈ List.range (nports / 16 + 1), entry chunk = 0 := by
  simp [HasMember]

/-- An MLID has a line where its chunks have a member, or all MLIDs are asked for. -/
theorem dumpMlid_eq (hports : r.nports ≤ 255) (hfits : r.FitsLine) (mft : Mft) (mlid : Nat) :
    r.dumpMlid mft mlid =
      .ok (if r.dumpAll = true ∨ HasMember (mft.mask mlid) r.nports then
        some (r.text (mft.mask mlid)) else none) := by
  have hnone : ∀ {nonzero : Nat} {text : Bytes},
      (nonzero = 0 ↔ ¬ HasMember (mft.mask mlid) r.nports) →
      (if nonzero = 0 ∧ r.dumpAll = false then none else some text) =
        if r.dumpAll = true ∨ HasMember (mft.mask mlid) r.nports then some text else none := by
    intro nonzero text hzero
    by_cases hmember : HasMember (mft.mask mlid) r.nports <;> cases r.dumpAll <;> simp_all
  unfold dumpMlid text
  cases hbrief : r.brief with
  | true =>
      obtain ⟨nonzero, hloop, hzero⟩ := maskLoop_eq mft mlid (List.range r.chunks) [] 0
        (fun i hi => by rw [List.mem_range, chunks_eq] at hi; omega)
        (by rw [List.length_range, chunks_eq, List.length_nil, lineSize]; omega)
      rw [if_pos rfl, hloop, ok_bind]
      dsimp only
      rw [hnone (hzero.trans ?_), List.nil_append, chunks_eq]
      · rfl
      · rw [not_hasMember_iff, chunks_eq, eq_self, true_and]
  | false =>
      have hsmall : r.nports ≤ 254 := hfits.resolve_left (by simp [hbrief])
      obtain ⟨nonzero, hloop, hzero⟩ := portLoop_eq mft mlid (List.range (r.nports + 1)) [] 0
        (fun i hi => by rw [List.mem_range] at hi; omega)
        (by rw [List.length_range, List.length_nil, lineSize]; omega)
      have hzero' : nonzero = 0 ↔ ¬ HasMember (mft.mask mlid) r.nports := by
        rw [hzero, not_hasMember_iff, eq_self, true_and]
        exact forall_ports_iff (P := fun chunk => mft.mask mlid chunk = 0)
      rw [if_neg (by simp), hloop, ok_bind]
      dsimp only
      rw [List.nil_append]
      have hnul : putNul (markText (mft.mask mlid) r.nports) =
          .ok (markText (mft.mask mlid) r.nports) :=
        putNul_eq (by rw [markText_length, lineSize]; omega)
      rw [← hnone hzero']
      split
      · rfl
      · exact (congrArg (· >>= fun str => .ok (some str)) hnul)

/-- An MLID with these masks gets the line. -/
def HasLine (r : MftRequest) (entry : Nat → Nat) (line : MftLine) : Prop :=
  (r.dumpAll = true ∨ HasMember entry r.nports) ∧ line.text = r.text entry

/-- The loop over the MLIDs of a block lists those that have a line. -/
theorem dumpMlids_lists (hports : r.nports ≤ 255) (hfits : r.FitsLine) (mft : Mft) (left i : Nat) :
    ∃ lines, r.dumpMlids mft left i = .ok lines ∧
      Lists MftLine.mlid (fun line => r.HasLine (mft.mask line.mlid) line) i (i + left) lines := by
  induction left generalizing i with
  | zero => exact ⟨[], rfl, .empty (Nat.le_refl i)⟩
  | succ left ih =>
      obtain ⟨lines, hlines, hlists⟩ := ih (i + 1)
      rw [Nat.add_right_comm, Nat.add_assoc] at hlists
      rw [dumpMlids, dumpMlid_eq hports hfits, ok_bind, hlines, ok_bind]
      refine ⟨_, rfl, Lists.append (b := i + 1) (by omega) (by omega) ?_ hlists⟩
      by_cases hshown : r.dumpAll = true ∨ HasMember (mft.mask i) r.nports
      · rw [if_pos hshown]
        refine .singleton ⟨hshown, rfl⟩ (Nat.le_refl i) (Nat.lt_succ_self i) ?_
        rintro ⟨m, text⟩ hge hlt ⟨-, htext⟩
        obtain rfl : m = i := by
          dsimp only at hge hlt
          omega
        exact congrArg (MftLine.mk m) htext
      · rw [if_neg hshown]
        refine .nil fun line hge hlt hline => hshown ?_
        obtain rfl : line.mlid = i := by omega
        exact hline.1

/-- The attribute modifier of a chunk of a block. -/
theorem modifier_eq {mlid : Nat} (hlow : ibMinMcastLid ≤ mlid) (hhigh : mlid < 2 ^ 16) (j : Nat) :
    (mlid / 32 - ibMinMcastLid / 32) ||| (j <<< 28) =
      McSubnet.tableModifier j (mlid - ibMinMcastLid) := by
  have hmin : ibMinMcastLid = 49152 := rfl
  have hblock : (mlid - ibMinMcastLid) / 32 = mlid / 32 - ibMinMcastLid / 32 := by omega
  rw [McSubnet.tableModifier, hblock, Nat.shiftLeft_eq, Nat.mul_comm, Nat.or_comm,
    Nat.two_pow_add_eq_or_of_lt (by omega)]

/-- The table after the queries for the chunks `j, …, j + n - 1` of a block. -/
def refresh (query : Nat → Option SmpData) (block j n : Nat) (mft : Mft) : Mft :=
  mft.mapIdx fun k data =>
    if j ≤ k ∧ k < j + n then (query ((block - ibMinMcastLid / 32) ||| (k <<< 28))).getD data
    else data

theorem refresh_zero (query : Nat → Option SmpData) (block j : Nat) (mft : Mft) :
    refresh query block j 0 mft = mft := by
  ext k hk
  rw [refresh, Vector.getElem_mapIdx, if_neg (by omega)]

theorem refresh_succ {query : Nat → Option SmpData} {block j n : Nat} (mft : Mft) :
    refresh query block j (n + 1) mft =
      refresh query block (j + 1) n (mft.setIfInBounds j
        ((query ((block - ibMinMcastLid / 32) ||| (j <<< 28))).getD ((mft[j]?).getD .zero))) := by
  ext k hk
  simp only [refresh, Vector.getElem_mapIdx, Vector.getElem_setIfInBounds]
  by_cases hkj : j = k
  · subst hkj
    rw [if_pos (by omega), if_neg (by omega), if_pos rfl, Vector.getElem?_eq_getElem hk,
      Option.getD_some]
  · rw [if_neg hkj]
    by_cases hrange : j + 1 ≤ k ∧ k < j + 1 + n
    · rw [if_pos (by omega), if_pos hrange]
    · rw [if_neg (by omega), if_neg hrange]

/-- Where a failing query does not end the dump, the other chunks are read. -/
theorem readChunks_eq {stops : Bool} {query : Nat → Option SmpData} {block n j : Nat} (mft : Mft)
    (hroom : j + n ≤ 16) (hgoes : stops = true → ∀ mod, (query mod).isSome = true) :
    readChunks stops query block n j mft = .ok (refresh query block j n mft, true) := by
  induction n generalizing j mft with
  | zero => rw [readChunks, refresh_zero]
  | succ n ih =>
      rw [readChunks, refresh_succ]
      cases hquery : query ((block - ibMinMcastLid / 32) ||| (j <<< 28)) with
      | none =>
          have hfails : stops = false := by
            by_contra hstops
            have hsome := hgoes (by simpa using hstops)
              ((block - ibMinMcastLid / 32) ||| (j <<< 28))
            rw [hquery] at hsome
            cases hsome
          have hsame : mft.setIfInBounds j ((mft[j]?).getD .zero) = mft := by
            ext k hk
            rw [Vector.getElem_setIfInBounds]
            split
            · next h =>
                subst h
                rw [Vector.getElem?_eq_getElem hk, Option.getD_some]
            · rfl
          dsimp only
          rw [hfails, if_neg (by simp), Option.getD_none, hsame, ← hfails]
          exact ih mft (by omega)
      | some data =>
          dsimp only
          rw [if_pos (by omega), Option.getD_some]
          exact ih _ (by omega)

theorem mask_refresh {query : Nat → Option SmpData} {block n chunk : Nat} (mft : Mft) (mlid : Nat)
    (hchunk : chunk < n) (hn : n ≤ 16) :
    (refresh query block 0 n mft).mask mlid chunk =
      (query ((block - ibMinMcastLid / 32) ||| (chunk <<< 28))).elim (mft.mask mlid chunk)
        fun data => Ibtracert.mcMask data (mlid % 32) := by
  have hsize : chunk < 16 := by omega
  rw [Mft.mask, Mft.mask, Vector.getElem?_eq_getElem hsize, Vector.getElem?_eq_getElem hsize,
    Option.elim_some, refresh, Vector.getElem_mapIdx, if_pos ⟨Nat.zero_le chunk, by omega⟩]
  cases query ((block - ibMinMcastLid / 32) ||| (chunk <<< 28)) <;> rfl

theorem text_congr {entry entry' : Nat → Nat}
    (h : ∀ chunk ∈ List.range (r.nports / 16 + 1), entry chunk = entry' chunk) :
    r.text entry = r.text entry' := by
  have hports := (forall_ports_iff (P := fun chunk => entry chunk = entry' chunk)).mpr h
  have hmasks : maskText entry r.nports = maskText entry' r.nports :=
    List.flatMap_congr fun chunk hchunk => congrArg hex4 (h chunk hchunk)
  have hmarks : markText entry r.nports = markText entry' r.nports :=
    List.flatMap_congr fun p hp => by rw [hports p hp]
  rw [text, text, hmasks, hmarks]

/-- Only the masks of the chunks with ports matter. -/
theorem hasLine_congr {entry entry' : Nat → Nat}
    (h : ∀ chunk ∈ List.range (r.nports / 16 + 1), entry chunk = entry' chunk) (line : MftLine) :
    r.HasLine entry line ↔ r.HasLine entry' line := by
  have hmember : HasMember entry r.nports ↔ HasMember entry' r.nports :=
    exists_congr fun chunk => and_congr_right fun hchunk => by rw [h chunk hchunk]
  rw [HasLine, HasLine, hmember, text_congr h]

section Block
variable {stops complete : Bool} {query : Nat → Option SmpData} {left block : Nat} {mft' : Mft}
  {lines rest : List MftLine}

/-- A block, and the blocks behind it. -/
theorem dumpBlocks_succ (hports : r.nports ≤ 255)
    (hgoes : stops = true → ∀ mod, (query mod).isSome = true) (mft : Mft)
    (hlines : r.dumpMlids (refresh query block 0 r.chunks mft)
      (min (block * 32 + 32) (r.endlid + 1) - max (block * 32) r.startlid)
      (max (block * 32) r.startlid) = .ok lines)
    (hrest : r.dumpBlocks stops query left (block + 1) (refresh query block 0 r.chunks mft) =
      .ok (mft', rest, complete)) :
    r.dumpBlocks stops query (left + 1) block mft = .ok (mft', lines ++ rest, complete) := by
  have hroom : 0 + r.chunks ≤ 16 := by
    rw [chunks_eq]
    omega
  rw [dumpBlocks, readChunks_eq mft hroom hgoes, ok_bind]
  dsimp only
  rw [if_pos rfl, hlines, ok_bind, hrest]
  rfl

/-- The MLIDs of a block that are asked for. -/
theorem dumpMlids_block (hports : r.nports ≤ 255) (hfits : r.FitsLine) (mft : Mft) (block : Nat) :
    ∃ lines, r.dumpMlids mft
        (min (block * 32 + 32) (r.endlid + 1) - max (block * 32) r.startlid)
        (max (block * 32) r.startlid) = .ok lines ∧
      Lists MftLine.mlid (fun line => (r.startlid ≤ line.mlid ∧ line.mlid ≤ r.endlid) ∧
        r.HasLine (mft.mask line.mlid) line) (block * 32) (block * 32 + 32) lines := by
  obtain ⟨lines, hlines, hlists⟩ := dumpMlids_lists hports hfits mft
    (min (block * 32 + 32) (r.endlid + 1) - max (block * 32) r.startlid)
    (max (block * 32) r.startlid)
  refine ⟨lines, hlines, hlists.congr fun line => ?_⟩
  constructor
  · rintro ⟨hlo, hhi, hline⟩
    exact ⟨by omega, by omega, ⟨by omega, by omega⟩, hline⟩
  · rintro ⟨hlo, hhi, ⟨hstart, hend⟩, hline⟩
    exact ⟨by omega, by omega, hline⟩

end Block

/-- The masks of an MLID, in a table that answers all queries. -/
def entryOf (table : Nat → SmpData) (mlid chunk : Nat) : Nat :=
  Ibtracert.mcMask (table (McSubnet.tableModifier chunk (mlid - ibMinMcastLid))) (mlid % 32)

/-- A line that the dump owes: for an MLID of the range. -/
def Owes (r : MftRequest) (table : Nat → SmpData) (line : MftLine) : Prop :=
  (r.startlid ≤ line.mlid ∧ line.mlid ≤ r.endlid) ∧ r.HasLine (entryOf table line.mlid) line

/-- The range is one of MLIDs. -/
structure InRange (r : MftRequest) : Prop where
  low : ibMinMcastLid ≤ r.startlid
  high : r.endlid ≤ ibMaxMcastLid

/-- The blocks list what is owed, whatever the table held before. -/
theorem dumpBlocks_lists (hports : r.nports ≤ 255) (hfits : r.FitsLine) (hrange : r.InRange)
    (table : Nat → SmpData) (stops : Bool) (left block : Nat) (mft : Mft) :
    ∃ mft' lines, r.dumpBlocks stops (fun mod => some (table mod)) left block mft =
        .ok (mft', lines, true) ∧
      Lists MftLine.mlid (r.Owes table) (block * 32) ((block + left) * 32) lines := by
  induction left generalizing block mft with
  | zero => exact ⟨mft, [], rfl, .empty (by omega)⟩
  | succ left ih =>
      obtain ⟨mft', rest, hrest, hlater⟩ := ih (block + 1)
        (refresh (fun mod => some (table mod)) block 0 r.chunks mft)
      obtain ⟨lines, hlines, hlists⟩ := dumpMlids_block hports hfits
        (refresh (fun mod => some (table mod)) block 0 r.chunks mft) block
      refine ⟨mft', lines ++ rest, dumpBlocks_succ hports (fun _ _ => rfl) mft hlines hrest, ?_⟩
      refine Lists.append (b := (block + 1) * 32) (by omega) (by omega) ?_
        (hlater.congr fun line => by rw [show block + 1 + left = block + (left + 1) by omega])
      refine hlists.congr fun line => ?_
      have hblock : block * 32 + 32 = (block + 1) * 32 := by omega
      rw [hblock, Owes]
      refine and_congr_right fun hlo => and_congr_right fun hhi => and_congr_right fun hasked => ?_
      refine hasLine_congr (fun chunk hchunk => ?_) line
      rw [List.mem_range] at hchunk
      have hmin : ibMinMcastLid ≤ line.mlid := hrange.low.trans hasked.1
      have hmax : line.mlid < 2 ^ 16 := by
        have hhigh := hasked.2.trans hrange.high
        rw [ibMaxMcastLid] at hhigh
        omega
      have hmlid : block = line.mlid / 32 := by omega
      rw [mask_refresh mft line.mlid (by rw [chunks_eq]; exact hchunk) (by rw [chunks_eq]; omega),
        hmlid, modifier_eq hmin hmax]
      rfl

section Headings

theorem foldlM_put (is : List Nat) (f g : Nat → UInt8) {str : Bytes}
    (hroom : str.length + 2 * is.length ≤ lineSize) :
    is.foldlM (fun str i => put str [f i, g i]) str =
      .ok (str ++ is.flatMap fun i => [f i, g i]) := by
  induction is generalizing str with
  | nil => simp [pure, Except.pure]
  | cons i is ih =>
      rw [List.length_cons] at hroom
      rw [List.foldlM_cons, put_eq (by simp; omega), ok_bind, ih (by simp; omega),
        List.append_assoc, List.flatMap_cons]

theorem foldlM_putNul (is : List Nat) (f g : Nat → UInt8) {str : Bytes}
    (hroom : str.length + 2 * is.length < lineSize) :
    is.foldlM (fun str i => do
      let str ← put str [f i, g i]
      putNul str) str = .ok (str ++ is.flatMap fun i => [f i, g i]) := by
  induction is generalizing str with
  | nil => simp [pure, Except.pure]
  | cons i is ih =>
      rw [List.length_cons] at hroom
      rw [List.foldlM_cons, put_eq (by simp; omega), ok_bind, putNul_eq (by simp; omega), ok_bind,
        ih (by simp; omega), List.append_assoc, List.flatMap_cons]

theorem headings_ok (hfits : r.FitsLine) : ∃ ports, r.headings = .ok ports := by
  unfold headings
  rcases hfits with hbrief | hports
  · exact ⟨[], if_pos hbrief⟩
  · have hroom : ([] : Bytes).length + 2 * (List.range (r.nports + 1)).length < lineSize := by
      rw [List.length_nil, List.length_range, lineSize]
      omega
    have htens : ∃ tens, tensHeading r.nports = .ok tens := by
      unfold tensHeading
      split
      · rw [foldlM_put _ _ _ (Nat.le_of_lt hroom), ok_bind, putNul_eq ?_]
        · exact ⟨_, rfl⟩
        · rwa [List.nil_append, flatMap_pair_length, ← Nat.zero_add (2 * _)]
      · exact ⟨[], rfl⟩
    obtain ⟨tens, htens⟩ := htens
    rw [onesHeading, foldlM_putNul _ _ _ hroom, htens]
    split
    · exact ⟨[], rfl⟩
    · exact ⟨_, rfl⟩

/-- The NUL behind 256 ports is out of the line. -/
theorem headings_error (hbrief : r.brief = false) (hports : r.nports = 255) :
    r.headings = .error .outOfBounds := by
  have hroom : ([] : Bytes).length + 2 * (List.range (255 + 1)).length ≤ lineSize := by
    rw [List.length_range]
    decide
  have htens : tensHeading 255 = .error .outOfBounds := by
    rw [tensHeading, if_pos (by decide), foldlM_put _ _ _ hroom, ok_bind, putNul, if_neg ?_]
    · rfl
    · rw [List.nil_append, flatMap_pair_length, List.length_range, lineSize]
      decide
  rw [headings, hbrief, if_neg (by simp), hports, htens]
  rfl

end Headings

section Clip
variable {nports cap top startlid endlid : Nat} {brief dumpAll : Bool}

/-- The first MLID of the range asked for. -/
def firstMlid (startlid : Nat) : Nat := max startlid ibMinMcastLid

/-- The last one: within the table, and up to the top unless all MLIDs are asked for or the top is
none of a table. -/
def lastMlid (cap top endlid : Nat) (dumpAll : Bool) : Nat :=
  let asked := if endlid = 0 then 0xbfff + cap else min endlid (0xbfff + cap)
  min (if dumpAll = true ∨ top < 0xbfff then asked else min asked top) 0xfffe

theorem clip_startlid :
    (clip nports cap top startlid endlid brief dumpAll).startlid = firstMlid startlid := by
  unfold clip firstMlid
  dsimp only
  split
  · omega
  · split <;> omega

theorem clip_endlid : (clip nports cap top startlid endlid brief dumpAll).endlid =
    lastMlid cap top endlid dumpAll := by
  have hmin : ibMinMcastLid = 0xc000 := rfl
  have hmax : ibMaxMcastLid = 0xfffe := rfl
  have hasked : (if endlid = 0 ∨ endlid > ibMinMcastLid + cap - 1 then ibMinMcastLid + cap - 1
      else endlid) = if endlid = 0 then 0xbfff + cap else min endlid (0xbfff + cap) := by
    split <;> split <;> omega
  unfold clip lastMlid
  dsimp only
  rw [hasked]
  generalize (if endlid = 0 then 0xbfff + cap else min endlid (0xbfff + cap)) = asked
  cases dumpAll with
  | true =>
      simp only [reduceCtorEq, false_and, if_false, true_or, if_true]
      split <;> omega
  | false =>
      simp only [true_and, Bool.false_eq_true, false_or]
      split
      · split <;> split <;> split <;> omega
      · split <;> split <;> omega

theorem clip_inRange : (clip nports cap top startlid endlid brief dumpAll).InRange := by
  constructor
  · rw [clip_startlid]
    exact le_max_right startlid ibMinMcastLid
  · rw [clip_endlid]
    exact min_le_right _ _

end Clip

section Dump
variable {table : Nat → SmpData}

/-- A dump that has just the lines that are owed, by increasing MLID, and counts them. -/
def Exact (r : MftRequest) (table : Nat → SmpData) (dump : MftDump) : Prop :=
  Lists MftLine.mlid (r.Owes table) r.startlid (r.endlid + 1) dump.lines ∧
    dump.count = some dump.lines.length

theorem dump_ok (hports : r.nports ≤ 255) (hfits : r.FitsLine) (hrange : r.InRange)
    (table : Nat → SmpData) (stops : Bool) (mft : Mft) : ∃ mft' dump,
      r.dump stops (fun mod => some (table mod)) mft = .ok (mft', dump) ∧ r.Exact table dump := by
  obtain ⟨ports, hheadings⟩ := headings_ok hfits
  obtain ⟨mft', lines, hblocks, hlists⟩ := dumpBlocks_lists hports hfits hrange table stops
    (r.endlid / 32 + 1 - r.startlid / 32) (r.startlid / 32) mft
  refine ⟨mft', ⟨r.startlid, r.endlid, ports, lines, some lines.length⟩, ?_, ?_, rfl⟩
  · rw [dump, hheadings, ok_bind]
    dsimp only
    rw [hblocks]
    rfl
  · refine hlists.congr fun line => ?_
    constructor
    · rintro ⟨-, -, hasked, hline⟩
      exact ⟨hasked.1, Nat.lt_succ_of_le hasked.2, hasked, hline⟩
    · rintro ⟨-, -, hasked, hline⟩
      exact ⟨by omega, by omega, hasked, hline⟩

theorem dump_error {stops : Bool} {query : Nat → Option SmpData} (hbrief : r.brief = false)
    (hports : r.nports = 255) (mft : Mft) : r.dump stops query mft = .error .outOfBounds := by
  rw [dump, headings_error hbrief hports]
  rfl

end Dump
end MftRequest

section Programs
variable (table : Nat → SmpData) (nports cap top startlid endlid : Nat) (brief dumpAll : Bool)

/-- The lines that a range asks for: of the MLIDs with a member, or of all, by increasing MLID. -/
def MftLinesExact (lines : List MftLine) : Prop :=
  Lists MftLine.mlid (fun line =>
      (dumpAll = true ∨ HasMember (MftRequest.entryOf table line.mlid) nports) ∧
        line.text = if brief then maskText (MftRequest.entryOf table line.mlid) nports
          else markText (MftRequest.entryOf table line.mlid) nports)
    (MftRequest.firstMlid startlid) (MftRequest.lastMlid cap top endlid dumpAll + 1) lines

/-- ibroute stays within its line and prints these lines, once the three queries of `check_switch`
have shown a switch. -/
def IbrouteMftExact : Prop :=
  ∀ nodeDesc linearTop mft, ∃ dump, Ibroute.dumpMulticastTables
      ⟨some (ibNodeSwitch, nports), some nodeDesc, some linearTop⟩ cap top startlid endlid brief
      dumpAll (fun mod => some (table mod)) mft = .ok (.ok dump) ∧
    MftLinesExact table nports cap top startlid endlid brief dumpAll dump.lines ∧
    dump.count = some dump.lines.length

def DumpFtsMftExact : Prop :=
  ∀ mft, ∃ mft' dump, DumpFts.dumpMulticastTables nports cap top startlid endlid brief dumpAll
      (fun mod => some (table mod)) mft = .ok (mft', dump) ∧
    MftLinesExact table nports cap top startlid endlid brief dumpAll dump.lines ∧
    dump.count = some dump.lines.length

variable {table nports cap top startlid endlid brief dumpAll}

theorem mftLinesExact_of_exact {dump : MftDump}
    (h : (MftRequest.clip nports cap top startlid endlid brief dumpAll).Exact table dump) :
    MftLinesExact table nports cap top startlid endlid brief dumpAll dump.lines ∧
      dump.count = some dump.lines.length := by
  obtain ⟨hlists, hcount⟩ := h
  rw [MftRequest.clip_startlid, MftRequest.clip_endlid] at hlists
  refine ⟨hlists.congr fun line => ?_, hcount⟩
  unfold MftRequest.Owes
  rw [MftRequest.clip_startlid, MftRequest.clip_endlid]
  constructor
  · rintro ⟨hlo, hhi, -, hline⟩
    exact ⟨hlo, hhi, hline⟩
  · rintro ⟨hlo, hhi, hline⟩
    exact ⟨hlo, hhi, ⟨hlo, Nat.le_of_lt_succ hhi⟩, hline⟩

theorem dumpFtsMftExact_iff (hports : nports ≤ 255) :
    DumpFtsMftExact table nports cap top startlid endlid brief dumpAll ↔
      brief = true ∨ nports ≤ 254 := by
  constructor
  · intro h
    obtain ⟨mft', dump, hdump, -⟩ := h (.replicate 16 .zero)
    by_contra hbroken
    rw [not_or, Bool.not_eq_true] at hbroken
    rw [DumpFts.dumpMulticastTables, MftRequest.dump_error hbroken.1 ?_] at hdump
    · cases hdump
    · change nports = 255
      omega
  · intro hfits mft
    obtain ⟨mft', dump, hdump, hexact⟩ :=
      MftRequest.dump_ok
        (r := .clip nports cap top startlid endlid brief dumpAll) hports hfits
        MftRequest.clip_inRange table false mft
    exact ⟨mft', dump, hdump, mftLinesExact_of_exact hexact⟩

theorem ibrouteMftExact_iff (hports : nports ≤ 255) :
    IbrouteMftExact table nports cap top startlid endlid brief dumpAll ↔
      brief = true ∨ nports ≤ 254 := by
  have hswitch : ∀ nodeDesc linearTop,
      SwitchReplies.checkSwitch ⟨some (ibNodeSwitch, nports), some nodeDesc, some linearTop⟩ =
        .ok (nports, linearTop) := by
    intro nodeDesc linearTop
    rw [SwitchReplies.checkSwitch]
    dsimp only
    rw [if_neg (by simp)]
  simp only [IbrouteMftExact, Ibroute.dumpMulticastTables, hswitch]
  constructor
  · intro h
    obtain ⟨dump, hdump, -⟩ := h [] 0 (.replicate 16 .zero)
    by_contra hbroken
    rw [not_or, Bool.not_eq_true] at hbroken
    rw [MftRequest.dump_error hbroken.1 ?_] at hdump
    · cases hdump
    · change nports = 255
      omega
  · intro hfits nodeDesc linearTop mft
    obtain ⟨mft', dump, hdump, hexact⟩ :=
      MftRequest.dump_ok
        (r := .clip nports cap top startlid endlid brief dumpAll) hports hfits
        MftRequest.clip_inRange table true mft
    refine ⟨dump, ?_, mftLinesExact_of_exact hexact⟩
    rw [hdump]
    rfl

end Programs

/-- Both programs print just the lines that a range asks for, within their line, if and only if the
marks are brief or no port is behind 254. -/
theorem mftDump_iff (table : Nat → SmpData) {nports : Nat} (hports : nports ≤ 255)
    (cap top startlid endlid : Nat) (brief dumpAll : Bool) :
    (IbrouteMftExact table nports cap top startlid endlid brief dumpAll ↔
      brief = true ∨ nports ≤ 254) ∧
    (DumpFtsMftExact table nports cap top startlid endlid brief dumpAll ↔
      brief = true ∨ nports ≤ 254) :=
  ⟨ibrouteMftExact_iff hports, dumpFtsMftExact_iff hports⟩

theorem mftDump_iff_empty36 :
    IbrouteMftExact (fun _ => .zero) 36 64 0 0 0 false false ∧
      DumpFtsMftExact (fun _ => .zero) 36 64 0 0 0 false false :=
  ⟨(mftDump_iff (fun _ => .zero) (by decide) 64 0 0 0 false false).1.mpr (.inr (by decide)),
    (mftDump_iff (fun _ => .zero) (by decide) 64 0 0 0 false false).2.mpr (.inr (by decide))⟩

/-- The marks of a switch with 255 ports do not fit. -/
theorem not_mftDump_ports255 :
    ¬ IbrouteMftExact (fun _ => .zero) 255 64 0 0 0 false false ∧
      ¬ DumpFtsMftExact (fun _ => .zero) 255 64 0 0 0 false false :=
  ⟨fun h => absurd ((ibrouteMftExact_iff (by decide)).mp h) (by decide),
    fun h => absurd ((dumpFtsMftExact_iff (by decide)).mp h) (by decide)⟩

end InfinibandDiags
