import InfinibandDiags.Diff.Silent

/-! When the two diffs run to their ends. -/
namespace InfinibandDiags
open Fabric Emit

namespace Ibnetdiscover

/-- The ports of one number of a node in two fabrics, of which `diff_ports` prints one that has
nothing at its other end. -/
def Dangling (flags : DiffFlags) (f₁ f₂ : Fabric) : Option PortRef → Option PortRef → Prop
  | none, none => False
  | some p, none => flags.portConnection ∧ f₁.remoteport p = none
  | none, some q => flags.portConnection ∧ f₂.remoteport q = none
  | some p, some q =>
      (flags.portConnection ∧ f₁.remoteport p = none ∧ f₂.remoteport q = none ∧
        (f₁.port p).guid ≠ (f₂.port q).guid) ∨
      (flags.lid ∧ (f₁.port p).baseLid ≠ (f₂.port q).baseLid ∧
        (f₁.remoteport p = none ∨ f₂.remoteport q = none))

theorem not_dangling_of_keys {flags : DiffFlags} {f₁ f₂ : Fabric} {p q : Option PortRef}
    (h : (flags.portConnection || flags.lid) = false) : ¬ Dangling flags f₁ f₂ p q := by
  rw [Bool.or_eq_false_iff] at h
  cases p <;> cases q <;> simp [Dangling, h]

theorem outPort_returns {f : Fabric} {kind : OutKind} {p : PortRef} {outPrefix : String} :
    Returns (outPort f kind p outPrefix) ↔ f.remoteport p ≠ none := by
  unfold outPort remoteEnd
  cases hr : f.remoteport p with
  | none => simp
  | some r => simp

theorem outChosen_returns {f : Fabric} {kind : OutKind} {p : Option PortRef} {outPrefix : String} :
    Returns (outChosen f kind outPrefix p) ↔ p.bind f.remoteport ≠ none := by
  cases p with
  | none => simp [outChosen]
  | some p => exact outPort_returns

namespace IterDiffData
variable {data : IterDiffData} {n m : NodeRef} {k : Nat} {p q : Option PortRef}

theorem outSide_returns {f : Fabric} {outPrefix : String} {asked flag : Nat} :
    Returns (data.outSide n f outPrefix asked p flag) ↔ (asked ≠ 0 → p.bind f.remoteport ≠ none) := by
  unfold outSide
  by_cases hasked : asked = 0
  · simp [hasked]
  · rw [if_pos hasked, returns_map, outChosen_returns]
    simp [hasked]

theorem diffPort_returns {flag : Nat} (hp : data.fabric1.slot n k = .ok p)
    (hq : data.fabric2.slot m k = .ok q) :
    Returns (data.diffPort n m flag k) ↔
      ((data.portOut p q).1 ≠ 0 → p.bind data.fabric1.remoteport ≠ none) ∧
        ((data.portOut p q).2 ≠ 0 → q.bind data.fabric2.remoteport ≠ none) := by
  unfold diffPort
  rw [hp, hq]
  refine (returns_bind fun out1 => (returns_map _).trans outSide_returns).trans ?_
  rw [outSide_returns]

/-- Checks of the other ends ask for ports that have one. -/
theorem asked_iff {c : Nat} {l d e : Bool} {R : Prop} (hd : d = true → R) (he : e = true → R) :
    (c + l.toNat + d.toNat + d.toNat + e.toNat ≠ 0 → R) ↔ (c ≠ 0 → R) ∧ (l = true → R) := by
  cases d with
  | true => exact iff_of_true (fun _ => hd rfl) ⟨fun _ => hd rfl, fun _ => hd rfl⟩
  | false =>
      cases e with
      | true => exact iff_of_true (fun _ => he rfl) ⟨fun _ => he rfl, fun _ => he rfl⟩
      | false => cases l <;> simp +contextual

theorem cabled_of_peers {x : PortRef × PortRef} (h : data.peers p q = some x) :
    p.bind data.fabric1.remoteport ≠ none ∧ q.bind data.fabric2.remoteport ≠ none := by
  cases p with
  | none => cases h
  | some p =>
      cases q with
      | none => simp [peers] at h
      | some q =>
          cases hr : data.fabric1.remoteport p with
          | none => simp [peers, hr] at h
          | some r =>
              cases hs : data.fabric2.remoteport q with
              | none => simp [peers, hs] at h
              | some s => simp [hr, hs]

theorem cabled_of_description (h : data.peerDescriptionDiffers p q = true) :
    p.bind data.fabric1.remoteport ≠ none ∧ q.bind data.fabric2.remoteport ≠ none := by
  cases hx : data.peers p q with
  | none => simp [peerDescriptionDiffers, hx] at h
  | some x => exact cabled_of_peers hx

theorem cabled_of_peerLid (h : data.peerLidDiffers p q = true) :
    p.bind data.fabric1.remoteport ≠ none ∧ q.bind data.fabric2.remoteport ≠ none := by
  cases hx : data.peers p q with
  | none => simp [peerLidDiffers, hx] at h
  | some x => exact cabled_of_peers hx

/-- No port is printed that has nothing at its other end exactly if the pair does not dangle. -/
theorem not_dangling_iff :
    ¬ Dangling data.diffFlags data.fabric1 data.fabric2 p q ↔
      ((data.portOut p q).1 ≠ 0 → p.bind data.fabric1.remoteport ≠ none) ∧
        ((data.portOut p q).2 ≠ 0 → q.bind data.fabric2.remoteport ≠ none) := by
  unfold portOut
  dsimp only
  rw [asked_iff, asked_iff]
  rotate_left
  · exact fun h => (cabled_of_description (Bool.and_eq_true_iff.mp h).2).2
  · exact fun h => (cabled_of_peerLid (Bool.and_eq_true_iff.mp h).2).2
  · exact fun h => (cabled_of_description (Bool.and_eq_true_iff.mp h).2).1
  · exact fun h => (cabled_of_peerLid (Bool.and_eq_true_iff.mp h).2).1
  cases p with
  | none =>
      cases q with
      | none => simp [Dangling, connectionOut, lidDiffers]
      | some q =>
          cases hconn : data.diffFlags.portConnection <;>
            simp [Dangling, connectionOut, lidDiffers, hconn]
  | some p =>
      cases q with
      | none =>
          cases hconn : data.diffFlags.portConnection <;>
            simp [Dangling, connectionOut, lidDiffers, hconn]
      | some q =>
          by_cases hguid : (data.fabric1.port p).guid = (data.fabric2.port q).guid <;>
            cases hr : data.fabric1.remoteport p <;> cases hs : data.fabric2.remoteport q <;>
            cases hconn : data.diffFlags.portConnection <;>
            simp [Dangling, connectionOut, lidDiffers, remoteGuid, hguid, hr, hs, hconn]

theorem diffPorts_returns {flag : Nat}
    (hnum : (data.fabric1.node n).numports = (data.fabric2.node m).numports) :
    Returns (data.diffPorts n m flag) ↔ ∀ k, 1 ≤ k → k ≤ (data.fabric1.node n).numports →
      ¬ Dangling data.diffFlags data.fabric1 data.fabric2 ((data.fabric1.node n).ports k)
        ((data.fabric2.node m).ports k) := by
  have hround : ∀ flag, ∀ k ∈ List.range' 1 (data.fabric1.node n).numports,
      Returns (data.diffPort n m flag k) ↔
        ¬ Dangling data.diffFlags data.fabric1 data.fabric2 ((data.fabric1.node n).ports k)
          ((data.fabric2.node m).ports k) := by
    intro flag k hk
    have hle := (mem_ports.mp hk).2
    rw [diffPort_returns (slot_of_le hle) (slot_of_le (hnum ▸ hle)), not_dangling_iff]
  rw [diffPorts, returns_run hround]
  constructor
  · intro h k hpos hle
    exact h k (mem_ports.mpr ⟨hpos, hle⟩)
  · intro h k hk
    exact h k (mem_ports.mp hk).1 (mem_ports.mp hk).2

/-- Only cabled ports are printed of a node that is in one fabric only. -/
theorem outCabledPort_returns {s : Unit} (hk : k ≤ (data.fabric1.node n).numports) :
    Returns (data.outCabledPort n s k) := by
  unfold outCabledPort
  rw [slot_of_le hk]
  cases hp : (data.fabric1.node n).ports k with
  | none => exact returns_ok _
  | some p =>
      cases hr : data.fabric1.remoteport p with
      | none => simp [bind, Except.bind, hr]
      | some r => simp [bind, Except.bind, hr, outPort, remoteEnd]

end IterDiffData

/-- What `diff_common` needs in order to run to its end: where the ports of a node that is in both
fabrics are compared, none is printed that has nothing at its other end. -/
def NoneDangling (flags : DiffFlags) (f₁ f₂ : Fabric) (n : NodeRef) : Prop :=
  ∀ m ∈ f₂.nodes, (f₁.node n).guid = (f₂.node m).guid →
    (f₁.node n).numports = (f₂.node m).numports →
    ∀ k, 1 ≤ k → k ≤ (f₁.node n).numports →
      ¬ Dangling flags f₁ f₂ ((f₁.node n).ports k) ((f₂.node m).ports k)

namespace IterDiffData

theorem diffIterFunc_returns (data : IterDiffData) {n : NodeRef} {s : Unit}
    (hf₂ : WellFormed data.fabric2) :
    Returns (data.diffIterFunc s n) ↔
      NoneDangling data.diffFlags data.fabric1 data.fabric2 n := by
  unfold diffIterFunc
  cases hfind : data.fabric2.ibndFindNodeGuid (data.fabric1.node n).guid with
  | none =>
      refine iff_of_true ?_ ?_
      · refine (returns_map _).mpr ((returns_run ?_ ()).mpr fun _ _ => trivial)
        intro _ k hk
        exact iff_true_intro (outCabledPort_returns (mem_ports.mp hk).2)
      · intro m hm hguid
        rw [hf₂.find_iff.mpr ⟨hm, hguid.symm⟩] at hfind
        cases hfind
  | some m =>
      obtain ⟨hm, hguid⟩ := hf₂.find_iff.mp hfind
      have hone : NoneDangling data.diffFlags data.fabric1 data.fabric2 n ↔
          ((data.fabric1.node n).numports = (data.fabric2.node m).numports →
            ∀ k, 1 ≤ k → k ≤ (data.fabric1.node n).numports →
              ¬ Dangling data.diffFlags data.fabric1 data.fabric2 ((data.fabric1.node n).ports k)
                ((data.fabric2.node m).ports k)) := by
        constructor
        · intro h
          exact h m hm hguid.symm
        · intro h m' hm' hguid'
          rw [hf₂.guid_inj hm' hm (hguid'.symm.trans hguid.symm)]
          exact h
      rw [hone]
      dsimp only
      by_cases hports : (data.diffFlags.portConnection || data.diffFlags.lid) = true
      · have hany : (data.diffFlags.portConnection || data.diffFlags.lid ||
            data.diffFlags.nodeDescription) = true := by rw [hports]; rfl
        rw [if_pos hany]
        by_cases hnum : (data.fabric1.node n).numports = (data.fabric2.node m).numports
        · rw [if_neg (not_not.mpr hnum), if_pos hports, returns_map, diffPorts_returns hnum]
          exact ⟨fun h _ => h, fun h => h hnum⟩
        · rw [if_pos hnum]
          exact iff_of_true (returns_ok _) fun h => absurd h hnum
      · rw [if_neg hports]
        refine iff_of_true ?_ fun _ k _ _ => not_dangling_of_keys (eq_false_of_ne_true hports)
        split_ifs <;> exact returns_ok _

end IterDiffData

/-- `diff_common` runs to its end exactly if no pair of ports that it compares dangles. -/
theorem diffCommon_returns {f₁ f₂ : Fabric} (hf₁ : WellFormed f₁) (hf₂ : WellFormed f₂)
    (list : Fabric → List NodeRef) (flags : DiffFlags) (kind : OutKind) :
    Returns (diffCommon f₁ f₂ list flags kind) ↔ ∀ n ∈ list f₁, NoneDangling flags f₁ f₂ n := by
  have hfirst : ∀ s, ∀ n ∈ list f₁, Returns ((firstPass f₁ f₂ flags kind).diffIterFunc s n) ↔
      NoneDangling flags f₁ f₂ n :=
    fun _ _ _ => (firstPass f₁ f₂ flags kind).diffIterFunc_returns hf₂
  have hsecond : ∀ s, ∀ n ∈ list f₂, Returns ((secondPass f₁ f₂ flags kind).diffIterFunc s n) := by
    intro s n _
    refine ((secondPass f₁ f₂ flags kind).diffIterFunc_returns hf₁).mpr ?_
    intro m _ _ _ k _ _
    exact not_dangling_of_keys rfl
  have hback : Returns (iterDiff (secondPass f₁ f₂ flags kind) (list f₂)) := by
    rw [iterDiff, returns_map]
    refine (returns_run (fun s n hn => iff_true_intro (hsecond s n hn)) ()).mpr ?_
    exact fun _ _ => trivial
  rw [diffCommon, returns_bind fun out => (returns_map _).trans (iff_true_intro hback), and_true,
    iterDiff, returns_map, returns_run hfirst]

end Ibnetdiscover

namespace Iblinkinfo

/-- The flag behind the header stays there. -/
def Flagged (r : Except Fault (Option Nat × List Line)) : Prop := ∃ x, r = .ok x ∧ x.1.isSome

theorem printNodeHeader_flagged {opts : Options} {f : Fabric} {n : NodeRef}
    {outHeaderFlag : Option Nat} {outPrefix : Option String} (h : outHeaderFlag.isSome) :
    Flagged (printNodeHeader opts f n outHeaderFlag outPrefix) := by
  obtain ⟨flag, rfl⟩ := Option.isSome_iff_exists.mp h
  unfold printNodeHeader
  split_ifs
  · exact ⟨_, rfl, rfl⟩
  · exact ⟨_, rfl, rfl⟩

/-- Without a flag the header must not come to be printed. -/
theorem printNodeHeader_null {opts : Options} {f : Fabric} {n : NodeRef}
    {outPrefix : Option String} :
    Returns (printNodeHeader opts f n none outPrefix) ↔ opts.lineMode = true := by
  unfold printNodeHeader
  cases opts.lineMode <;> simp

theorem printNode_returns (opts : Options) (f : Fabric) (n : NodeRef) (outPrefix : String) :
    Returns (printNode opts f n outPrefix) := by
  have hround : ∀ headPrint : Option Nat, headPrint.isSome →
      ∀ k ∈ List.range' 1 (f.node n).numports,
        Flagged (printNodePort opts f n outPrefix headPrint k) := by
    intro headPrint hsome k hk
    unfold printNodePort
    rw [slot_of_le (mem_ports.mp hk).2]
    cases hp : (f.node n).ports k with
    | none => exact ⟨_, rfl, hsome⟩
    | some p =>
        obtain ⟨x, hx, hsome'⟩ : Flagged (printNodeHeader opts f n headPrint (some outPrefix)) :=
          printNodeHeader_flagged hsome
        simp only [bind, Except.bind, hx]
        split_ifs
        · exact ⟨_, rfl, hsome'⟩
        · exact ⟨_, rfl, hsome⟩
  obtain ⟨x, hx, -⟩ := run_keeps hround (s := some 0) rfl
  exact ⟨x, hx⟩

variable {opts : Options}

namespace IterDiffData
variable {data : IterDiffData} {n m : NodeRef}

theorem printDiffPort_flagged {f : Fabric} {outPrefix : String} {headPrint : Option Nat}
    {p : Option PortRef} (h : headPrint.isSome) :
    Flagged (data.printDiffPort opts n f m outPrefix headPrint p) := by
  cases p with
  | none => exact ⟨_, rfl, h⟩
  | some p =>
      obtain ⟨x, hx, hsome⟩ : Flagged (printNodeHeader opts data.fabric1 n headPrint none) :=
        printNodeHeader_flagged h
      unfold printDiffPort
      rw [hx]
      exact ⟨_, rfl, hsome⟩

theorem diffNodePort_flagged {headPrint : Option Nat} {k : Nat}
    (hp : k ≤ (data.fabric1.node n).numports) (hq : k ≤ (data.fabric2.node m).numports)
    (h : headPrint.isSome) : Flagged (data.diffNodePort opts n m headPrint k) := by
  unfold diffNodePort
  rw [slot_of_le hp, slot_of_le hq]
  generalize (data.fabric1.node n).ports k = p
  generalize (data.fabric2.node m).ports k = q
  simp only [bind, Except.bind]
  split_ifs
  · exact ⟨_, rfl, h⟩
  · obtain ⟨x, hx, hsome⟩ : Flagged
        (data.printDiffPort opts n data.fabric1 n data.fabric1Prefix headPrint p) :=
      printDiffPort_flagged h
    obtain ⟨y, hy, hsome'⟩ : Flagged
        (data.printDiffPort opts n data.fabric2 m data.fabric2Prefix x.1 q) :=
      printDiffPort_flagged hsome
    simp only [hx, hy]
    exact ⟨_, rfl, hsome'⟩
  · exact ⟨_, rfl, h⟩

theorem diffNodePorts_returns {headPrint : Option Nat} (h : headPrint.isSome)
    (hnum : (data.fabric1.node n).numports = (data.fabric2.node m).numports) :
    Returns (data.diffNodePorts opts n m headPrint) := by
  have hround : ∀ headPrint : Option Nat, headPrint.isSome →
      ∀ k ∈ List.range' 1 (data.fabric1.node n).numports,
        Flagged (data.diffNodePort opts n m headPrint k) := by
    intro headPrint h k hk
    have hle := (mem_ports.mp hk).2
    exact diffNodePort_flagged hle (hnum ▸ hle) h
  obtain ⟨x, hx, -⟩ := run_keeps hround h
  exact ⟨x, hx⟩

theorem printHeaders_returns :
    Returns (data.printHeaders opts n m) ↔ (data.nodeDiffers n m = true → opts.lineMode = true) := by
  unfold printHeaders
  by_cases hdiff : data.nodeDiffers n m = true
  · rw [if_pos hdiff, returns_bind fun _ => (returns_map _).trans printNodeHeader_null,
      printNodeHeader_null, and_self]
    exact ⟨fun h _ => h, fun h => h hdiff⟩
  · rw [if_neg hdiff]
    exact iff_of_true (returns_ok _) fun h => absurd h hdiff

theorem nodeDiffers_of_keys (h : ¬ (data.diffFlags.portConnection || data.diffFlags.portState ||
    data.diffFlags.lid || data.diffFlags.nodeDescription) = true) :
    data.nodeDiffers n m = false := by
  simp only [Bool.or_eq_true, not_or, Bool.not_eq_true] at h
  simp [nodeDiffers, h]

/-- The only way for `diff_node_iter` to fail is the header of a node without a flag. -/
theorem diffNodeIter_returns (data : IterDiffData) (hf₂ : WellFormed data.fabric2) (s : Unit)
    (n : NodeRef) :
    Returns (data.diffNodeIter opts s n) ↔ (opts.lineMode = true ∨
      ∀ m ∈ data.fabric2.nodes, (data.fabric1.node n).guid = (data.fabric2.node m).guid →
        data.nodeDiffers n m = false) := by
  unfold diffNodeIter
  cases hfind : data.fabric2.ibndFindNodeGuid (data.fabric1.node n).guid with
  | none =>
      refine iff_of_true ((returns_map _).mpr (printNode_returns _ _ _ _)) (Or.inr ?_)
      intro m hm hguid
      rw [hf₂.find_iff.mpr ⟨hm, hguid.symm⟩] at hfind
      cases hfind
  | some m =>
      obtain ⟨hm, hguid⟩ := hf₂.find_iff.mp hfind
      have hone : (∀ m' ∈ data.fabric2.nodes, (data.fabric1.node n).guid =
          (data.fabric2.node m').guid → data.nodeDiffers n m' = false) ↔
            data.nodeDiffers n m = false := by
        constructor
        · intro h
          exact h m hm hguid.symm
        · intro h m' hm' hguid'
          rw [hf₂.guid_inj hm' hm (hguid'.symm.trans hguid.symm)]
          exact h
      rw [hone]
      dsimp only
      by_cases hany : (data.diffFlags.portConnection || data.diffFlags.portState ||
          data.diffFlags.lid || data.diffFlags.nodeDescription) = true
      · rw [if_pos hany, returns_bind (Q := True), printHeaders_returns, and_true]
        · cases data.nodeDiffers n m <;> cases opts.lineMode <;> simp
        · intro head
          refine iff_true_intro ?_
          by_cases hnum : (data.fabric1.node n).numports = (data.fabric2.node m).numports
          · rw [if_neg (not_not.mpr hnum), returns_map]
            exact diffNodePorts_returns rfl hnum
          · rw [if_pos hnum, returns_map]
            obtain ⟨x, hx, -⟩ : Flagged (printNodeHeader opts data.fabric1 n
                (some (data.nodeDiffers n m).toNat) none) := printNodeHeader_flagged rfl
            exact ⟨x, hx⟩
      · rw [if_neg hany]
        exact iff_of_true (returns_ok _) (Or.inr (nodeDiffers_of_keys hany))

end IterDiffData
theorem diffPasses_returns {first second : IterDiffData} {nodes1 nodes2 : List NodeRef}
    (hfirst : WellFormed first.fabric2) (hsecond : WellFormed second.fabric2)
    (hkeys : second.diffFlags = ⟨false, false, false, false⟩) :
    Returns (diffPasses opts first second nodes1 nodes2) ↔ (opts.lineMode = true ∨
      ∀ n ∈ nodes1, ∀ m ∈ first.fabric2.nodes,
        (first.fabric1.node n).guid = (first.fabric2.node m).guid →
          first.nodeDiffers n m = false) := by
  have hback : Returns (run (second.diffNodeIter opts) () nodes2) := by
    have hround : ∀ s, ∀ n ∈ nodes2, Returns (second.diffNodeIter opts s n) ↔ True := by
      intro s n _
      rw [second.diffNodeIter_returns hsecond]
      refine iff_true_intro (Or.inr fun m _ _ => IterDiffData.nodeDiffers_of_keys ?_)
      rw [hkeys]
      decide
    exact (returns_run hround ()).mpr fun _ _ => trivial
  rw [diffPasses, returns_bind fun out => (returns_map _).trans (iff_true_intro hback), and_true,
    returns_run fun s n _ => first.diffNodeIter_returns hfirst s n]
  constructor
  · intro h
    by_cases hline : opts.lineMode = true
    · exact Or.inl hline
    · exact Or.inr fun n hn => (h n hn).resolve_left hline
  · intro h n hn
    exact h.imp id fun h => h n hn

/-- `diff_node` runs to its end exactly in line mode, or for one node, or if no node of both
fabrics has changed in what its header shows. -/
theorem diffNodeOf_returns {f₁ f₂ : Fabric} (hf₁ : WellFormed f₁) (hf₂ : WellFormed f₂)
    (opts : Options) (onlyType : Option Nat) (flags : DiffFlags) :
    (∀ n ∈ f₂.nodes, Returns (diffNodeOf opts onlyType flags (some n) f₁ f₂)) ∧
    (Returns (diffNodeOf opts onlyType flags none f₁ f₂) ↔ (opts.lineMode = true ∨
      ∀ n ∈ iterNodes onlyType f₁, ∀ m ∈ f₂.nodes, (f₁.node n).guid = (f₂.node m).guid →
        (firstPass f₁ f₂ flags).nodeDiffers n m = false)) := by
  constructor
  · intro n hn
    refine (diffPasses_returns hf₂ hf₁ rfl).mpr (Or.inr ?_)
    intro n' hn' m hm hguid
    rw [List.mem_singleton.mp hn'] at hguid ⊢
    rw [← hf₂.guid_inj hn hm hguid]
    simp [IterDiffData.nodeDiffers, firstPass]
  · exact diffPasses_returns hf₂ hf₁ rfl

end Iblinkinfo

/-- The reports run to their ends exactly if ibnetdiscover comes to print no port without another
end, and iblinkinfo no header without a flag. -/
theorem diff_returns_iff {f₁ f₂ : Fabric} (hf₁ : WellFormed f₁) (hf₂ : WellFormed f₂) :
    (∀ (list : Fabric → List NodeRef) flags kind,
      Returns (Ibnetdiscover.diffCommon f₁ f₂ list flags kind) ↔
        ∀ n ∈ list f₁, Ibnetdiscover.NoneDangling flags f₁ f₂ n) ∧
    ∀ (opts : Iblinkinfo.Options) onlyType flags,
      (∀ n ∈ f₂.nodes, Returns (Iblinkinfo.diffNodeOf opts onlyType flags (some n) f₁ f₂)) ∧
      (Returns (Iblinkinfo.diffNodeOf opts onlyType flags none f₁ f₂) ↔
        (opts.lineMode = true ∨ ∀ n ∈ Iblinkinfo.iterNodes onlyType f₁, ∀ m ∈ f₂.nodes,
          (f₁.node n).guid = (f₂.node m).guid →
            (Iblinkinfo.firstPass f₁ f₂ flags).nodeDiffers n m = false)) :=
  ⟨Ibnetdiscover.diffCommon_returns hf₁ hf₂, Iblinkinfo.diffNodeOf_returns hf₁ hf₂⟩

/-- A switch alone in its fabric, with or without a record of its port 1, and with a LID. -/
def loneSwitch (port1 : Bool) (smalid : UInt16) : Fabric :=
  { allocateFabricInternal with
    node := fun _ =>
      { (default : Node) with
        guid := 1
        type := ibNodeSwitch
        smalid := smalid
        numports := 1
        ports := fun k => if k = 0 ∨ (port1 ∧ k = 1) then some k else none }
    nodeCount := 1
    port := fun p => { (default : Port) with guid := 1, portnum := p }
    portCount := 2
    nodes := [0]
    switches := [0]
    nodestbl := fun idx => if hashguid 1 = idx then [0] else []
    fromNode := some 0 }

theorem loneSwitch_wellFormed (port1 : Bool) (smalid : UInt16) :
    WellFormed (loneSwitch port1 smalid) where
  find_iff {guid n} := by
    unfold ibndFindNodeGuid
    by_cases hidx : hashguid 1 = hashguid guid
    · by_cases hguid : guid = 1
      · simp [loneSwitch, hguid, eq_comm]
      · have hguid' : ¬ 1 = guid := fun h => hguid h.symm
        simp [loneSwitch, hidx, hguid']
    · have hguid' : ¬ 1 = guid := fun h => hidx (congrArg hashguid h)
      simp [loneSwitch, hidx, hguid']
  switches {n} := by
    simp [loneSwitch]
  chAdapters {n} := by
    simp [loneSwitch, allocateFabricInternal, ibNodeSwitch, ibNodeCa]
  routers {n} := by
    simp [loneSwitch, allocateFabricInternal, ibNodeSwitch, ibNodeRouter]
  ported n _ := ⟨0, Nat.zero_le _, rfl⟩
  cabled {n k p r} _ _ _ hr := by cases hr

/-- A switch that lost its port 1 and changed its LID: both diffs go through a null pointer. -/
theorem diff_faults_loneSwitch :
    WellFormed (loneSwitch true 1) ∧ WellFormed (loneSwitch false 2) ∧
    Ibnetdiscover.diffCommon (loneSwitch true 1) (loneSwitch false 2) Fabric.switches
      Ibnetdiscover.portKey .switch = .error .nullDeref ∧
    Iblinkinfo.diffNodeOf .default none ⟨false, false, true, false⟩ none (loneSwitch true 1)
      (loneSwitch false 2) = .error .nullDeref := by
  refine ⟨loneSwitch_wellFormed true 1, loneSwitch_wellFormed false 2, ?_, ?_⟩
  · exact faultOf_eq_some.mp (by decide +kernel)
  · exact faultOf_eq_some.mp (by decide +kernel)

theorem diff_returns_iff_loneSwitch :
    Returns (Iblinkinfo.diffNodeOf .default none ⟨true, true, true, false⟩ none (loneSwitch true 1)
      (loneSwitch false 1)) := by
  have hiff := diff_returns_iff (loneSwitch_wellFormed true 1) (loneSwitch_wellFormed false 1)
  exact (hiff.2 .default none ⟨true, true, true, false⟩).2.mpr (Or.inr (by decide))

end InfinibandDiags
