import InfinibandDiags.Diff.Total

/-! The diff of iblinkinfo for one node against its part of the diff of all nodes. -/
namespace InfinibandDiags
open Fabric Emit
namespace Iblinkinfo

/-- The node is the one with the GUID. -/
def hasGuid (f : Fabric) (guid : UInt64) (n : NodeRef) : Bool := (f.node n).guid = guid

/-- The part of `diff_node` for all nodes that is about the node with a GUID. -/
def diffNodePart (opts : Options) (onlyType : Option Nat) (flags : DiffFlags) (guid : UInt64)
    (orig new : Fabric) : Except Fault (List Line) :=
  diffPasses opts (firstPass orig new flags) (secondPass orig new)
    ((iterNodes onlyType orig).filter (hasGuid orig guid))
    ((iterNodes onlyType new).filter (hasGuid new guid))

/-- `print_port` leaves the port out. -/
def filteredOut (opts : Options) (f : Fabric) (n : NodeRef) (p : PortRef) : Bool :=
  opts.filterdownportsFabric.any fun filter =>
    (f.port p).info.field .portState = ibLinkDown &&
      filterdownportCheck filter (f.node n).guid (f.port p).portnum

theorem printPort_eq_nil {opts : Options} {f : Fabric} {n : NodeRef} {p : PortRef}
    {outPrefix : String} : printPort opts f n p outPrefix = [] ↔ filteredOut opts f n p = true := by
  unfold printPort filteredOut
  dsimp only
  split_ifs with h
  · exact iff_of_true rfl h
  · exact iff_of_false not_false h

/-- Nothing is printed of a port of one fabric that was asked for. -/
def Suppressed (opts : Options) (f : Fabric) (n : NodeRef) (p : Option PortRef) : Prop :=
  ∀ a, p = some a → opts.lineMode = true ∧ filteredOut opts f n a = true

theorem suppressed_none {opts : Options} {f : Fabric} {n : NodeRef} :
    Suppressed opts f n none := fun a h => by cases h

/-- Nothing is printed of two nodes of one GUID, although a key asks for it. -/
structure Unremarkable (opts : Options) (data : IterDiffData) (n m : NodeRef) : Prop where
  header : data.nodeDiffers n m = true → opts.lineMode = true
  numports : (data.fabric1.node n).numports = (data.fabric2.node m).numports
  ports : ∀ k, 1 ≤ k → k ≤ (data.fabric1.node n).numports →
    data.outputDiff ((data.fabric1.node n).ports k) ((data.fabric2.node m).ports k) = 0 ∨
      Suppressed opts data.fabric1 n ((data.fabric1.node n).ports k) ∧
        Suppressed opts data.fabric2 m ((data.fabric2.node m).ports k)

def DiffFlags.any (flags : DiffFlags) : Bool :=
  flags.portConnection || flags.portState || flags.lid || flags.nodeDescription

namespace IterDiffData
variable {data : IterDiffData} {opts : Options} {n m : NodeRef}

/-- The state of the header in which nothing has been printed. -/
theorem printNodeHeader_silent {f : Fabric} {headPrint : Option Nat} {outPrefix : Option String}
    {t : Option Nat} (h : opts.lineMode = true ∨ headPrint = some 0) :
    printNodeHeader opts f n headPrint outPrefix = .ok (t, []) ↔
      t = headPrint ∧ opts.lineMode = true := by
  unfold printNodeHeader
  cases hline : opts.lineMode with
  | true => simp [eq_comm]
  | false =>
      rw [hline] at h
      rw [h.resolve_left Bool.false_ne_true]
      simp

theorem printDiffPort_silent {f : Fabric} {headPrint t : Option Nat} {outPrefix : String}
    {p : Option PortRef} (h : opts.lineMode = true ∨ headPrint = some 0) :
    data.printDiffPort opts n f m outPrefix headPrint p = .ok (t, []) ↔
      t = headPrint ∧ Suppressed opts f m p := by
  cases p with
  | none => simp [printDiffPort, suppressed_none, eq_comm]
  | some p =>
      unfold printDiffPort
      rw [bind_eq_ok]
      constructor
      · rintro ⟨r, hr, hlines⟩
        simp only [Except.ok.injEq, Prod.mk.injEq, List.append_eq_nil_iff] at hlines
        obtain ⟨rfl, hhead, hport⟩ := hlines
        have hheader : printNodeHeader opts data.fabric1 n headPrint none = .ok (r.1, []) := by
          rw [hr, ← hhead]
        obtain ⟨hflag, hline⟩ := (printNodeHeader_silent h).mp hheader
        refine ⟨hflag, ?_⟩
        rintro a ⟨⟩
        exact ⟨hline, printPort_eq_nil.mp hport⟩
      · rintro ⟨hflag, hsup⟩
        obtain ⟨hline, hport⟩ := hsup p rfl
        refine ⟨(headPrint, []), (printNodeHeader_silent h).mpr ⟨rfl, hline⟩, ?_⟩
        rw [printPort_eq_nil.mpr hport, hflag]
        rfl

theorem outputDiff_none : data.outputDiff none none = 0 := by
  simp [outputDiff, connectionDiffers, stateDiffers, peerLidDiffers, peerDescriptionDiffers, peers]

theorem diffNodePort_still {headPrint t : Option Nat} {k : Nat} {p q : Option PortRef}
    (hp : data.fabric1.slot n k = .ok p) (hq : data.fabric2.slot m k = .ok q)
    (h : opts.lineMode = true ∨ headPrint = some 0) :
    data.diffNodePort opts n m headPrint k = .ok (t, []) ↔ t = headPrint ∧
      (data.outputDiff p q = 0 ∨ Suppressed opts data.fabric1 n p ∧
        Suppressed opts data.fabric2 m q) := by
  unfold diffNodePort
  rw [hp, hq, ok_bind, ok_bind]
  by_cases hnone : (p.isNone && q.isNone) = true
  · rw [if_pos hnone]
    rw [Bool.and_eq_true, Option.isNone_iff_eq_none, Option.isNone_iff_eq_none] at hnone
    rw [hnone.1, hnone.2, outputDiff_none]
    simp [eq_comm]
  · rw [if_neg hnone]
    by_cases hdiff : data.outputDiff p q = 0
    · simp [hdiff, eq_comm]
    · rw [if_pos hdiff]
      refine (then_eq_silent (y := fun s =>
        data.printDiffPort opts n data.fabric2 m data.fabric2Prefix s q)).trans ?_
      constructor
      · rintro ⟨s, h₁, h₂⟩
        obtain ⟨rfl, hfirst⟩ := (printDiffPort_silent h).mp h₁
        obtain ⟨rfl, hsecond⟩ := (printDiffPort_silent h).mp h₂
        exact ⟨rfl, Or.inr ⟨hfirst, hsecond⟩⟩
      · rintro ⟨hflag, hor⟩
        obtain ⟨hfirst, hsecond⟩ := hor.resolve_left hdiff
        exact ⟨headPrint, (printDiffPort_silent h).mpr ⟨rfl, hfirst⟩,
          (printDiffPort_silent h).mpr ⟨hflag, hsecond⟩⟩

theorem diffNodePorts_still {headPrint : Option Nat}
    (hnum : (data.fabric1.node n).numports = (data.fabric2.node m).numports)
    (h : opts.lineMode = true ∨ headPrint = some 0) :
    Silent (data.diffNodePorts opts n m headPrint) ↔
      ∀ k, 1 ≤ k → k ≤ (data.fabric1.node n).numports →
        data.outputDiff ((data.fabric1.node n).ports k) ((data.fabric2.node m).ports k) = 0 ∨
          Suppressed opts data.fabric1 n ((data.fabric1.node n).ports k) ∧
            Suppressed opts data.fabric2 m ((data.fabric2.node m).ports k) := by
  unfold diffNodePorts
  rw [silent_run_still]
  rotate_left
  · intro k hk t
    have hle := (mem_ports.mp hk).2
    exact diffNodePort_still (slot_of_le hle) (slot_of_le (hnum ▸ hle)) h
  constructor
  · intro hall k hpos hle
    exact hall k (mem_ports.mpr ⟨hpos, hle⟩)
  · intro hall k hk
    exact hall k (mem_ports.mp hk).1 (mem_ports.mp hk).2

/-- Both headers stay unprinted in line mode alone. -/
theorem printHeaders_eq_nil :
    data.printHeaders opts n m = .ok [] ↔ (data.nodeDiffers n m = true → opts.lineMode = true) := by
  unfold printHeaders
  by_cases hdiff : data.nodeDiffers n m = true
  · rw [if_pos hdiff]
    cases hline : opts.lineMode <;> simp [printNodeHeader, hline, hdiff, bind, Except.bind]
  · rw [if_neg hdiff]
    exact iff_of_true rfl fun h => absurd h hdiff

/-- Nothing is printed of a node that is in both fabrics exactly if no key is set or nothing
about the two is printed. -/
theorem diffNodeIter_silent (data : IterDiffData) {s : Unit}
    (hfind : data.fabric2.ibndFindNodeGuid (data.fabric1.node n).guid = some m) :
    Silent (data.diffNodeIter opts s n) ↔
      (data.diffFlags.any = true → Unremarkable opts data n m) := by
  unfold diffNodeIter
  rw [hfind]
  dsimp only
  have hkeys : (data.diffFlags.portConnection || data.diffFlags.portState ||
      data.diffFlags.lid || data.diffFlags.nodeDescription) = data.diffFlags.any := rfl
  rw [hkeys]
  by_cases hany : data.diffFlags.any = true
  · rw [if_pos hany]
    by_cases hheader : data.nodeDiffers n m = true → opts.lineMode = true
    · have hstart : opts.lineMode = true ∨ some (data.nodeDiffers n m).toNat = some 0 := by
        cases hdiff : data.nodeDiffers n m with
        | true => exact Or.inl (hheader hdiff)
        | false => exact Or.inr rfl
      rw [printHeaders_eq_nil.mpr hheader, ok_bind]
      by_cases hnum : (data.fabric1.node n).numports = (data.fabric2.node m).numports
      · rw [if_neg (not_not.mpr hnum), silent_after, diffNodePorts_still hnum hstart]
        constructor
        · intro h _
          exact ⟨hheader, hnum, h.2⟩
        · intro h
          exact ⟨rfl, (h hany).ports⟩
      · rw [if_pos hnum]
        refine iff_of_false ?_ fun h => hnum (h hany).numports
        rintro ⟨t, ht⟩
        obtain ⟨r, -, hr⟩ := bind_eq_ok.mp ht
        simp at hr
    · refine iff_of_false ?_ fun h => hheader (h hany).header
      rintro ⟨t, ht⟩
      obtain ⟨head, hhead, -⟩ := bind_eq_ok.mp ht
      exact hheader (printHeaders_returns.mp ⟨head, hhead⟩)
  · rw [if_neg hany]
    exact iff_of_true ⟨(), rfl⟩ fun h => absurd h hany

/-- A port does not differ from itself. -/
theorem outputDiff_self (hsame : data.fabric1 = data.fabric2) (p : Option PortRef) :
    data.outputDiff p p = 0 := by
  cases p with
  | none => exact outputDiff_none
  | some p =>
      cases hr : data.fabric2.remoteport p with
      | none =>
          simp [outputDiff, connectionDiffers, stateDiffers, peerLidDiffers,
            peerDescriptionDiffers, peers, remoteGuid, hsame, hr]
      | some r =>
          simp [outputDiff, connectionDiffers, stateDiffers, peerLidDiffers,
            peerDescriptionDiffers, peers, remoteGuid, hsame, hr]

theorem unremarkable_self (hsame : data.fabric1 = data.fabric2) :
    Unremarkable opts data n n where
  header h := by simp [nodeDiffers, hsame] at h
  numports := by rw [hsame]
  ports k _ _ := Or.inl (by rw [hsame, outputDiff_self hsame])

end IterDiffData

theorem mem_nodes_of_iterNodes {f : Fabric} (hf : WellFormed f) {onlyType : Option Nat}
    {n : NodeRef} (h : n ∈ iterNodes onlyType f) : n ∈ f.nodes := by
  unfold iterNodes at h
  cases onlyType with
  | none => exact h
  | some type =>
      dsimp only at h
      split_ifs at h
      · exact (hf.switches.mp h).1
      · exact (hf.chAdapters.mp h).1
      · exact (hf.routers.mp h).1
      · exact absurd h List.not_mem_nil

theorem filter_hasGuid {f : Fabric} (hf : WellFormed f) {onlyType : Option Nat} {n : NodeRef}
    (hnodup : (iterNodes onlyType f).Nodup) (hn : n ∈ iterNodes onlyType f) :
    (iterNodes onlyType f).filter (hasGuid f (f.node n).guid) = [n] := by
  apply List.perm_singleton.mp
  apply (List.perm_ext_iff_of_nodup (hnodup.filter _) (List.nodup_singleton n)).mpr
  intro m
  rw [List.mem_filter, List.mem_singleton, hasGuid, decide_eq_true_iff]
  constructor
  · rintro ⟨hm, hguid⟩
    exact hf.guid_inj (mem_nodes_of_iterNodes hf hm) (mem_nodes_of_iterNodes hf hn) hguid
  · rintro rfl
    exact ⟨hn, rfl⟩

/-- The part about one GUID is written by the report about all nodes. -/
theorem diffNodePart_sublist {opts : Options} {onlyType : Option Nat} {flags : DiffFlags}
    {orig new : Fabric} {out : List Line} (guid : UInt64)
    (h : diffNodeOf opts onlyType flags none orig new = .ok out) :
    ∃ part, diffNodePart opts onlyType flags guid orig new = .ok part ∧ part.Sublist out := by
  obtain ⟨⟨_, out1⟩, hfirst, hrest⟩ := bind_eq_ok.mp h
  obtain ⟨⟨_, out2⟩, hsecond, hout⟩ := bind_eq_ok.mp hrest
  cases hout
  obtain ⟨part1, hpart1, hsub1⟩ := run_filter_sublist (hasGuid orig guid) hfirst
  obtain ⟨part2, hpart2, hsub2⟩ := run_filter_sublist (hasGuid new guid) hsecond
  refine ⟨part1 ++ part2, ?_, hsub1.append hsub2⟩
  rw [diffNodePart, diffPasses, hpart1, ok_bind, hpart2, ok_bind]

/-- The report about one node is its part of the report about all exactly if the latter has
nothing to say about the node of the cached fabric with that GUID. -/
theorem diffNodeOf_eq_part_iff {orig new : Fabric} (horig : WellFormed orig)
    (hnew : WellFormed new) (opts : Options) {onlyType : Option Nat} (flags : DiffFlags)
    (hnodup : (iterNodes onlyType new).Nodup) {n : NodeRef} (hn : n ∈ iterNodes onlyType new) :
    diffNodeOf opts onlyType flags (some n) orig new =
        diffNodePart opts onlyType flags (new.node n).guid orig new ↔
      ∀ m ∈ iterNodes onlyType orig, (orig.node m).guid = (new.node n).guid →
        flags.any = true → Unremarkable opts (firstPass orig new flags) m n := by
  have hmem := mem_nodes_of_iterNodes hnew hn
  have hfind : new.ibndFindNodeGuid (new.node n).guid = some n := hnew.find_iff.mpr ⟨hmem, rfl⟩
  -- the node is compared with itself
  have hself : Silent (run (({ firstPass orig new flags with fabric1 := new } :
      IterDiffData).diffNodeIter opts) () [n]) := by
    rw [run_singleton]
    exact (IterDiffData.diffNodeIter_silent _ hfind).mpr fun _ => IterDiffData.unremarkable_self rfl
  obtain ⟨_, hself⟩ := hself
  obtain ⟨back, hback⟩ : Returns (run ((secondPass orig new).diffNodeIter opts) () [n]) := by
    rw [run_singleton]
    exact ((secondPass orig new).diffNodeIter_returns horig () n).mpr
      (Or.inr fun m _ _ => IterDiffData.nodeDiffers_of_keys Bool.false_ne_true)
  have hrounds : ∀ s, ∀ m ∈ (iterNodes onlyType orig).filter (hasGuid orig (new.node n).guid),
      Silent ((firstPass orig new flags).diffNodeIter opts s m) ↔
        (flags.any = true → Unremarkable opts (firstPass orig new flags) m n) := by
    intro s m hm
    have hguid : (orig.node m).guid = (new.node n).guid :=
      of_decide_eq_true (List.mem_filter.mp hm).2
    exact (firstPass orig new flags).diffNodeIter_silent (hguid ▸ hfind)
  have hpart : (∀ m ∈ iterNodes onlyType orig, (orig.node m).guid = (new.node n).guid →
      flags.any = true → Unremarkable opts (firstPass orig new flags) m n) ↔
      Silent (run ((firstPass orig new flags).diffNodeIter opts) ()
        ((iterNodes onlyType orig).filter (hasGuid orig (new.node n).guid))) := by
    rw [silent_run hrounds]
    simp only [List.mem_filter, hasGuid, decide_eq_true_iff, and_imp]
  rw [hpart]
  simp only [diffNodeOf, diffNodePart, diffPasses, filter_hasGuid hnew hnodup hn, hself, hback,
    ok_bind, List.nil_append]
  cases run ((firstPass orig new flags).diffNodeIter opts) ()
      ((iterNodes onlyType orig).filter (hasGuid orig (new.node n).guid)) with
  | error e => simp [Silent, bind, Except.bind]
  | ok out => simp [Silent, bind, Except.bind, Prod.ext_iff]

theorem diffNodeOf_eq_part_iff_loneSwitch :
    diffNodeOf .default none ⟨true, true, true, true⟩ (some 0) (loneSwitch true 1)
        (loneSwitch true 1) =
      diffNodePart .default none ⟨true, true, true, true⟩ 1 (loneSwitch true 1)
        (loneSwitch true 1) := by
  have hwf := loneSwitch_wellFormed true 1
  have hnodup : (iterNodes none (loneSwitch true 1)).Nodup := List.nodup_singleton 0
  have hn : 0 ∈ iterNodes none (loneSwitch true 1) := List.mem_singleton_self 0
  refine (diffNodeOf_eq_part_iff hwf hwf .default ⟨true, true, true, true⟩ hnodup hn).mpr ?_
  intro m hm _ _
  rw [List.mem_singleton.mp hm]
  exact IterDiffData.unremarkable_self rfl

/-- A switch whose port 1 is gone: the diff of all nodes says so, the diff of the switch does
not. -/
theorem diffNodeOf_misses_port :
    WellFormed (loneSwitch true 1) ∧ WellFormed (loneSwitch false 1) ∧
    diffNodeOf .default none ⟨true, true, false, false⟩ (some 0) (loneSwitch true 1)
      (loneSwitch false 1) = .ok [] ∧
    diffNodePart .default none ⟨true, true, false, false⟩ 1 (loneSwitch true 1)
      (loneSwitch false 1) = .ok [.header none ibNodeSwitch 1, .port "< " 1 1 none] := by
  refine ⟨loneSwitch_wellFormed true 1, loneSwitch_wellFormed false 1, ?_, ?_⟩
  · exact toOption_eq_some.mp (by decide +kernel)
  · exact toOption_eq_some.mp (by decide +kernel)

end Iblinkinfo
end InfinibandDiags
