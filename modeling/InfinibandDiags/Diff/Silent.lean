import InfinibandDiags.Diff.Iblinkinfo
import InfinibandDiags.Diff.Ibnetdiscover

/-! When the two diffs print nothing, with the port key set and no other. -/
namespace InfinibandDiags
open Fabric Emit

theorem mem_ports {k n : Nat} : k ∈ List.range' 1 n ↔ 1 ≤ k ∧ k ≤ n := by
  rw [List.mem_range'_1]
  omega

theorem slot_of_le {f : Fabric} {n : NodeRef} {k : Nat} (hk : k ≤ (f.node n).numports) :
    f.slot n k = .ok ((f.node n).ports k) := if_pos hk

namespace Ibnetdiscover

/-- All node types and the port key. -/
def portKey : DiffFlags := ⟨true, true, true, true, false, false⟩

def PrintsNothing (f₁ f₂ : Fabric) : Prop := diff portKey f₁ f₂ = .ok []

theorem outChosen_ne_nil {f : Fabric} {kind : OutKind} {outPrefix : String} {p : Option PortRef} :
    outChosen f kind outPrefix p ≠ .ok [] := by
  cases p with
  | none => simp [outChosen]
  | some p =>
      cases hend : f.remoteEnd p with
      | none => simp [outChosen, outPort, hend]
      | some remote => simp [outChosen, outPort, hend]

namespace IterDiffData
variable {data : IterDiffData} {n m : NodeRef} {k : Nat} {p q : Option PortRef}

theorem outSide_eq {f : Fabric} {outPrefix : String} {asked flag s : Nat} :
    data.outSide n f outPrefix asked p flag = .ok (s, []) ↔ asked = 0 ∧ flag = s := by
  unfold outSide
  by_cases hasked : asked = 0
  · simp [hasked]
  · rw [if_pos hasked]
    constructor
    · intro h
      obtain ⟨out, hout, h⟩ := bind_eq_ok.mp h
      simp only [Except.ok.injEq, Prod.mk.injEq, List.append_eq_nil_iff] at h
      rw [h.2.2] at hout
      exact absurd hout outChosen_ne_nil
    · intro h
      exact absurd h.1 hasked

theorem diffPort_silent {flag : Nat} (hp : data.fabric1.slot n k = .ok p)
    (hq : data.fabric2.slot m k = .ok q) :
    Silent (data.diffPort n m flag k) ↔ data.portOut p q = (0, 0) := by
  unfold diffPort
  rw [hp, hq]
  refine (silent_then (y := fun s =>
    data.outSide n data.fabric2 data.fabric2Prefix (data.portOut p q).2 q s)).trans ?_
  simp only [Silent, outSide_eq]
  constructor
  · rintro ⟨s, ⟨h₁, -⟩, t, h₂, -⟩
    exact Prod.ext h₁ h₂
  · intro h
    rw [h]
    exact ⟨flag, ⟨rfl, rfl⟩, flag, rfl, rfl⟩

/-- With the port key alone, a port is printed if and only if what is compared of it differs. -/
theorem portOut_eq_zero (hflags : data.diffFlags = portKey)
    (hguid : ∀ a b, p = some a → q = some b →
      (data.fabric1.port a).guid = (data.fabric2.port b).guid) :
    data.portOut p q = (0, 0) ↔ p.map data.fabric1.remoteGuid = q.map data.fabric2.remoteGuid := by
  have hout : data.portOut p q = data.connectionOut p q := by
    unfold portOut
    rw [hflags]
    rfl
  rw [hout]
  unfold connectionOut
  cases p with
  | none =>
      cases q with
      | none => simp
      | some b => simp
  | some a =>
      cases q with
      | none => simp
      | some b =>
          have hsame := hguid a b rfl rfl
          cases hr : data.fabric1.remoteGuid a with
          | none => cases hs : data.fabric2.remoteGuid b <;> simp [hsame, hr, hs]
          | some r =>
              cases hs : data.fabric2.remoteGuid b with
              | none => simp [hr, hs]
              | some s => by_cases hrs : r = s <;> simp [hsame, hr, hs, hrs]

theorem diffPorts_silent {flag : Nat} (hflags : data.diffFlags = portKey)
    (hnum : (data.fabric1.node n).numports = (data.fabric2.node m).numports)
    (hguid : ∀ k ≤ (data.fabric1.node n).numports, ∀ a b, (data.fabric1.node n).ports k = some a →
      (data.fabric2.node m).ports k = some b →
        (data.fabric1.port a).guid = (data.fabric2.port b).guid) :
    Silent (data.diffPorts n m flag) ↔ Matches data.fabric1 data.fabric2 n m := by
  unfold diffPorts
  have hround : ∀ flag, ∀ k ∈ List.range' 1 (data.fabric1.node n).numports,
      Silent (data.diffPort n m flag k) ↔ SameGuid data.fabric1 data.fabric2 n m k := by
    intro flag k hk
    have hle := (mem_ports.mp hk).2
    rw [diffPort_silent (slot_of_le hle) (slot_of_le (hnum ▸ hle))]
    exact portOut_eq_zero hflags (hguid k hle)
  rw [silent_run hround]
  constructor
  · intro h
    exact ⟨hnum, fun k hpos hk => h k (mem_ports.mpr ⟨hpos, hk⟩)⟩
  · intro h k hk
    exact h.ports k (mem_ports.mp hk).1 (mem_ports.mp hk).2

/-- The first pass prints nothing about a node if and only if it is in the other fabric and
matches. -/
theorem diffIterFunc_silent (data : IterDiffData) (hf₂ : WellFormed data.fabric2)
    (hports : SamePortGuids data.fabric1 data.fabric2) (hflags : data.diffFlags = portKey)
    (hn : n ∈ data.fabric1.nodes) :
    Silent (data.diffIterFunc () n) ↔ ∃ m ∈ data.fabric2.nodes,
      (data.fabric1.node n).guid = (data.fabric2.node m).guid ∧
        Matches data.fabric1 data.fabric2 n m := by
  unfold diffIterFunc
  rw [hflags]
  cases hfind : data.fabric2.ibndFindNodeGuid (data.fabric1.node n).guid with
  | none =>
      constructor
      · intro h
        exact absurd (silent_after.mp h).1 (List.cons_ne_nil _ _)
      · rintro ⟨m, hm, hguid, -⟩
        rw [hf₂.find_iff.mpr ⟨hm, hguid.symm⟩] at hfind
        cases hfind
  | some m =>
      obtain ⟨hm, hguid⟩ := hf₂.find_iff.mp hfind
      have hsame : data.nodeDiffers n m = false := by
        unfold nodeDiffers
        rw [hflags]
        rfl
      have honly : ∀ m' ∈ data.fabric2.nodes, (data.fabric1.node n).guid = (data.fabric2.node m').guid →
          m' = m := by
        intro m' hm' hguid'
        have hfind' := hf₂.find_iff.mpr ⟨hm', hguid'.symm⟩
        rw [hfind] at hfind'
        exact (Option.some.inj hfind').symm
      simp only [hsame]
      by_cases hnum : (data.fabric1.node n).numports = (data.fabric2.node m).numports
      · rw [if_neg (not_not.mpr hnum)]
        have hguids : ∀ k ≤ (data.fabric1.node n).numports, ∀ a b,
            (data.fabric1.node n).ports k = some a → (data.fabric2.node m).ports k = some b →
              (data.fabric1.port a).guid = (data.fabric2.port b).guid := fun k hk a b ha hb =>
          hports n hn m hm hguid.symm k hk (hnum ▸ hk) a b ha hb
        constructor
        · intro h
          exact ⟨m, hm, hguid.symm, (diffPorts_silent hflags hnum hguids).mp (silent_after.mp h).2⟩
        · rintro ⟨m', hm', hguid', hmatch⟩
          rw [honly m' hm' hguid'] at hmatch
          exact silent_after.mpr ⟨rfl, (diffPorts_silent hflags hnum hguids).mpr hmatch⟩
      · rw [if_pos hnum]
        constructor
        · rintro ⟨s, hs⟩
          simp [portKey] at hs
        · rintro ⟨m', hm', hguid', hmatch⟩
          rw [honly m' hm' hguid'] at hmatch
          exact absurd hmatch.numports hnum

/-- The second pass, whose keys are off, prints the nodes that are in one fabric only. -/
theorem diffIterFunc_silent_second (data : IterDiffData) (hf₂ : WellFormed data.fabric2)
    (hflags : (data.diffFlags.portConnection || data.diffFlags.lid ||
      data.diffFlags.nodeDescription) = false) :
    Silent (data.diffIterFunc () n) ↔ ∃ m ∈ data.fabric2.nodes,
      (data.fabric1.node n).guid = (data.fabric2.node m).guid := by
  unfold diffIterFunc
  cases hfind : data.fabric2.ibndFindNodeGuid (data.fabric1.node n).guid with
  | none =>
      constructor
      · intro h
        exact absurd (silent_after.mp h).1 (List.cons_ne_nil _ _)
      · rintro ⟨m, hm, hguid⟩
        rw [hf₂.find_iff.mpr ⟨hm, hguid.symm⟩] at hfind
        cases hfind
  | some m =>
      obtain ⟨hm, hguid⟩ := hf₂.find_iff.mp hfind
      simp only [hflags]
      constructor
      · intro _
        exact ⟨m, hm, hguid.symm⟩
      · intro _
        exact ⟨(), rfl⟩

end IterDiffData

variable {f₁ f₂ : Fabric}

theorem diffCommon_eq_nil {list : Fabric → List NodeRef} (kind : OutKind) (hf₁ : WellFormed f₁)
    (hf₂ : WellFormed f₂) (hports : SamePortGuids f₁ f₂) (hlist : ∀ n ∈ list f₁, n ∈ f₁.nodes) :
    diffCommon f₁ f₂ list portKey kind = .ok [] ↔
      (∀ n ∈ list f₁, ∃ m ∈ f₂.nodes, (f₁.node n).guid = (f₂.node m).guid ∧ Matches f₁ f₂ n m) ∧
        ∀ m ∈ list f₂, ∃ n ∈ f₁.nodes, (f₂.node m).guid = (f₁.node n).guid := by
  unfold diffCommon
  rw [append_eq_nil]
  unfold iterDiff
  rw [lines_eq_nil, lines_eq_nil]
  apply and_congr
  · apply silent_run
    intro _ n hn
    exact IterDiffData.diffIterFunc_silent (firstPass f₁ f₂ portKey kind) hf₂ hports rfl (hlist n hn)
  · apply silent_run
    intro _ m _
    exact IterDiffData.diffIterFunc_silent_second (secondPass f₁ f₂ portKey kind) hf₁ rfl

/-- The types whose lists are gone through. -/
def Listed (f : Fabric) (n : NodeRef) : Prop :=
  (f.node n).type = ibNodeSwitch ∨ (f.node n).type = ibNodeCa ∨ (f.node n).type = ibNodeRouter

theorem printsNothing_iff (hf₁ : WellFormed f₁) (hf₂ : WellFormed f₂)
    (hports : SamePortGuids f₁ f₂) : PrintsNothing f₁ f₂ ↔ ¬ Seen Listed Listed f₁ f₂ := by
  have hswitch := diffCommon_eq_nil .switch hf₁ hf₂ hports
    fun n hn => (hf₁.switches.mp hn).1
  have hca := diffCommon_eq_nil .ca hf₁ hf₂ hports fun n hn => (hf₁.chAdapters.mp hn).1
  have hrouter := diffCommon_eq_nil .ca hf₁ hf₂ hports fun n hn => (hf₁.routers.mp hn).1
  unfold PrintsNothing diff
  rw [append_append_eq_nil]
  change diffCommon f₁ f₂ Fabric.switches portKey .switch = .ok [] ∧
    diffCommon f₁ f₂ Fabric.chAdapters portKey .ca = .ok [] ∧
    diffCommon f₁ f₂ Fabric.routers portKey .ca = .ok [] ↔ _
  rw [hswitch, hca, hrouter]
  constructor
  · rintro ⟨⟨hswitch₁, hswitch₂⟩, ⟨hca₁, hca₂⟩, hrouter₁, hrouter₂⟩ hseen
    have hfirst : ∀ n ∈ f₁.nodes, Listed f₁ n →
        ∃ m ∈ f₂.nodes, (f₁.node n).guid = (f₂.node m).guid ∧ Matches f₁ f₂ n m := by
      rintro n hn (htype | htype | htype)
      · exact hswitch₁ n (hf₁.switches.mpr ⟨hn, htype⟩)
      · exact hca₁ n (hf₁.chAdapters.mpr ⟨hn, htype⟩)
      · exact hrouter₁ n (hf₁.routers.mpr ⟨hn, htype⟩)
    have hsecond : ∀ m ∈ f₂.nodes, Listed f₂ m →
        ∃ n ∈ f₁.nodes, (f₂.node m).guid = (f₁.node n).guid := by
      rintro m hm (htype | htype | htype)
      · exact hswitch₂ m (hf₂.switches.mpr ⟨hm, htype⟩)
      · exact hca₂ m (hf₂.chAdapters.mpr ⟨hm, htype⟩)
      · exact hrouter₂ m (hf₂.routers.mpr ⟨hm, htype⟩)
    cases hseen with
    | removed n hn hmiss hlisted =>
        obtain ⟨m, hm, hguid, -⟩ := hfirst n hn hlisted
        exact hmiss m hm hguid
    | added m hm hmiss hlisted =>
        obtain ⟨n, hn, hguid⟩ := hsecond m hm hlisted
        exact hmiss n hn hguid
    | changed n m hn hm hguid hlisted hdiff =>
        obtain ⟨m', hm', hguid', hmatch⟩ := hfirst n hn hlisted
        rw [hf₂.guid_inj hm hm' (hguid.symm.trans hguid')] at hdiff
        exact hdiff hmatch
  · intro hseen
    have hfirst : ∀ n ∈ f₁.nodes, Listed f₁ n →
        ∃ m ∈ f₂.nodes, (f₁.node n).guid = (f₂.node m).guid ∧ Matches f₁ f₂ n m := by
      intro n hn hlisted
      by_contra hnone
      apply hseen
      by_cases hmiss : Missing f₁ f₂ n
      · exact .removed n hn hmiss hlisted
      · unfold Missing at hmiss
        push Not at hmiss
        obtain ⟨m, hm, hguid⟩ := hmiss
        exact .changed n m hn hm hguid hlisted fun hmatch => hnone ⟨m, hm, hguid, hmatch⟩
    have hsecond : ∀ m ∈ f₂.nodes, Listed f₂ m →
        ∃ n ∈ f₁.nodes, (f₂.node m).guid = (f₁.node n).guid := by
      intro m hm hlisted
      by_contra hnone
      exact hseen (.added m hm (fun n hn hguid => hnone ⟨n, hn, hguid⟩) hlisted)
    refine ⟨⟨?_, ?_⟩, ⟨?_, ?_⟩, ?_, ?_⟩
    · intro n hn
      exact hfirst n (hf₁.switches.mp hn).1 (.inl (hf₁.switches.mp hn).2)
    · intro m hm
      exact hsecond m (hf₂.switches.mp hm).1 (.inl (hf₂.switches.mp hm).2)
    · intro n hn
      exact hfirst n (hf₁.chAdapters.mp hn).1 (.inr (.inl (hf₁.chAdapters.mp hn).2))
    · intro m hm
      exact hsecond m (hf₂.chAdapters.mp hm).1 (.inr (.inl (hf₂.chAdapters.mp hm).2))
    · intro n hn
      exact hfirst n (hf₁.routers.mp hn).1 (.inr (.inr (hf₁.routers.mp hn).2))
    · intro m hm
      exact hsecond m (hf₂.routers.mp hm).1 (.inr (.inr (hf₂.routers.mp hm).2))

end Ibnetdiscover
namespace Iblinkinfo

/-- The port key alone. -/
def portKey : DiffFlags := ⟨true, false, false, false⟩

def PrintsNothing (f₁ f₂ : Fabric) : Prop := diffNode .default portKey f₁ f₂ = .ok []

/-- Something of the node is printed when it is in one fabric only. -/
def Shown (f : Fabric) (n : NodeRef) : Prop :=
  ∃ k, 1 ≤ k ∧ k ≤ (f.node n).numports ∧ ((f.node n).ports k).isSome

theorem printPort_ne_nil {f : Fabric} {n : NodeRef} {p : PortRef} {outPrefix : String} :
    printPort .default f n p outPrefix ≠ [] :=
  List.cons_ne_nil _ _

theorem printNodePort_silent {f : Fabric} {n : NodeRef} {outPrefix : String}
    {headPrint : Option Nat} {k : Nat} (hk : k ≤ (f.node n).numports) :
    Silent (printNodePort .default f n outPrefix headPrint k) ↔ (f.node n).ports k = none := by
  unfold printNodePort
  rw [slot_of_le hk]
  cases hp : (f.node n).ports k with
  | none => exact iff_of_true ⟨headPrint, rfl⟩ rfl
  | some p =>
      constructor
      · rintro ⟨s, hs⟩
        have hprint : (printNodeHeader .default f n headPrint (some outPrefix) >>= fun r =>
            .ok (r.1, r.2 ++ printPort .default f n p outPrefix)) = .ok (s, []) := hs
        obtain ⟨r, -, hr⟩ := bind_eq_ok.mp hprint
        simp [printPort_ne_nil] at hr
      · intro h
        cases h

theorem printNode_silent {f : Fabric} {n : NodeRef} {outPrefix : String} :
    Silent (printNode .default f n outPrefix) ↔ ¬ Shown f n := by
  unfold printNode
  have hround : ∀ headPrint, ∀ k ∈ List.range' 1 (f.node n).numports,
      Silent (printNodePort .default f n outPrefix headPrint k) ↔ (f.node n).ports k = none :=
    fun _ k hk => printNodePort_silent (mem_ports.mp hk).2
  rw [silent_run hround]
  constructor
  · rintro h ⟨k, hpos, hk, hport⟩
    rw [h k (mem_ports.mpr ⟨hpos, hk⟩)] at hport
    cases hport
  · intro h k hk
    by_contra hport
    exact h ⟨k, (mem_ports.mp hk).1, (mem_ports.mp hk).2, Option.isSome_iff_ne_none.mpr hport⟩

namespace IterDiffData
variable {data : IterDiffData} {n m : NodeRef} {k : Nat} {p q : Option PortRef}

/-- With the port key alone, a port counts if and only if what is compared of it differs. -/
theorem outputDiff_eq_zero (hflags : data.diffFlags = portKey) :
    data.outputDiff p q = 0 ↔ p.map data.fabric1.remoteGuid = q.map data.fabric2.remoteGuid := by
  have hout : data.outputDiff p q = (data.connectionDiffers p q).toNat := by
    unfold outputDiff
    rw [hflags]
    rfl
  rw [hout]
  unfold connectionDiffers
  cases p with
  | none => cases q <;> simp
  | some a =>
      cases q with
      | none => simp
      | some b =>
          cases hr : data.fabric1.remoteGuid a with
          | none => cases hs : data.fabric2.remoteGuid b <;> simp [hr, hs]
          | some r => cases hs : data.fabric2.remoteGuid b <;> simp [hr, hs]

theorem printDiffPort_eq {f : Fabric} {outPrefix : String} {headPrint s : Option Nat} :
    data.printDiffPort .default n f m outPrefix headPrint p = .ok (s, []) ↔
      p = none ∧ headPrint = s := by
  cases p with
  | none => simp [printDiffPort]
  | some p =>
      constructor
      · intro h
        obtain ⟨⟨s', head⟩, -, hs⟩ := bind_eq_ok.mp h
        simp [printPort_ne_nil] at hs
      · intro h
        cases h.1

theorem diffNodePort_silent {headPrint : Option Nat} (hflags : data.diffFlags = portKey)
    (hp : data.fabric1.slot n k = .ok p) (hq : data.fabric2.slot m k = .ok q) :
    Silent (data.diffNodePort .default n m headPrint k) ↔
      p.map data.fabric1.remoteGuid = q.map data.fabric2.remoteGuid := by
  unfold diffNodePort
  rw [hp, hq]
  change Silent (if p.isNone && q.isNone then _ else _) ↔ _
  by_cases hnone : p.isNone && q.isNone
  · rw [if_pos hnone]
    rw [Bool.and_eq_true, Option.isNone_iff_eq_none, Option.isNone_iff_eq_none] at hnone
    rw [hnone.1, hnone.2]
    exact iff_of_true ⟨headPrint, rfl⟩ rfl
  · rw [if_neg hnone, ← outputDiff_eq_zero hflags]
    by_cases hdiff : data.outputDiff p q = 0
    · rw [if_neg (not_not.mpr hdiff)]
      exact iff_of_true ⟨headPrint, rfl⟩ hdiff
    · rw [if_pos hdiff]
      refine iff_of_false ?_ hdiff
      intro hsilent
      obtain ⟨s, h₁, t, h₂⟩ := (silent_then (y := fun s =>
        data.printDiffPort .default n data.fabric2 m data.fabric2Prefix s q)).mp hsilent
      rw [(printDiffPort_eq.mp h₁).1, (printDiffPort_eq.mp h₂).1] at hnone
      exact hnone rfl

theorem diffNodePorts_silent {headPrint : Option Nat} (hflags : data.diffFlags = portKey)
    (hnum : (data.fabric1.node n).numports = (data.fabric2.node m).numports) :
    Silent (data.diffNodePorts .default n m headPrint) ↔
      Matches data.fabric1 data.fabric2 n m := by
  unfold diffNodePorts
  have hround : ∀ headPrint, ∀ k ∈ List.range' 1 (data.fabric1.node n).numports,
      Silent (data.diffNodePort .default n m headPrint k) ↔
        SameGuid data.fabric1 data.fabric2 n m k := by
    intro headPrint k hk
    have hle := (mem_ports.mp hk).2
    exact diffNodePort_silent hflags (slot_of_le hle) (slot_of_le (hnum ▸ hle))
  rw [silent_run hround]
  constructor
  · intro h
    exact ⟨hnum, fun k hpos hk => h k (mem_ports.mpr ⟨hpos, hk⟩)⟩
  · intro h k hk
    exact h.ports k (mem_ports.mp hk).1 (mem_ports.mp hk).2

/-- A node that is not in the second fabric is printed in either pass. -/
theorem diffNodeIter_missing (data : IterDiffData) (hf₂ : WellFormed data.fabric2)
    (hmiss : Missing data.fabric1 data.fabric2 n) :
    Silent (data.diffNodeIter .default () n) ↔ ¬ Shown data.fabric1 n := by
  unfold diffNodeIter
  cases hfind : data.fabric2.ibndFindNodeGuid (data.fabric1.node n).guid with
  | none =>
      rw [← @printNode_silent data.fabric1 n data.fabric1Prefix]
      exact (silent_after (l := [])).trans (and_iff_right rfl)
  | some m =>
      obtain ⟨hm, hguid⟩ := hf₂.find_iff.mp hfind
      exact absurd hguid.symm (hmiss m hm)

theorem diffNodeIter_found (data : IterDiffData) (hf₂ : WellFormed data.fabric2)
    (hflags : data.diffFlags = portKey) (hm : m ∈ data.fabric2.nodes)
    (hguid : (data.fabric1.node n).guid = (data.fabric2.node m).guid) :
    Silent (data.diffNodeIter .default () n) ↔ Matches data.fabric1 data.fabric2 n m := by
  have hsame : data.nodeDiffers n m = false := by
    unfold nodeDiffers
    rw [hflags]
    simp [portKey]
  have hhead : data.printHeaders .default n m = .ok [] := by
    unfold printHeaders
    rw [hsame]
    rfl
  unfold diffNodeIter
  rw [hf₂.find_iff.mpr ⟨hm, hguid.symm⟩, hflags]
  simp only [hhead, hsame]
  change Silent (if (data.fabric1.node n).numports ≠ (data.fabric2.node m).numports
    then _ else _) ↔ _
  by_cases hnum : (data.fabric1.node n).numports = (data.fabric2.node m).numports
  · rw [if_neg (not_not.mpr hnum), ← @diffNodePorts_silent data n m (some false.toNat) hflags hnum]
    exact (silent_after (l := [])).trans (and_iff_right rfl)
  · rw [if_pos hnum]
    refine iff_of_false ?_ fun hmatch => hnum hmatch.numports
    rintro ⟨s, hs⟩
    obtain ⟨r, -, hr⟩ := bind_eq_ok.mp hs
    simp at hr

/-- With all keys off nothing is printed of a node that is in both fabrics. -/
theorem diffNodeIter_second (data : IterDiffData) (hf₂ : WellFormed data.fabric2)
    (hflags : data.diffFlags = ⟨false, false, false, false⟩)
    (hmiss : ¬ Missing data.fabric1 data.fabric2 n) :
    Silent (data.diffNodeIter .default () n) := by
  unfold Missing at hmiss
  push Not at hmiss
  obtain ⟨m, hm, hguid⟩ := hmiss
  unfold diffNodeIter
  rw [hf₂.find_iff.mpr ⟨hm, hguid.symm⟩, hflags]
  exact ⟨(), rfl⟩

end IterDiffData

variable {f₁ f₂ : Fabric}

theorem printsNothing_iff (hf₁ : WellFormed f₁) (hf₂ : WellFormed f₂) :
    PrintsNothing f₁ f₂ ↔ ¬ Seen Shown (fun _ _ => True) f₁ f₂ := by
  unfold PrintsNothing diffNode
  rw [append_eq_nil]
  unfold iterDiff
  rw [lines_eq_nil, lines_eq_nil]
  have hfirst : ∀ s, ∀ n ∈ f₁.nodes,
      Silent ((firstPass f₁ f₂ portKey).diffNodeIter .default s n) ↔
        (Missing f₁ f₂ n → ¬ Shown f₁ n) ∧
          ∀ m ∈ f₂.nodes, (f₁.node n).guid = (f₂.node m).guid → Matches f₁ f₂ n m := by
    intro s n hn
    by_cases hmiss : Missing f₁ f₂ n
    · rw [(firstPass f₁ f₂ portKey).diffNodeIter_missing hf₂ hmiss]
      constructor
      · intro hshown
        exact ⟨fun _ => hshown, fun m hm hguid => absurd hguid (hmiss m hm)⟩
      · intro h
        exact h.1 hmiss
    · obtain ⟨m, hm, hguid⟩ : ∃ m ∈ f₂.nodes, (f₁.node n).guid = (f₂.node m).guid := by
        unfold Missing at hmiss
        push Not at hmiss
        exact hmiss
      rw [(firstPass f₁ f₂ portKey).diffNodeIter_found hf₂ rfl hm hguid]
      constructor
      · intro hmatch
        refine ⟨fun h => absurd h hmiss, fun m' hm' hguid' => ?_⟩
        rw [hf₂.guid_inj hm' hm (hguid'.symm.trans hguid)]
        exact hmatch
      · intro h
        exact h.2 m hm hguid
  have hsecond : ∀ s, ∀ m ∈ f₂.nodes,
      Silent ((secondPass f₁ f₂).diffNodeIter .default s m) ↔ (Missing f₂ f₁ m → ¬ Shown f₂ m) := by
    intro s m hm
    by_cases hmiss : Missing f₂ f₁ m
    · rw [(secondPass f₁ f₂).diffNodeIter_missing hf₁ hmiss]
      exact ⟨fun hshown _ => hshown, fun h => h hmiss⟩
    · exact iff_of_true ((secondPass f₁ f₂).diffNodeIter_second hf₁ rfl hmiss) fun h => absurd h hmiss
  refine (and_congr (silent_run hfirst ()) (silent_run hsecond ())).trans ?_
  constructor
  · rintro ⟨h₁, h₂⟩ hseen
    cases hseen with
    | removed n hn hmiss hshown => exact (h₁ n hn).1 hmiss hshown
    | added m hm hmiss hshown => exact h₂ m hm hmiss hshown
    | changed n m hn hm hguid _ hdiff => exact hdiff ((h₁ n hn).2 m hm hguid)
  · intro hseen
    constructor
    · intro n hn
      constructor
      · intro hmiss hshown
        exact hseen (.removed n hn hmiss hshown)
      · intro m hm hguid
        by_contra hdiff
        exact hseen (.changed n m hn hm hguid trivial hdiff)
    · intro m hm hmiss hshown
      exact hseen (.added m hm hmiss hshown)

end Iblinkinfo
end InfinibandDiags
