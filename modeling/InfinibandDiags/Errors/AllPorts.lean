import InfinibandDiags.Errors.Findings
import InfinibandDiags.Errors.PrintNode
import InfinibandDiags.Mad.Layouts
import Mathlib.Algebra.Order.BigOperators.Group.List
import Mathlib.Algebra.Order.Group.Nat

/-! When the shortcut of `print_node` over AllPortSelect finds the same ports as their own
counters. -/
namespace InfinibandDiags

/-- The ports with a line of errors. -/
def PrintState.numbers (s : PrintState) : List Nat := s.ports.map Prod.fst

/-- The ports that are reported, also when the program has died. -/
def reported : Except PrintState PrintState → List Nat
  | .ok s => s.numbers
  | .error s => s.numbers

namespace ErrorOptions
variable {options : ErrorOptions} {query : Nat → Option PmaData} {caps : PmCaps} {pc : Bytes}
  {pce : Option Bytes} {found : Findings}

/-- No counter of the first port is above that of the second. -/
structure Covered (pc : Bytes) (pce : Option Bytes) (pc' : Bytes) (pce' : Option Bytes) : Prop where
  pc : ∀ i ∈ pcCounters, decodedUint pc i ≤ decodedUint pc' i
  pce : ∀ ext ∈ pce, ∃ ext' ∈ pce', ∀ i ∈ pcExtCounters, decodedUint ext i ≤ decodedUint ext' i

section Covered
variable {pc' : Bytes} {pce' : Option Bytes}

theorem Covered.checkThreshold (h : Covered pc pce pc' pce') {i extI : Nat} (hi : i ∈ pcCounters)
    (hext : extI ∈ pcExtCounters) {t : CounterText}
    (hcheck : options.checkThreshold caps pc pce i extI = .ok (some t)) :
    ∃ t', options.checkThreshold caps pc' pce' i extI = .ok (some t') := by
  have hmono : ∀ val val', val ≤ val' → options.exceedsThreshold extI val = true →
      options.exceedsThreshold extI val' = true := by
    intro val val' hle hexceeds
    rw [exceedsThreshold, decide_eq_true_eq] at *
    exact hexceeds.trans_le hle
  unfold ErrorOptions.checkThreshold at hcheck ⊢
  split at hcheck
  · next haddl =>
      rw [if_pos haddl]
      split at hcheck
      · cases hcheck
      · next ext =>
          obtain ⟨ext', hpce', hle⟩ := h.pce ext rfl
          rw [hpce']
          dsimp only at hcheck ⊢
          split at hcheck
          · next hexceeds => exact ⟨_, by rw [if_pos (hmono _ _ (hle extI hext) hexceeds)]⟩
          · cases hcheck
  · next haddl =>
      rw [if_neg haddl]
      dsimp only at hcheck ⊢
      split at hcheck
      · next hexceeds => exact ⟨_, by rw [if_pos (hmono _ _ (h.pc i hi) hexceeds)]⟩
      · cases hcheck

/-- What is found at a port is found at one that has no smaller counters. -/
theorem Covered.checkResults (h : Covered pc pce pc' pce') {query' : Nat → Option PmaData}
    {found' : Findings} (hcheck : options.checkResults query caps pc pce = .ok found)
    (hcheck' : options.checkResults query' caps pc' pce' = .ok found') (hfound : found.texts ≠ []) :
    found'.texts ≠ [] := by
  have htext : ∃ text, text ∈ found'.texts := by
    obtain ⟨text, hmem⟩ := List.exists_mem_of_ne_nil _ hfound
    rcases (mem_checkResults hcheck).mp hmem with ⟨v, hv, t, ht, -⟩ | ⟨hsuppress, ht⟩
    · obtain ⟨hi, hext⟩ := mem_visits_counters hv
      obtain ⟨t', ht'⟩ := h.checkThreshold hi hext ht
      refine ⟨t', (mem_checkResults hcheck').mpr (.inl ⟨v, hv, t', ht', ?_⟩)⟩
      unfold findings
      dsimp only
      split <;> simp
    · obtain ⟨t', ht'⟩ := h.checkThreshold (by decide) (by decide) ht
      exact ⟨t', (mem_checkResults hcheck').mpr (.inr ⟨hsuppress, ht'⟩)⟩
  obtain ⟨text, hmem⟩ := htext
  exact List.ne_nil_of_mem hmem

end Covered

/-- The header of a switch needs its port 0. -/
def HasHeader (f : Fabric) (n : NodeRef) : Prop :=
  (f.node n).type = ibNodeSwitch → (f.node n).ports 0 ≠ none

/-- The port answers, and a counter of it is over its threshold. -/
def Exceeds (options : ErrorOptions) (pma : Pma) (caps : PmCaps) (lid portnum : Nat) : Prop :=
  ∃ pc pce found, queryCounters pma caps lid portnum = some (pc, pce) ∧
    options.checkResults (pma lid portnum) caps pc pce = .ok found ∧ found.texts ≠ []

/-- A port of the node with a line of errors of its own. -/
structure PortErrors (options : ErrorOptions) (pma : Pma) (f : Fabric) (n : NodeRef) (caps : PmCaps)
    (p : Nat) : Prop where
  exceeds : ∃ port, (f.node n).ports p = some port ∧ options.Exceeds pma caps (portLid f n port) p
  single : p ≠ 0xff
  header : HasHeader f n

section Printing
variable {pma : Pma} {f : Fabric} {n : NodeRef} {lid portnum : Nat} {s s' : PrintState} {b : Bool}

theorem printHeader_error (h : printHeader f n s = .error s') : s' = s ∧ ¬ HasHeader f n := by
  unfold printHeader at h
  split at h
  · cases h
  · split at h
    · next hnull =>
        cases h
        exact ⟨rfl, fun hheader => hheader hnull.1 hnull.2⟩
    · cases h

/-- Once the header is printed, there is one. -/
def HeaderSeen (f : Fabric) (n : NodeRef) (s : PrintState) : Prop :=
  s.headerPrinted = true → HasHeader f n

theorem printHeader_ok (hseen : HeaderSeen f n s) (h : printHeader f n s = .ok s') :
    s'.ports = s.ports ∧ HasHeader f n := by
  unfold printHeader at h
  split at h
  · next hprinted =>
      cases h
      exact ⟨rfl, hseen hprinted⟩
  · split at h
    · cases h
    · next hnull =>
        cases h
        exact ⟨rfl, fun hswitch hnone => hnull ⟨hswitch, hnone⟩⟩

/-- The pointer to the extended counters is set for all ports or for none. -/
theorem queryCounters_pce (h : queryCounters pma caps lid portnum = some (pc, pce)) :
    pce.isSome = caps.extWidth := by
  unfold queryCounters at h
  split at h
  · cases h
  · split at h
    · next hext =>
        obtain ⟨ext, -, hpair⟩ := Option.map_eq_some_iff.mp h
        cases hpair
        exact hext.symm
    · next hext =>
        cases h
        exact (Bool.eq_false_iff.mpr hext).symm

/-- Nothing is found where the extended counters are needed and missing. -/
theorem not_exceeds (haddl : caps.addlPortCtrsExt = true) (hext : caps.extWidth = false) :
    ¬ options.Exceeds pma caps lid portnum := by
  rintro ⟨pc, pce, found, hquery, hcheck, hfound⟩
  have hpce := queryCounters_pce hquery
  rw [hext, Option.isSome_eq_false_iff, Option.isNone_iff_eq_none] at hpce
  rw [hpce] at hcheck
  exact hfound (checkResults_null haddl hcheck)

/-- Only a node whose ports have nothing to report makes the program die. -/
theorem printErrors_error (h : options.printErrors pma f n caps lid portnum s = .error s') :
    s'.numbers = s.numbers ∧ ∀ p, ¬ options.PortErrors pma f n caps p := by
  unfold printErrors at h
  split at h
  · cases h
  · next hquery =>
      unfold printResults at h
      split at h
      · next hcheck =>
          cases h
          obtain ⟨haddl, hpce⟩ := checkResults_error hcheck
          have hext := queryCounters_pce hquery
          rw [hpce] at hext
          refine ⟨rfl, fun p herrors => ?_⟩
          obtain ⟨port, -, hexceeds⟩ := herrors.exceeds
          exact not_exceeds haddl hext.symm hexceeds
      · dsimp only at h
        split at h
        · cases h
        · rcases bind_eq_error.mp h with hheader | ⟨t, -, hdone⟩
          · obtain ⟨rfl, hnone⟩ := printHeader_error hheader
            exact ⟨rfl, fun p herrors => hnone herrors.header⟩
          · split at hdone
            · split at hdone <;> cases hdone
            · cases hdone

theorem printErrors_ok (hseen : HeaderSeen f n s)
    (h : options.printErrors pma f n caps lid portnum s = .ok (b, s')) :
    HeaderSeen f n s' ∧ (b = true ↔ options.Exceeds pma caps lid portnum) ∧
      (b = true → HasHeader f n) ∧
      s'.numbers = s.numbers ++ if b = true ∧ portnum ≠ 0xff then [portnum] else [] := by
  unfold printErrors at h
  split at h
  · next hquery =>
      cases h
      refine ⟨hseen, ⟨fun hb => (Bool.false_ne_true hb).elim, ?_⟩,
        fun hb => (Bool.false_ne_true hb).elim, (List.append_nil _).symm⟩
      rintro ⟨pc, pce, found, hsome, -⟩
      rw [hquery] at hsome
      cases hsome
  · next pc pce hquery =>
      unfold printResults at h
      split at h
      · cases h
      · next found hcheck =>
          dsimp only at h
          split at h
          · next hempty =>
              cases h
              refine ⟨hseen, ⟨fun hb => (Bool.false_ne_true hb).elim, ?_⟩,
                fun hb => (Bool.false_ne_true hb).elim, (List.append_nil _).symm⟩
              rintro ⟨pc', pce', found', hsome, hcheck', hfound⟩
              rw [hquery] at hsome
              cases hsome
              rw [hcheck] at hcheck'
              cases hcheck'
              exact (hfound hempty).elim
          · next hsome =>
              have hexceeds : options.Exceeds pma caps lid portnum :=
                ⟨pc, pce, found, hquery, hcheck, hsome⟩
              obtain ⟨t, hprint, hdone⟩ := bind_eq_ok.mp h
              have hseen' : HeaderSeen f n (s.pmaQueryFailures found.failures) := hseen
              obtain ⟨hports, hheader⟩ := printHeader_ok hseen' hprint
              have hnumbers : t.numbers = s.numbers := congrArg (List.map Prod.fst) hports
              split at hdone
              · next hall =>
                  split at hdone <;>
                  · cases hdone
                    refine ⟨fun _ => hheader, iff_of_true rfl hexceeds, fun _ => hheader, ?_⟩
                    rw [if_neg fun hb => hb.2 hall, List.append_nil]
                    exact hnumbers
              · next hsingle =>
                  cases hdone
                  refine ⟨fun _ => hheader, iff_of_true rfl hexceeds, fun _ => hheader, ?_⟩
                  rw [if_pos ⟨rfl, hsingle⟩, ← hnumbers]
                  exact List.map_append

/-- What the loop over the ports reports. -/
theorem mem_printPorts {ports : List Nat} (hseen : HeaderSeen f n s) {p : Nat} :
    p ∈ reported (options.printPorts pma f n caps ports s) ↔
      p ∈ s.numbers ∨ p ∈ ports ∧ options.PortErrors pma f n caps p := by
  induction ports generalizing s with
  | nil => simp [printPorts, reported]
  | cons q rest ih =>
      unfold printPorts
      split
      · next hslot =>
          rw [ih hseen, List.mem_cons]
          refine or_congr_right (and_congr_left fun herrors => ?_)
          refine (or_iff_right ?_).symm
          rintro rfl
          obtain ⟨port, hport, -⟩ := herrors.exceeds
          rw [hslot] at hport
          cases hport
      · next port hslot =>
          cases hprint : options.printErrors pma f n caps (portLid f n port) q s with
          | error t =>
              obtain ⟨hnumbers, hnone⟩ := printErrors_error hprint
              refine (Eq.to_iff ?_).trans (or_iff_left fun h => hnone p h.2).symm
              rw [← hnumbers]
              rfl
          | ok result =>
              obtain ⟨b, t⟩ := result
              obtain ⟨hseen', hfound, hheader, hnumbers⟩ := printErrors_ok hseen hprint
              have hq : b = true ∧ q ≠ 0xff ↔ options.PortErrors pma f n caps q := by
                constructor
                · rintro ⟨hb, hsingle⟩
                  exact ⟨⟨port, hslot, hfound.mp hb⟩, hsingle, hheader hb⟩
                · intro herrors
                  obtain ⟨port', hport', hexceeds⟩ := herrors.exceeds
                  rw [hslot] at hport'
                  cases hport'
                  exact ⟨hfound.mpr hexceeds, herrors.single⟩
              have hrest : p ∈ reported (options.printPorts pma f n caps rest (t.portsChecked 1)) ↔
                  p ∈ t.numbers ∨ p ∈ rest ∧ options.PortErrors pma f n caps p := ih hseen'
              refine hrest.trans ?_
              rw [hnumbers, List.mem_append, List.mem_cons, or_assoc]
              refine or_congr_right ?_
              by_cases hpq : p = q
              · subst hpq
                by_cases herrors : options.PortErrors pma f n caps p
                · simp [herrors, hq.mpr herrors]
                · simp [herrors, hq]
              · split <;> simp [hpq]

theorem printDataPorts_numbers (caps : PmCaps) (ports : List Nat) (s : PrintState) :
    (printDataPorts pma f n caps ports s).numbers = s.numbers := by
  unfold printDataPorts
  induction ports generalizing s with
  | nil => rfl
  | cons p rest ih =>
      rw [List.foldl_cons, ih]
      split
      · rfl
      · unfold printDataCnts
        split <;> rfl

/-- A port that `print_node` is to report. -/
structure Reportable (options : ErrorOptions) (pma : Pma) (f : Fabric) (n : NodeRef) (caps : PmCaps)
    (p : Nat) : Prop where
  type : printType (f.node n).type &&& options.nodeTypeToPrint ≠ 0
  errors : options.dataCountersOnly = false
  listed : p ∈ portsFrom f n (startport f n)
  port : options.PortErrors pma f n caps p

theorem mem_printCounters (htype : printType (f.node n).type &&& options.nodeTypeToPrint ≠ 0)
    (hseen : HeaderSeen f n s) (hnone : s.numbers = []) {p : Nat} :
    p ∈ reported (options.printCounters pma f n caps lid s) ↔
      options.Reportable pma f n caps p ∧
        (caps.allPortSelect = true → options.Exceeds pma caps lid 0xff) := by
  have hports : ∀ t : PrintState, HeaderSeen f n t → t.numbers = [] → options.dataCountersOnly = false →
      (p ∈ reported (options.printPorts pma f n caps (portsFrom f n (startport f n)) t) ↔
        options.Reportable pma f n caps p) := by
    intro t ht hempty herrors
    rw [mem_printPorts ht, hempty]
    constructor
    · rintro (h | ⟨hlisted, hport⟩)
      · cases h
      · exact ⟨htype, herrors, hlisted, hport⟩
    · exact fun h => .inr ⟨h.listed, h.port⟩
  unfold printCounters
  dsimp only
  split
  · next hdata =>
      have hnumbers : reported (.ok (printDataPorts pma f n caps (portsFrom f n (startport f n)) s)) =
          [] := (printDataPorts_numbers _ _ _).trans hnone
      rw [hnumbers]
      refine iff_of_false List.not_mem_nil fun h => ?_
      rw [h.1.errors] at hdata
      cases hdata
  · next hdata =>
      have herrors : options.dataCountersOnly = false := Bool.eq_false_iff.mpr hdata
      split
      · next hall =>
          split
          · next hprint =>
              obtain ⟨hnumbers, hnothing⟩ := printErrors_error hprint
              rw [reported, hnumbers, hnone]
              exact iff_of_false List.not_mem_nil fun h => hnothing p h.1.port
          · next hprint =>
              obtain ⟨hseen', hfound, -, hnumbers⟩ := printErrors_ok hseen hprint
              rw [hnone, if_neg fun h => h.2 rfl] at hnumbers
              rw [hports _ hseen' hnumbers herrors]
              exact (and_iff_left fun _ => hfound.mp rfl).symm
          · next hprint =>
              obtain ⟨-, hfound, -, hnumbers⟩ := printErrors_ok hseen hprint
              rw [hnone, if_neg fun h => h.2 rfl] at hnumbers
              refine iff_of_false ?_ fun h => Bool.false_ne_true (hfound.mpr (h.2 hall))
              rw [reported]
              exact hnumbers ▸ List.not_mem_nil
      · next hall =>
          rw [hports s hseen hnone herrors]
          exact (and_iff_left fun h => absurd h hall).symm

theorem reported_map {g : PrintState → PrintState} (hg : ∀ s, (g s).numbers = s.numbers)
    (x : Except PrintState PrintState) : reported (x.map g) = reported x := by
  cases x with
  | ok s => exact hg s
  | error s => rfl

/-- What `print_node` reports. -/
theorem mem_printNode {summary : ErrorSummary} {p : Nat} :
    p ∈ reported (options.printNode pma f n summary) ↔
      options.Reportable pma f n (nodeCaps pma f n) p ∧
        ((nodeCaps pma f n).allPortSelect = true →
          options.Exceeds pma (nodeCaps pma f n) (queriedPort f n).2 0xff) := by
  unfold printNode
  dsimp only
  split
  · next htype => exact iff_of_false List.not_mem_nil fun h => h.1.type htype
  · next htype =>
      rw [reported_map]
      · exact mem_printCounters htype (fun h => (Bool.false_ne_true h).elim) rfl
      · exact fun _ => rfl

end Printing

/-! ### Sums over all ports -/

/-- The counters that are compared in the reply to an attribute. -/
def countersOf (attr : Nat) : List Nat :=
  if attr = ibGsiPortCounters then pcCounters
  else if attr = ibGsiPortCountersExt then pcExtCounters else []

/-- A query for a port that is answered brings the counters `count` of the port, and one for
AllPortSelect their sums over `nodePorts`, up to the greatest values of their fields. -/
structure SumsPorts (pma : Pma) (f : Fabric) (n : NodeRef) (nodePorts : List Nat)
    (count : Nat → Nat → Nat) : Prop where
  listed : ∀ p ∈ portsFrom f n (startport f n), ((f.node n).ports p).isSome → p ∈ nodePorts
  own : ∀ p ∈ portsFrom f n (startport f n), p ≠ 0xff → ∀ port, (f.node n).ports p = some port →
    ∀ attr data, pma (portLid f n port) p attr = some data →
      ∀ i ∈ countersOf attr, decodedUint data.toList i = count p i
  all : ∀ attr data, pma (queriedPort f n).2 0xff attr = some data →
    ∀ i ∈ countersOf attr, decodedUint data.toList i =
      min (2 ^ (tableField i).bitlen - 1) (nodePorts.map fun p => count p i).sum

theorem pcCounters_field : ∀ i ∈ pcCounters, (tableField i).Regular ∧
    (i = ibPcXmtWait ∨ (tableField i).Apart (tableField ibPcXmtWait)) := by
  simp only [tableField_parts]
  decide +kernel

theorem pcExtCounters_field : ∀ i ∈ pcExtCounters, (tableField i).bitlen = 64 := by
  simp only [tableField_parts]
  decide +kernel

theorem decodedUint_pc {i : Nat} (hi : i ∈ pcCounters) (buf : Bytes) :
    decodedUint buf i = getField buf 0 (tableField i) :=
  if_pos (pcCounters_field i hi).1.1.2

theorem decodedUint_lt {i : Nat} (hi : i ∈ pcCounters ∨ i ∈ pcExtCounters) (buf : Bytes) :
    decodedUint buf i < 2 ^ (tableField i).bitlen := by
  rcases hi with hi | hi
  · rw [decodedUint_pc hi]
    exact getField_lt_width (pcCounters_field i hi).1 buf 0
  · have hlen := pcExtCounters_field i hi
    rw [decodedUint, hlen, if_neg (by decide)]
    exact UInt64.toNat_lt _

/-- A counter of one port is not above the sum of all. -/
theorem SumsPorts.le {pma : Pma} {f : Fabric} {n : NodeRef} {nodePorts : List Nat}
    {count : Nat → Nat → Nat} (h : SumsPorts pma f n nodePorts count) {p attr i : Nat} {port : PortRef}
    {data data' : PmaData} (hp : p ∈ portsFrom f n (startport f n)) (hsingle : p ≠ 0xff)
    (hslot : (f.node n).ports p = some port) (hown : pma (portLid f n port) p attr = some data)
    (hall : pma (queriedPort f n).2 0xff attr = some data') (hi : i ∈ countersOf attr) :
    decodedUint data.toList i ≤ decodedUint data'.toList i := by
  have hcounter : i ∈ pcCounters ∨ i ∈ pcExtCounters := by
    unfold countersOf at hi
    split at hi
    · exact .inl hi
    · split at hi
      · exact .inr hi
      · cases hi
  have hcap := decodedUint_lt hcounter data.toList
  have hmem : count p i ∈ nodePorts.map fun p => count p i :=
    List.mem_map_of_mem (h.listed p hp (by rw [hslot]; rfl))
  have hsum := List.le_sum_of_mem hmem
  rw [h.all attr data' hall i hi]
  rw [h.own p hp hsingle port hslot attr data hown i hi] at hcap ⊢
  omega

/-- Clearing PortXmitWait leaves 0 there and no other counter changed. -/
theorem decodedUint_clearedXmitWait {data : PmaData} {i : Nat} (hi : i ∈ pcCounters) :
    decodedUint (clearedXmitWait caps data.toList) i =
      if caps.xmitWait = false ∧ i = ibPcXmtWait then 0 else decodedUint data.toList i := by
  unfold clearedXmitWait
  split
  · next hwait => rw [if_neg fun h => Bool.false_ne_true (h.1.symm.trans hwait)]
  · next hwait =>
      have hfield : tableField ibPcXmtWait = ⟨320, 32⟩ := by
        rw [tableField_parts]
        decide +kernel
      have hregular : (⟨320, 32⟩ : IbField).Regular := by decide
      have hwords : HoldsWords data.toList 0 ⟨320, 32⟩ := by
        rw [HoldsWords, Vector.length_toList]
        decide
      have hholds := hwords.holds (Nat.dvd_zero 4)
      have hencode : madEncodeField data.toList ibPcXmtWait [0, 0, 0, 0] =
          setField data.toList 0 ⟨320, 32⟩ 0 := by
        rw [madEncodeField, if_neg (by decide), hfield]
        rfl
      rw [hencode, decodedUint_pc hi, decodedUint_pc hi]
      obtain ⟨hreg, hplace⟩ := pcCounters_field i hi
      rcases hplace with rfl | hapart
      · rw [if_pos ⟨Bool.eq_false_iff.mpr hwait, rfl⟩, hfield, getField_setField hregular hholds]
        rfl
      · have hne : i ≠ ibPcXmtWait := by
          rintro rfl
          revert hapart
          decide +kernel
        rw [if_neg fun h => hne h.2]
        apply getField_congr hreg
        intro k hk hk'
        refine (setField_onlyField hregular hholds 0).mpr (not_spills (.inr (.inl rfl))) k ?_
        rw [hfield] at hapart
        rw [IbField.start] at *
        rcases hapart with hbefore | hbehind
        · exact .inl (by omega)
        · exact .inr (by omega)

section Shortcut
variable {pma : Pma} {f : Fabric} {n : NodeRef} {nodePorts : List Nat} {count : Nat → Nat → Nat}
  {lid p : Nat}

theorem queryCounters_some {pc : Bytes} {pce : Option Bytes} :
    queryCounters pma caps lid p = some (pc, pce) ↔ ∃ data,
      pma lid p ibGsiPortCounters = some data ∧ pc = clearedXmitWait caps data.toList ∧
        if caps.extWidth then ∃ ext, pma lid p ibGsiPortCountersExt = some ext ∧ pce = some ext.toList
        else pce = none := by
  unfold queryCounters
  cases pma lid p ibGsiPortCounters with
  | none => simp
  | some data =>
      cases caps.extWidth with
      | false => simp [eq_comm]
      | true =>
          simp only [if_true, Option.map_eq_some_iff, Prod.mk.injEq, Option.some.injEq,
            exists_eq_left']
          constructor
          · rintro ⟨ext, hext, rfl, rfl⟩
            exact ⟨rfl, ext, hext, rfl⟩
          · rintro ⟨rfl, ext, hext, rfl⟩
            exact ⟨ext, hext, rfl, rfl⟩

/-- The reply for all ports covers that of a single port. -/
theorem SumsPorts.covered (h : SumsPorts pma f n nodePorts count)
    (hp : p ∈ portsFrom f n (startport f n)) (hsingle : p ≠ 0xff) {port : PortRef}
    (hslot : (f.node n).ports p = some port) {pc' : Bytes} {pce' : Option Bytes}
    (hown : queryCounters pma caps (portLid f n port) p = some (pc, pce))
    (hall : queryCounters pma caps (queriedPort f n).2 0xff = some (pc', pce')) :
    Covered pc pce pc' pce' := by
  obtain ⟨data, hdata, rfl, hext⟩ := queryCounters_some.mp hown
  obtain ⟨data', hdata', rfl, hext'⟩ := queryCounters_some.mp hall
  constructor
  · intro i hi
    rw [decodedUint_clearedXmitWait hi, decodedUint_clearedXmitWait hi]
    split
    · exact Nat.le_refl 0
    · exact h.le hp hsingle hslot hdata hdata' hi
  · split at hext
    · next hwidth =>
        rw [if_pos hwidth] at hext'
        obtain ⟨ext, hquery, rfl⟩ := hext
        obtain ⟨ext', hquery', rfl⟩ := hext'
        rintro _ ⟨⟩
        exact ⟨_, rfl, fun i hi => h.le hp hsingle hslot hquery hquery' hi⟩
    · rw [hext]
      rintro _ ⟨⟩

/-- If a port has errors, and the node answers for all ports, the shortcut sees them. -/
theorem SumsPorts.exceeds (h : SumsPorts pma f n nodePorts count)
    (hreport : options.Reportable pma f n caps p)
    (hall : (queryCounters pma caps (queriedPort f n).2 0xff).isSome) :
    options.Exceeds pma caps (queriedPort f n).2 0xff := by
  obtain ⟨⟨pc', pce'⟩, hquery'⟩ := Option.isSome_iff_exists.mp hall
  obtain ⟨port, hslot, hexceeds⟩ := hreport.port.exceeds
  obtain ⟨pc, pce, found, hquery, hcheck, hfound⟩ := id hexceeds
  have hcovered := h.covered hreport.listed hreport.port.single hslot hquery hquery'
  cases hcheck' : options.checkResults (pma (queriedPort f n).2 0xff) caps pc' pce' with
  | error fault =>
      obtain ⟨haddl, hnull⟩ := checkResults_error hcheck'
      have hext := queryCounters_pce hquery'
      rw [hnull] at hext
      exact absurd hexceeds (not_exceeds haddl hext.symm)
  | ok found' =>
      exact ⟨pc', pce', found', hquery', hcheck', hcovered.checkResults hcheck hcheck' hfound⟩

end Shortcut

/-! ### A node that advertises AllPortSelect, or does not -/

section Advertises
variable {pma pma' : Pma} {caps' : PmCaps} {f : Fabric} {n : NodeRef} {lid p : Nat}

/-- Capabilities that differ in AllPortSelect at most. -/
structure SameCounters (caps caps' : PmCaps) : Prop where
  extWidth : caps'.extWidth = caps.extWidth
  xmitWait : caps'.xmitWait = caps.xmitWait
  addlPortCtrsExt : caps'.addlPortCtrsExt = caps.addlPortCtrsExt

theorem SameCounters.checkThreshold (h : SameCounters caps caps') (i extI : Nat) :
    options.checkThreshold caps' pc pce i extI = options.checkThreshold caps pc pce i extI := by
  unfold ErrorOptions.checkThreshold
  rw [h.addlPortCtrsExt]

theorem findings_congr {query' : Nat → Option PmaData}
    (hquery : ∀ attr ≠ ibClassPortInfo, query' attr = query attr) (i : Nat) (t : Option CounterText) :
    options.findings query' i t = options.findings query i t := by
  have hdetails : options.queryDetails query' i = options.queryDetails query i := by
    unfold queryDetails queryAndDump
    rw [hquery _ (by decide), hquery _ (by decide)]
  unfold findings
  rw [hdetails]

theorem SameCounters.checkCounters (h : SameCounters caps caps') {query' : Nat → Option PmaData}
    (hquery : ∀ attr ≠ ibClassPortInfo, query' attr = query attr) (fields : List Nat) (extI : Nat) :
    options.checkCounters query' caps' pc pce fields extI =
      options.checkCounters query caps pc pce fields extI := by
  induction fields generalizing extI with
  | nil => rfl
  | cons i rest ih =>
      simp only [ErrorOptions.checkCounters, ih, h.checkThreshold, findings_congr hquery]

theorem SameCounters.checkResults (h : SameCounters caps caps') {query' : Nat → Option PmaData}
    (hquery : ∀ attr ≠ ibClassPortInfo, query' attr = query attr) :
    options.checkResults query' caps' pc pce = options.checkResults query caps pc pce := by
  rw [ErrorOptions.checkResults, ErrorOptions.checkResults, h.checkCounters hquery,
    h.checkThreshold]

theorem SameCounters.exceeds (h : SameCounters caps caps')
    (hpma : ∀ lid p, ∀ attr ≠ ibClassPortInfo, pma' lid p attr = pma lid p attr) :
    options.Exceeds pma' caps' lid p ↔ options.Exceeds pma caps lid p := by
  have hquery : queryCounters pma' caps' lid p = queryCounters pma caps lid p := by
    unfold queryCounters clearedXmitWait
    rw [h.extWidth, h.xmitWait, hpma _ _ _ (by decide), hpma _ _ _ (by decide)]
  unfold Exceeds
  simp only [hquery, h.checkResults (hpma lid p)]

theorem SameCounters.reportable (h : SameCounters caps caps')
    (hpma : ∀ lid p, ∀ attr ≠ ibClassPortInfo, pma' lid p attr = pma lid p attr) :
    options.Reportable pma' f n caps' p ↔ options.Reportable pma f n caps p := by
  have hexceeds : ∀ lid p, options.Exceeds pma' caps' lid p ↔ options.Exceeds pma caps lid p :=
    fun _ _ => h.exceeds hpma
  constructor
  · rintro ⟨htype, herrors, hlisted, ⟨port, hslot, hport⟩, hsingle, hheader⟩
    exact ⟨htype, herrors, hlisted, ⟨port, hslot, (hexceeds _ _).mp hport⟩, hsingle, hheader⟩
  · rintro ⟨htype, herrors, hlisted, ⟨port, hslot, hport⟩, hsingle, hheader⟩
    exact ⟨htype, herrors, hlisted, ⟨port, hslot, (hexceeds _ _).mpr hport⟩, hsingle, hheader⟩

end Advertises

/-- A byte whose lowest bit is `b`. -/
def withLowBit (x : UInt8) (b : Bool) : UInt8 := (x &&& 0xfe) ||| if b then 1 else 0

theorem withLowBit_bits (x : UInt8) (b : Bool) :
    ((withLowBit x b).toNat &&& 1 ≠ 0 ↔ b = true) ∧ (withLowBit x b).toNat &&& 6 = x.toNat &&& 6 ∧
      (withLowBit x b).toNat &&& 16 = x.toNat &&& 16 := by
  have hall : ∀ k < 256, ∀ b : Bool, ((withLowBit (UInt8.ofNat k) b).toNat &&& 1 ≠ 0 ↔ b = true) ∧
      (withLowBit (UInt8.ofNat k) b).toNat &&& 6 = (UInt8.ofNat k).toNat &&& 6 ∧
      (withLowBit (UInt8.ofNat k) b).toNat &&& 16 = (UInt8.ofNat k).toNat &&& 16 := by
    decide +kernel
  have hx := hall x.toNat x.toNat_lt b
  rwa [UInt8.ofNat_toNat] at hx

/-- Masks with bits of the first byte only. -/
theorem high_and (x y m : Nat) (hy : y < 2 ^ 8) :
    (x * 2 ^ 8 + y) &&& (m * 2 ^ 8) = (x &&& m) * 2 ^ 8 := by
  apply Nat.eq_of_testBit_eq
  intro i
  rw [Nat.testBit_and, Nat.mul_comm x, Nat.testBit_two_pow_mul_add x hy, Nat.mul_comm m,
    Nat.testBit_two_pow_mul, Nat.mul_comm (x &&& m), Nat.testBit_two_pow_mul, Nat.testBit_and]
  by_cases hi : i < 8
  · simp [hi, Nat.not_le.mpr hi]
  · simp [hi, Nat.le_of_not_lt hi]

/-- A ClassPortInfo whose bit for AllPortSelect is `b`. -/
def advertising (b : Bool) (data : PmaData) : PmaData := data.set 2 (withLowBit data[2] b)

/-- A mask with bits of the first byte only, on the CapabilityMask. -/
theorem capMask_and (data : PmaData) (m : Nat) : data.capMasks.capMask &&& (m * 2 ^ 8) =
    ((byteAt data.toList 2).toNat &&& m) * 2 ^ 8 :=
  high_and _ _ m (byteAt data.toList 3).toNat_lt

theorem advertising_capMasks (b : Bool) (data : PmaData) :
    (advertising b data).capMasks.allPortSelect = b ∧
      SameCounters data.capMasks (advertising b data).capMasks := by
  have hbyte : byteAt (advertising b data).toList 2 = withLowBit (byteAt data.toList 2) b := by
    simp [advertising, byteAt]
  have hrest : ∀ k ≠ 2, byteAt (advertising b data).toList k = byteAt data.toList k := by
    intro k hk
    rw [advertising, Vector.toList_set]
    exact byteAt_set_of_ne (Ne.symm hk) _
  obtain ⟨hlow, hwidth, hwait⟩ := withLowBit_bits (byteAt data.toList 2) b
  refine ⟨?_, ?_, ?_, ?_⟩
  · have hmask := capMask_and (advertising b data) 1
    rw [hbyte] at hmask
    unfold PmCaps.allPortSelect
    rw [show (0x100 : Nat) = 1 * 2 ^ 8 from rfl, hmask]
    cases b <;> simp_all
  · have hmask := capMask_and (advertising b data) 6
    rw [hbyte, hwidth, ← capMask_and] at hmask
    exact congrArg (fun k : Nat => decide (k ≠ 0)) hmask
  · have hmask := capMask_and (advertising b data) 16
    rw [hbyte, hwait, ← capMask_and] at hmask
    exact congrArg (fun k : Nat => decide (k ≠ 0)) hmask
  · unfold PmCaps.addlPortCtrsExt PmaData.capMasks
    rw [hrest 4 (by decide), hrest 5 (by decide), hrest 6 (by decide), hrest 7 (by decide)]

/-- The ports answer as before, but for AllPortSelect in every ClassPortInfo. -/
def advertises (pma : Pma) (b : Bool) : Pma := fun lid portnum attr =>
  if attr = ibClassPortInfo then (pma lid portnum attr).map (advertising b)
  else pma lid portnum attr

section Claim
variable (options : ErrorOptions) (pma : Pma) (f : Fabric) (n : NodeRef)

theorem nodeCaps_advertises (b : Bool) :
    SameCounters (nodeCaps pma f n) (nodeCaps (advertises pma b) f n) ∧
      (nodeCaps (advertises pma b) f n).allPortSelect =
        (b && (pma (queriedPort f n).2 (queriedPort f n).1 ibClassPortInfo).isSome) := by
  unfold nodeCaps advertises
  rw [if_pos rfl]
  cases pma (queriedPort f n).2 (queriedPort f n).1 ibClassPortInfo with
  | none =>
      have hnone : (⟨0, 0⟩ : PmCaps).allPortSelect = false := by decide
      exact ⟨⟨rfl, rfl, rfl⟩, by rw [Option.isSome_none, Bool.and_false]; exact hnone⟩
  | some data =>
      obtain ⟨hall, hsame⟩ := advertising_capMasks b data
      exact ⟨hsame, by rw [Option.isSome_some, Bool.and_true]; exact hall⟩

/-- What a node reports that advertises AllPortSelect, or does not. -/
theorem mem_printNode_advertises (b : Bool) (summary : ErrorSummary) (p : Nat) :
    p ∈ reported (options.printNode (advertises pma b) f n summary) ↔
      options.Reportable pma f n (nodeCaps pma f n) p ∧
        (b = true → (pma (queriedPort f n).2 (queriedPort f n).1 ibClassPortInfo).isSome →
          options.Exceeds pma (nodeCaps pma f n) (queriedPort f n).2 0xff) := by
  have hpma : ∀ lid p, ∀ attr ≠ ibClassPortInfo, advertises pma b lid p attr = pma lid p attr :=
    fun _ _ _ hattr => if_neg hattr
  obtain ⟨hsame, hall⟩ := nodeCaps_advertises pma f n b
  rw [mem_printNode, hsame.reportable hpma, hsame.exceeds hpma, hall, Bool.and_eq_true, and_imp]

/-- The shortcut over AllPortSelect reports the ports that their own counters report, if and only if
the node does not tell its capabilities, or answers for all ports, or has nothing to report. -/
theorem allPortSelect_iff (summary : ErrorSummary) {nodePorts : List Nat} {count : Nat → Nat → Nat}
    (hsums : SumsPorts pma f n nodePorts count) :
    (∀ p, p ∈ reported (options.printNode (advertises pma true) f n summary) ↔
        p ∈ reported (options.printNode (advertises pma false) f n summary)) ↔
      pma (queriedPort f n).2 (queriedPort f n).1 ibClassPortInfo = none ∨
        (queryCounters pma (nodeCaps pma f n) (queriedPort f n).2 0xff).isSome ∨
        ∀ p, ¬ options.Reportable pma f n (nodeCaps pma f n) p := by
  simp only [mem_printNode_advertises, Bool.false_eq_true, false_imp_iff, and_true, true_imp_iff,
    and_iff_left_iff_imp]
  constructor
  · intro hsees
    by_cases hcaps : (pma (queriedPort f n).2 (queriedPort f n).1 ibClassPortInfo).isSome
    · by_cases hnone : ∀ p, ¬ options.Reportable pma f n (nodeCaps pma f n) p
      · exact .inr (.inr hnone)
      · obtain ⟨p, hp⟩ := not_forall_not.mp hnone
        obtain ⟨pc, pce, found, hquery, -, -⟩ := hsees p hp hcaps
        exact .inr (.inl (by rw [hquery]; rfl))
    · exact .inl (Option.not_isSome_iff_eq_none.mp hcaps)
  · rintro (hnone | hall | hnothing) p hp hcaps
    · rw [hnone] at hcaps
      cases hcaps
    · exact hsums.exceeds hp hall
    · exact absurd hp (hnothing p)

end Claim

/-- A switch with LID 3 and one port next to its port 0. -/
def oneSwitch : Fabric :=
  { allocateFabricInternal with
    node := fun _ => { (default : Node) with
      type := ibNodeSwitch
      numports := 1
      smalid := 3
      ports := fun k => if k ≤ 1 then some k else none } }

/-- PortCounters with five symbol errors. -/
def symbolErrors : PmaData := (Vector.replicate 192 0).set 5 5

/-- Port 1 has symbol errors; for all ports the switch answers only if `all`. -/
def symbolErrorPma (all : Bool) : Pma := fun _ portnum attr =>
  if attr = ibClassPortInfo then some (.replicate 192 0)
  else if attr = ibGsiPortCounters ∧ (portnum = 1 ∨ all = true) then some symbolErrors
  else none

def reportEverything : ErrorOptions where
  nodeTypeToPrint := 0xff
  suppressed := []
  thresholds := []
  details := false
  dataCountersOnly := false

theorem symbolErrorPma_sums (all : Bool) : SumsPorts (symbolErrorPma all) oneSwitch 0 [1]
    fun _ i => decodedUint symbolErrors.toList i := by
  have hdata : ∀ lid p attr data, symbolErrorPma all lid p attr = some data →
      ∀ i ∈ countersOf attr, data = symbolErrors ∧ attr = ibGsiPortCounters := by
    intro lid p attr data hquery i hi
    unfold symbolErrorPma at hquery
    split at hquery
    · next hattr =>
        rw [hattr] at hi
        cases hi
    · split at hquery
      · next hcounters => exact ⟨(Option.some.inj hquery).symm, hcounters.1⟩
      · cases hquery
  refine ⟨?_, ?_, ?_⟩
  · decide
  · intro p _ _ port _ attr data hquery i hi
    rw [(hdata _ _ _ _ hquery i hi).1]
  · intro attr data hquery i hi
    obtain ⟨rfl, rfl⟩ := hdata _ _ _ _ hquery i hi
    have hlt := decodedUint_lt (.inl hi) symbolErrors.toList
    rw [List.map_singleton, List.sum_singleton]
    omega

/-- The ports of `oneSwitch` that are reported. -/
def oneSwitchReports (all shortcut : Bool) : List Nat :=
  reported (reportEverything.printNode (advertises (symbolErrorPma all) shortcut) oneSwitch 0
    ⟨0, 0, 0, 0, 0⟩)

theorem allPortSelect_iff_answering : 1 ∈ oneSwitchReports true true :=
  ((allPortSelect_iff reportEverything (symbolErrorPma true) oneSwitch 0 ⟨0, 0, 0, 0, 0⟩
    (symbolErrorPma_sums true)).mpr (.inr (.inl (by decide +kernel))) 1).mpr (by decide +kernel)

/-- If only the query for all ports fails, the shortcut takes that for a node without errors. -/
theorem not_allPortSelect_failing :
    SumsPorts (symbolErrorPma false) oneSwitch 0 [1] (fun _ i => decodedUint symbolErrors.toList i) ∧
      oneSwitchReports false false = [1] ∧ oneSwitchReports false true = [] :=
  ⟨symbolErrorPma_sums false, by decide +kernel, by decide +kernel⟩

end ErrorOptions
end InfinibandDiags
