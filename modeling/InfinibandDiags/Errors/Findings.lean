import InfinibandDiags.Errors.Thresholds
import Mathlib.Data.List.Basic

/-! What `print_results` finds in the counters of a port. -/
namespace InfinibandDiags

namespace ErrorOptions
variable {options : ErrorOptions} {query : Nat → Option PmaData} {caps : PmCaps} {pc : Bytes}
  {pce : Option Bytes} {found : Findings}

theorem checkThreshold_error {i extI : Nat} {fault : Fault}
    (h : options.checkThreshold caps pc pce i extI = .error fault) :
    caps.addlPortCtrsExt = true ∧ pce = none := by
  unfold checkThreshold at h
  split at h
  · next haddl =>
      split at h
      · exact ⟨haddl, rfl⟩
      · cases h
  · cases h

theorem checkThreshold_null {i extI : Nat} (haddl : caps.addlPortCtrsExt = true) :
    options.checkThreshold caps pc none i extI = .error .nullDeref := by
  rw [checkThreshold, if_pos haddl]

theorem checkCounters_error {fields : List Nat} {extI : Nat} {fault : Fault}
    (h : options.checkCounters query caps pc pce fields extI = .error fault) :
    caps.addlPortCtrsExt = true ∧ pce = none := by
  induction fields generalizing extI with
  | nil => cases h
  | cons i rest ih =>
      unfold checkCounters at h
      split at h
      · exact ih h
      · split at h
        · exact ih h
        · rcases bind_eq_error.mp h with hcheck | ⟨text, -, hrest⟩
          · exact checkThreshold_error hcheck
          · rcases bind_eq_error.mp hrest with hrest | ⟨_, -, hdone⟩
            · exact ih hrest
            · cases hdone

/-- Without a pointer to the extended counters nothing is ever found in them. -/
theorem checkCounters_null {fields : List Nat} {extI : Nat} (haddl : caps.addlPortCtrsExt = true)
    (h : options.checkCounters query caps pc none fields extI = .ok found) : found.texts = [] := by
  induction fields generalizing extI found with
  | nil =>
      cases h
      rfl
  | cons i rest ih =>
      unfold checkCounters at h
      split at h
      · exact ih h
      · split at h
        · exact ih h
        · rw [checkThreshold_null haddl] at h
          cases h

theorem checkResults_error {fault : Fault}
    (h : options.checkResults query caps pc pce = .error fault) :
    caps.addlPortCtrsExt = true ∧ pce = none := by
  unfold checkResults at h
  rcases bind_eq_error.mp h with hcounters | ⟨_, -, hwait⟩
  · exact checkCounters_error hcounters
  · split at hwait
    · cases hwait
    · rcases bind_eq_error.mp hwait with hcheck | ⟨_, -, hdone⟩
      · exact checkThreshold_error hcheck
      · cases hdone

theorem checkResults_null (haddl : caps.addlPortCtrsExt = true)
    (h : options.checkResults query caps pc none = .ok found) : found.texts = [] := by
  unfold checkResults at h
  obtain ⟨counters, hcounters, hwait⟩ := bind_eq_ok.mp h
  have hnone := checkCounters_null haddl hcounters
  split at hwait
  · cases hwait
    exact hnone
  · rw [checkThreshold_null haddl] at hwait
    cases hwait

/-- The counters that the loop checks, each with the field whose threshold it is checked against. -/
def visits (options : ErrorOptions) : List Nat → Nat → List (Nat × Nat)
  | [], _ => []
  | i :: rest, extI =>
      if options.suppress i then options.visits rest (extI + 1)
      else if i = ibPcCounterSelect2 then options.visits rest extI
      else (i, extI) :: options.visits rest (extI + 1)

/-- What a comparison that does not fault comes to. -/
def compared (options : ErrorOptions) (caps : PmCaps) (pc : Bytes) (pce : Option Bytes)
    (v : Nat × Nat) : Option CounterText :=
  (options.checkThreshold caps pc pce v.1 v.2).toOption.join

/-- The loop writes, one after the other, the texts of the counters it visits. -/
theorem checkCounters_texts {fields : List Nat} {extI : Nat}
    (h : options.checkCounters query caps pc pce fields extI = .ok found) :
    found.texts = (options.visits fields extI).flatMap fun v =>
      (options.findings query v.1 (compared options caps pc pce v)).texts := by
  induction fields generalizing extI found with
  | nil =>
      cases h
      rfl
  | cons i rest ih =>
      unfold checkCounters at h
      unfold visits
      split
      · next hsuppress =>
          rw [if_pos hsuppress] at h
          exact ih h
      · next hsuppress =>
          rw [if_neg hsuppress] at h
          split
          · next hselect =>
              rw [if_pos hselect] at h
              exact ih h
          · next hselect =>
              rw [if_neg hselect] at h
              obtain ⟨t, hcheck, hrest⟩ := bind_eq_ok.mp h
              obtain ⟨more, hmore, hdone⟩ := bind_eq_ok.mp hrest
              cases hdone
              have ht : compared options caps pc pce (i, extI) = t := by
                rw [compared, hcheck]
                rfl
              rw [Findings.append, List.flatMap_cons, ht, ih hmore]

/-- PortXmitWait follows, without details. -/
theorem checkResults_texts (h : options.checkResults query caps pc pce = .ok found) :
    found.texts =
      ((options.visits (List.range' ibPcErrSym (ibPcVl15Dropped + 1 - ibPcErrSym))
          ibPcExtErrSym).flatMap fun v =>
        (options.findings query v.1 (compared options caps pc pce v)).texts) ++
      if options.suppress ibPcXmtWait then []
      else (compared options caps pc pce (ibPcXmtWait, ibPcExtXmtWait)).toList := by
  unfold checkResults at h
  obtain ⟨counters, hcounters, hwait⟩ := bind_eq_ok.mp h
  rw [← checkCounters_texts hcounters]
  split at hwait
  · next hsuppress =>
      cases hwait
      rw [if_pos hsuppress, List.append_nil]
  · next hsuppress =>
      obtain ⟨t, hcheck, hdone⟩ := bind_eq_ok.mp hwait
      cases hdone
      have ht : compared options caps pc pce (ibPcXmtWait, ibPcExtXmtWait) = t := by
        rw [compared, hcheck]
        rfl
      rw [if_neg hsuppress, ht, Findings.append]

/-- The loop writes the texts of the counters it visits. -/
theorem mem_checkCounters {fields : List Nat} {extI : Nat}
    (h : options.checkCounters query caps pc pce fields extI = .ok found) {text : CounterText} :
    text ∈ found.texts ↔ ∃ v ∈ options.visits fields extI, ∃ t,
      options.checkThreshold caps pc pce v.1 v.2 = .ok (some t) ∧
        text ∈ (options.findings query v.1 (some t)).texts := by
  induction fields generalizing extI found with
  | nil =>
      cases h
      simp [visits]
  | cons i rest ih =>
      unfold checkCounters at h
      unfold visits
      split
      · next hsuppress =>
          rw [if_pos hsuppress] at h
          exact ih h
      · next hsuppress =>
          rw [if_neg hsuppress] at h
          split
          · next hselect =>
              rw [if_pos hselect] at h
              exact ih h
          · next hselect =>
              rw [if_neg hselect] at h
              obtain ⟨t, hcheck, hrest⟩ := bind_eq_ok.mp h
              obtain ⟨more, hmore, hdone⟩ := bind_eq_ok.mp hrest
              cases hdone
              rw [Findings.append, List.mem_append, ih hmore, List.exists_mem_cons_iff]
              refine or_congr_left ?_
              cases t with
              | none => simp [findings, hcheck]
              | some t => simp [hcheck]

/-- What `print_results` writes: the texts of the loop, and PortXmitWait. -/
theorem mem_checkResults (h : options.checkResults query caps pc pce = .ok found)
    {text : CounterText} :
    text ∈ found.texts ↔
      (∃ v ∈ options.visits (List.range' ibPcErrSym (ibPcVl15Dropped + 1 - ibPcErrSym)) ibPcExtErrSym,
        ∃ t, options.checkThreshold caps pc pce v.1 v.2 = .ok (some t) ∧
          text ∈ (options.findings query v.1 (some t)).texts) ∨
      options.suppress ibPcXmtWait = false ∧
        options.checkThreshold caps pc pce ibPcXmtWait ibPcExtXmtWait = .ok (some text) := by
  unfold checkResults at h
  obtain ⟨counters, hcounters, hwait⟩ := bind_eq_ok.mp h
  rw [← mem_checkCounters hcounters]
  split at hwait
  · next hsuppress =>
      cases hwait
      simp [hsuppress]
  · next hsuppress =>
      obtain ⟨t, hcheck, hdone⟩ := bind_eq_ok.mp hwait
      cases hdone
      rw [Findings.append, List.mem_append, hcheck]
      simp [Bool.eq_false_iff.mpr hsuppress]

theorem mem_visits {fields : List Nat} {extI : Nat} {v : Nat × Nat}
    (hv : v ∈ options.visits fields extI) :
    v.1 ∈ fields ∧ v.1 ≠ ibPcCounterSelect2 ∧ extI ≤ v.2 ∧ v.2 < extI + fields.length := by
  induction fields generalizing extI with
  | nil => cases hv
  | cons i rest ih =>
      unfold visits at hv
      rw [List.length_cons]
      split at hv
      · obtain ⟨hmem, hne, hlow, hhigh⟩ := ih hv
        exact ⟨List.mem_cons_of_mem i hmem, hne, by omega, by omega⟩
      · split at hv
        · obtain ⟨hmem, hne, hlow, hhigh⟩ := ih hv
          exact ⟨List.mem_cons_of_mem i hmem, hne, by omega, by omega⟩
        · next hselect =>
            rcases List.mem_cons.mp hv with rfl | hv
            · exact ⟨List.mem_cons_self, hselect, Nat.le_refl _, by omega⟩
            · obtain ⟨hmem, hne, hlow, hhigh⟩ := ih hv
              exact ⟨List.mem_cons_of_mem i hmem, hne, by omega, by omega⟩

/-- The field whose threshold the counter `i` is checked against: CounterSelect2 has no field among
the extended counters, and is passed over in step where it is not suppressed. -/
def thresholdField (options : ErrorOptions) (i : Nat) : Nat :=
  if ibPcCounterSelect2 < i ∧ options.suppress ibPcCounterSelect2 = false then
    i - 1 + (ibPcExtErrSym - ibPcErrSym)
  else i + (ibPcExtErrSym - ibPcErrSym)

theorem thresholdField_of_le {i : Nat} (hi : i ≤ ibPcCounterSelect2) :
    thresholdField options i = i + 521 :=
  if_neg fun h => absurd h.1 (Nat.not_lt.mpr hi)

theorem thresholdField_of_gt {i : Nat} (hi : ibPcCounterSelect2 < i)
    (hselect : options.suppress ibPcCounterSelect2 = false) :
    thresholdField options i = i - 1 + 521 :=
  if_pos ⟨hi, hselect⟩

theorem thresholdField_of_suppressed (i : Nat)
    (hselect : options.suppress ibPcCounterSelect2 = true) :
    thresholdField options i = i + 521 :=
  if_neg fun h => Bool.false_ne_true (h.2.symm.trans hselect)

theorem thresholdField_succ (i : Nat) :
    thresholdField options (i + 1) =
      if i = ibPcCounterSelect2 ∧ options.suppress ibPcCounterSelect2 = false then
        thresholdField options i
      else thresholdField options i + 1 := by
  cases hselect : options.suppress ibPcCounterSelect2 with
  | true => simp [thresholdField_of_suppressed _ hselect, Nat.add_right_comm]
  | false =>
      rcases Nat.lt_trichotomy i ibPcCounterSelect2 with hi | rfl | hi
      · rw [thresholdField_of_le (Nat.succ_le_of_lt hi), thresholdField_of_le hi.le,
          if_neg fun h => hi.ne h.1, Nat.add_right_comm]
      · rw [thresholdField_of_gt (Nat.lt_succ_self _) hselect, thresholdField_of_le le_rfl,
          if_pos ⟨rfl, rfl⟩]
        rfl
      · rw [thresholdField_of_gt (hi.trans (Nat.lt_succ_self _)) hselect,
          thresholdField_of_gt hi hselect, if_neg fun h => hi.ne' h.1]
        omega

/-- The loop from the counter `i` on, with the other index in step. -/
theorem mem_visits_range' {i n : Nat} {v : Nat × Nat} :
    v ∈ options.visits (List.range' i n) (thresholdField options i) ↔
      (i ≤ v.1 ∧ v.1 < i + n) ∧ v.1 ≠ ibPcCounterSelect2 ∧ options.suppress v.1 = false ∧
        v.2 = thresholdField options v.1 := by
  induction n generalizing i with
  | zero =>
      refine iff_of_false List.not_mem_nil fun h => ?_
      omega
  | succ n ih =>
      have hrange : (i + 1 ≤ v.1 ∧ v.1 < i + 1 + n) ↔ (i ≤ v.1 ∧ v.1 < i + (n + 1)) ∧ v.1 ≠ i := by
        omega
      have hsucc : thresholdField options (i + 1) = _ := thresholdField_succ i
      rw [List.range'_succ, visits]
      by_cases hsuppress : options.suppress i = true
      · have hnext : thresholdField options (i + 1) = thresholdField options i + 1 := by
          rw [hsucc, if_neg]
          rintro ⟨rfl, hnot⟩
          exact Bool.false_ne_true (hnot.symm.trans hsuppress)
        rw [if_pos hsuppress, ← hnext, ih, hrange]
        refine ⟨fun h => ⟨h.1.1, h.2⟩, fun h => ⟨⟨h.1, ?_⟩, h.2⟩⟩
        intro hv
        exact Bool.false_ne_true (h.2.2.1.symm.trans (hv ▸ hsuppress))
      · rw [if_neg hsuppress]
        by_cases hselect : i = ibPcCounterSelect2
        · have hnext : thresholdField options (i + 1) = thresholdField options i := by
            rw [hsucc, if_pos ⟨hselect, by simpa [← hselect] using hsuppress⟩]
          rw [if_pos hselect, ← hnext, ih, hrange]
          exact ⟨fun h => ⟨h.1.1, h.2⟩, fun h => ⟨⟨h.1, hselect ▸ h.2.1⟩, h.2⟩⟩
        · have hnext : thresholdField options (i + 1) = thresholdField options i + 1 := by
            rw [hsucc, if_neg fun h => hselect h.1]
          rw [if_neg hselect, List.mem_cons, ← hnext, ih, hrange]
          by_cases hv : v.1 = i
          · have hhere : v = (i, thresholdField options i) ↔ v.2 = thresholdField options i := by
              rw [Prod.ext_iff]
              simp [hv]
            rw [hhere, hv]
            simp [hselect, hsuppress]
          · have hne : v ≠ (i, thresholdField options i) := fun h => hv (by rw [h])
            simp [hne, hv]

/-- The counters of PortCounters that are compared. -/
def pcCounters : List Nat :=
  (List.range' ibPcErrSym (ibPcVl15Dropped + 1 - ibPcErrSym)).filter (· ≠ ibPcCounterSelect2) ++
    [ibPcXmtWait]

/-- The counters of PortCountersExtended that are compared. -/
def pcExtCounters : List Nat := List.range' ibPcExtErrSym (ibPcExtXmtWait + 1 - ibPcExtErrSym)

theorem mem_visits_counters {v : Nat × Nat} (hv : v ∈ options.visits
    (List.range' ibPcErrSym (ibPcVl15Dropped + 1 - ibPcErrSym)) ibPcExtErrSym) :
    v.1 ∈ pcCounters ∧ v.2 ∈ pcExtCounters := by
  obtain ⟨hmem, hne, hlow, hhigh⟩ := mem_visits hv
  rw [List.length_range'] at hhigh
  refine ⟨List.mem_append_left _ (List.mem_filter.mpr ⟨hmem, decide_eq_true hne⟩), ?_⟩
  exact List.mem_range'_1.mpr ⟨hlow, hhigh⟩

end ErrorOptions
end InfinibandDiags
