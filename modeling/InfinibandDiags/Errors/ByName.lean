import InfinibandDiags.Errors.AllPorts

/-! When ibqueryerrors compares each counter with the threshold of its own name, and reads it from a
reply that it has. -/
namespace InfinibandDiags

namespace ErrorOptions
variable {options : ErrorOptions} {query : Nat → Option PmaData} {caps : PmCaps} {pc : Bytes}
  {pce : Option Bytes} {found : Findings}

/-- The value of a counter with the number `i` in PortCounters and `e` among the extended ones. -/
def counterVal (caps : PmCaps) (pc : Bytes) (pce : Option Bytes) (i e : Nat) : Nat :=
  if caps.addlPortCtrsExt then decodedUint (pce.getD []) e else decodedUint pc i

/-- The texts name exactly the counters that are not suppressed and are over the threshold which
`set_thres` stores under their name, with the values that are compared. -/
def ReportsByName (options : ErrorOptions) (caps : PmCaps) (pc : Bytes) (pce : Option Bytes)
    (texts : List CounterText) : Prop :=
  ∀ i ∈ pcCounters, ∀ e ∈ pcExtCounters, madFieldName e = madFieldName i → ∀ val,
    (∃ text ∈ texts, madFieldName text.field = madFieldName i ∧ text.val = val) ↔
      options.suppress i = false ∧ val = counterVal caps pc pce i e ∧
        options.exceedsThreshold e val = true

/-- The extended counter of the same name. -/
def namedField (i : Nat) : Nat :=
  if i = ibPcXmtWait then ibPcExtXmtWait
  else if i < ibPcCounterSelect2 then i + 521 else i + 520

/-- The field that `print_results` compares a counter with. -/
def checkedField (options : ErrorOptions) (i : Nat) : Nat :=
  if i = ibPcXmtWait then ibPcExtXmtWait else thresholdField options i

theorem pcCounters_named : ∀ i ∈ pcCounters, namedField i ∈ pcExtCounters ∧
    (∀ e ∈ pcExtCounters, madFieldName e = madFieldName i ↔ e = namedField i) ∧
    (∀ j ∈ pcCounters, madFieldName j = madFieldName i ↔ j = i) ∧
    ∀ d ∈ List.range' ibPcXmtInactDisc 11, madFieldName d ≠ madFieldName i := by
  simp only [madFieldName_parts]
  decide +kernel

/-- Where the extended counters are there when they are announced, a comparison cannot fault. -/
theorem compared_eq (hpce : caps.addlPortCtrsExt = true → pce.isSome = true) (v : Nat × Nat) :
    compared options caps pc pce v =
      if options.exceedsThreshold v.2 (counterVal caps pc pce v.1 v.2) then
        some ⟨if caps.addlPortCtrsExt then v.2 else v.1, counterVal caps pc pce v.1 v.2⟩
      else none := by
  unfold compared checkThreshold counterVal
  by_cases haddl : caps.addlPortCtrsExt = true
  · obtain ⟨ext, hext⟩ := Option.isSome_iff_exists.mp (hpce haddl)
    simp only [haddl, if_true, hext, Option.getD_some]
    rfl
  · simp only [haddl, Bool.false_eq_true, if_false]
    rfl

theorem checkResults_present (hpce : caps.addlPortCtrsExt = true → pce.isSome = true) :
    ∃ found, options.checkResults query caps pc pce = .ok found := by
  cases hresults : options.checkResults query caps pc pce with
  | ok found => exact ⟨found, rfl⟩
  | error fault =>
      obtain ⟨haddl, hnone⟩ := checkResults_error hresults
      rw [hnone] at hpce
      exact absurd (hpce haddl) (by decide)

/-- The details of a counter. -/
theorem queryDetails_field {i : Nat} {details : List CounterText}
    (h : options.queryDetails query i = some details) {text : CounterText} (htext : text ∈ details) :
    text.field ∈ List.range' ibPcXmtInactDisc 11 := by
  have hdump : ∀ attrId first last, first + (last - first) ≤ ibPcXmtInactDisc + 11 →
      ibPcXmtInactDisc ≤ first → queryAndDump query attrId first last = some details →
      text.field ∈ List.range' ibPcXmtInactDisc 11 := by
    intro attrId first last hlast hfirst hquery
    obtain ⟨data, -, rfl⟩ := Option.map_eq_some_iff.mp hquery
    obtain ⟨i, hi, rfl⟩ := List.mem_map.mp (List.mem_of_mem_filter htext)
    rw [List.mem_range'_1] at hi ⊢
    exact ⟨hfirst.trans hi.1, hi.2.trans_le hlast⟩
  unfold queryDetails at h
  split_ifs at h
  · exact hdump _ _ _ (by decide) (by decide) h
  · exact hdump _ _ _ (by decide) (by decide) h
  · cases h
    cases htext

/-- Of the texts of a comparison, only the counter itself has the name of a counter. -/
theorem findings_named {i j : Nat} (hi : i ∈ pcCounters) (t : Option CounterText)
    {text : CounterText} (hname : madFieldName text.field = madFieldName i) :
    text ∈ (options.findings query j t).texts ↔ t = some text := by
  cases t with
  | none => simp [findings]
  | some t =>
      rw [findings]
      split
      · simp [eq_comm]
      · next details hdetails =>
          have hother : text ∉ details := fun hmem =>
            (pcCounters_named i hi).2.2.2 _ (queryDetails_field hdetails hmem) hname
          simp [hother, eq_comm]

theorem checked_iff {j e : Nat} :
    ((j, e) ∈ options.visits (List.range' ibPcErrSym (ibPcVl15Dropped + 1 - ibPcErrSym))
        ibPcExtErrSym ∨ (j, e) = (ibPcXmtWait, ibPcExtXmtWait) ∧ options.suppress ibPcXmtWait = false) ↔
      j ∈ pcCounters ∧ options.suppress j = false ∧ e = checkedField options j := by
  have hstart : ibPcExtErrSym = thresholdField options ibPcErrSym :=
    (thresholdField_of_le (by decide)).symm
  rw [hstart, mem_visits_range', pcCounters, List.mem_append, List.mem_filter, List.mem_range'_1,
    List.mem_singleton, decide_eq_true_eq, checkedField]
  by_cases hwait : j = ibPcXmtWait
  · subst hwait
    simp only [if_true, Prod.mk.injEq, true_and]
    have hout : ¬ (ibPcXmtWait < ibPcErrSym + (ibPcVl15Dropped + 1 - ibPcErrSym)) := by decide
    tauto
  · simp only [hwait, if_false, Prod.mk.injEq, false_and, or_false]
    tauto

/-- What a comparison brings, by name and value. -/
theorem compared_named (hpce : caps.addlPortCtrsExt = true → pce.isSome = true) {i j e val : Nat} :
    (∃ text, compared options caps pc pce (j, e) = some text ∧
        madFieldName text.field = madFieldName i ∧ text.val = val) ↔
      madFieldName (if caps.addlPortCtrsExt then e else j) = madFieldName i ∧
        val = counterVal caps pc pce j e ∧ options.exceedsThreshold e val = true := by
  rw [compared_eq hpce]
  dsimp only
  constructor
  · rintro ⟨text, htext, hname, rfl⟩
    split at htext
    · next hover =>
        cases htext
        exact ⟨hname, rfl, hover⟩
    · cases htext
  · rintro ⟨hname, rfl, hover⟩
    exact ⟨_, if_pos hover, hname, rfl⟩

/-- What is reported under the name of a counter. -/
theorem reported_iff (h : options.checkResults query caps pc pce = .ok found)
    (hpce : caps.addlPortCtrsExt = true → pce.isSome = true) {i : Nat} (hi : i ∈ pcCounters)
    {val : Nat} :
    (∃ text ∈ found.texts, madFieldName text.field = madFieldName i ∧ text.val = val) ↔
      ∃ j ∈ pcCounters, options.suppress j = false ∧
        madFieldName (if caps.addlPortCtrsExt then checkedField options j else j) =
          madFieldName i ∧
        val = counterVal caps pc pce j (checkedField options j) ∧
        options.exceedsThreshold (checkedField options j) val = true := by
  constructor
  · rintro ⟨text, htext, hname, hval⟩
    have hchecked : ∃ j e, (j ∈ pcCounters ∧ options.suppress j = false ∧
        e = checkedField options j) ∧ compared options caps pc pce (j, e) = some text := by
      rw [checkResults_texts h, List.mem_append, List.mem_flatMap] at htext
      rcases htext with ⟨v, hv, hfound⟩ | hwait
      · exact ⟨v.1, v.2, checked_iff.mp (.inl hv), (findings_named hi _ hname).mp hfound⟩
      · split at hwait
        · cases hwait
        · next hsuppress =>
            exact ⟨_, _, checked_iff.mp (.inr ⟨rfl, Bool.eq_false_iff.mpr hsuppress⟩),
              Option.mem_toList.mp hwait⟩
    obtain ⟨j, e, ⟨hj, hsuppress, rfl⟩, hcompared⟩ := hchecked
    exact ⟨j, hj, hsuppress, (compared_named hpce).mp ⟨text, hcompared, hname, hval⟩⟩
  · rintro ⟨j, hj, hsuppress, hcompared⟩
    obtain ⟨text, htext, hname, hval⟩ := (compared_named hpce).mpr hcompared
    refine ⟨text, ?_, hname, hval⟩
    rw [checkResults_texts h, List.mem_append, List.mem_flatMap]
    rcases checked_iff.mpr ⟨hj, hsuppress, rfl⟩ with hv | ⟨hwait, hnot⟩
    · exact .inl ⟨_, hv, (findings_named hi _ hname).mpr htext⟩
    · right
      rw [if_neg (Bool.eq_false_iff.mp hnot), ← hwait, htext]
      exact List.mem_singleton_self text

theorem mem_pcCounters {i : Nat} :
    i ∈ pcCounters ↔ (ibPcErrSym ≤ i ∧ i ≤ ibPcVl15Dropped ∧ i ≠ ibPcCounterSelect2) ∨
      i = ibPcXmtWait := by
  rw [pcCounters, List.mem_append, List.mem_filter, List.mem_range'_1, List.mem_singleton,
    decide_eq_true_eq]
  simp only [ibPcErrSym, ibPcVl15Dropped]
  omega

/-- With CounterSelect2 suppressed, the counters after it are compared with the next threshold. -/
theorem checkedField_eq {i : Nat} (hi : i ∈ pcCounters) :
    checkedField options i =
      if options.suppress ibPcCounterSelect2 = true ∧ ibPcCounterSelect2 < i ∧ i ≤ ibPcVl15Dropped
      then namedField i + 1 else namedField i := by
  unfold checkedField namedField
  by_cases hwait : i = ibPcXmtWait
  · rw [if_pos hwait, if_pos hwait, if_neg]
    rw [hwait]
    exact fun h => absurd h.2.2 (by decide)
  · obtain ⟨-, hlast, hne⟩ := (mem_pcCounters.mp hi).resolve_right hwait
    rw [if_neg hwait, if_neg hwait]
    rcases Nat.lt_or_gt_of_ne hne with hlt | hgt
    · rw [thresholdField_of_le hlt.le, if_pos hlt, if_neg fun h => absurd h.2.1 hlt.asymm]
    · rw [if_neg hgt.asymm]
      cases hselect : options.suppress ibPcCounterSelect2 with
      | false =>
          rw [thresholdField_of_gt hgt hselect, if_neg fun h => Bool.false_ne_true h.1]
          omega
      | true => rw [thresholdField_of_suppressed i hselect, if_pos ⟨rfl, hgt, hlast⟩]

/-- In PortCounters mode, a counter that is compared with the threshold of the next field comes to
the same as with its own. -/
def SameVerdicts (options : ErrorOptions) (pc : Bytes) : Prop :=
  ∀ i, ibPcCounterSelect2 < i → i ≤ ibPcVl15Dropped → options.suppress i = false →
    options.exceedsThreshold (namedField i + 1) (decodedUint pc i) =
      options.exceedsThreshold (namedField i) (decodedUint pc i)

/-- Among the extended counters, each of the last four that is over its threshold is reported in
the place of the one before it in PortCounters, or is not to be reported at all. -/
structure SameReports (options : ErrorOptions) (ext : Bytes) : Prop where
  localInteg : options.exceedsThreshold ibPcExtErrLocalInteg
    (decodedUint ext ibPcExtErrLocalInteg) = true → options.suppress ibPcErrLocalInteg = true
  excessOvr : options.exceedsThreshold ibPcExtErrExcessOvr
    (decodedUint ext ibPcExtErrExcessOvr) = true →
      options.suppress ibPcErrLocalInteg = options.suppress ibPcErrExcessOvr
  vl15Dropped : options.exceedsThreshold ibPcExtVl15Dropped
    (decodedUint ext ibPcExtVl15Dropped) = true →
      options.suppress ibPcErrExcessOvr = options.suppress ibPcVl15Dropped
  xmtWait : options.exceedsThreshold ibPcExtXmtWait (decodedUint ext ibPcExtXmtWait) = true →
    options.suppress ibPcXmtWait = true → options.suppress ibPcVl15Dropped = true

theorem reportsByName_iff_of_pc (h : options.checkResults query caps pc pce = .ok found)
    (haddl : caps.addlPortCtrsExt = false) :
    ReportsByName options caps pc pce found.texts ↔
      (options.suppress ibPcCounterSelect2 = true → SameVerdicts options pc) := by
  have hpce : caps.addlPortCtrsExt = true → pce.isSome = true := fun h =>
    absurd (haddl.symm.trans h) (by decide)
  have hval : ∀ i e, counterVal caps pc pce i e = decodedUint pc i := by
    intro i e
    rw [counterVal, haddl]
    rfl
  have hreported : ∀ i ∈ pcCounters, ∀ val,
      (∃ text ∈ found.texts, madFieldName text.field = madFieldName i ∧ text.val = val) ↔
        options.suppress i = false ∧ val = decodedUint pc i ∧
          options.exceedsThreshold (checkedField options i) val = true := by
    intro i hi val
    rw [reported_iff h hpce hi]
    simp only [haddl, Bool.false_eq_true, if_false, hval]
    constructor
    · rintro ⟨j, hj, hsuppress, hname, hrest⟩
      obtain rfl : j = i := ((pcCounters_named i hi).2.2.1 j hj).mp hname
      exact ⟨hsuppress, hrest⟩
    · rintro ⟨hsuppress, hrest⟩
      exact ⟨i, hi, hsuppress, rfl, hrest⟩
  constructor
  case mp =>
    intro hreports hselect i hgt hlast hsuppress
    have hi : i ∈ pcCounters := mem_pcCounters.mpr (.inl ⟨by
      simp only [ibPcErrSym, ibPcCounterSelect2] at *
      omega, hlast, hgt.ne'⟩)
    have hboth := hreports i hi _ (pcCounters_named i hi).1
      (((pcCounters_named i hi).2.1 _ (pcCounters_named i hi).1).mpr rfl) (decodedUint pc i)
    rw [hreported i hi, hval, checkedField_eq hi, if_pos ⟨hselect, hgt, hlast⟩] at hboth
    exact Bool.eq_iff_iff.mpr (by simpa [hsuppress] using hboth)
  case mpr =>
    intro hsame i hi e he hname val
    obtain rfl := ((pcCounters_named i hi).2.1 e he).mp hname
    rw [hreported i hi, hval, checkedField_eq hi]
    split
    · next hshift =>
        obtain ⟨hselect, hgt, hlast⟩ := hshift
        refine and_congr_right fun hsuppress => and_congr_right fun hvalue => ?_
        rw [hvalue, hsame hselect i hgt hlast hsuppress]
    · rfl

theorem namedField_mem {i : Nat} (hi : i ∈ pcCounters) : namedField i ∈ pcExtCounters :=
  (pcCounters_named i hi).1

theorem checkedField_mem {i : Nat} (hi : i ∈ pcCounters) :
    checkedField options i ∈ pcExtCounters := by
  have hboth : ∀ i ∈ pcCounters, namedField i ∈ pcExtCounters ∧
      (ibPcCounterSelect2 < i ∧ i ≤ ibPcVl15Dropped → namedField i + 1 ∈ pcExtCounters) := by
    decide
  rw [checkedField_eq hi]
  split
  · next hshift => exact (hboth i hi).2 hshift.2
  · exact (hboth i hi).1

theorem namedField_inj : ∀ i ∈ pcCounters, ∀ j ∈ pcCounters, namedField j = namedField i → j = i := by
  decide

/-- With CounterSelect2 suppressed, `j` is compared with the threshold of the name of `i`. -/
def TakesPlace (i j : Nat) : Prop :=
  (i < ibPcCounterSelect2 ∧ j = i) ∨ (i = ibPcErrExcessOvr ∧ j = ibPcErrLocalInteg) ∨
    (i = ibPcVl15Dropped ∧ j = ibPcErrExcessOvr) ∨
    (i = ibPcXmtWait ∧ (j = ibPcVl15Dropped ∨ j = ibPcXmtWait))

instance (i j : Nat) : Decidable (TakesPlace i j) :=
  inferInstanceAs (Decidable (_ ∧ _ ∨ _ ∧ _ ∨ _ ∧ _ ∨ _ ∧ (_ ∨ _)))

theorem takesPlace_iff : ∀ i ∈ pcCounters, ∀ j ∈ pcCounters,
    (if ibPcCounterSelect2 < j ∧ j ≤ ibPcVl15Dropped then namedField j + 1 else namedField j) =
      namedField i ↔ TakesPlace i j := by decide

/-- Some counter that is not suppressed is compared with the threshold of the name of `i`. -/
def IsChecked (options : ErrorOptions) (i : Nat) : Prop :=
  ∃ j ∈ pcCounters, options.suppress j = false ∧ checkedField options j = namedField i

theorem isChecked_iff {i : Nat} (hi : i ∈ pcCounters)
    (hselect : options.suppress ibPcCounterSelect2 = false) :
    IsChecked options i ↔ options.suppress i = false := by
  have heq : ∀ j ∈ pcCounters, checkedField options j = namedField j := by
    intro j hj
    rw [checkedField_eq hj, if_neg fun h => Bool.false_ne_true (hselect.symm.trans h.1)]
  constructor
  · rintro ⟨j, hj, hsuppress, hfield⟩
    rw [heq j hj] at hfield
    rwa [← namedField_inj i hi j hj hfield]
  · exact fun hsuppress => ⟨i, hi, hsuppress, heq i hi⟩

theorem isChecked_iff_of_suppressed {i : Nat} (hi : i ∈ pcCounters)
    (hselect : options.suppress ibPcCounterSelect2 = true) :
    IsChecked options i ↔
      (i < ibPcCounterSelect2 ∧ options.suppress i = false) ∨
        (i = ibPcErrExcessOvr ∧ options.suppress ibPcErrLocalInteg = false) ∨
        (i = ibPcVl15Dropped ∧ options.suppress ibPcErrExcessOvr = false) ∨
        (i = ibPcXmtWait ∧
          (options.suppress ibPcVl15Dropped = false ∨ options.suppress ibPcXmtWait = false)) := by
  have heq : ∀ j ∈ pcCounters, checkedField options j = namedField i ↔ TakesPlace i j := by
    intro j hj
    rw [checkedField_eq hj]
    simp only [hselect, true_and]
    exact takesPlace_iff i hi j hj
  constructor
  · rintro ⟨j, hj, hsuppress, hfield⟩
    rcases (heq j hj).mp hfield with ⟨hlt, rfl⟩ | ⟨hexcess, rfl⟩ | ⟨hvl15, rfl⟩ | ⟨hwait, rfl | rfl⟩
    · exact .inl ⟨hlt, hsuppress⟩
    · exact .inr (.inl ⟨hexcess, hsuppress⟩)
    · exact .inr (.inr (.inl ⟨hvl15, hsuppress⟩))
    · exact .inr (.inr (.inr ⟨hwait, .inl hsuppress⟩))
    · exact .inr (.inr (.inr ⟨hwait, .inr hsuppress⟩))
  · have hback : ∀ j, j ∈ pcCounters → options.suppress j = false → TakesPlace i j →
        IsChecked options i :=
      fun j hj hsuppress hplace => ⟨j, hj, hsuppress, (heq j hj).mpr hplace⟩
    rintro (⟨hlt, hsuppress⟩ | ⟨hexcess, hsuppress⟩ | ⟨hvl15, hsuppress⟩ | ⟨hwait, hsuppress | hsuppress⟩)
    · exact hback i hi hsuppress (.inl ⟨hlt, rfl⟩)
    · exact hback _ (by decide) hsuppress (.inr (.inl ⟨hexcess, rfl⟩))
    · exact hback _ (by decide) hsuppress (.inr (.inr (.inl ⟨hvl15, rfl⟩)))
    · exact hback _ (by decide) hsuppress (.inr (.inr (.inr ⟨hwait, .inl rfl⟩)))
    · exact hback _ (by decide) hsuppress (.inr (.inr (.inr ⟨hwait, .inr rfl⟩)))

theorem reportsByName_iff_isChecked {ext : Bytes}
    (h : options.checkResults query caps pc (some ext) = .ok found)
    (haddl : caps.addlPortCtrsExt = true) :
    ReportsByName options caps pc (some ext) found.texts ↔
      ∀ i ∈ pcCounters, options.exceedsThreshold (namedField i) (decodedUint ext (namedField i)) →
        (IsChecked options i ↔ options.suppress i = false) := by
  have hval : ∀ i e, counterVal caps pc (some ext) i e = decodedUint ext e := by
    intro i e
    rw [counterVal, haddl]
    rfl
  have hreported : ∀ i ∈ pcCounters, ∀ val,
      (∃ text ∈ found.texts, madFieldName text.field = madFieldName i ∧ text.val = val) ↔
        IsChecked options i ∧ val = decodedUint ext (namedField i) ∧
          options.exceedsThreshold (namedField i) val = true := by
    intro i hi val
    rw [reported_iff h (fun _ => rfl) hi]
    simp only [haddl, if_true, hval]
    constructor
    · rintro ⟨j, hj, hsuppress, hname, hrest⟩
      have hfield := ((pcCounters_named i hi).2.1 _ (checkedField_mem hj)).mp hname
      rw [hfield] at hrest
      exact ⟨⟨j, hj, hsuppress, hfield⟩, hrest⟩
    · rintro ⟨⟨j, hj, hsuppress, hfield⟩, hrest⟩
      refine ⟨j, hj, hsuppress, ?_, hfield ▸ hrest⟩
      rw [hfield]
      exact ((pcCounters_named i hi).2.1 _ (namedField_mem hi)).mpr rfl
  constructor
  · intro hreports i hi hover
    have hboth := hreports i hi _ (namedField_mem hi)
      (((pcCounters_named i hi).2.1 _ (namedField_mem hi)).mpr rfl)
      (decodedUint ext (namedField i))
    rw [hreported i hi, hval] at hboth
    simpa [hover] using hboth
  · intro hchecked i hi e he hname val
    obtain rfl := ((pcCounters_named i hi).2.1 e he).mp hname
    rw [hreported i hi, hval]
    refine and_congr_left fun hover => hchecked i hi ?_
    rw [← hover.1]
    exact hover.2

theorem isChecked_last (hselect : options.suppress ibPcCounterSelect2 = true) :
    ¬ IsChecked options ibPcErrLocalInteg ∧
      (IsChecked options ibPcErrExcessOvr ↔ options.suppress ibPcErrLocalInteg = false) ∧
      (IsChecked options ibPcVl15Dropped ↔ options.suppress ibPcErrExcessOvr = false) ∧
      (IsChecked options ibPcXmtWait ↔
        options.suppress ibPcVl15Dropped = false ∨ options.suppress ibPcXmtWait = false) := by
  rw [isChecked_iff_of_suppressed (by decide) hselect, isChecked_iff_of_suppressed (by decide) hselect,
    isChecked_iff_of_suppressed (by decide) hselect, isChecked_iff_of_suppressed (by decide) hselect]
  simp [ibPcErrLocalInteg, ibPcCounterSelect2, ibPcErrExcessOvr, ibPcVl15Dropped, ibPcXmtWait]

theorem isChecked_first {i : Nat} (hi : i ∈ pcCounters) (hlt : i < ibPcCounterSelect2)
    (hselect : options.suppress ibPcCounterSelect2 = true) :
    IsChecked options i ↔ options.suppress i = false := by
  have hne : ∀ j, ibPcCounterSelect2 ≤ j → i ≠ j := fun j hj => (hlt.trans_le hj).ne
  rw [isChecked_iff_of_suppressed hi hselect]
  simp [hlt, hne ibPcErrExcessOvr (by decide), hne ibPcVl15Dropped (by decide),
    hne ibPcXmtWait (by decide)]

theorem pcCounters_cases : ∀ i ∈ pcCounters, i < ibPcCounterSelect2 ∨ i = ibPcErrLocalInteg ∨
    i = ibPcErrExcessOvr ∨ i = ibPcVl15Dropped ∨ i = ibPcXmtWait := by decide

theorem reportsByName_iff_of_ext {ext : Bytes}
    (h : options.checkResults query caps pc (some ext) = .ok found)
    (haddl : caps.addlPortCtrsExt = true) :
    ReportsByName options caps pc (some ext) found.texts ↔
      (options.suppress ibPcCounterSelect2 = true → SameReports options ext) := by
  rw [reportsByName_iff_isChecked h haddl]
  constructor
  case mp =>
    intro hchecked hselect
    obtain ⟨hlocal, hexcess, hvl15, hwait⟩ := isChecked_last hselect
    constructor
    case localInteg =>
      intro hover
      have hiff := hchecked ibPcErrLocalInteg (by decide) hover
      exact Bool.eq_true_of_not_eq_false fun hsuppress => hlocal (hiff.mpr hsuppress)
    case excessOvr =>
      intro hover
      have hiff := hexcess.symm.trans (hchecked ibPcErrExcessOvr (by decide) hover)
      exact Bool.eq_iff_iff.mpr (by simpa using not_congr hiff)
    case vl15Dropped =>
      intro hover
      have hiff := hvl15.symm.trans (hchecked ibPcVl15Dropped (by decide) hover)
      exact Bool.eq_iff_iff.mpr (by simpa using not_congr hiff)
    case xmtWait =>
      intro hover hsuppress
      have hiff := hwait.symm.trans (hchecked ibPcXmtWait (by decide) hover)
      rw [hsuppress] at hiff
      simpa using hiff
  case mpr =>
    intro hsame i hi hover
    cases hselect : options.suppress ibPcCounterSelect2 with
    | false => exact isChecked_iff hi hselect
    | true =>
        obtain ⟨hlocal, hexcess, hvl15, hwait⟩ := isChecked_last hselect
        have same := hsame hselect
        rcases pcCounters_cases i hi with hlt | rfl | rfl | rfl | rfl
        · exact isChecked_first hi hlt hselect
        · have hsuppress := same.localInteg hover
          simp [hlocal, hsuppress]
        · rw [hexcess, same.excessOvr hover]
        · rw [hvl15, same.vl15Dropped hover]
        · have hsuppress := same.xmtWait hover
          rw [hwait]
          cases hw : options.suppress ibPcXmtWait with
          | false => simp
          | true => simp [hsuppress hw]

/-- Only suppressing CounterSelect2 takes the two indices out of step. -/
theorem checkResults_byName_iff (hpce : caps.addlPortCtrsExt = true → pce.isSome = true) :
    (∃ found, options.checkResults query caps pc pce = .ok found ∧
        ReportsByName options caps pc pce found.texts) ↔
      (options.suppress ibPcCounterSelect2 = true →
        if caps.addlPortCtrsExt then SameReports options (pce.getD [])
        else SameVerdicts options pc) := by
  obtain ⟨found, hfound⟩ : ∃ found, options.checkResults query caps pc pce = .ok found :=
    checkResults_present hpce
  have hreports : ReportsByName options caps pc pce found.texts ↔
      (options.suppress ibPcCounterSelect2 = true →
        if caps.addlPortCtrsExt then SameReports options (pce.getD [])
        else SameVerdicts options pc) := by
    cases haddl : caps.addlPortCtrsExt with
    | false => simpa using reportsByName_iff_of_pc hfound haddl
    | true =>
        obtain ⟨ext, rfl⟩ := Option.isSome_iff_exists.mp (hpce haddl)
        simpa using reportsByName_iff_of_ext hfound haddl
  rw [← hreports]
  constructor
  · rintro ⟨found', hfound', h⟩
    rw [hfound] at hfound'
    cases hfound'
    exact h
  · exact fun h => ⟨found, hfound, h⟩

def suppressSelect : ErrorOptions := { reportEverything with suppressed := [ibPcCounterSelect2] }

theorem checkResults_byName_iff_symbolErrors :
    ∃ found, suppressSelect.checkResults (fun _ => none) ⟨0, 0⟩ symbolErrors.toList none = .ok found ∧
      ReportsByName suppressSelect ⟨0, 0⟩ symbolErrors.toList none found.texts := by
  refine (checkResults_byName_iff (by decide)).mpr fun _ i hgt hlast hsuppress => ?_
  have hi : i ∈ [ibPcErrLocalInteg, ibPcErrExcessOvr, ibPcVl15Dropped] := by
    simp only [ibPcCounterSelect2, ibPcVl15Dropped, ibPcErrLocalInteg, ibPcErrExcessOvr,
      List.mem_cons, List.not_mem_nil, or_false] at *
    omega
  clear hgt hlast hsuppress
  revert i
  decide +kernel

/-- 5 local link integrity errors, of which 10 are let through. -/
def linkErrors : Bytes := madEncodeField (List.replicate 192 0) ibPcErrLocalInteg [5, 0, 0, 0]

def letThrough : ErrorOptions := { suppressSelect with
  thresholds := madEncodeField (List.replicate 1204 0) ibPcExtErrLocalInteg [10, 0, 0, 0, 0, 0, 0, 0] }

/-- They are compared with the threshold of the buffer overruns. -/
theorem not_checkResults_byName :
    ¬ ∃ found, letThrough.checkResults (fun _ => none) ⟨0, 0⟩ linkErrors none = .ok found ∧
      ReportsByName letThrough ⟨0, 0⟩ linkErrors none found.texts := by
  rintro ⟨found, hfound, hreports⟩
  have hvalues : (letThrough.checkResults (fun _ => none) ⟨0, 0⟩ linkErrors none).toOption.map
      Findings.texts = some [⟨ibPcErrLocalInteg, 5⟩] ∧
      letThrough.exceedsThreshold ibPcExtErrLocalInteg 5 = false := by decide +kernel
  obtain ⟨hvalue, hbelow⟩ := hvalues
  rw [hfound] at hvalue
  have htext : ⟨ibPcErrLocalInteg, 5⟩ ∈ found.texts := by
    rw [Option.some.inj hvalue]
    exact List.mem_singleton_self _
  have hnamed := pcCounters_named ibPcErrLocalInteg (by decide)
  have hover := (hreports ibPcErrLocalInteg (by decide) ibPcExtErrLocalInteg (by decide)
    ((hnamed.2.1 _ (by decide)).mpr rfl) 5).mp ⟨_, htext, rfl, rfl⟩
  rw [hbelow] at hover
  exact Bool.false_ne_true hover.2.2

/-- Without the extended counters that are announced, the first comparison faults. -/
theorem checkCounters_none {fields : List Nat} {extI : Nat} (haddl : caps.addlPortCtrsExt = true) :
    options.checkCounters query caps pc none fields extI =
      if options.visits fields extI = [] then .ok ⟨[], 0⟩ else .error .nullDeref := by
  induction fields generalizing extI with
  | nil => rfl
  | cons i rest ih =>
      unfold checkCounters visits
      split
      · exact ih
      · split
        · exact ih
        · rw [checkThreshold_null haddl, if_neg (List.cons_ne_nil _ _)]
          rfl

theorem checkResults_none (haddl : caps.addlPortCtrsExt = true) :
    options.checkResults query caps pc none = .error .nullDeref ↔
      ∃ i ∈ pcCounters, options.suppress i = false := by
  unfold checkResults
  rw [checkCounters_none haddl]
  constructor
  · intro h
    split at h
    · split at h
      · cases h
      · next hsuppress => exact ⟨ibPcXmtWait, by decide, Bool.eq_false_iff.mpr hsuppress⟩
    · next hvisits =>
        obtain ⟨v, hv⟩ := List.exists_mem_of_ne_nil _ hvisits
        obtain ⟨hi, hsuppress, -⟩ := checked_iff.mp (.inl hv)
        exact ⟨v.1, hi, hsuppress⟩
  · rintro ⟨i, hi, hsuppress⟩
    rcases checked_iff.mpr ⟨hi, hsuppress, rfl⟩ with hv | ⟨-, hwait⟩
    · rw [if_neg (List.ne_nil_of_mem hv)]
      rfl
    · split
      · rw [checkThreshold_null haddl]
        simp only [hwait]
        rfl
      · rfl

/-- `print_errors` reads no counter from a null pointer. -/
def CountersPresent (options : ErrorOptions) (pma : Pma) (caps : PmCaps) (lid portnum : Nat) :
    Prop :=
  ∀ pc pce, queryCounters pma caps lid portnum = some (pc, pce) →
    options.checkResults (pma lid portnum) caps pc pce ≠ .error .nullDeref

/-- The extended counters are fetched by the bits of CapabilityMask and read by a bit of
CapabilityMask2. -/
theorem countersPresent_iff (options : ErrorOptions) (pma : Pma) (caps : PmCaps)
    (lid portnum : Nat) :
    CountersPresent options pma caps lid portnum ↔
      ¬ (caps.addlPortCtrsExt = true ∧ caps.extWidth = false ∧
        (pma lid portnum ibGsiPortCounters).isSome ∧ ∃ i ∈ pcCounters, options.suppress i = false) := by
  constructor
  · rintro hpresent ⟨haddl, hwidth, hanswer, hchecked⟩
    obtain ⟨data, hdata⟩ := Option.isSome_iff_exists.mp hanswer
    refine hpresent (clearedXmitWait caps data.toList) none ?_ ((checkResults_none haddl).mpr hchecked)
    rw [queryCounters, hdata]
    simp [hwidth]
  · intro hnot pc pce hquery hfault
    obtain ⟨haddl, rfl⟩ := checkResults_error hfault
    refine hnot ⟨haddl, ?_, ?_, (checkResults_none haddl).mp hfault⟩
    · unfold queryCounters at hquery
      split at hquery
      · cases hquery
      · split at hquery
        · obtain ⟨ext, -, hext⟩ := Option.map_eq_some_iff.mp hquery
          cases hext
        · next hwidth => exact Bool.eq_false_iff.mpr hwidth
    · unfold queryCounters at hquery
      split at hquery
      · cases hquery
      · next data hdata =>
          rw [hdata]
          rfl

/-- A ClassPortInfo with IsAdditionalPortCountersExtendedSupported and no extended width. -/
def addlOnly : PmaData := (Vector.replicate 192 0).set 7 0x40

theorem not_countersPresent :
    ¬ CountersPresent reportEverything (fun _ _ attr => if attr = ibClassPortInfo then some addlOnly
      else some (.replicate 192 0)) addlOnly.capMasks 1 1 := by
  intro hpresent
  refine hpresent (List.replicate 192 0) none ?_ ?_
  · decide +kernel
  · exact (checkResults_none (by decide +kernel)).mpr ⟨ibPcErrSym, by decide, by decide⟩

end ErrorOptions
end InfinibandDiags
