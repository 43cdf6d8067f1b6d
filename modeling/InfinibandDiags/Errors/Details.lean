import InfinibandDiags.Errors.ByName
import InfinibandDiags.Library.Sections

/-! When the details of a counter are decoded with the fields of their own attribute. -/
namespace InfinibandDiags

/-- The fields of PortXmitDiscardDetails. -/
def xmtDiscardFields : List Nat := List.range' ibPcXmtInactDisc 4

/-- The fields of PortRcvErrorDetails. -/
def rcvErrorFields : List Nat := List.range' ibPcRcvLocalPhyErr 6

def nonzeroTexts (fields : List Nat) (data : PmaData) : List CounterText :=
  (fields.map fun i => ⟨i, decodedUint data.toList i⟩).filter fun text => text.val ≠ 0

namespace ErrorOptions
variable {options : ErrorOptions} {query : Nat → Option PmaData} {caps : PmCaps} {pc : Bytes}
  {pce : Option Bytes} {found : Findings}

/-- The details of a counter, in the layout of the attribute that is queried for them. -/
def ownDetails (options : ErrorOptions) (query : Nat → Option PmaData) (i : Nat) :
    List CounterText :=
  if i = ibPcXmtDiscards ∧ options.details then
    (query ibGsiPortXmitDiscardDetails).elim [] (nonzeroTexts xmtDiscardFields)
  else if i = ibPcErrRcv ∧ options.details then
    (query ibGsiPortRcvErrorDetails).elim [] (nonzeroTexts rcvErrorFields)
  else []

/-- The texts of `print_results` with each counter followed by its own details. -/
def ownTexts (options : ErrorOptions) (query : Nat → Option PmaData) (caps : PmCaps) (pc : Bytes)
    (pce : Option Bytes) : List CounterText :=
  ((options.visits (List.range' ibPcErrSym (ibPcVl15Dropped + 1 - ibPcErrSym))
      ibPcExtErrSym).flatMap fun v =>
    ((compared options caps pc pce v).elim [] fun text => text :: ownDetails options query v.1)) ++
    if options.suppress ibPcXmtWait then []
    else (compared options caps pc pce (ibPcXmtWait, ibPcExtXmtWait)).toList

theorem nonzeroTexts_eq_nil_iff {fields : List Nat} {data : PmaData} :
    nonzeroTexts fields data = [] ↔ ∀ field ∈ fields, decodedUint data.toList field = 0 := by
  simp [nonzeroTexts, List.filter_eq_nil_iff]

theorem mem_nonzeroTexts {fields : List Nat} {data : PmaData} {text : CounterText}
    (h : text ∈ nonzeroTexts fields data) : text.field ∈ fields := by
  obtain ⟨i, hi, rfl⟩ := List.mem_map.mp (List.mem_of_mem_filter h)
  exact hi

/-- The two layouts have the same words under different names. -/
theorem nonzeroTexts_eq_iff (data : PmaData) :
    nonzeroTexts xmtDiscardFields data = nonzeroTexts rcvErrorFields data ↔
      ∀ field ∈ rcvErrorFields, decodedUint data.toList field = 0 := by
  have hapart : ∀ i ∈ xmtDiscardFields, i ∉ rcvErrorFields := by decide
  have hwords : ∀ i ∈ xmtDiscardFields, i + 5 ∈ rcvErrorFields ∧
      tableField (i + 5) = tableField i := by
    simp only [tableField_parts]
    decide +kernel
  constructor
  · intro h
    refine nonzeroTexts_eq_nil_iff.mp (List.eq_nil_iff_forall_not_mem.mpr fun text htext => ?_)
    exact hapart _ (mem_nonzeroTexts (h ▸ htext)) (mem_nonzeroTexts htext)
  · intro hzero
    rw [nonzeroTexts_eq_nil_iff.mpr hzero, nonzeroTexts_eq_nil_iff]
    intro i hi
    have hword := hzero (i + 5) (hwords i hi).1
    rw [decodedUint, (hwords i hi).2] at hword
    exact hword

/-- The attribute with the details of a counter. -/
def detailsAttr (i : Nat) : Option Nat :=
  if i = ibPcXmtDiscards then some ibGsiPortXmitDiscardDetails
  else if i = ibPcErrRcv then some ibGsiPortRcvErrorDetails else none

/-- The six words of the details are 0. -/
def NoDetails (data : PmaData) : Prop :=
  ∀ field ∈ rcvErrorFields, decodedUint data.toList field = 0

theorem queryAndDump_getD (attr first last : Nat) :
    (queryAndDump query attr first last).getD [] =
      (query attr).elim [] (nonzeroTexts (List.range' first (last - first))) := by
  rw [queryAndDump]
  cases query attr <;> rfl

/-- The details that are written, which have the layout of the other attribute. -/
theorem queryDetails_getD (i : Nat) :
    (options.queryDetails query i).getD [] =
      if i = ibPcXmtDiscards ∧ options.details then
        (query ibGsiPortXmitDiscardDetails).elim [] (nonzeroTexts rcvErrorFields)
      else if i = ibPcErrRcv ∧ options.details then
        (query ibGsiPortRcvErrorDetails).elim [] (nonzeroTexts xmtDiscardFields)
      else [] := by
  unfold queryDetails
  split
  · exact queryAndDump_getD _ _ _
  · split
    · exact queryAndDump_getD _ _ _
    · rfl

theorem reply_eq_iff (reply : Option PmaData) :
    reply.elim [] (nonzeroTexts xmtDiscardFields) = reply.elim [] (nonzeroTexts rcvErrorFields) ↔
      ∀ data, reply = some data → NoDetails data := by
  cases reply with
  | none => simp
  | some data =>
      rw [Option.elim_some, Option.elim_some, nonzeroTexts_eq_iff]
      simp [NoDetails]

theorem details_eq_iff (i : Nat) :
    (options.queryDetails query i).getD [] = ownDetails options query i ↔
      ∀ attr, detailsAttr i = some attr → options.details = true → ∀ data, query attr = some data →
        NoDetails data := by
  rw [queryDetails_getD]
  unfold ownDetails detailsAttr
  by_cases hdetails : options.details = true
  · by_cases hdiscards : i = ibPcXmtDiscards
    · simp only [hdiscards, hdetails, and_self, if_true, Option.some.injEq, forall_const,
        forall_eq', eq_comm.trans (reply_eq_iff _)]
    · by_cases hrcv : i = ibPcErrRcv
      · have hne : ibPcErrRcv ≠ ibPcXmtDiscards := by decide
        simp only [hrcv, hne, hdetails, false_and, and_self, if_true, if_false, Option.some.injEq,
          forall_const, forall_eq', reply_eq_iff]
      · simp [hdiscards, hrcv]
  · simp [hdetails]

theorem findings_texts (i : Nat) (t : Option CounterText) :
    (options.findings query i t).texts =
      t.elim [] fun text => text :: (options.queryDetails query i).getD [] := by
  cases t with
  | none => rfl
  | some text =>
      rw [findings]
      split
      · next h =>
          rw [h]
          rfl
      · next details h =>
          rw [h]
          rfl

/-- A counter that `print_results` reports. -/
def Reported (options : ErrorOptions) (caps : PmCaps) (pc : Bytes) (pce : Option Bytes) (i : Nat) :
    Prop :=
  options.suppress i = false ∧
    options.exceedsThreshold (namedField i) (counterVal caps pc pce i (namedField i)) = true

theorem compared_isSome (hpce : caps.addlPortCtrsExt = true → pce.isSome = true) (v : Nat × Nat) :
    (compared options caps pc pce v).isSome = true ↔
      options.exceedsThreshold v.2 (counterVal caps pc pce v.1 v.2) = true := by
  rw [compared_eq hpce]
  split
  · next hover => simpa using hover
  · next hover => simpa using hover

/-- The counters with details come before CounterSelect2. -/
theorem mem_visits_detailed {i attr : Nat} (hi : detailsAttr i = some attr) (e : Nat) :
    (i, e) ∈ options.visits (List.range' ibPcErrSym (ibPcVl15Dropped + 1 - ibPcErrSym))
        ibPcExtErrSym ↔ options.suppress i = false ∧ e = namedField i := by
  have hcase : i = ibPcXmtDiscards ∨ i = ibPcErrRcv := by
    unfold detailsAttr at hi
    split at hi
    · exact .inl ‹_›
    · split at hi
      · exact .inr ‹_›
      · cases hi
  have hfield : i ∈ pcCounters ∧ i ≠ ibPcXmtWait ∧ ¬ ibPcCounterSelect2 < i := by
    rcases hcase with rfl | rfl <;> decide
  have hchecked : _ ↔ i ∈ pcCounters ∧ options.suppress i = false ∧ e = checkedField options i :=
    checked_iff
  rw [checkedField_eq hfield.1, if_neg fun h => hfield.2.2 h.2.1] at hchecked
  rw [← and_iff_right hfield.1 (b := options.suppress i = false ∧ e = namedField i), ← hchecked]
  refine (or_iff_left fun h => ?_).symm
  exact hfield.2.1 (Prod.ext_iff.mp h.1).1

def isDetail (text : CounterText) : Bool := text.field ∈ List.range' ibPcXmtInactDisc 11

theorem compared_not_detail (hpce : caps.addlPortCtrsExt = true → pce.isSome = true) {v : Nat × Nat}
    (hi : v.1 ∈ pcCounters) (he : v.2 ∈ pcExtCounters) {text : CounterText}
    (h : compared options caps pc pce v = some text) : isDetail text = false := by
  have hcounter : ∀ i ∈ pcCounters ++ pcExtCounters, i ∉ List.range' ibPcXmtInactDisc 11 := by
    decide +kernel
  rw [compared_eq hpce] at h
  split at h
  · cases h
    refine decide_eq_false (hcounter _ ?_)
    rw [List.mem_append]
    split
    · exact .inr he
    · exact .inl hi
  · cases h

theorem ownDetails_detail {i : Nat} {text : CounterText}
    (h : text ∈ ownDetails options query i) : isDetail text = true := by
  have hreply : ∀ fields (reply : Option PmaData), (∀ i ∈ fields, i ∈ List.range' ibPcXmtInactDisc 11) →
      text ∈ reply.elim [] (nonzeroTexts fields) → isDetail text = true := by
    intro fields reply hfields hmem
    cases reply with
    | none => cases hmem
    | some data => exact decide_eq_true (hfields _ (mem_nonzeroTexts hmem))
  unfold ownDetails at h
  split at h
  · exact hreply _ _ (by decide) h
  · split at h
    · exact hreply _ _ (by decide) h
    · cases h

/-- The texts are right if and only if the details of every counter are. -/
theorem texts_eq_iff (hpce : caps.addlPortCtrsExt = true → pce.isSome = true)
    (h : options.checkResults query caps pc pce = .ok found) :
    found.texts = ownTexts options query caps pc pce ↔
      ∀ v ∈ options.visits (List.range' ibPcErrSym (ibPcVl15Dropped + 1 - ibPcErrSym)) ibPcExtErrSym,
        (compared options caps pc pce v).isSome = true →
          (options.queryDetails query v.1).getD [] = ownDetails options query v.1 := by
  rw [checkResults_texts h, ownTexts]
  simp only [findings_texts]
  refine Sections.write_inj isDetail _ _ _ ?_ ?_ ?_ ?_
  · intro v hv text htext
    obtain ⟨hi, he⟩ := mem_visits_counters hv
    exact compared_not_detail hpce hi he htext
  · intro v _ text htext
    cases hdetails : options.queryDetails query v.1 with
    | none =>
        rw [hdetails] at htext
        cases htext
    | some details =>
        rw [hdetails] at htext
        exact decide_eq_true (queryDetails_field hdetails htext)
  · exact fun v _ text htext => ownDetails_detail htext
  · split
    · rfl
    · cases hwait : compared options caps pc pce (ibPcXmtWait, ibPcExtXmtWait) with
      | none => rfl
      | some text =>
          have hcounter := compared_not_detail hpce (by decide) (by decide) hwait
          simp [hcounter]

/-- The details are decoded with each other's fields, which goes unnoticed where there are none. -/
theorem checkResults_ownTexts_iff (hpce : caps.addlPortCtrsExt = true → pce.isSome = true) :
    (∃ found, options.checkResults query caps pc pce = .ok found ∧
        found.texts = ownTexts options query caps pc pce) ↔
      ∀ i attr, detailsAttr i = some attr → options.details = true →
        Reported options caps pc pce i → ∀ data, query attr = some data → NoDetails data := by
  obtain ⟨found, hfound⟩ : ∃ found, options.checkResults query caps pc pce = .ok found :=
    checkResults_present hpce
  have hexists : (∃ found, options.checkResults query caps pc pce = .ok found ∧
      found.texts = ownTexts options query caps pc pce) ↔
        found.texts = ownTexts options query caps pc pce := by
    rw [hfound]
    simp
  rw [hexists, texts_eq_iff hpce hfound]
  constructor
  · intro hall i attr hi hdetails hreported
    have hvisit := (mem_visits_detailed hi _).mpr ⟨hreported.1, rfl⟩
    exact (details_eq_iff i).mp (hall _ hvisit ((compared_isSome hpce _).mpr hreported.2)) attr hi hdetails
  · rintro hnone ⟨i, e⟩ hv hcompared
    refine (details_eq_iff i).mpr fun attr hi hdetails => ?_
    obtain ⟨hsuppress, rfl⟩ := (mem_visits_detailed hi e).mp hv
    exact hnone i attr hi hdetails ⟨hsuppress, (compared_isSome hpce _).mp hcompared⟩

def withDetails : ErrorOptions := { reportEverything with details := true }

/-- One discarded packet. -/
def discards : Bytes := madEncodeField (List.replicate 192 0) ibPcXmtDiscards [1, 0, 0, 0]

theorem checkResults_ownTexts_iff_discards :
    ∃ found, withDetails.checkResults (fun _ => some (.replicate 192 0)) ⟨0, 0⟩ discards none =
        .ok found ∧
      found.texts = ownTexts withDetails (fun _ => some (.replicate 192 0)) ⟨0, 0⟩ discards none := by
  refine (checkResults_ownTexts_iff (by decide)).mpr fun i attr _ _ _ data hdata => ?_
  cases hdata
  unfold NoDetails
  decide +kernel

/-- A reply with 5 packets discarded at an inactive port. -/
def inactiveDiscards : PmaData := symbolErrors

/-- They are printed as local physical errors. -/
theorem not_checkResults_ownTexts :
    ¬ ∃ found, withDetails.checkResults (fun _ => some inactiveDiscards) ⟨0, 0⟩ discards none =
        .ok found ∧
      found.texts = ownTexts withDetails (fun _ => some inactiveDiscards) ⟨0, 0⟩ discards none := by
  rintro ⟨found, hfound, htexts⟩
  have hvalues : (withDetails.checkResults (fun _ => some inactiveDiscards) ⟨0, 0⟩ discards
      none).toOption.map Findings.texts =
        some [⟨ibPcXmtDiscards, 1⟩, ⟨ibPcRcvLocalPhyErr, 5⟩] ∧
      ownTexts withDetails (fun _ => some inactiveDiscards) ⟨0, 0⟩ discards none =
        [⟨ibPcXmtDiscards, 1⟩, ⟨ibPcXmtInactDisc, 5⟩] := by decide +kernel
  obtain ⟨hvalue, hown⟩ := hvalues
  rw [hfound, Except.toOption, Option.map_some, htexts, hown] at hvalue
  exact absurd hvalue (by decide)

end ErrorOptions
end InfinibandDiags
