import InfinibandDiags.Discover.Callbacks
import InfinibandDiags.Smp.Pending

/-! Runs of the scan: `ibnd_discover_fabric` issues the first NodeInfo, and every message
that arrives is handled by `process_one_recv` with the callbacks of the scan. -/
namespace InfinibandDiags
open Engine

namespace Scan

/-- What a reply does to the scan, once its SMP is off the wire. -/
def reply (scan : Scan) (smp : ScanSmp) (r : Recv) : Except Fault Outcome :=
  if r.status ≠ 0 ∨ madGetField r.mad 0 .drsmpStatus ≠ 0 then
    if smp.rpc.attrId = ibAttrMlnxExtPortInfo then scan.errorCallback smp r.mad smp.cbData
    else .ok ⟨scan, [], 0⟩
  else scan.callback smp.cb smp r.mad smp.cbData

theorem handler_eq_run (scan : Scan) (smp : ScanSmp) (r : Recv) :
    handler scanHandlers smp r scan = run (scan.reply smp r) := by
  have hnone : (Prog.done 0 scan : Prog ScanCb CbData Scan) = run (.ok ⟨scan, [], 0⟩) := rfl
  unfold handler reply
  by_cases h₁ : r.status ≠ 0
  · simp only [h₁, ne_eq, not_false_eq_true, true_or, if_true, hnone]
    split <;> rfl
  · by_cases h₂ : madGetField r.mad 0 .drsmpStatus ≠ 0
    · simp only [h₁, h₂, ne_eq, not_false_eq_true, or_true, if_true, if_false, hnone]
      split <;> rfl
    · simp only [h₁, h₂, or_self, if_false]
      rfl

end Scan

@[ext] structure ScanState where
  engine : Engine ScanCb CbData
  scan : Scan

def defaultMaxSmpOnWire : Nat := 2
def defaultTimeout : Nat := 1000
def defaultRetries : Nat := 3

/-- `set_config`. -/
def setConfig (cfg : Config) : Config :=
  { cfg with
    maxSmps := if cfg.maxSmps = 0 then defaultMaxSmpOnWire else cfg.maxSmps
    timeoutMs := if cfg.timeoutMs = 0 then defaultTimeout else cfg.timeoutMs
    retries := if cfg.retries = 0 then defaultRetries else cfg.retries }

theorem setConfig_maxSmps_pos (cfg : Config) : 0 < (setConfig cfg).maxSmps := by
  simp only [setConfig, defaultMaxSmpOnWire]
  split <;> omega

/-- The arguments of `ibnd_discover_fabric` and what it meets in its environment. -/
structure DiscoverArgs where
  origin : PortId
  cfg : Config
  selfLid : Nat
  trids : TridState
  umadSend : Nat → Int

namespace DiscoverArgs

def engineInit (args : DiscoverArgs) : Engine ScanCb CbData :=
  smpEngineInit ScanCb CbData (setConfig args.cfg) args.trids args.umadSend

def scanInit (args : DiscoverArgs) : Scan where
  selfLid := args.selfLid
  cfg := setConfig args.cfg
  initialHops := UInt32.ofNat args.origin.drpath.cnt
  fabric := allocateFabricInternal

/-- The return code of the first `query_node_info`. -/
def startRc (args : DiscoverArgs) : Int :=
  (args.engineInit.issueSmp (queryNodeInfo args.origin none)).1

/-- The state in which `process_mads` is called. -/
def start (args : DiscoverArgs) : ScanState :=
  ⟨(args.engineInit.issueSmp (queryNodeInfo args.origin none)).2, args.scanInit⟩

end DiscoverArgs

/-- The states between two messages, whatever has arrived so far. -/
inductive Reached (st₀ : ScanState) : ScanState → Prop
  | start : Reached st₀ st₀
  | recv {st : ScanState} {r rc e' scan'} : Reached st₀ st →
      processOneRecv scanHandlers st.engine st.scan r = .ok (rc, e', scan') →
      Reached st₀ ⟨e', scan'⟩

theorem processMads_reached {st₀ : ScanState} {e e' : Engine ScanCb CbData} {scan scan' : Scan}
    {rs : List Recv} {res : Option Int} (h₀ : Reached st₀ ⟨e, scan⟩)
    (h : processMads scanHandlers e scan rs = .ok (res, e', scan')) : Reached st₀ ⟨e', scan'⟩ := by
  induction rs generalizing e scan with
  | nil =>
      obtain ⟨-, rfl, rfl⟩ := by simpa [processMads] using h
      exact h₀
  | cons r rs ih =>
      unfold processMads at h
      split at h
      · obtain ⟨-, rfl, rfl⟩ := by simpa using h
        exact h₀
      · split at h
        · cases h
        · next rc e₁ s₁ hone =>
            have h₁ : Reached st₀ ⟨e₁, s₁⟩ := .recv h₀ hone
            split at h
            · obtain ⟨-, rfl, rfl⟩ := by simpa using h
              exact h₁
            · exact ih h₁ h

/-- The state after the given messages, when nothing faults. -/
def DiscoverArgs.runTo (args : DiscoverArgs) (rs : List Recv) : Option ScanState :=
  match processMads scanHandlers args.start.engine args.start.scan rs with
  | .ok (_, e, scan) => some ⟨e, scan⟩
  | .error _ => none

theorem reached_of_runTo {args : DiscoverArgs} {rs : List Recv} {st : ScanState}
    (h : args.runTo rs = some st) : Reached args.start st := by
  unfold DiscoverArgs.runTo at h
  split at h
  · next res e scan hrun =>
      rw [← Option.some.inj h]
      exact processMads_reached .start hrun
  · cases h

/-- The SMP whose reply is handled: the message matches it and the queue was drained. -/
def handledSmp (e : Engine ScanCb CbData) (r : Recv) : Option ScanSmp :=
  if r.rc < 0 then none
  else
    match e.takeReply r with
    | none => none
    | some (smp, e₁) => if e₁.processSmpQueue.1 = 0 then some smp else none

theorem handledSmp_eq_some {e : Engine ScanCb CbData} {r : Recv} {smp : ScanSmp} :
    handledSmp e r = some smp ↔
      0 ≤ r.rc ∧ ∃ e₁, e.takeReply r = some (smp, e₁) ∧ e₁.processSmpQueue.1 = 0 := by
  unfold handledSmp
  by_cases hr : r.rc < 0
  · rw [if_pos hr]
    constructor
    · exact fun h => (nomatch h)
    · exact fun h => absurd hr (Int.not_lt.mpr h.1)
  · rw [if_neg hr]
    cases htake : e.takeReply r with
    | none => simp
    | some taken =>
        obtain ⟨smp', e₁⟩ := taken
        dsimp only
        by_cases hdrain : e₁.processSmpQueue.1 = 0
        · rw [if_pos hdrain]
          constructor
          · intro h
            rw [← Option.some.inj h]
            exact ⟨Int.not_lt.mp hr, e₁, rfl, hdrain⟩
          · rintro ⟨-, e₂, heq, -⟩
            rw [(Prod.mk.inj (Option.some.inj heq)).1]
        · rw [if_neg hdrain]
          constructor
          · exact fun h => (nomatch h)
          · rintro ⟨-, e₂, heq, hdrain₂⟩
            rw [(Prod.mk.inj (Option.some.inj heq)).2] at hdrain
            exact absurd hdrain₂ hdrain

/-- One message: it matches nothing, the queue cannot be drained, or its reply is handled. -/
theorem processOneRecv_scan {e e' : Engine ScanCb CbData} {scan scan' : Scan} {r : Recv} {rc : Int}
    (h : processOneRecv scanHandlers e scan r = .ok (rc, e', scan')) :
    (handledSmp e r = none ∧ rc ≠ 0 ∧ scan' = scan ∧
      (e' = e ∨ ∃ smp e₁, e.takeReply r = some (smp, e₁) ∧ e₁.processSmpQueue = (rc, e'))) ∨
    ∃ smp e₁ out, handledSmp e r = some smp ∧ e.takeReply r = some (smp, e₁) ∧
      scan.reply smp r = .ok out ∧ rc = out.rc ∧ scan' = out.scan ∧
      e' = (e₁.processSmpQueue.2.beginCallback smp r).issueAll out.requests := by
  rcases processOneRecv_cases h with ⟨rfl, rfl, rfl, hnone⟩ | ⟨smp, e₁, hr, htake, hcase⟩
  · refine .inl ⟨?_, by decide, rfl, .inl rfl⟩
    unfold handledSmp
    split
    · rfl
    · next hr => rw [hnone (Int.not_lt.mp hr)]
  · rcases hcase with ⟨hrc, hdrain, rfl⟩ | ⟨hdrain, hexec⟩
    · refine .inl ⟨?_, hrc, rfl, .inr ⟨smp, e₁, htake, hdrain⟩⟩
      unfold handledSmp
      rw [if_neg (Int.not_lt.mpr hr), htake]
      dsimp only
      rw [hdrain]
      exact if_neg hrc
    · rw [Scan.handler_eq_run] at hexec
      cases hreply : scan.reply smp r with
      | error fault =>
          rw [hreply] at hexec
          cases hexec
      | ok out =>
          rw [hreply, Scan.run, exec_issueAll] at hexec
          obtain ⟨rfl, rfl, rfl⟩ := by simpa using hexec
          exact .inr ⟨smp, e₁, out, handledSmp_eq_some.mpr ⟨hr, e₁, htake, hdrain⟩, htake, hreply,
            rfl, rfl, rfl⟩

theorem processOneRecv_reply {e : Engine ScanCb CbData} {scan : Scan} {r : Recv} {smp : ScanSmp}
    {out : Outcome} (hsmp : handledSmp e r = some smp) (hreply : scan.reply smp r = .ok out) :
    ∃ e', processOneRecv scanHandlers e scan r = .ok (out.rc, e', out.scan) := by
  obtain ⟨hr, e₁, htake, hdrain⟩ := handledSmp_eq_some.mp hsmp
  refine ⟨(e₁.processSmpQueue.2.beginCallback smp r).issueAll out.requests, ?_⟩
  rw [processOneRecv, if_neg (Int.not_lt.mpr hr), htake]
  dsimp only
  rw [if_neg (not_not_intro hdrain), Scan.handler_eq_run, hreply, Scan.run, exec_issueAll]

theorem pending_beginCallback (e : Engine ScanCb CbData) (smp : ScanSmp) (r : Recv) :
    (e.beginCallback smp r).pending = e.pending := by
  unfold beginCallback
  split <;> rfl

theorem noLoss_beginCallback {e : Engine ScanCb CbData} {smp : ScanSmp} {r : Recv}
    (h : noLoss (e.beginCallback smp r)) : noLoss e := by
  unfold beginCallback at h
  split at h
  · exact noLoss_of_subset h fun ev hev => List.mem_append_left _ hev
  · exact h

/-- What a handled reply does to the bag of requests. -/
theorem pending_recv {e e₁ : Engine ScanCb CbData} {smp : ScanSmp} {r : Recv}
    (htake : e.takeReply r = some (smp, e₁)) (reqs : List ScanRequest) :
    let e' := (e₁.processSmpQueue.2.beginCallback smp r).issueAll reqs
    e.pending = smp.request ::ₘ e₁.pending ∧ e'.pending ≤ reqs + e₁.pending ∧
      (noLoss e' → e'.pending = reqs + e₁.pending) := by
  obtain ⟨hle, heq⟩ := (processSmpQueue_drain e₁).pending
  obtain ⟨hle', heq'⟩ := pending_issueAll (e₁.processSmpQueue.2.beginCallback smp r) reqs
  rw [pending_beginCallback] at hle' heq'
  refine ⟨pending_takeReply htake, hle'.trans (Multiset.add_le_add_left hle), fun hok => ?_⟩
  have hok₁ : noLoss e₁.processSmpQueue.2 := noLoss_beginCallback
    (noLoss_of_subset hok fun ev hev => (mem_log_stable ev).issueAll reqs hev)
  rw [heq' hok, heq hok₁]

/-- A message faults exactly when the reply it carries does. -/
theorem processOneRecv_error {e : Engine ScanCb CbData} {scan : Scan} {r : Recv} {fault : Fault} :
    processOneRecv scanHandlers e scan r = .error fault ↔
      ∃ smp, handledSmp e r = some smp ∧ scan.reply smp r = .error fault := by
  unfold processOneRecv handledSmp
  by_cases hr : r.rc < 0
  · simp [hr]
  · rw [if_neg hr, if_neg hr]
    cases htake : e.takeReply r with
    | none => simp
    | some taken =>
        obtain ⟨smp, e₁⟩ := taken
        dsimp only
        by_cases hdrain : e₁.processSmpQueue.1 = 0
        · rw [if_neg (not_not_intro hdrain), if_pos hdrain, Scan.handler_eq_run]
          cases hreply : scan.reply smp r with
          | error fault' => simp [Scan.run, Prog.exec, hreply]
          | ok out => simp [Scan.run, exec_issueAll, hreply]
        · rw [if_pos hdrain, if_neg hdrain]
          simp

/-- A condition on every reply that a run of `process_mads` handles, in the state it meets. -/
def Along (C : Scan → ScanSmp → Recv → Prop) : Engine ScanCb CbData → Scan → List Recv → Prop
  | _, _, [] => True
  | e, scan, r :: rs => clQmapCount e.smpsOnWire ≠ 0 →
      (∀ smp, handledSmp e r = some smp → C scan smp r) ∧
      ∀ e' scan', processOneRecv scanHandlers e scan r = .ok (0, e', scan') → Along C e' scan' rs

/-- The state after a message that does not end the run. -/
def nextState (e : Engine ScanCb CbData) (scan : Scan) (r : Recv) : Option ScanState :=
  match processOneRecv scanHandlers e scan r with
  | .ok (rc, e', scan') => if rc = 0 then some ⟨e', scan'⟩ else none
  | .error _ => none

theorem nextState_eq_some {e : Engine ScanCb CbData} {scan : Scan} {r : Recv} {st : ScanState} :
    nextState e scan r = some st ↔
      processOneRecv scanHandlers e scan r = .ok (0, st.engine, st.scan) := by
  unfold nextState
  cases processOneRecv scanHandlers e scan r with
  | error fault => simp
  | ok one =>
      obtain ⟨rc, e', scan'⟩ := one
      by_cases hrc : rc = 0
      · simp [hrc, ScanState.ext_iff]
      · simp [hrc]

theorem along_cons {C : Scan → ScanSmp → Recv → Prop} {e : Engine ScanCb CbData} {scan : Scan}
    {r : Recv} {rs : List Recv} :
    (clQmapCount e.smpsOnWire ≠ 0 → (∀ smp ∈ handledSmp e r, C scan smp r) ∧
      ∀ st ∈ nextState e scan r, Along C st.engine st.scan rs) ↔ Along C e scan (r :: rs) := by
  refine imp_congr_right fun _ => and_congr_right fun _ => ⟨fun h e' scan' hone => ?_, ?_⟩
  · exact h ⟨e', scan'⟩ (nextState_eq_some.mpr hone)
  · exact fun h st hst => h st.engine st.scan (nextState_eq_some.mp hst)

instance decidableAlong {C : Scan → ScanSmp → Recv → Prop}
    [∀ scan smp r, Decidable (C scan smp r)] : ∀ e scan rs, Decidable (Along C e scan rs)
  | _, _, [] => .isTrue trivial
  | _, _, _ :: rs =>
      have := fun st : ScanState => decidableAlong (C := C) st.engine st.scan rs
      decidable_of_iff _ along_cons

theorem along_mono {C : Scan → ScanSmp → Recv → Prop} (C' : Scan → ScanSmp → Recv → Prop) {st₀ st : ScanState}
    (hC : ∀ st smp r, Reached st₀ st → C st.scan smp r → C' st.scan smp r) {rs : List Recv}
    (h₀ : Reached st₀ st) (h : Along C st.engine st.scan rs) : Along C' st.engine st.scan rs := by
  induction rs generalizing st with
  | nil => trivial
  | cons r rs ih =>
      intro hwire
      obtain ⟨hhandled, hrest⟩ := h hwire
      refine ⟨fun smp hsmp => hC st smp r h₀ (hhandled smp hsmp), fun e' scan' hone => ?_⟩
      have h₁ : Reached st₀ ⟨e', scan'⟩ := .recv h₀ hone
      exact ih h₁ (hrest e' scan' hone)

/-- A property of the scan in every state that a run of `process_mads` passes through. -/
def Throughout (P : Scan → Prop) (e : Engine ScanCb CbData) (scan : Scan) (rs : List Recv) : Prop :=
  ∀ rs', rs' <+: rs → ∀ res e' scan',
    processMads scanHandlers e scan rs' = .ok (res, e', scan') → P scan'

theorem throughout_nil {P : Scan → Prop} {e : Engine ScanCb CbData} {scan : Scan} :
    Throughout P e scan [] ↔ P scan := by
  constructor
  · exact fun h => h [] (List.prefix_refl _) _ e scan rfl
  · intro h rs' hrs' res e' scan' hrun
    rw [List.prefix_nil.mp hrs'] at hrun
    obtain ⟨-, -, rfl⟩ := by simpa [processMads] using hrun
    exact h

/-- One message further: nothing more happens when the wire is empty, when the message
faults, or when it ends the run. -/
theorem throughout_cons {P : Scan → Prop} {e : Engine ScanCb CbData} {scan : Scan} {r : Recv}
    {rs : List Recv} :
    Throughout P e scan (r :: rs) ↔ P scan ∧ (clQmapCount e.smpsOnWire ≠ 0 →
      ∀ rc e' scan', processOneRecv scanHandlers e scan r = .ok (rc, e', scan') →
        if rc = 0 then Throughout P e' scan' rs else P scan') := by
  constructor
  · intro h
    refine ⟨h [] List.nil_prefix _ e scan rfl, fun hwire rc e' scan' hone => ?_⟩
    split
    · next hrc =>
        subst hrc
        intro rs' hrs' res e₂ scan₂ hrun
        refine h (r :: rs') (List.cons_prefix_cons.mpr ⟨rfl, hrs'⟩) res e₂ scan₂ ?_
        rw [processMads, if_neg hwire, hone]
        simpa using hrun
    · next hrc =>
        refine h [r] (List.cons_prefix_cons.mpr ⟨rfl, List.nil_prefix⟩) (some rc) e' scan' ?_
        rw [processMads, if_neg hwire, hone]
        simp [hrc]
  · rintro ⟨hnow, hnext⟩ rs' hrs' res e₂ scan₂ hrun
    cases rs' with
    | nil =>
        obtain ⟨-, -, rfl⟩ := by simpa [processMads] using hrun
        exact hnow
    | cons r' rs' =>
        obtain ⟨rfl, htail⟩ := List.cons_prefix_cons.mp hrs'
        rw [processMads] at hrun
        by_cases hwire : clQmapCount e.smpsOnWire = 0
        · rw [if_pos hwire] at hrun
          obtain ⟨-, -, rfl⟩ := by simpa using hrun
          exact hnow
        · rw [if_neg hwire] at hrun
          cases hone : processOneRecv scanHandlers e scan r' with
          | error fault => rw [hone] at hrun; cases hrun
          | ok one =>
              obtain ⟨rc, e', scan'⟩ := one
              have hstep := hnext hwire rc e' scan' hone
              rw [hone] at hrun
              dsimp only at hrun
              by_cases hrc : rc = 0
              · subst hrc
                rw [if_pos rfl] at hstep
                exact hstep rs' htail res e₂ scan₂ (by simpa using hrun)
              · rw [if_neg hrc] at hstep
                rw [if_pos hrc] at hrun
                obtain ⟨-, -, rfl⟩ := by simpa using hrun
                exact hstep

/-- When a condition on a reply is just what its callback needs to keep a property, the
condition along a run is just what the run needs. -/
theorem throughout_iff_along {P : Scan → Prop} {C : Scan → ScanSmp → Recv → Prop} {st₀ st : ScanState}
    (hstep : ∀ st smp r, Reached st₀ st → P st.scan → handledSmp st.engine r = some smp →
      (C st.scan smp r ↔ ∀ out, st.scan.reply smp r = .ok out → P out.scan) ∧
      (¬ C st.scan smp r → ∃ out, st.scan.reply smp r = .ok out))
    (h : Reached st₀ st) (hP : P st.scan) (rs : List Recv) :
    Throughout P st.engine st.scan rs ↔ Along C st.engine st.scan rs := by
  induction rs generalizing st with
  | nil => simp [throughout_nil, Along, hP]
  | cons r rs ih =>
      rw [throughout_cons, Along]
      refine ⟨fun hall hwire => ?_, fun hall => ⟨hP, fun hwire rc e' scan' hone => ?_⟩⟩
      · refine ⟨fun smp hsmp => ?_, fun e' scan' hone => ?_⟩
        · obtain ⟨hiff, hexists⟩ := hstep st smp r h hP hsmp
          by_contra hnot
          obtain ⟨out, hout⟩ := hexists hnot
          refine hnot (hiff.mpr fun out' hout' => ?_)
          obtain ⟨e', hone⟩ := processOneRecv_reply hsmp hout'
          have hnext := hall.2 hwire _ _ _ hone
          split at hnext
          · exact hnext [] List.nil_prefix _ e' out'.scan rfl
          · exact hnext
        · have hnext := hall.2 hwire 0 e' scan' hone
          rw [if_pos rfl] at hnext
          have hreached : Reached st₀ ⟨e', scan'⟩ := .recv h hone
          exact (ih hreached
            (hnext [] List.nil_prefix _ e' scan' rfl)).mp hnext
      · obtain ⟨hC, hrest⟩ := hall hwire
        have hP' : P scan' := by
          rcases processOneRecv_scan hone with
            ⟨-, -, rfl, -⟩ | ⟨smp, e₁, out, hsmp, -, hout, -, rfl, -⟩
          · exact hP
          · exact (hstep st smp r h hP hsmp).1.mp (hC smp hsmp) out hout
        split
        · next hrc =>
            subst hrc
            have hreached : Reached st₀ ⟨e', scan'⟩ := .recv h hone
            exact (ih hreached hP').mpr (hrest e' scan' hone)
        · exact hP'

/-- A property of the scan, given what is known of the requests that may still be answered. -/
structure ScanInvariant (P : Scan → Prop) (T : Scan → ScanRequest → Prop) : Prop where
  reply : ∀ {scan smp r out}, P scan → T scan smp.request → scan.reply smp r = .ok out →
    P out.scan ∧ (∀ t, T scan t → T out.scan t) ∧ ∀ req ∈ out.requests, T out.scan req

namespace ScanInvariant
variable {P : Scan → Prop} {T : Scan → ScanRequest → Prop} {st₀ st : ScanState}

theorem reached (hinv : ScanInvariant P T) (hP : P st₀.scan)
    (hT : ∀ t ∈ st₀.engine.pending, T st₀.scan t) (h : Reached st₀ st) :
    P st.scan ∧ ∀ t ∈ st.engine.pending, T st.scan t := by
  induction h with
  | start => exact ⟨hP, hT⟩
  | @recv st r rc e' scan' _ hrecv ih =>
      obtain ⟨ihP, ihT⟩ := ih
      rcases processOneRecv_scan hrecv with
        ⟨-, -, rfl, hcase⟩ | ⟨smp, e₁, out, -, htake, hreply, -, rfl, rfl⟩
      · refine ⟨ihP, fun t ht => ihT t ?_⟩
        rcases hcase with rfl | ⟨smp, e₁, htake, hdrain⟩
        · exact ht
        · have hle := (processSmpQueue_drain e₁).pending.1
          rw [hdrain] at hle
          rw [pending_takeReply htake]
          exact Multiset.mem_cons_of_mem (Multiset.mem_of_le hle ht)
      · have htaken := pending_takeReply htake
        have hsmp : T st.scan smp.request := ihT _ (by rw [htaken]; exact Multiset.mem_cons_self _ _)
        obtain ⟨hP', hkeep, hnew⟩ := hinv.reply ihP hsmp hreply
        refine ⟨hP', fun t ht => ?_⟩
        have hmem := Multiset.mem_of_le (pending_recv htake out.requests).2.1 ht
        rcases Multiset.mem_add.mp hmem with hreq | hold
        · exact hnew t (Multiset.mem_coe.mp hreq)
        · exact hkeep t (ihT t (by rw [htaken]; exact Multiset.mem_cons_of_mem hold))

end ScanInvariant

/-- What every reply keeps of the scan and the exact bag of requests still to be answered, a run
that loses nothing keeps. -/
theorem tasks_of_processMads {I : Scan → Multiset ScanRequest → Prop}
    {C : Scan → ScanSmp → Recv → Prop} {st₀ st : ScanState}
    (hstep : ∀ {st smp r out T}, Reached st₀ st → I st.scan (smp.request ::ₘ T) →
      C st.scan smp r → st.scan.reply smp r = .ok out → I out.scan (out.requests + T))
    {rs : List Recv} {e' : Engine ScanCb CbData} {scan' : Scan} (h₀ : Reached st₀ st)
    (hI : I st.scan st.engine.pending) (hC : Along C st.engine st.scan rs)
    (h : processMads scanHandlers st.engine st.scan rs = .ok (some 0, e', scan'))
    (hok : noLoss e') : I scan' e'.pending := by
  induction rs generalizing st with
  | nil =>
      obtain ⟨-, rfl, rfl⟩ := by simpa [processMads] using h
      exact hI
  | cons r rs ih =>
      rw [processMads] at h
      by_cases hwire : clQmapCount st.engine.smpsOnWire = 0
      · rw [if_pos hwire] at h
        obtain ⟨rfl, rfl⟩ := by simpa using h
        exact hI
      · rw [if_neg hwire] at h
        obtain ⟨hhandled, hrest⟩ := hC hwire
        cases hone : processOneRecv scanHandlers st.engine st.scan r with
        | error fault => rw [hone] at h; cases h
        | ok one =>
            obtain ⟨rc, e₁, scan₁⟩ := one
            rw [hone] at h
            dsimp only at h
            by_cases hrc : rc = 0
            · subst hrc
              rw [if_neg (not_not_intro rfl)] at h
              have h₁ : Reached st₀ ⟨e₁, scan₁⟩ := .recv h₀ hone
              refine ih h₁ ?_ (hrest e₁ scan₁ hone) h
              have hok₁ : noLoss e₁ := noLoss_of_subset hok fun ev hev =>
                (mem_log_stable ev).processMads hev h
              rcases processOneRecv_scan hone with
                ⟨-, hne, -⟩ | ⟨smp, e₂, out, hsmp, htake, hout, -, rfl, rfl⟩
              · exact absurd rfl hne
              · obtain ⟨htaken, -, heq⟩ := pending_recv htake out.requests
                rw [heq hok₁]
                exact hstep h₀ (htaken ▸ hI) (hhandled smp hsmp) hout
            · rw [if_pos hrc] at h
              exact absurd (Option.some.inj (Prod.mk.inj (Except.ok.inj h)).1) hrc

theorem pending_start (args : DiscoverArgs) :
    ∀ t ∈ args.start.engine.pending, t = queryNodeInfo args.origin none := by
  intro t ht
  have hle := (pending_issueSmp args.engineInit (queryNodeInfo args.origin none)).1
  simpa [DiscoverArgs.engineInit] using Multiset.mem_of_le hle ht

/-- The first request is the only one when `process_mads` is called. -/
theorem pending_start_eq (args : DiscoverArgs) (hok : noLoss args.start.engine) :
    args.start.engine.pending = {queryNodeInfo args.origin none} := by
  have heq := (pending_issueSmp args.engineInit (queryNodeInfo args.origin none)).2 hok
  rw [show args.start.engine.pending = _ from heq]
  rfl

end InfinibandDiags
