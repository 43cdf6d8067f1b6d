import InfinibandDiags.Smp.Engine

/-! Runs of the engine taken apart: a drain of the queue sends one SMP after the other, and
what every send, failed send, enqueueing and removal preserves holds after any run. -/
namespace InfinibandDiags
namespace Engine
variable {κ δ σ : Type}

/-- The id `mad_encode` uses: the SMP's own, or a new one when that is 0. -/
def drawTrid (smp : Smp κ δ) (s : TridState) : UInt64 × TridState :=
  if smp.rpc.trid = 0 then madTrid s else (smp.rpc.trid, s)

def withTrid (smp : Smp κ δ) (trid : UInt64) : Smp κ δ :=
  { smp with rpc := { smp.rpc with trid } }

/-- A send either refuses the SMP before it is encoded, or encodes it and hands it over. -/
theorem sendSmp_cases (e : Engine κ δ) (smp : Smp κ δ) :
    (∃ rc, rc ≠ 0 ∧ e.sendSmp smp = (rc, smp, e.note (.sendFailed smp rc))) ∨
    ∃ mad,
      let smp' := withTrid smp (drawTrid smp e.trids).1
      let e' : Engine κ δ := { e with trids := (drawTrid smp e.trids).2, sends := e.sends + 1 }
      madGetField64 mad 0 .madTrid = smp'.rpc.trid ∧
        ((∃ rc, rc ≠ 0 ∧ e.sendSmp smp = (rc, smp', e'.note (.sendFailed smp' rc))) ∨
          e.sendSmp smp = (0, smp', e'.note (.sent smp' mad))) := by
  unfold sendSmp
  by_cases hclass : smp.rpc.mgtclass ≠ ibSmiClass ∧ smp.rpc.mgtclass ≠ ibSmiDirectClass
  · rw [if_pos hclass]
    exact .inl ⟨-eio, by decide, rfl⟩
  · rw [if_neg hclass]
    cases hb : madBuildPkt smp.rpc smp.path none e.trids with
    | none => exact .inl ⟨-1, by decide, rfl⟩
    | some built =>
        obtain ⟨mad, rpc, trids⟩ := built
        obtain ⟨hrpc, htrid⟩ := madBuildPkt_spec hb
        obtain ⟨rfl, rfl⟩ := Prod.mk.inj hrpc
        refine .inr ⟨mad, htrid, ?_⟩
        by_cases hrc : e.umadSend e.sends < 0
        · refine .inl ⟨e.umadSend e.sends, by omega, ?_⟩
          simp only [if_pos hrc]
          rfl
        · refine .inr ?_
          simp only [if_neg hrc]
          rfl

theorem sendSmp_sent {e e' : Engine κ δ} {smp smp' : Smp κ δ}
    (h : e.sendSmp smp = (0, smp', e')) :
    ∃ mad, madGetField64 mad 0 .madTrid = smp'.rpc.trid ∧
      smp' = withTrid smp (drawTrid smp e.trids).1 ∧
      e' = { e with trids := (drawTrid smp e.trids).2, sends := e.sends + 1 }.note
        (.sent smp' mad) := by
  rcases e.sendSmp_cases smp with ⟨rc, hrc, heq⟩ | ⟨mad, htrid, ⟨rc, hrc, heq⟩ | heq⟩
  · exact absurd (congrArg Prod.fst (heq.symm.trans h)) hrc
  · exact absurd (congrArg Prod.fst (heq.symm.trans h)) hrc
  · obtain ⟨-, hrest⟩ := Prod.mk.inj (h.symm.trans heq)
    obtain ⟨rfl, rfl⟩ := Prod.mk.inj hrest
    exact ⟨mad, htrid, rfl, rfl⟩

theorem sendSmp_failed {e e' : Engine κ δ} {smp smp' : Smp κ δ} {rc : Int}
    (h : e.sendSmp smp = (rc, smp', e')) (hrc : rc ≠ 0) :
    ∃ trids sends, (trids = e.trids ∨ trids = (drawTrid smp e.trids).2) ∧ smp'.ref = smp.ref ∧
      e' = { e with trids, sends }.note (.sendFailed smp' rc) := by
  rcases e.sendSmp_cases smp with ⟨rc', _, heq⟩ | ⟨mad, _, ⟨rc', _, heq⟩ | heq⟩
  · obtain ⟨rfl, hrest⟩ := Prod.mk.inj (h.symm.trans heq)
    obtain ⟨rfl, rfl⟩ := Prod.mk.inj hrest
    exact ⟨_, _, .inl rfl, rfl, rfl⟩
  · obtain ⟨rfl, hrest⟩ := Prod.mk.inj (h.symm.trans heq)
    obtain ⟨rfl, rfl⟩ := Prod.mk.inj hrest
    exact ⟨_, _, .inr rfl, rfl, rfl⟩
  · exact absurd (congrArg Prod.fst (h.symm.trans heq)) hrc

/-- The head of the queue may be sent: it and what is left behind it. -/
structure Ready (e : Engine κ δ) (smp : Smp κ δ) (rest : List (Smp κ δ)) : Prop where
  room : clQmapCount e.smpsOnWire < e.cfg.maxSmps
  queue : e.smpQueue.toList = smp :: rest

def FullOrEmpty (e : Engine κ δ) : Prop :=
  e.cfg.maxSmps ≤ clQmapCount e.smpsOnWire ∨ e.smpQueue.toList = []

/-- What `process_smp_queue` does, with its return code. -/
inductive Drain : Int → Engine κ δ → Engine κ δ → Prop
  | stop {e} : FullOrEmpty e → Drain 0 e e
  | fail {e e' smp smp' rest rc} : Ready e smp rest →
      e.getSmp.2.sendSmp smp = (rc, smp', e') → rc ≠ 0 → Drain rc e e'
  | send {e e₁ e' smp smp' rest rc} : Ready e smp rest →
      e.getSmp.2.sendSmp smp = (0, smp', e₁) → Drain rc (e₁.putOnWire smp') e' → Drain rc e e'

theorem getSmp_of_nil {e : Engine κ δ} (h : e.smpQueue.toList = []) : e.getSmp = (none, e) := by
  simp only [getSmp, Fifo.pop_of_nil h]

theorem getSmp_of_cons {e : Engine κ δ} {smp : Smp κ δ} {rest : List (Smp κ δ)}
    (h : e.smpQueue.toList = smp :: rest) :
    e.getSmp.1 = some smp ∧ e.getSmp.2.smpQueue.toList = rest :=
  Fifo.pop_of_cons h

@[simp] theorem smpQueue_sendSmp (e : Engine κ δ) (smp : Smp κ δ) :
    (e.sendSmp smp).2.2.smpQueue = e.smpQueue := by
  rcases e.sendSmp_cases smp with ⟨rc, _, h⟩ | ⟨mad, _, ⟨rc, _, h⟩ | h⟩ <;> rw [h] <;> rfl

@[simp] theorem smpQueue_putOnWire (e : Engine κ δ) (smp : Smp κ δ) :
    (e.putOnWire smp).smpQueue = e.smpQueue := by
  unfold putOnWire
  dsimp only
  split <;> rfl

theorem putOnWire_cases (e : Engine κ δ) (smp : Smp κ δ) :
    (wireKey smp ∈ e.smpsOnWire ∧
      e.putOnWire smp = { e with totalSmps := e.totalSmps + 1 }.note (.dropped smp)) ∨
    (wireKey smp ∉ e.smpsOnWire ∧
      e.putOnWire smp = { e with
        smpsOnWire := clQmapInsert e.smpsOnWire (wireKey smp) smp
        totalSmps := e.totalSmps + 1 }) := by
  unfold putOnWire
  by_cases hk : wireKey smp ∈ e.smpsOnWire
  · refine .inl ⟨hk, ?_⟩
    simp only [if_pos hk, clQmapInsert]
  · refine .inr ⟨hk, ?_⟩
    simp only [if_neg hk]

theorem takeReply_eq_some {e e' : Engine κ δ} {smp : Smp κ δ} {r : Recv} :
    e.takeReply r = some (smp, e') ↔
      let trid := (madGetField64 r.mad 0 .madTrid).toUInt32
      e.smpsOnWire.lookup trid = some smp ∧
        e' = { e with smpsOnWire := e.smpsOnWire.erase trid }.note (.answered smp) := by
  simp only [takeReply, Option.map_eq_some_iff, Prod.mk.injEq]
  constructor
  · rintro ⟨smp', h, rfl, rfl⟩
    exact ⟨h, rfl⟩
  · rintro ⟨h, rfl⟩
    exact ⟨smp, h, rfl, rfl⟩

theorem processSmpQueueLoop_drain {fuel : Nat} {e : Engine κ δ}
    (hfuel : e.smpQueue.toList.length ≤ fuel) :
    Drain (processSmpQueueLoop fuel e).1 e (processSmpQueueLoop fuel e).2 := by
  induction fuel generalizing e with
  | zero => exact .stop (.inr (List.length_eq_zero_iff.mp (Nat.le_zero.mp hfuel)))
  | succ fuel ih =>
      unfold processSmpQueueLoop
      by_cases hroom : clQmapCount e.smpsOnWire < e.cfg.maxSmps
      · rw [if_pos hroom]
        cases hq : e.smpQueue.toList with
        | nil =>
            rw [getSmp_of_nil hq]
            exact .stop (.inr hq)
        | cons smp rest =>
            have hready : Ready e smp rest := ⟨hroom, hq⟩
            obtain ⟨hhead, hrest⟩ := getSmp_of_cons hq
            have hpair : e.getSmp = (some smp, e.getSmp.2) := Prod.ext hhead rfl
            rw [hpair]
            dsimp only
            have hlen : (e.getSmp.2.sendSmp smp).2.2.smpQueue.toList.length ≤ fuel := by
              rw [smpQueue_sendSmp, hrest]
              rw [hq] at hfuel
              exact Nat.le_of_succ_le_succ hfuel
            by_cases hrc : (e.getSmp.2.sendSmp smp).1 = 0
            · simp only [hrc, ne_eq, not_true_eq_false, if_false]
              refine .send hready (Prod.ext hrc rfl) (ih ?_)
              rwa [smpQueue_putOnWire]
            · simp only [ne_eq, hrc, not_false_eq_true, if_true]
              exact .fail hready rfl hrc
      · rw [if_neg hroom]
        exact .stop (.inl (Nat.le_of_not_lt hroom))

theorem processSmpQueue_drain (e : Engine κ δ) :
    Drain e.processSmpQueue.1 e e.processSmpQueue.2 :=
  processSmpQueueLoop_drain (Nat.le_refl _)

/-- A property that issuing SMPs and sending them do not destroy. -/
structure Internal (P : Engine κ δ → Prop) : Prop where
  enqueue : ∀ {e} req, P e → P (e.enqueue req)
  sendFails : ∀ {e e' smp smp' rest rc}, P e → Ready e smp rest →
    e.getSmp.2.sendSmp smp = (rc, smp', e') → rc ≠ 0 → P e'
  send : ∀ {e e' smp smp' rest}, P e → Ready e smp rest →
    e.getSmp.2.sendSmp smp = (0, smp', e') → P (e'.putOnWire smp')

/-- A property that no primitive of the engine destroys. -/
structure Stable (P : Engine κ δ → Prop) : Prop extends Internal P where
  takeReply : ∀ {e e' smp r}, P e → e.takeReply r = some (smp, e') → P e'
  called : ∀ {e} smp mad, P e → P (e.note (.called smp mad))

/-- The engines in which `issue_smp` or `process_one_recv` has returned, in a callback or not. -/
inductive Reachable (H : Handlers κ δ σ) (e₀ : Engine κ δ) : Engine κ δ → Prop
  | init : Reachable H e₀ e₀
  | issue {e} (req) : Reachable H e₀ e → Reachable H e₀ (e.issueSmp req).2
  | recv {e s r rc e' s'} : Reachable H e₀ e →
      processOneRecv H e s r = .ok (rc, e', s') → Reachable H e₀ e'
  | insideCallback {e s r smp e₁ e'} : Reachable H e₀ e → 0 ≤ r.rc →
      e.takeReply r = some (smp, e₁) → e₁.processSmpQueue.1 = 0 →
      e' ∈ (handler H smp r s).visits (e₁.processSmpQueue.2.beginCallback smp r) →
      Reachable H e₀ e'

namespace Internal
variable {P : Engine κ δ → Prop} {e e' : Engine κ δ}

theorem drain (hP : Internal P) {rc : Int} (hd : Drain rc e e') (he : P e) : P e' := by
  induction hd with
  | stop => exact he
  | fail hready hsend hrc => exact hP.sendFails he hready hsend hrc
  | send hready hsend _ ih => exact ih (hP.send he hready hsend)

theorem issueSmp (hP : Internal P) (req : Request κ δ) (he : P e) : P (e.issueSmp req).2 :=
  hP.drain (processSmpQueue_drain _) (hP.enqueue req he)

theorem exec (hP : Internal P) {prog : Prog κ δ σ} {rc : Int} {s : σ} (he : P e)
    (h : prog.exec e = .ok (rc, e', s)) : P e' := by
  induction prog generalizing e with
  | done rc₀ s₀ =>
      simp only [Prog.exec, Except.ok.injEq, Prod.mk.injEq] at h
      obtain ⟨-, rfl, -⟩ := h
      exact he
  | fault f => cases h
  | issue req next ih => exact ih _ (hP.issueSmp req he) h

theorem visits (hP : Internal P) {prog : Prog κ δ σ} (he : P e) (h : e' ∈ prog.visits e) :
    P e' := by
  induction prog generalizing e with
  | done rc₀ s₀ => cases h
  | fault f => cases h
  | issue req next ih =>
      rcases List.mem_cons.mp h with rfl | h
      · exact hP.issueSmp req he
      · exact ih _ (hP.issueSmp req he) h

end Internal

/-- The ways `process_one_recv` ends: nothing removed, a failed drain, or a callback. -/
theorem processOneRecv_cases {H : Handlers κ δ σ} {e e' : Engine κ δ} {s s' : σ} {r : Recv}
    {rc : Int} (h : processOneRecv H e s r = .ok (rc, e', s')) :
    (rc = -1 ∧ e' = e ∧ s' = s ∧ (0 ≤ r.rc → e.takeReply r = none)) ∨
    ∃ smp e₁, 0 ≤ r.rc ∧ e.takeReply r = some (smp, e₁) ∧
      ((rc ≠ 0 ∧ e₁.processSmpQueue = (rc, e') ∧ s' = s) ∨
        (e₁.processSmpQueue.1 = 0 ∧ (handler H smp r s).exec
          (e₁.processSmpQueue.2.beginCallback smp r) = .ok (rc, e', s'))) := by
  unfold processOneRecv at h
  by_cases hr : r.rc < 0
  · rw [if_pos hr] at h
    obtain ⟨rfl, rfl, rfl⟩ := by simpa using h
    exact .inl ⟨rfl, rfl, rfl, fun h0 => absurd hr (Int.not_lt.mpr h0)⟩
  · rw [if_neg hr] at h
    cases htake : e.takeReply r with
    | none =>
        rw [htake] at h
        obtain ⟨rfl, rfl, rfl⟩ := by simpa using h
        exact .inl ⟨rfl, rfl, rfl, fun _ => rfl⟩
    | some taken =>
        obtain ⟨smp, e₁⟩ := taken
        rw [htake] at h
        refine .inr ⟨smp, e₁, Int.not_lt.mp hr, rfl, ?_⟩
        dsimp only at h
        by_cases hrc : e₁.processSmpQueue.1 = 0
        · rw [if_neg (not_not_intro hrc)] at h
          exact .inr ⟨hrc, h⟩
        · rw [if_pos hrc] at h
          obtain ⟨rfl, rfl, rfl⟩ := by simpa using h
          exact .inl ⟨hrc, rfl, rfl⟩

namespace Stable
variable {P : Engine κ δ → Prop} {e e' : Engine κ δ}

theorem beginCallback (hP : Stable P) (smp : Smp κ δ) (r : Recv) (he : P e) :
    P (e.beginCallback smp r) := by
  unfold Engine.beginCallback
  split
  · exact hP.called smp r.mad he
  · exact he

theorem processOneRecv (hP : Stable P) {H : Handlers κ δ σ} {s s' : σ} {r : Recv} {rc : Int}
    (he : P e) (h : processOneRecv H e s r = .ok (rc, e', s')) : P e' := by
  rcases processOneRecv_cases h with ⟨-, rfl, -⟩ | ⟨smp, e₁, -, htake, hcase⟩
  · exact he
  · have h₁ := hP.drain (processSmpQueue_drain e₁) (hP.takeReply he htake)
    rcases hcase with ⟨-, heq, -⟩ | ⟨-, hexec⟩
    · rw [heq] at h₁
      exact h₁
    · exact hP.exec (hP.beginCallback smp r h₁) hexec

theorem reachable (hP : Stable P) {H : Handlers κ δ σ} (he : P e) (h : Reachable H e e') :
    P e' := by
  induction h with
  | init => exact he
  | issue req _ ih => exact hP.issueSmp req ih
  | recv _ hrecv ih => exact hP.processOneRecv ih hrecv
  | insideCallback _ _ htake _ hmem ih =>
      have h₁ := hP.drain (processSmpQueue_drain _) (hP.takeReply ih htake)
      exact hP.visits (hP.beginCallback _ _ h₁) hmem

theorem processMads (hP : Stable P) {H : Handlers κ δ σ} {s s' : σ} {rs : List Recv}
    {res : Option Int} (he : P e) (h : processMads H e s rs = .ok (res, e', s')) : P e' := by
  induction rs generalizing e s with
  | nil =>
      obtain ⟨-, rfl, -⟩ := by simpa [Engine.processMads] using h
      exact he
  | cons r rs ih =>
      unfold Engine.processMads at h
      split at h
      · obtain ⟨-, rfl, -⟩ := by simpa using h
        exact he
      · split at h
        · cases h
        · next rc e₁ s₁ hone =>
            have h₁ := hP.processOneRecv he hone
            split at h
            · obtain ⟨-, rfl, -⟩ := by simpa using h
              exact h₁
            · exact ih h₁ h

end Stable
end Engine
end InfinibandDiags
