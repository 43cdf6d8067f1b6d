import InfinibandDiags.Smp.Correct
import InfinibandDiags.Smp.Pending

/-! Silent loss. `process_mads` ends when the wire is empty; an SMP whose send failed while a
callback was issuing it is on no list any more, and nobody has been told. -/
namespace InfinibandDiags
namespace Engine
variable {κ δ σ : Type} {H : Handlers κ δ σ} {e e' : Engine κ δ} {smp smp' : Smp κ δ}
  {rest : List (Smp κ δ)} {rc : Int}

/-- `send_smp` takes this SMP: its class is one of the two for SMPs, `mad_build_pkt` accepts
its path, and `umad_send` reports no error. -/
def SendAccepted (e : Engine κ δ) (smp : Smp κ δ) : Prop :=
  (smp.rpc.mgtclass = ibSmiClass ∨ smp.rpc.mgtclass = ibSmiDirectClass) ∧
    (madBuildPkt smp.rpc smp.path none e.trids).isSome ∧ 0 ≤ e.umadSend e.sends

/-- No SMP on the wire has the id under which this one would be put there. -/
def IdFree (e : Engine κ δ) (smp : Smp κ δ) : Prop :=
  wireKey (withTrid smp (drawTrid smp e.trids).1) ∉ e.smpsOnWire

/-- Every SMP was sent and answered, and nothing is left over. -/
structure Complete (e : Engine κ δ) : Prop where
  queue : e.smpQueue.toList = []
  wire : clQmapCount e.smpsOnWire = 0
  answered : ∀ ref ∈ e.issuedRefs, ref ∈ e.sentRefs ∧ ref ∈ e.answeredRefs

instance decidableComplete [DecidableEq κ] [DecidableEq δ] (e : Engine κ δ) : Decidable e.Complete :=
  decidable_of_iff (e.smpQueue.toList = [] ∧ clQmapCount e.smpsOnWire = 0 ∧
      ∀ ref ∈ e.issuedRefs, ref ∈ e.sentRefs ∧ ref ∈ e.answeredRefs)
    ⟨fun h => ⟨h.1, h.2.1, h.2.2⟩, fun h => ⟨h.queue, h.wire, h.answered⟩⟩

theorem sendSmp_rc (e : Engine κ δ) (smp : Smp κ δ) : (e.sendSmp smp).1 = 0 ↔ SendAccepted e smp := by
  unfold sendSmp SendAccepted
  by_cases hclass : smp.rpc.mgtclass ≠ ibSmiClass ∧ smp.rpc.mgtclass ≠ ibSmiDirectClass
  · rw [if_pos hclass]
    constructor
    · intro h
      exact absurd h (by decide : (-eio : Int) ≠ 0)
    · rintro ⟨h | h, -⟩
      · exact absurd h hclass.1
      · exact absurd h hclass.2
  · rw [if_neg hclass]
    have hsmi : smp.rpc.mgtclass = ibSmiClass ∨ smp.rpc.mgtclass = ibSmiDirectClass := by
      by_contra hnot
      rw [not_or] at hnot
      exact hclass hnot
    cases hb : madBuildPkt smp.rpc smp.path none e.trids with
    | none => simp
    | some built =>
        dsimp only
        by_cases hrc : e.umadSend e.sends < 0
        · rw [if_pos hrc]
          constructor
          · intro h
            exact absurd h (Int.ne_of_lt hrc)
          · intro h
            exact absurd h.2.2 (Int.not_le.mpr hrc)
        · rw [if_neg hrc]
          exact ⟨fun _ => ⟨hsmi, rfl, Int.not_lt.mp hrc⟩, fun _ => rfl⟩

theorem noLoss_note (ev : Event κ δ) (hlog : e'.log = e.log ++ [ev]) :
    noLoss e' ↔ noLoss e ∧ ev.isLoss = false := by
  unfold noLoss
  rw [hlog, List.any_append]
  simp

theorem noLoss_enqueue (req : Request κ δ) : noLoss (e.enqueue req) ↔ noLoss e := by
  rw [noLoss_note _ (log_enqueue e req)]
  exact ⟨And.left, fun h => ⟨h, rfl⟩⟩

theorem noLoss_takeReply {r : Recv} (h : e.takeReply r = some (smp, e')) :
    noLoss e' ↔ noLoss e := by
  rw [noLoss_note (e := e) (.answered smp) (by rw [(takeReply_eq_some.mp h).2]; rfl)]
  exact ⟨And.left, fun h => ⟨h, rfl⟩⟩

theorem noLoss_of_beginCallback {r : Recv} : noLoss (e.beginCallback smp r) ↔ noLoss e := by
  unfold beginCallback
  split
  · rw [noLoss_note (e := e) (.called smp r.mad) rfl]
    exact ⟨And.left, fun h => ⟨h, rfl⟩⟩
  · exact Iff.rfl

/-- A wire that is full or an empty queue ends a drain before it starts. -/
theorem Drain.of_fullOrEmpty (h : FullOrEmpty e) (hd : Drain rc e e') : rc = 0 ∧ e' = e := by
  have hnot : ∀ smp rest, ¬ Ready e smp rest := by
    intro smp rest hready
    rcases h with hfull | hempty
    · exact absurd hready.room (Nat.not_lt.mpr hfull)
    · rw [hready.queue] at hempty
      exact (nomatch hempty)
  cases hd with
  | stop => exact ⟨rfl, rfl⟩
  | fail hready _ _ => exact absurd hready (hnot _ _)
  | send hready _ _ => exact absurd hready (hnot _ _)

/-- The queue holds no more than the wire has room for, up to one SMP. -/
def AtMostOne (e : Engine κ δ) : Prop :=
  ∀ smp rest, Ready e smp rest → rest = [] ∨ e.cfg.maxSmps ≤ clQmapCount e.smpsOnWire + 1

/-- What sending the head of the queue leaves behind. -/
theorem send_one (hone : AtMostOne e) (hready : Ready e smp rest)
    (hsend : e.getSmp.2.sendSmp smp = (0, smp', e')) :
    (IdFree e smp → FullOrEmpty (e'.putOnWire smp') ∧ (noLoss (e'.putOnWire smp') ↔ noLoss e)) ∧
      (¬ IdFree e smp → ¬ noLoss (e'.putOnWire smp')) := by
  obtain ⟨mad, -, hsmp, rfl⟩ := sendSmp_sent hsend
  have hkey : wireKey smp' = wireKey (withTrid smp (drawTrid smp e.trids).1) := by
    rw [hsmp]
    rfl
  rcases putOnWire_cases (note _ (.sent smp' mad)) smp' with ⟨hmem, heq⟩ | ⟨hnew, heq⟩
  · rw [heq]
    refine ⟨fun hfree => absurd hmem ?_, fun _ => ?_⟩
    · rw [hkey]
      exact hfree
    · exact not_noLoss_of_mem (.dropped smp')
        (List.mem_append_right _ (List.mem_singleton.mpr rfl)) rfl
  · rw [heq]
    refine ⟨fun _ => ⟨?_, ?_⟩, fun hnot => absurd ?_ hnot⟩
    · rcases hone smp rest hready with hrest | hfull
      · refine .inr ?_
        rw [← hrest]
        exact hready.toList
      · have hcount : clQmapCount (clQmapInsert e.smpsOnWire (wireKey smp') smp') =
            clQmapCount e.smpsOnWire + 1 := by
          rw [clQmapCount_insert]
          exact if_neg hnew
        refine .inl ?_
        change e.cfg.maxSmps ≤ clQmapCount (clQmapInsert e.smpsOnWire (wireKey smp') smp')
        rw [hcount]
        exact hfull
    · have hlog : noLoss (note e (.sent smp' mad)) ↔ noLoss e ∧ _ := noLoss_note (.sent smp' mad) rfl
      exact hlog.trans ⟨And.left, fun h => ⟨h, rfl⟩⟩
    · rw [IdFree, ← hkey]
      exact hnew

theorem Drain.accepted (rest : List (Smp κ δ)) (hd : Drain 0 e e') (hready : Ready e smp rest) :
    SendAccepted e smp := by
  cases hd with
  | stop hstop =>
      exact absurd hready.room (by
        rcases hstop with hfull | hempty
        · exact Nat.not_lt.mpr hfull
        · exact absurd (hready.queue.symm.trans hempty) (List.cons_ne_nil _ _))
  | fail _ _ hrc => exact absurd rfl hrc
  | send hready₁ hsend _ =>
      have hsame := hready.queue.symm.trans hready₁.queue
      rw [(List.cons.inj hsame).1]
      exact (sendSmp_rc e.getSmp.2 _).mp (by rw [hsend])

/-- A drain with at most one SMP to send loses nothing exactly when that send is accepted
under a free id. -/
theorem noLoss_drain (hone : AtMostOne e) (hd : Drain rc e e') :
    noLoss e' ↔ noLoss e ∧ ∀ smp rest, Ready e smp rest → SendAccepted e smp ∧ IdFree e smp := by
  cases hd with
  | stop hstop =>
      refine ⟨fun h => ⟨h, fun smp rest hready => ?_⟩, And.left⟩
      rcases hstop with hfull | hempty
      · exact absurd hready.room (Nat.not_lt.mpr hfull)
      · rw [hready.queue] at hempty
        exact (nomatch hempty)
  | @fail _ _ smp smp' rest _ hready hsend hrc =>
      obtain ⟨_, _, -, -, rfl⟩ := sendSmp_failed hsend hrc
      constructor
      · intro h
        exact absurd h (not_noLoss_of_mem _ (List.mem_append_right _ (List.mem_singleton.mpr rfl)) rfl)
      · intro h
        have hacc := (sendSmp_rc e.getSmp.2 smp).mpr (h.2 smp rest hready).1
        rw [hsend] at hacc
        exact absurd hacc hrc
  | @send _ e₁ _ smp smp' rest _ hready hsend hdrain =>
      obtain ⟨hfree, hused⟩ := send_one hone hready hsend
      have hacc : SendAccepted e smp := (sendSmp_rc e.getSmp.2 smp).mp (by rw [hsend])
      constructor
      · intro h
        have hsent : noLoss (e₁.putOnWire smp') :=
          noLoss_of_subset h fun ev hev => (mem_log_stable ev).drain hdrain hev
        have hid : IdFree e smp := by
          by_contra hnot
          exact hused hnot hsent
        refine ⟨(hfree hid).2.mp hsent, fun smp₁ rest₁ hready₁ => ?_⟩
        have hsame : smp₁ :: rest₁ = smp :: rest := hready₁.queue.symm.trans hready.queue
        rw [(List.cons.inj hsame).1]
        exact ⟨hacc, hid⟩
      · intro h
        obtain ⟨hfull, hsent⟩ := hfree (h.2 smp rest hready).2
        rw [(hdrain.of_fullOrEmpty hfull).2]
        exact hsent.mpr h.1

/-- With a full wire or an empty queue an SMP is sent at once or waits; either way the queue
only waits behind a full wire. -/
theorem fullOrEmpty_enqueue (h : FullOrEmpty e) (req : Request κ δ) :
    AtMostOne (e.enqueue req) ∧ ∀ smp rest, Ready (e.enqueue req) smp rest →
      smp = e.newSmp req ∧ rest = [] := by
  have hhead : ∀ smp rest, Ready (e.enqueue req) smp rest → smp = e.newSmp req ∧ rest = [] := by
    intro smp rest hready
    rcases h with hfull | hempty
    · exact absurd hready.room (Nat.not_lt.mpr hfull)
    · have hqueue := hready.queue
      rw [toList_enqueue, hempty, List.nil_append] at hqueue
      obtain ⟨hsmp, hrest⟩ := List.cons.inj hqueue
      exact ⟨hsmp.symm, hrest.symm⟩
  exact ⟨fun smp rest hready => .inl (hhead smp rest hready).2, hhead⟩

theorem fullOrEmpty_issue (h : FullOrEmpty e) (req : Request κ δ) :
    FullOrEmpty (e.issueSmp req).2 := by
  have hd := processSmpQueue_drain (e.enqueue req)
  unfold issueSmp
  by_cases hrc : (e.enqueue req).processSmpQueue.1 = 0
  · exact hd.fullOrEmpty.1 hrc
  · generalize (e.enqueue req).processSmpQueue.2 = e' at hd ⊢
    generalize (e.enqueue req).processSmpQueue.1 = rc at hd hrc
    cases hd with
    | stop => exact absurd rfl hrc
    | @fail _ _ smp smp' rest _ hready hsend _ =>
        obtain ⟨_, _, -, -, rfl⟩ := sendSmp_failed hsend hrc
        refine .inr ?_
        rw [← ((fullOrEmpty_enqueue h req).2 smp rest hready).2]
        exact hready.toList
    | @send _ e₁ _ smp smp' rest _ hready hsend hdrain =>
        have hempty : (e₁.putOnWire smp').smpQueue.toList = [] := by
          obtain ⟨mad, -, -, rfl⟩ := sendSmp_sent hsend
          rw [smpQueue_putOnWire, ← ((fullOrEmpty_enqueue h req).2 smp rest hready).2]
          exact hready.toList
        exact absurd (hdrain.of_fullOrEmpty (.inr hempty)).1 hrc

/-- The sends made while this SMP is issued are accepted under a free id: that is the one of
the SMP itself, when the wire has room for it. -/
def IssuesCleanly (e : Engine κ δ) (req : Request κ δ) : Prop :=
  clQmapCount e.smpsOnWire < e.cfg.maxSmps →
    SendAccepted (e.enqueue req) (e.newSmp req) ∧ IdFree (e.enqueue req) (e.newSmp req)

theorem noLoss_issueSmp (h : FullOrEmpty e) (req : Request κ δ) :
    noLoss (e.issueSmp req).2 ↔ noLoss e ∧ IssuesCleanly e req := by
  obtain ⟨hone, hhead⟩ := fullOrEmpty_enqueue h req
  have hdrain := noLoss_drain hone (processSmpQueue_drain (e.enqueue req))
  rw [noLoss_enqueue] at hdrain
  refine hdrain.trans (and_congr_right fun _ => ?_)
  constructor
  · intro hall hroom
    refine hall (e.newSmp req) [] ⟨hroom, ?_⟩
    rcases h with hfull | hempty
    · exact absurd hroom (Nat.not_lt.mpr hfull)
    · rw [toList_enqueue, hempty, List.nil_append]
  · intro hclean smp rest hready
    rw [(hhead smp rest hready).1]
    exact hclean hready.room

end Engine

namespace Prog
variable {κ δ σ : Type}
open Engine

/-- The sends made while this callback issues its SMPs are accepted under free ids. -/
def SendsCleanly : Prog κ δ σ → Engine κ δ → Prop
  | .done _ _, _ => True
  | .fault _, _ => True
  | .issue req next, e =>
      e.IssuesCleanly req ∧ (next (e.issueSmp req).1).SendsCleanly (e.issueSmp req).2

theorem noLoss_exec {prog : Prog κ δ σ} {e e' : Engine κ δ} {rc : Int} {s : σ} (he : FullOrEmpty e)
    (h : prog.exec e = .ok (rc, e', s)) :
    FullOrEmpty e' ∧ (noLoss e' ↔ noLoss e ∧ prog.SendsCleanly e) := by
  induction prog generalizing e with
  | done rc₀ s₀ =>
      simp only [exec, Except.ok.injEq, Prod.mk.injEq] at h
      obtain ⟨-, rfl, -⟩ := h
      exact ⟨he, ⟨fun h => ⟨h, trivial⟩, And.left⟩⟩
  | fault f => cases h
  | issue req next ih =>
      obtain ⟨hfull, hiff⟩ := ih _ (fullOrEmpty_issue he req) h
      refine ⟨hfull, hiff.trans ?_⟩
      rw [noLoss_issueSmp he req, and_assoc]
      rfl

end Prog

namespace Engine
variable {κ δ σ : Type} {H : Handlers κ δ σ} {e e' : Engine κ δ} {s s' : σ} {r : Recv}

/-- What a message needs so that it loses no SMP: the SMP that takes the free place on the
wire has an id of its own, and so have those that the callback issues, all of them accepted. -/
def RecvCleanly (H : Handlers κ δ σ) (e : Engine κ δ) (s : σ) (r : Recv) : Prop :=
  ∀ smp e₁, e.takeReply r = some (smp, e₁) →
    (∀ head rest, Ready e₁ head rest → IdFree e₁ head) ∧
      (handler H smp r s).SendsCleanly (e₁.processSmpQueue.2.beginCallback smp r)

theorem noLoss_processOneRecv (he : FullOrEmpty e)
    (h : processOneRecv H e s r = .ok (0, e', s')) :
    FullOrEmpty e' ∧ (noLoss e' ↔ noLoss e ∧ RecvCleanly H e s r) := by
  rcases processOneRecv_cases h with ⟨hrc, -⟩ | ⟨smp, e₁, -, htake, hcase⟩
  · exact absurd hrc (by decide)
  · rcases hcase with ⟨hrc, -⟩ | ⟨hdrained, hexec⟩
    · exact absurd rfl hrc
    · have hd := processSmpQueue_drain e₁
      have hstop : FullOrEmpty (e₁.processSmpQueue.2.beginCallback smp r) :=
        fullOrEmpty_beginCallback smp r (hd.fullOrEmpty.1 hdrained)
      have hone : AtMostOne e₁ := by
        obtain ⟨hlook, rfl⟩ := takeReply_eq_some.mp htake
        intro head rest hready
        rcases he with hfull | hempty
        · refine .inr (hfull.trans ?_)
          rw [clQmapCount_erase hlook]
          exact Nat.le_refl _
        · exact absurd (hready.queue.symm.trans hempty) (List.cons_ne_nil _ _)
      obtain ⟨hfull, hiff⟩ := Prog.noLoss_exec hstop hexec
      refine ⟨hfull, hiff.trans ?_⟩
      rw [noLoss_of_beginCallback, noLoss_drain hone hd, noLoss_takeReply htake, and_assoc]
      refine and_congr_right fun _ => ?_
      rw [hdrained] at hd
      constructor
      · rintro ⟨hhead, hcallback⟩ smp' e₁' htake'
        obtain ⟨rfl, rfl⟩ := Prod.mk.inj (Option.some.inj (htake.symm.trans htake'))
        exact ⟨fun head rest hready => (hhead head rest hready).2, hcallback⟩
      · intro hclean
        obtain ⟨hhead, hcallback⟩ := hclean smp e₁ htake
        exact ⟨fun head rest hready => ⟨hd.accepted rest hready, hhead head rest hready⟩, hcallback⟩

/-- What a run of `process_mads` needs so that it loses no SMP, message by message. -/
def MadsCleanly (H : Handlers κ δ σ) : Engine κ δ → σ → List Recv → Prop
  | _, _, [] => True
  | e, s, r :: rs => clQmapCount e.smpsOnWire ≠ 0 → RecvCleanly H e s r ∧
      ∀ e' s', processOneRecv H e s r = .ok (0, e', s') → MadsCleanly H e' s' rs

theorem noLoss_processMads {rs : List Recv} (he : FullOrEmpty e)
    (h : processMads H e s rs = .ok (some 0, e', s')) :
    FullOrEmpty e' ∧ clQmapCount e'.smpsOnWire = 0 ∧
      (noLoss e' ↔ noLoss e ∧ MadsCleanly H e s rs) := by
  induction rs generalizing e s with
  | nil =>
      simp only [processMads, Except.ok.injEq, Prod.mk.injEq] at h
      obtain ⟨hwire, rfl, -⟩ := h
      refine ⟨he, ?_, ⟨fun h => ⟨h, trivial⟩, And.left⟩⟩
      by_contra hne
      rw [if_neg hne] at hwire
      cases hwire
  | cons r rs ih =>
      unfold processMads at h
      by_cases hwire : clQmapCount e.smpsOnWire = 0
      · rw [if_pos hwire] at h
        simp only [Except.ok.injEq, Prod.mk.injEq, true_and] at h
        obtain ⟨rfl, -⟩ := h
        exact ⟨he, hwire, ⟨fun h => ⟨h, fun hne => absurd hwire hne⟩, And.left⟩⟩
      · rw [if_neg hwire] at h
        cases hone : processOneRecv H e s r with
        | error fault => rw [hone] at h; cases h
        | ok one =>
            obtain ⟨rc, e₁, s₁⟩ := one
            rw [hone] at h
            dsimp only at h
            by_cases hrc : rc = 0
            · subst hrc
              rw [if_neg (not_not_intro rfl)] at h
              obtain ⟨hfull₁, hiff₁⟩ := noLoss_processOneRecv he hone
              obtain ⟨hfull, hempty, hiff⟩ := ih hfull₁ h
              refine ⟨hfull, hempty, hiff.trans ?_⟩
              rw [hiff₁, and_assoc]
              refine and_congr_right fun _ => ?_
              constructor
              · rintro ⟨hrecv, hrest⟩ -
                refine ⟨hrecv, fun e₂ s₂ hone₂ => ?_⟩
                obtain ⟨-, hsame⟩ := Prod.mk.inj (Except.ok.inj (hone.symm.trans hone₂))
                obtain ⟨rfl, rfl⟩ := Prod.mk.inj hsame
                exact hrest
              · intro hclean
                exact ⟨(hclean hwire).1, (hclean hwire).2 e₁ s₁ hone⟩
            · simp [hrc] at h

theorem lostRefs_eq_nil_iff : e.lostRefs = [] ↔ noLoss e := by
  unfold lostRefs noLoss
  rw [List.filterMap_eq_nil_iff, List.any_eq_false]
  refine forall₂_congr fun ev _ => ?_
  cases ev <;> simp [Event.lostRef, Event.isLoss]

theorem onWire_eq_nil (h : clQmapCount e.smpsOnWire = 0) : e.onWire = [] :=
  List.eq_nil_of_length_eq_zero ((length_clQmapItems _).trans h)

/-- Over an empty queue and an empty wire, what is complete is what lost nothing. -/
theorem complete_iff_noLoss (ha : Accounted e) (hqueue : e.smpQueue.toList = [])
    (hwire : clQmapCount e.smpsOnWire = 0) : Complete e ↔ noLoss e := by
  have hplaces := ha.conserved
  have hissued := ha.issuedInOrder
  have hq : e.queueRefs = [] := by rw [queueRefs, hqueue]; rfl
  have hw : e.wireRefs = [] := by rw [wireRefs, onWire_eq_nil hwire]; rfl
  rw [hq, hw, List.nil_append, List.nil_append] at hplaces
  rw [← lostRefs_eq_nil_iff]
  constructor
  · intro h
    refine List.eq_nil_iff_forall_not_mem.mpr fun ref hlost => ?_
    have hmem : ref ∈ e.issuedRefs := by
      rw [hissued]
      exact hplaces.mem_iff.mp (List.mem_append_left _ hlost)
    have hnodup := hplaces.nodup_iff.mpr List.nodup_range
    exact (List.nodup_append.mp hnodup).2.2 ref hlost ref (h.answered ref hmem).2 rfl
  · intro hlost
    refine ⟨hqueue, hwire, fun ref href => ⟨?_, ?_⟩⟩
    · have hok : noSendFailed e := by
        have hloss := lostRefs_eq_nil_iff.mp hlost
        simp only [noSendFailed, noLoss, List.any_eq_false] at hloss ⊢
        intro ev hev
        have hev' := hloss ev hev
        cases ev <;> simp_all [Event.isLoss, Event.isSendFailed]
      have htaken := ha.takenInOrder
      rw [hq, List.append_nil] at htaken
      rw [sentRefs_eq_takenRefs hok, htaken, ← hissued]
      exact href
    · rw [hlost, List.nil_append] at hplaces
      rw [hissued] at href
      exact hplaces.mem_iff.mpr href

theorem Complete.pending (h : Complete e) : e.pending = 0 := by
  rw [Engine.pending, h.queue, onWire_eq_nil h.wire]
  rfl

end Engine
end InfinibandDiags
