import Mathlib.Data.Multiset.AddSub
import InfinibandDiags.Smp.Invariant

/-! What the callers of the engine see: a bag of requests. Issuing adds to it, a reply takes
its request out, and the engine itself loses a request only when a send fails or a
transaction id is still in use. -/
namespace InfinibandDiags

section Lossy
variable {κ δ : Type}

def Smp.request (smp : Smp κ δ) : Request κ δ :=
  ⟨smp.path, smp.rpc.attrId, smp.rpc.attrMod, smp.cb, smp.cbData⟩

/-- The events in which an SMP is lost. -/
def Event.isLoss : Event κ δ → Bool
  | .sendFailed _ _ => true
  | .dropped _ => true
  | _ => false

end Lossy

namespace Engine
variable {κ δ σ : Type}

def noLoss (e : Engine κ δ) : Prop := e.log.any Event.isLoss = false

instance (e : Engine κ δ) : Decidable (noLoss e) := inferInstanceAs (Decidable (_ = _))

/-- The requests that are queued or on the wire. -/
def pending (e : Engine κ δ) : Multiset (Request κ δ) :=
  ((e.smpQueue.toList.map Smp.request : List (Request κ δ)) : Multiset (Request κ δ)) +
    (e.onWire.map Smp.request : List (Request κ δ))

variable {e e' : Engine κ δ} {smp smp' : Smp κ δ} {rest : List (Smp κ δ)} {rc : Int}

theorem noLoss_of_subset (h : noLoss e') (hsub : ∀ ev, ev ∈ e.log → ev ∈ e'.log) : noLoss e := by
  simp only [noLoss, List.any_eq_false] at h ⊢
  exact fun ev hev => h ev (hsub ev hev)

theorem not_noLoss_of_mem (ev : Event κ δ) (hev : ev ∈ e.log) (hloss : ev.isLoss = true) :
    ¬ noLoss e := by
  simp only [noLoss, List.any_eq_false]
  exact fun h => h ev hev hloss

@[simp] theorem pending_init (cfg : Config) (trids : TridState) (umadSend : Nat → Int) :
    (smpEngineInit κ δ cfg trids umadSend).pending = 0 := rfl

@[simp] theorem request_newSmp (e : Engine κ δ) (req : Request κ δ) :
    (e.newSmp req).request = req := rfl

@[simp] theorem request_withTrid (smp : Smp κ δ) (trid : UInt64) :
    (withTrid smp trid).request = smp.request := rfl

theorem pending_enqueue (e : Engine κ δ) (req : Request κ δ) :
    (e.enqueue req).pending = req ::ₘ e.pending := by
  have hwire : (e.enqueue req).onWire = e.onWire := rfl
  have hqueue : (((e.enqueue req).smpQueue.toList.map Smp.request : List _) :
      Multiset (Request κ δ)) = req ::ₘ (e.smpQueue.toList.map Smp.request : List _) := by
    rw [toList_enqueue, List.map_append, Multiset.cons_coe]
    exact Multiset.coe_eq_coe.mpr (List.perm_append_singleton _ _)
  rw [pending, hqueue, hwire, Multiset.cons_add]
  rfl

theorem pending_ready (h : Ready e smp rest) :
    e.pending = smp.request ::ₘ ((rest.map Smp.request : List _) + (e.onWire.map Smp.request : List _)) := by
  rw [pending, h.queue, List.map_cons, ← Multiset.cons_coe, Multiset.cons_add]

theorem pending_sendFails (h : Ready e smp rest) (hsend : e.getSmp.2.sendSmp smp = (rc, smp', e'))
    (hrc : rc ≠ 0) : e.pending = smp.request ::ₘ e'.pending := by
  obtain ⟨trids, sends, -, -, rfl⟩ := sendSmp_failed hsend hrc
  rw [pending_ready h]
  congr 2
  exact congrArg (fun l => ((l.map Smp.request : List _) : Multiset (Request κ δ))) h.toList.symm

/-- A send moves the request from the queue to the wire, or loses it. -/
theorem pending_send (h : Ready e smp rest) (hsend : e.getSmp.2.sendSmp smp = (0, smp', e')) :
    (e'.putOnWire smp').pending = e.pending ∨
      (e.pending = smp.request ::ₘ (e'.putOnWire smp').pending ∧ ¬ noLoss (e'.putOnWire smp')) := by
  obtain ⟨mad, -, hsmp, rfl⟩ := sendSmp_sent hsend
  have hreq : smp'.request = smp.request := by rw [hsmp]; rfl
  set e₁ : Engine κ δ := { e.getSmp.2 with
    trids := (drawTrid smp e.getSmp.2.trids).2, sends := e.getSmp.2.sends + 1 }
  have hqueue : e.getSmp.2.smpQueue.toList = rest := h.toList
  rw [pending_ready h]
  rcases putOnWire_cases (e₁.note (.sent smp' mad)) smp' with ⟨-, heq⟩ | ⟨hnew, heq⟩
  · refine .inr ⟨?_, ?_⟩
    · rw [heq]
      congr 2
      exact congrArg (fun l => ((l.map Smp.request : List _) : Multiset (Request κ δ))) hqueue.symm
    · rw [heq]
      exact not_noLoss_of_mem (.dropped smp')
        (List.mem_append_right _ (List.mem_singleton.mpr rfl)) rfl
  · refine .inl ?_
    rw [heq]
    have hwire : clQmapItems (clQmapInsert e.smpsOnWire (wireKey smp') smp') = smp' :: e.onWire :=
      clQmapItems_insert hnew
    change ((e.getSmp.2.smpQueue.toList.map Smp.request : List _) : Multiset (Request κ δ)) +
      ((clQmapItems (clQmapInsert e.smpsOnWire (wireKey smp') smp')).map Smp.request : List _) = _
    rw [hqueue, hwire, List.map_cons, hreq, ← Multiset.cons_coe, Multiset.add_cons]

theorem pending_takeReply {r : Recv} (h : e.takeReply r = some (smp, e')) :
    e.pending = smp.request ::ₘ e'.pending := by
  obtain ⟨hlook, rfl⟩ := takeReply_eq_some.mp h
  have hperm := (clQmapItems_erase hlook).map Smp.request
  rw [pending, onWire, Multiset.coe_eq_coe.mpr hperm, List.map_cons, ← Multiset.cons_coe,
    Multiset.add_cons]
  rfl

/-- Draining the queue adds nothing, and loses nothing silently. -/
theorem Drain.pending (h : Drain rc e e') :
    e'.pending ≤ e.pending ∧ (noLoss e' → e'.pending = e.pending) := by
  induction h with
  | stop => exact ⟨le_refl _, fun _ => rfl⟩
  | fail hready hsend hrc =>
      have heq := pending_sendFails hready hsend hrc
      refine ⟨heq ▸ Multiset.le_cons_self _ _, fun hok => absurd hok ?_⟩
      obtain ⟨_, _, -, -, rfl⟩ := sendSmp_failed hsend hrc
      exact not_noLoss_of_mem _ (List.mem_append_right _ (List.mem_singleton.mpr rfl)) rfl
  | send hready hsend hdrain ih =>
      rcases pending_send hready hsend with heq | ⟨heq, hloss⟩
      · rw [heq] at ih
        exact ih
      · refine ⟨ih.1.trans (heq ▸ Multiset.le_cons_self _ _), fun hok => absurd ?_ hloss⟩
        exact noLoss_of_subset hok fun ev hev => (mem_log_stable ev).drain hdrain hev

theorem pending_issueSmp (e : Engine κ δ) (req : Request κ δ) :
    (e.issueSmp req).2.pending ≤ req ::ₘ e.pending ∧
      (noLoss (e.issueSmp req).2 → (e.issueSmp req).2.pending = req ::ₘ e.pending) := by
  have h := (processSmpQueue_drain (e.enqueue req)).pending
  rw [pending_enqueue] at h
  exact h

/-- Issuing a list of SMPs whatever the return codes. -/
def issueAll (e : Engine κ δ) (reqs : List (Request κ δ)) : Engine κ δ :=
  reqs.foldl (fun e req => (e.issueSmp req).2) e

theorem exec_issueAll (rc : Int) (s : σ) (reqs : List (Request κ δ)) (e : Engine κ δ) :
    (Prog.issueAll rc s reqs).exec e = .ok (rc, e.issueAll reqs, s) := by
  induction reqs generalizing e with
  | nil => rfl
  | cons req reqs ih => exact ih _

theorem Internal.issueAll {P : Engine κ δ → Prop} (hP : Internal P) (reqs : List (Request κ δ))
    (he : P e) : P (e.issueAll reqs) := by
  induction reqs generalizing e with
  | nil => exact he
  | cons req reqs ih => exact ih (hP.issueSmp req he)

theorem pending_issueAll (e : Engine κ δ) (reqs : List (Request κ δ)) :
    (e.issueAll reqs).pending ≤ reqs + e.pending ∧
      (noLoss (e.issueAll reqs) → (e.issueAll reqs).pending = reqs + e.pending) := by
  induction reqs generalizing e with
  | nil => simp [issueAll]
  | cons req reqs ih =>
      obtain ⟨hle, heq⟩ := ih (e.issueSmp req).2
      obtain ⟨hle₁, heq₁⟩ := pending_issueSmp e req
      have hcons : ((req :: reqs : List _) : Multiset (Request κ δ)) + e.pending =
          reqs + req ::ₘ e.pending := by
        rw [← Multiset.cons_coe, Multiset.cons_add, Multiset.add_cons]
      rw [hcons]
      refine ⟨hle.trans (Multiset.add_le_add_left hle₁), fun hok => (heq hok).trans ?_⟩
      have hok₁ : noLoss (e.issueSmp req).2 := noLoss_of_subset hok fun ev hev =>
        (mem_log_stable ev).issueAll reqs hev
      rw [heq₁ hok₁]

end Engine
end InfinibandDiags
