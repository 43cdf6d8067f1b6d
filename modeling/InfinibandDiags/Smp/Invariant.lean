import InfinibandDiags.Smp.Steps

/-! Where every SMP is: queued, on the wire, answered or lost, in the order of issue. -/
namespace InfinibandDiags

section Refs
variable {κ δ : Type}

def Event.issuedRef : Event κ δ → Option Nat
  | .issued _ smp => some smp.ref
  | _ => none

def Event.sentRef : Event κ δ → Option Nat
  | .sent smp _ => some smp.ref
  | _ => none

/-- An SMP leaves the queue by a send or by a failed one. -/
def Event.takenRef : Event κ δ → Option Nat
  | .sent smp _ => some smp.ref
  | .sendFailed smp _ => some smp.ref
  | _ => none

def Event.lostRef : Event κ δ → Option Nat
  | .sendFailed smp _ => some smp.ref
  | .dropped smp => some smp.ref
  | _ => none

def Event.answeredRef : Event κ δ → Option Nat
  | .answered smp => some smp.ref
  | _ => none

def Event.calledRef : Event κ δ → Option Nat
  | .called smp _ => some smp.ref
  | _ => none

end Refs

namespace Engine
variable {κ δ σ : Type}

def onWire (e : Engine κ δ) : List (Smp κ δ) := clQmapItems e.smpsOnWire

def queueRefs (e : Engine κ δ) : List Nat := e.smpQueue.toList.map Smp.ref
def wireRefs (e : Engine κ δ) : List Nat := e.onWire.map Smp.ref
def issuedRefs (e : Engine κ δ) : List Nat := e.log.filterMap Event.issuedRef
def sentRefs (e : Engine κ δ) : List Nat := e.log.filterMap Event.sentRef
def takenRefs (e : Engine κ δ) : List Nat := e.log.filterMap Event.takenRef
def lostRefs (e : Engine κ δ) : List Nat := e.log.filterMap Event.lostRef
def answeredRefs (e : Engine κ δ) : List Nat := e.log.filterMap Event.answeredRef
def calledRefs (e : Engine κ δ) : List Nat := e.log.filterMap Event.calledRef

/-- Every SMP ever issued is in one place, and they leave the queue in the order of issue. -/
structure Accounted (e : Engine κ δ) : Prop where
  wireFits : clQmapCount e.smpsOnWire ≤ e.cfg.maxSmps
  issuedInOrder : e.issuedRefs = List.range e.nextRef
  takenInOrder : e.takenRefs ++ e.queueRefs = List.range e.nextRef
  conserved : (e.queueRefs ++ (e.wireRefs ++ (e.lostRefs ++ e.answeredRefs))).Perm
    (List.range e.nextRef)

/-- What is queued was issued, what is on the wire was sent, and what was sent was issued. -/
structure Traced (e : Engine κ δ) : Prop where
  keyed : ∀ {k smp}, e.smpsOnWire.lookup k = some smp → wireKey smp = k
  issued : ∀ {req smp}, Event.issued req smp ∈ e.log →
    ∃ e₀ : Engine κ δ, e₀.cfg = e.cfg ∧ smp = e₀.newSmp req
  queued : ∀ {smp}, smp ∈ e.smpQueue.toList → ∃ req, Event.issued req smp ∈ e.log
  sent : ∀ {smp mad}, Event.sent smp mad ∈ e.log →
    madGetField64 mad 0 .madTrid = smp.rpc.trid ∧
      ∃ req smp₀, Event.issued req smp₀ ∈ e.log ∧ smp = withTrid smp₀ smp.rpc.trid
  wire : ∀ {smp}, smp ∈ e.onWire → ∃ mad, Event.sent smp mad ∈ e.log

variable {e e' : Engine κ δ} {smp smp' : Smp κ δ} {rest : List (Smp κ δ)}

theorem accounted_init (cfg : Config) (trids : TridState) (umadSend : Nat → Int) :
    Accounted (smpEngineInit κ δ cfg trids umadSend) := by
  constructor <;>
    simp [smpEngineInit, onWire, queueRefs, wireRefs, issuedRefs, takenRefs, lostRefs, answeredRefs]

theorem traced_init (cfg : Config) (trids : TridState) (umadSend : Nat → Int) :
    Traced (smpEngineInit κ δ cfg trids umadSend) := by
  constructor <;> simp [smpEngineInit, onWire]

section Append
variable {ev : Event κ δ}

/-- A log that grew by one event, read through one of the projections above. -/
theorem refs_append (e' : Engine κ δ) (ev : Event κ δ) (hlog : e'.log = e.log ++ [ev])
    (f : Event κ δ → Option Nat) :
    e'.log.filterMap f = e.log.filterMap f ++ (f ev).toList := by
  rw [hlog, List.filterMap_append]
  cases h : f ev <;> simp [h]

/-- Nothing is traced anew by an event that issues and sends nothing. -/
theorem Traced.mono (h : Traced e) (ev : Event κ δ) (hlog : e'.log = e.log ++ [ev]) (hcfg : e'.cfg = e.cfg)
    (hissued : ev.issuedRef = none) (hsent : ev.sentRef = none)
    (hqueue : ∀ smp ∈ e'.smpQueue.toList, smp ∈ e.smpQueue.toList)
    (hwire : ∀ k smp, e'.smpsOnWire.lookup k = some smp → e.smpsOnWire.lookup k = some smp) :
    Traced e' := by
  have hlift : ∀ {x}, x ∈ e.log → x ∈ e'.log := fun hx => hlog ▸ List.mem_append_left _ hx
  refine ⟨fun hk => h.keyed (hwire _ _ hk), ?_, ?_, ?_, ?_⟩
  · intro req smp hmem
    rcases List.mem_append.mp (hlog ▸ hmem) with hold | hnew
    · rw [hcfg]; exact h.issued hold
    · rw [← List.mem_singleton.mp hnew] at hissued
      cases hissued
  · intro smp hmem
    obtain ⟨req, hreq⟩ := h.queued (hqueue smp hmem)
    exact ⟨req, hlift hreq⟩
  · intro smp mad hmem
    rcases List.mem_append.mp (hlog ▸ hmem) with hold | hnew
    · obtain ⟨htrid, req, smp₀, hiss, heq⟩ := h.sent hold
      exact ⟨htrid, req, smp₀, hlift hiss, heq⟩
    · rw [← List.mem_singleton.mp hnew] at hsent
      cases hsent
  · intro smp hmem
    obtain ⟨k, hk⟩ := mem_clQmapItems.mp hmem
    obtain ⟨mad, hmad⟩ := h.wire (mem_clQmapItems.mpr ⟨k, hwire _ _ hk⟩)
    exact ⟨mad, hlift hmad⟩

end Append

section Enqueue
variable (e) (req : Request κ δ)

theorem log_enqueue : (e.enqueue req).log = e.log ++ [.issued req (e.newSmp req)] := rfl

theorem toList_enqueue :
    (e.enqueue req).smpQueue.toList = e.smpQueue.toList ++ [e.newSmp req] :=
  Fifo.toList_push _ _

theorem queueRefs_enqueue : (e.enqueue req).queueRefs = e.queueRefs ++ [e.nextRef] := by
  rw [queueRefs, toList_enqueue, List.map_append]
  rfl

end Enqueue

theorem Accounted.enqueue (h : Accounted e) (req : Request κ δ) : Accounted (e.enqueue req) := by
  have hrefs := refs_append _ _ (log_enqueue e req)
  have hqueue := queueRefs_enqueue e req
  have hnext : List.range (e.enqueue req).nextRef = List.range e.nextRef ++ [e.nextRef] :=
    List.range_succ
  have hwire : (e.enqueue req).wireRefs = e.wireRefs := rfl
  refine ⟨h.wireFits, ?_, ?_, ?_⟩
  · rw [hnext, ← h.issuedInOrder, issuedRefs, hrefs]
    rfl
  · rw [hnext, ← h.takenInOrder, takenRefs, hrefs, hqueue]
    simp [takenRefs, Event.takenRef]
  · have hlost : (e.enqueue req).lostRefs = e.lostRefs := (hrefs _).trans (List.append_nil _)
    have hans : (e.enqueue req).answeredRefs = e.answeredRefs :=
      (hrefs _).trans (List.append_nil _)
    rw [hnext, hqueue, hwire, hlost, hans, List.append_assoc]
    refine .trans (.append_left _ List.perm_append_comm) ?_
    rw [← List.append_assoc]
    exact h.conserved.append_right _

theorem Traced.enqueue (h : Traced e) (req : Request κ δ) : Traced (e.enqueue req) := by
  have hlift : ∀ {x}, x ∈ e.log → x ∈ (e.enqueue req).log := fun hx => List.mem_append_left _ hx
  refine ⟨h.keyed, ?_, ?_, ?_, ?_⟩
  · intro req' smp hmem
    rcases List.mem_append.mp hmem with hold | hnew
    · exact h.issued hold
    · obtain ⟨rfl, rfl⟩ := Event.issued.inj (List.mem_singleton.mp hnew)
      exact ⟨e, rfl, rfl⟩
  · intro smp hmem
    rcases List.mem_append.mp (toList_enqueue e req ▸ hmem) with hold | hnew
    · obtain ⟨req', hreq⟩ := h.queued hold
      exact ⟨req', hlift hreq⟩
    · exact ⟨req, List.mem_append_right _ (by simp [List.mem_singleton.mp hnew])⟩
  · intro smp mad hmem
    rcases List.mem_append.mp hmem with hold | hnew
    · obtain ⟨htrid, req', smp₀, hiss, heq⟩ := h.sent hold
      exact ⟨htrid, req', smp₀, hlift hiss, heq⟩
    · cases List.mem_singleton.mp hnew
  · intro smp hmem
    obtain ⟨mad, hsent⟩ := h.wire hmem
    exact ⟨mad, hlift hsent⟩

section Send
variable {rc : Int} (hready : Ready e smp rest)
include hready

theorem Ready.queueRefs : e.queueRefs = smp.ref :: rest.map Smp.ref := by
  rw [Engine.queueRefs, hready.queue]
  rfl

theorem Ready.toList : e.getSmp.2.smpQueue.toList = rest := (getSmp_of_cons hready.queue).2

/-- A failed send forgets the head of the queue. -/
theorem Accounted.sendFails (h : Accounted e) (hsend : e.getSmp.2.sendSmp smp = (rc, smp', e'))
    (hrc : rc ≠ 0) : Accounted e' := by
  obtain ⟨trids, sends, -, href, rfl⟩ := sendSmp_failed hsend hrc
  have hrefs := refs_append (e := e)
    ({ e.getSmp.2 with trids, sends }.note (.sendFailed smp' rc)) (.sendFailed smp' rc) rfl
  have hqueue : e.getSmp.2.queueRefs = rest.map Smp.ref := congrArg _ hready.toList
  have htaken := h.takenInOrder
  have hperm := h.conserved
  rw [hready.queueRefs] at htaken hperm
  refine ⟨h.wireFits, ?_, ?_, ?_⟩
  · exact (hrefs _).trans ((List.append_nil _).trans h.issuedInOrder)
  · refine .trans ?_ htaken
    rw [takenRefs, hrefs]
    simp only [Event.takenRef, href, Option.toList_some, List.append_assoc, List.singleton_append]
    exact congrArg (fun l => e.takenRefs ++ smp.ref :: l) hqueue
  · refine .trans ?_ hperm
    rw [lostRefs, answeredRefs, hrefs, hrefs]
    simp only [Event.lostRef, Event.answeredRef, href, Option.toList_some, Option.toList_none,
      List.append_nil]
    change (e.getSmp.2.queueRefs ++ (e.wireRefs ++ (e.lostRefs ++ [smp.ref] ++ e.answeredRefs))).Perm _
    rw [hqueue]
    grind

theorem Traced.sendFails (h : Traced e) (hsend : e.getSmp.2.sendSmp smp = (rc, smp', e'))
    (hrc : rc ≠ 0) : Traced e' := by
  obtain ⟨trids, sends, -, href, rfl⟩ := sendSmp_failed hsend hrc
  refine h.mono (.sendFailed smp' rc) rfl rfl rfl rfl ?_ fun _ _ hk => hk
  intro smp₁ hmem
  rw [hready.queue]
  exact List.mem_cons_of_mem _ (hready.toList ▸ hmem)

/-- A successful send puts the head of the queue on the wire, unless its key is taken. -/
theorem Accounted.send (h : Accounted e) (hsend : e.getSmp.2.sendSmp smp = (0, smp', e')) :
    Accounted (e'.putOnWire smp') := by
  obtain ⟨mad, -, hsmp, rfl⟩ := sendSmp_sent hsend
  have href : smp'.ref = smp.ref := by rw [hsmp]; rfl
  have hqueue : e.getSmp.2.queueRefs = rest.map Smp.ref := congrArg _ hready.toList
  have htaken := h.takenInOrder
  have hperm := h.conserved
  rw [hready.queueRefs] at htaken hperm
  set e₁ : Engine κ δ := { e.getSmp.2 with
    trids := (drawTrid smp e.getSmp.2.trids).2, sends := e.getSmp.2.sends + 1 } with he₁
  have hsentRefs := refs_append (e := e) (e₁.note (.sent smp' mad)) (.sent smp' mad) rfl
  rcases putOnWire_cases (e₁.note (.sent smp' mad)) smp' with ⟨hmem, heq⟩ | ⟨hnew, heq⟩
  · rw [heq]
    set e₂ : Engine κ δ := { e₁.note (.sent smp' mad) with
      totalSmps := (e₁.note (.sent smp' mad)).totalSmps + 1 }
    have hrefs := refs_append (e := e₂) (e₂.note (.dropped smp')) (.dropped smp') rfl
    refine ⟨h.wireFits, ?_, ?_, ?_⟩
    · rw [issuedRefs, hrefs]
      exact (List.append_nil _).trans ((hsentRefs _).trans
        ((List.append_nil _).trans h.issuedInOrder))
    · refine .trans ?_ htaken
      rw [takenRefs, hrefs]
      change e₂.log.filterMap Event.takenRef ++ [] ++ e.getSmp.2.queueRefs = _
      rw [hsentRefs, hqueue]
      simp [Event.takenRef, href, takenRefs]
    · refine .trans ?_ hperm
      rw [lostRefs, answeredRefs, hrefs, hrefs]
      change (e.getSmp.2.queueRefs ++ (e.wireRefs ++ (e₂.log.filterMap Event.lostRef ++ [smp'.ref] ++
        (e₂.log.filterMap Event.answeredRef ++ [])))).Perm _
      rw [hqueue, hsentRefs, hsentRefs]
      simp only [Event.lostRef, Event.answeredRef, Option.toList_none, List.append_nil, href]
      change (_ ++ (_ ++ (e.lostRefs ++ [smp.ref] ++ e.answeredRefs))).Perm _
      grind
  · rw [heq]
    have hwire : clQmapItems (clQmapInsert e.smpsOnWire (wireKey smp') smp') = smp' :: e.onWire :=
      clQmapItems_insert hnew
    refine ⟨?_, ?_, ?_, ?_⟩
    · change clQmapCount (clQmapInsert e.smpsOnWire (wireKey smp') smp') ≤ e.cfg.maxSmps
      rw [← length_clQmapItems, hwire, List.length_cons, onWire, length_clQmapItems]
      exact hready.room
    · exact (hsentRefs _).trans ((List.append_nil _).trans h.issuedInOrder)
    · refine .trans ?_ htaken
      change (e₁.note (.sent smp' mad)).log.filterMap Event.takenRef ++ e.getSmp.2.queueRefs = _
      rw [hsentRefs, hqueue]
      simp [Event.takenRef, href, takenRefs]
    · refine .trans ?_ hperm
      change (e.getSmp.2.queueRefs ++ ((clQmapItems
        (clQmapInsert e.smpsOnWire (wireKey smp') smp')).map Smp.ref ++
          ((e₁.note (.sent smp' mad)).log.filterMap Event.lostRef ++
            (e₁.note (.sent smp' mad)).log.filterMap Event.answeredRef))).Perm _
      rw [hqueue, hwire, hsentRefs, hsentRefs, List.map_cons, href]
      simp only [Event.lostRef, Event.answeredRef, Option.toList_none, List.append_nil]
      change (_ ++ (smp.ref :: e.wireRefs ++ (e.lostRefs ++ e.answeredRefs))).Perm _
      grind

theorem Traced.send (h : Traced e) (hsend : e.getSmp.2.sendSmp smp = (0, smp', e')) :
    Traced (e'.putOnWire smp') := by
  obtain ⟨mad, htrid, hsmp, rfl⟩ := sendSmp_sent hsend
  have hhead : smp ∈ e.smpQueue.toList := by rw [hready.queue]; exact List.mem_cons_self
  set e₁ : Engine κ δ := { e.getSmp.2 with
    trids := (drawTrid smp e.getSmp.2.trids).2, sends := e.getSmp.2.sends + 1 } with he₁
  have hlift : ∀ {x}, x ∈ e.log → x ∈ (e₁.note (.sent smp' mad)).log :=
    fun hx => List.mem_append_left _ hx
  have hsent : Traced (e₁.note (.sent smp' mad)) := by
    refine ⟨h.keyed, ?_, ?_, ?_, ?_⟩
    · intro req smp₁ hmem
      rcases List.mem_append.mp hmem with hold | hnew
      · exact h.issued hold
      · cases List.mem_singleton.mp hnew
    · intro smp₁ hmem
      have hin : smp₁ ∈ e.smpQueue.toList := by
        rw [hready.queue]
        exact List.mem_cons_of_mem _ (hready.toList ▸ hmem)
      obtain ⟨req, hreq⟩ := h.queued hin
      exact ⟨req, hlift hreq⟩
    · intro smp₁ mad₁ hmem
      rcases List.mem_append.mp hmem with hold | hnew
      · obtain ⟨ht, req, smp₀, hiss, heq⟩ := h.sent hold
        exact ⟨ht, req, smp₀, hlift hiss, heq⟩
      · obtain ⟨rfl, rfl⟩ := Event.sent.inj (List.mem_singleton.mp hnew)
        obtain ⟨req, hreq⟩ := h.queued hhead
        refine ⟨htrid, req, smp, hlift hreq, ?_⟩
        rw [hsmp]
        rfl
    · intro smp₁ hmem
      obtain ⟨mad₁, hmad⟩ := h.wire hmem
      exact ⟨mad₁, hlift hmad⟩
  rcases putOnWire_cases (e₁.note (.sent smp' mad)) smp' with ⟨-, heq⟩ | ⟨hnew, heq⟩
  · rw [heq]
    exact hsent.mono (.dropped smp') rfl rfl rfl rfl (fun _ hx => hx) fun _ _ hk => hk
  · rw [heq]
    refine ⟨?_, hsent.issued, hsent.queued, hsent.sent, ?_⟩
    · intro k smp₁ hk
      rw [lookup_clQmapInsert] at hk
      split at hk
      · next hkey =>
          rw [← Option.some.inj hk]
          exact hkey.1.symm
      · exact hsent.keyed hk
    · intro smp₁ hmem
      have hmem' : smp₁ ∈ smp' :: (e₁.note (.sent smp' mad)).onWire :=
        (clQmapItems_insert hnew : clQmapItems (clQmapInsert _ (wireKey smp') smp') = _) ▸ hmem
      rcases List.mem_cons.mp hmem' with rfl | hold
      · exact ⟨mad, List.mem_append_right _ (List.mem_singleton.mpr rfl)⟩
      · exact hsent.wire hold

end Send

section Reply
variable {r : Recv} (htake : e.takeReply r = some (smp, e'))
include htake

theorem Accounted.takeReply (h : Accounted e) : Accounted e' := by
  obtain ⟨hlook, rfl⟩ := takeReply_eq_some.mp htake
  set trid := (madGetField64 r.mad 0 .madTrid).toUInt32
  set e₁ : Engine κ δ := { e with smpsOnWire := e.smpsOnWire.erase trid }
  have hrefs := refs_append (e := e) (e₁.note (.answered smp)) (.answered smp) rfl
  have hwire : e.wireRefs.Perm (smp.ref :: e₁.wireRefs) := (clQmapItems_erase hlook).map _
  refine ⟨?_, ?_, ?_, ?_⟩
  · have hcount := clQmapCount_erase hlook
    have hfits := h.wireFits
    change clQmapCount e₁.smpsOnWire ≤ e.cfg.maxSmps
    change clQmapCount e.smpsOnWire = clQmapCount e₁.smpsOnWire + 1 at hcount
    omega
  · exact (hrefs _).trans ((List.append_nil _).trans h.issuedInOrder)
  · rw [takenRefs, hrefs]
    exact (congrArg (· ++ e.queueRefs) (List.append_nil _)).trans h.takenInOrder
  · refine .trans ?_ h.conserved
    rw [lostRefs, answeredRefs, hrefs, hrefs]
    simp only [Event.lostRef, Event.answeredRef, Option.toList_none, Option.toList_some,
      List.append_nil]
    change (e.queueRefs ++ (e₁.wireRefs ++ (e.lostRefs ++ (e.answeredRefs ++ [smp.ref])))).Perm _
    refine .append_left _ (.trans ?_ (hwire.symm.append_right _))
    grind

theorem Traced.takeReply (h : Traced e) : Traced e' := by
  obtain ⟨hlook, rfl⟩ := takeReply_eq_some.mp htake
  exact h.mono (.answered smp) rfl rfl rfl rfl (fun _ hx => hx)
    fun _ _ hk => lookup_erase_of_eq_some hk

end Reply

theorem accounted_stable : Stable fun e : Engine κ δ => Accounted e where
  enqueue req h := h.enqueue req
  sendFails h hready hsend hrc := h.sendFails hready hsend hrc
  send h hready hsend := h.send hready hsend
  takeReply h htake := h.takeReply htake
  called {e} smp mad h := by
    have hrefs := refs_append (e := e) (e.note (.called smp mad)) (.called smp mad) rfl
    have hkeep : ∀ f : Event κ δ → Option Nat, f (.called smp mad) = none →
        (e.note (.called smp mad)).log.filterMap f = e.log.filterMap f := by
      intro f hf
      rw [hrefs, hf]
      exact List.append_nil _
    refine ⟨h.wireFits, (hkeep _ rfl).trans h.issuedInOrder, ?_, ?_⟩
    · rw [takenRefs, hkeep _ rfl]
      exact h.takenInOrder
    · rw [lostRefs, answeredRefs, hkeep _ rfl, hkeep _ rfl]
      exact h.conserved

theorem traced_stable : Stable fun e : Engine κ δ => Traced e where
  enqueue req h := h.enqueue req
  sendFails h hready hsend hrc := h.sendFails hready hsend hrc
  send h hready hsend := h.send hready hsend
  takeReply h htake := h.takeReply htake
  called smp mad h := h.mono (.called smp mad) rfl rfl rfl rfl (fun _ hx => hx) fun _ _ hk => hk

/-- History is never rewritten. -/
theorem mem_log_stable (ev : Event κ δ) : Stable fun e : Engine κ δ => ev ∈ e.log where
  enqueue _ h := List.mem_append_left _ h
  sendFails h _ hsend hrc := by
    obtain ⟨_, _, -, -, rfl⟩ := sendSmp_failed hsend hrc
    exact List.mem_append_left _ h
  send {e e' smp smp' rest} h _ hsend := by
    obtain ⟨mad, -, -, rfl⟩ := sendSmp_sent hsend
    rcases putOnWire_cases (note _ (.sent smp' mad)) smp' with ⟨-, heq⟩ | ⟨-, heq⟩
    · rw [heq]
      exact List.mem_append_left _ (List.mem_append_left _ h)
    · rw [heq]
      exact List.mem_append_left _ h
  takeReply h htake := by
    obtain ⟨-, rfl⟩ := takeReply_eq_some.mp htake
    exact List.mem_append_left _ h
  called _ _ h := List.mem_append_left _ h

end Engine
end InfinibandDiags
