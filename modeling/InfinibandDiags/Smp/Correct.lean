import InfinibandDiags.Smp.Trids

/-! The engine in every state its callers can see: the window, the order of sends and the
matching of replies with the SMPs they answer. -/
namespace InfinibandDiags

def Event.isSendFailed {κ δ : Type} : Event κ δ → Bool
  | .sendFailed _ _ => true
  | _ => false

namespace Engine
variable {κ δ σ : Type}

/-- No `send_smp` of the run failed. -/
def noSendFailed (e : Engine κ δ) : Prop := e.log.any Event.isSendFailed = false

instance (e : Engine κ δ) : Decidable (noSendFailed e) := inferInstanceAs (Decidable (_ = _))

/-- The transaction id of a reply, as far as the map looks at it. -/
def replyId (r : Recv) : UInt32 := (madGetField64 r.mad 0 .madTrid).toUInt32

/-- The SMP whose id a reply carries, traced back to the `issue_smp` call it came from: its
MAD carried that id, no other MAD did, and it kept that call's callback and data. -/
structure Answers (e : Engine κ δ) (r : Recv) (smp : Smp κ δ) : Prop where
  issued : ∃ req smp₀, Event.issued req smp₀ ∈ e.log ∧ smp.ref = smp₀.ref ∧
    smp.cb = req.cb ∧ smp.cbData = req.cbData
  sent : ∃ mad, Event.sent smp mad ∈ e.log ∧
    (madGetField64 mad 0 .madTrid).toUInt32 = replyId r
  only : ∀ smp' mad, Event.sent smp' mad ∈ e.log →
    (madGetField64 mad 0 .madTrid).toUInt32 = replyId r → smp' = smp

/-- What holds whenever `issue_smp` or `process_one_recv` has returned. -/
structure Correct (H : Handlers κ δ σ) (cfg : Config) (e : Engine κ δ) : Prop where
  /-- on the wire is what was sent and not yet answered, each SMP once -/
  wire : ∀ smp, smp ∈ e.onWire ↔ (∃ mad, Event.sent smp mad ∈ e.log) ∧ smp.ref ∉ e.answeredRefs
  wireOnce : e.onWire.Nodup
  wireFits : e.onWire.length ≤ cfg.maxSmps
  distinctIds : ∀ smp ∈ e.onWire, ∀ smp' ∈ e.onWire,
    smp.rpc.trid.toUInt32 = smp'.rpc.trid.toUInt32 → smp = smp'
  busy : e.smpQueue.toList ≠ [] → e.onWire.length = cfg.maxSmps
  inOrder : e.sentRefs <+: e.issuedRefs
  issuedOnce : e.issuedRefs.Nodup
  calledOnce : e.calledRefs.Nodup
  /-- a clean reply to an SMP on the wire runs that SMP's callback and nothing else -/
  reply : ∀ (s : σ) (r : Recv), 0 ≤ r.rc → isClean r → ∀ smp ∈ e.onWire,
    smp.rpc.trid.toUInt32 = replyId r → Answers e r smp ∧
      ∃ e₁, e.takeReply r = some (smp, e₁) ∧ (e₁.processSmpQueue.1 = 0 →
        processOneRecv H e s r = (H.call smp.cb smp r.mad smp.cbData s).exec
          (e₁.processSmpQueue.2.note (.called smp r.mad)))
  unknown : ∀ (s : σ) (r : Recv), (∀ smp ∈ e.onWire, smp.rpc.trid.toUInt32 ≠ replyId r) →
    processOneRecv H e s r = .ok (-1, e, s)

variable {e e' : Engine κ δ} {H : Handlers κ δ σ}

theorem Drain.fullOrEmpty {rc : Int} (h : Drain rc e e') :
    (rc = 0 → FullOrEmpty e') ∧ (rc ≠ 0 → ¬ noSendFailed e') := by
  induction h with
  | stop hstop => exact ⟨fun _ => hstop, fun hne => absurd rfl hne⟩
  | fail _ hsend hrc =>
      refine ⟨fun h0 => absurd h0 hrc, fun _ => ?_⟩
      obtain ⟨_, _, -, -, rfl⟩ := sendSmp_failed hsend hrc
      simp [noSendFailed, note, Event.isSendFailed]
  | send _ _ _ ih => exact ih

theorem fullOrEmpty_issueSmp (req : Request κ δ) (h : noSendFailed (e.issueSmp req).2) :
    FullOrEmpty (e.issueSmp req).2 := by
  obtain ⟨hok, hfail⟩ := (processSmpQueue_drain (e.enqueue req)).fullOrEmpty
  by_contra hnot
  exact hfail (fun h0 => hnot (hok h0)) h

theorem fullOrEmpty_visits {prog : Prog κ δ σ} (h : e' ∈ prog.visits e) (hok : noSendFailed e') :
    FullOrEmpty e' := by
  induction prog generalizing e with
  | done rc s => cases h
  | fault f => cases h
  | issue req next ih =>
      rcases List.mem_cons.mp h with rfl | h
      · exact fullOrEmpty_issueSmp req hok
      · exact ih _ h

theorem noSendFailed_of_subset (h : noSendFailed e') (hsub : ∀ ev, ev ∈ e.log → ev ∈ e'.log) :
    noSendFailed e := by
  simp only [noSendFailed, List.any_eq_false] at h ⊢
  exact fun ev hev => h ev (hsub ev hev)

theorem fullOrEmpty_exec {prog : Prog κ δ σ} {rc : Int} {s : σ} (he : FullOrEmpty e)
    (h : prog.exec e = .ok (rc, e', s)) (hok : noSendFailed e') : FullOrEmpty e' := by
  induction prog generalizing e with
  | done rc₀ s₀ =>
      simp only [Prog.exec, Except.ok.injEq, Prod.mk.injEq] at h
      obtain ⟨-, rfl, -⟩ := h
      exact he
  | fault f => cases h
  | issue req next ih =>
      refine ih _ (fullOrEmpty_issueSmp req (noSendFailed_of_subset hok fun ev hev => ?_)) h
      exact (mem_log_stable ev).exec hev h

theorem fullOrEmpty_beginCallback (smp : Smp κ δ) (r : Recv) (h : FullOrEmpty e) :
    FullOrEmpty (e.beginCallback smp r) := by
  unfold beginCallback
  split <;> exact h

/-- Without a failed send the queue only waits behind a full wire. -/
theorem fullOrEmpty_reachable {e₀ : Engine κ δ} (h₀ : FullOrEmpty e₀) (h : Reachable H e₀ e)
    (hok : noSendFailed e) : FullOrEmpty e := by
  induction h with
  | init => exact h₀
  | issue req _ _ => exact fullOrEmpty_issueSmp req hok
  | recv _ hrecv ih =>
      rcases processOneRecv_cases hrecv with ⟨-, rfl, -⟩ | ⟨smp, e₁, -, -, hcase⟩
      · exact ih hok
      · have hdrain := (processSmpQueue_drain e₁).fullOrEmpty
        rcases hcase with ⟨hrc, heq, -⟩ | ⟨hrc, hexec⟩
        · rw [heq] at hdrain
          exact absurd hok (hdrain.2 hrc)
        · exact fullOrEmpty_exec (fullOrEmpty_beginCallback _ _ (hdrain.1 hrc)) hexec hok
  | insideCallback _ _ _ _ hmem _ => exact fullOrEmpty_visits hmem hok

section Called
variable {answered called : List Nat}

/-- Issuing and sending answer nothing and run no callback. -/
theorem refs_internal :
    Internal fun e : Engine κ δ => e.answeredRefs = answered ∧ e.calledRefs = called where
  enqueue {e} req h := by
    have hrefs := refs_append _ _ (log_enqueue e req)
    exact ⟨(hrefs _).trans ((List.append_nil _).trans h.1),
      (hrefs _).trans ((List.append_nil _).trans h.2)⟩
  sendFails {e e' smp smp' rest rc} h _ hsend hrc := by
    obtain ⟨trids, sends, -, -, rfl⟩ := sendSmp_failed hsend hrc
    have hrefs := refs_append (e := e)
      ({ e.getSmp.2 with trids, sends }.note (.sendFailed smp' rc)) (.sendFailed smp' rc) rfl
    exact ⟨(hrefs _).trans ((List.append_nil _).trans h.1),
      (hrefs _).trans ((List.append_nil _).trans h.2)⟩
  send {e e' smp smp' rest} h _ hsend := by
    obtain ⟨mad, -, -, rfl⟩ := sendSmp_sent hsend
    set e₁ : Engine κ δ := { e.getSmp.2 with
      trids := (drawTrid smp e.getSmp.2.trids).2, sends := e.getSmp.2.sends + 1 }
    have hrefs := refs_append (e := e) (e₁.note (.sent smp' mad)) (.sent smp' mad) rfl
    have hsent : (e₁.note (.sent smp' mad)).answeredRefs = answered ∧
        (e₁.note (.sent smp' mad)).calledRefs = called :=
      ⟨(hrefs _).trans ((List.append_nil _).trans h.1),
        (hrefs _).trans ((List.append_nil _).trans h.2)⟩
    rcases putOnWire_cases (e₁.note (.sent smp' mad)) smp' with ⟨-, heq⟩ | ⟨-, heq⟩
    · rw [heq]
      have hdrop := refs_append (e := e₁.note (.sent smp' mad))
        ({ e₁.note (.sent smp' mad) with
          totalSmps := (e₁.note (.sent smp' mad)).totalSmps + 1 }.note (.dropped smp'))
        (.dropped smp') rfl
      exact ⟨(hdrop _).trans ((List.append_nil _).trans hsent.1),
        (hdrop _).trans ((List.append_nil _).trans hsent.2)⟩
    · rw [heq]
      exact hsent

/-- The callbacks run are among the SMPs answered, in the same order. -/
def CalledSub (e : Engine κ δ) : Prop := e.calledRefs.Sublist e.answeredRefs

theorem calledSub_beginCallback {smp : Smp κ δ} {e₁ : Engine κ δ} {r : Recv} (h : CalledSub e)
    (htake : e.takeReply r = some (smp, e₁)) :
    CalledSub (e₁.processSmpQueue.2.beginCallback smp r) ∧ CalledSub e₁.processSmpQueue.2 := by
  have hlog : e₁.log = e.log ++ [.answered smp] := by
    rw [(takeReply_eq_some.mp htake).2]
    rfl
  have htaken := refs_append _ _ hlog
  have hans : e₁.answeredRefs = e.answeredRefs ++ [smp.ref] := htaken _
  have hcall : e₁.calledRefs = e.calledRefs := (htaken _).trans (List.append_nil _)
  obtain ⟨hans', hcall'⟩ := refs_internal.drain (processSmpQueue_drain e₁) ⟨hans, hcall⟩
  have hdrained : CalledSub e₁.processSmpQueue.2 := by
    rw [CalledSub, hans', hcall']
    exact h.trans (List.sublist_append_left _ _)
  refine ⟨?_, hdrained⟩
  unfold beginCallback
  split
  · have hnote := refs_append (e := e₁.processSmpQueue.2)
      (e₁.processSmpQueue.2.note (.called smp r.mad)) (.called smp r.mad) rfl
    have hc : (e₁.processSmpQueue.2.note (.called smp r.mad)).calledRefs =
        e₁.processSmpQueue.2.calledRefs ++ [smp.ref] := hnote _
    have ha : (e₁.processSmpQueue.2.note (.called smp r.mad)).answeredRefs =
        e₁.processSmpQueue.2.answeredRefs := (hnote _).trans (List.append_nil _)
    rw [CalledSub, hc, ha, hans', hcall']
    exact List.Sublist.append h (List.Sublist.refl _)
  · exact hdrained

theorem calledSub_internal : Internal fun e : Engine κ δ => CalledSub e where
  enqueue {e} req h := by
    have := refs_internal.enqueue (e := e) req ⟨rfl, rfl⟩
    rw [CalledSub, this.1, this.2]
    exact h
  sendFails h hready hsend hrc := by
    have := refs_internal.sendFails ⟨rfl, rfl⟩ hready hsend hrc
    rw [CalledSub, this.1, this.2]
    exact h
  send h hready hsend := by
    have := refs_internal.send ⟨rfl, rfl⟩ hready hsend
    rw [CalledSub, this.1, this.2]
    exact h

theorem calledSub_reachable {e₀ : Engine κ δ} (h₀ : CalledSub e₀) (h : Reachable H e₀ e) :
    CalledSub e := by
  induction h with
  | init => exact h₀
  | issue req _ ih => exact calledSub_internal.issueSmp req ih
  | recv _ hrecv ih =>
      rcases processOneRecv_cases hrecv with ⟨-, rfl, -⟩ | ⟨smp, e₁, -, htake, hcase⟩
      · exact ih
      · obtain ⟨hbegun, hdrained⟩ := calledSub_beginCallback ih htake
        rcases hcase with ⟨-, heq, -⟩ | ⟨-, hexec⟩
        · rw [heq] at hdrained
          exact hdrained
        · exact calledSub_internal.exec hbegun hexec
  | insideCallback _ _ htake _ hmem ih =>
      exact calledSub_internal.visits (calledSub_beginCallback ih htake).1 hmem

end Called

theorem cfg_stable (cfg : Config) : Stable fun e : Engine κ δ => e.cfg = cfg where
  enqueue _ h := h
  sendFails h _ hsend hrc := by
    obtain ⟨_, _, -, -, rfl⟩ := sendSmp_failed hsend hrc
    exact h
  send {e e' smp smp' rest} h _ hsend := by
    obtain ⟨mad, -, -, rfl⟩ := sendSmp_sent hsend
    rcases putOnWire_cases (note _ (.sent smp' mad)) smp' with ⟨-, heq⟩ | ⟨-, heq⟩ <;>
      rw [heq] <;> exact h
  takeReply h htake := by
    obtain ⟨-, rfl⟩ := takeReply_eq_some.mp htake
    exact h
  called _ _ h := h

section Conclusions
variable {draws base redraws : Nat}

theorem lostRefs_eq_nil (hd : Drawn base draws redraws e) (hok : noSendFailed e) :
    e.lostRefs = [] := by
  refine List.filterMap_eq_nil_iff.mpr fun ev hev => ?_
  cases ev with
  | sendFailed smp rc =>
      simp only [noSendFailed, List.any_eq_false] at hok
      exact absurd rfl (hok _ hev)
  | dropped smp => exact absurd hev (hd.kept smp)
  | _ => rfl

theorem sentRefs_eq_takenRefs (hok : noSendFailed e) : e.sentRefs = e.takenRefs := by
  refine List.filterMap_congr fun ev hev => ?_
  cases ev with
  | sendFailed smp rc =>
      simp only [noSendFailed, List.any_eq_false] at hok
      exact absurd rfl (hok _ hev)
  | _ => rfl

theorem Accounted.nodup (h : Accounted e) :
    (e.queueRefs ++ (e.wireRefs ++ (e.lostRefs ++ e.answeredRefs))).Nodup :=
  h.conserved.nodup_iff.mpr List.nodup_range

theorem Accounted.taken_nodup (h : Accounted e) : (e.takenRefs ++ e.queueRefs).Nodup := by
  rw [h.takenInOrder]
  exact List.nodup_range

theorem Accounted.sent_inj (h : Accounted e) {smp smp' : Smp κ δ} {mad mad' : Bytes}
    (hs : Event.sent smp mad ∈ e.log) (hs' : Event.sent smp' mad' ∈ e.log)
    (href : smp.ref = smp'.ref) : smp = smp' := by
  have hnodup := (List.nodup_append.mp h.taken_nodup).1
  have heq := eq_of_nodup_filterMap hnodup hs hs' rfl (congrArg some href.symm)
  exact (Event.sent.inj heq).1

/-- On the wire is exactly what was sent and is still to be answered. -/
theorem mem_onWire_iff (ha : Accounted e) (ht : Traced e) (hd : Drawn base draws redraws e)
    (hok : noSendFailed e) {smp : Smp κ δ} :
    smp ∈ e.onWire ↔ (∃ mad, Event.sent smp mad ∈ e.log) ∧ smp.ref ∉ e.answeredRefs := by
  have hnodup := ha.nodup
  have hlost := lostRefs_eq_nil hd hok
  constructor
  · intro hmem
    refine ⟨ht.wire hmem, fun hans => ?_⟩
    have hwire : smp.ref ∈ e.wireRefs := List.mem_map_of_mem hmem
    have := (List.nodup_append.mp (List.nodup_append.mp hnodup).2.1).2.2
    exact this _ hwire _ (List.mem_append_right _ hans) rfl
  · rintro ⟨⟨mad, hsent⟩, hnot⟩
    have htaken : smp.ref ∈ e.takenRefs := List.mem_filterMap.mpr ⟨_, hsent, rfl⟩
    have hrange : smp.ref ∈ List.range e.nextRef := by
      rw [← ha.takenInOrder]
      exact List.mem_append_left _ htaken
    have hqueue : smp.ref ∉ e.queueRefs := fun hq =>
      (List.nodup_append.mp ha.taken_nodup).2.2 _ htaken _ hq rfl
    have hplace := ha.conserved.mem_iff.mpr hrange
    simp only [hlost, List.nil_append, List.mem_append, hqueue, hnot, or_false, false_or] at hplace
    obtain ⟨smp', hmem, href⟩ := List.mem_map.mp hplace
    obtain ⟨mad', hsent'⟩ := ht.wire hmem
    rw [ha.sent_inj hsent hsent' href.symm]
    exact hmem

/-- A reply finds the SMP its id was drawn for. -/
theorem answers_of_mem (ht : Traced e) (hd : Drawn base draws redraws e)
    {smp : Smp κ δ} {r : Recv} (hmem : smp ∈ e.onWire)
    (hid : smp.rpc.trid.toUInt32 = replyId r) : Answers e r smp := by
  obtain ⟨mad, hsent⟩ := ht.wire hmem
  obtain ⟨htrid, req, smp₀, hissued, heq⟩ := ht.sent hsent
  obtain ⟨e₀, -, hnew⟩ := ht.issued hissued
  refine ⟨⟨req, smp₀, hissued, ?_, ?_, ?_⟩, ⟨mad, hsent, ?_⟩, ?_⟩
  · rw [heq]; rfl
  · rw [heq, hnew]; rfl
  · rw [heq, hnew]; rfl
  · rw [htrid, hid]
  · intro smp' mad' hsent' hid'
    obtain ⟨htrid', -⟩ := ht.sent hsent'
    have hsame : idOf smp' = idOf smp := by
      rw [htrid', ← hid] at hid'
      simpa [idOf] using congrArg UInt32.toNat hid'
    have hnodup := (List.nodup_append.mp hd.fresh).1
    have heq' := eq_of_nodup_filterMap hnodup hsent' hsent rfl (congrArg some hsame.symm)
    exact (Event.sent.inj heq').1

theorem lookup_of_mem (ht : Traced e) {smp : Smp κ δ} (hmem : smp ∈ e.onWire) :
    e.smpsOnWire.lookup smp.rpc.trid.toUInt32 = some smp := by
  obtain ⟨k, hk⟩ := mem_clQmapItems.mp hmem
  have hkey := ht.keyed hk
  rw [← hkey] at hk
  exact hk

theorem takeReply_of_mem (ht : Traced e) {smp : Smp κ δ} {r : Recv} (hmem : smp ∈ e.onWire)
    (hid : smp.rpc.trid.toUInt32 = replyId r) : ∃ e₁, e.takeReply r = some (smp, e₁) := by
  refine ⟨_, takeReply_eq_some.mpr ⟨?_, rfl⟩⟩
  have := lookup_of_mem ht hmem
  rw [hid] at this
  exact this

theorem takeReply_eq_none (ht : Traced e) {r : Recv}
    (h : ∀ smp ∈ e.onWire, smp.rpc.trid.toUInt32 ≠ replyId r) : e.takeReply r = none := by
  cases htake : e.takeReply r with
  | none => rfl
  | some taken =>
      obtain ⟨hlook, -⟩ := takeReply_eq_some.mp htake
      exact absurd (ht.keyed hlook) (h taken.1 (mem_clQmapItems.mpr ⟨_, hlook⟩))

theorem processOneRecv_clean {s : σ} {r : Recv} {smp : Smp κ δ} {e₁ : Engine κ δ} (hr : 0 ≤ r.rc)
    (hclean : isClean r) (htake : e.takeReply r = some (smp, e₁))
    (hdrain : e₁.processSmpQueue.1 = 0) :
    processOneRecv H e s r = (H.call smp.cb smp r.mad smp.cbData s).exec
      (e₁.processSmpQueue.2.note (.called smp r.mad)) := by
  have hstatus : r.status = 0 ∧ madGetField r.mad 0 .drsmpStatus = 0 := by
    simpa [isClean] using hclean
  have hpair : e₁.processSmpQueue = (0, e₁.processSmpQueue.2) := Prod.ext hdrain rfl
  rw [processOneRecv, if_neg (Int.not_lt.mpr hr), htake]
  dsimp only
  rw [hpair]
  simp [handler, beginCallback, hclean, hstatus.1, hstatus.2]

end Conclusions

/-- The engine is correct in every state its callers can reach, as long as fewer than 2^32
SMPs were issued and no send failed. The counter of `mad_trid` is seeded by `random()`,
which answers below 2^31. -/
theorem correct_of_reachable {cfg : Config} {trids : TridState} {umadSend : Nat → Int}
    (hseed : trids.seeded.toNat < 2 ^ 63)
    (hreach : Reachable H (smpEngineInit κ δ cfg trids umadSend) e)
    (hissued : e.nextRef < 2 ^ 32) (hok : noSendFailed e) : Correct H cfg e := by
  have ha := accounted_stable.reachable (accounted_init cfg trids umadSend) hreach
  have hcfg := (cfg_stable cfg).reachable rfl hreach
  obtain ⟨ht, hdrawn⟩ := (drawn_stable trids.seeded.toNat (by omega)).reachable
    ⟨traced_init cfg trids umadSend, fun _ => ⟨0, 0, drawn_init cfg trids umadSend⟩⟩ hreach
  obtain ⟨draws, redraws, hd⟩ := hdrawn hissued
  have hnodup := ha.nodup
  have hwireRefs : e.wireRefs.Nodup := (List.nodup_append.mp (List.nodup_append.mp hnodup).2.1).1
  refine ⟨fun smp => mem_onWire_iff ha ht hd hok, hwireRefs.of_map, ?_, ?_, ?_, ?_, ?_, ?_, ?_, ?_⟩
  · rw [onWire, length_clQmapItems, ← hcfg]
    exact ha.wireFits
  · intro smp hmem smp' hmem' hid
    have h₁ := lookup_of_mem ht hmem
    have h₂ := lookup_of_mem ht hmem'
    rw [hid] at h₁
    exact Option.some.inj (h₁.symm.trans h₂)
  · intro hne
    have hinit : FullOrEmpty (smpEngineInit κ δ cfg trids umadSend) := .inr rfl
    rw [onWire, length_clQmapItems, ← hcfg]
    exact Nat.le_antisymm ha.wireFits
      ((fullOrEmpty_reachable hinit hreach hok).resolve_right hne)
  · rw [sentRefs_eq_takenRefs hok, ha.issuedInOrder, ← ha.takenInOrder]
    exact List.prefix_append _ _
  · rw [ha.issuedInOrder]
    exact List.nodup_range
  · have hinit : CalledSub (smpEngineInit κ δ cfg trids umadSend) := List.Sublist.slnil
    have hsub := calledSub_reachable hinit hreach
    have hans := (List.nodup_append.mp (List.nodup_append.mp (List.nodup_append.mp hnodup).2.1).2.1).2.1
    exact hans.sublist hsub
  · intro s r hr hclean smp hmem hid
    obtain ⟨e₁, htake⟩ := takeReply_of_mem ht hmem hid
    exact ⟨answers_of_mem ht hd hmem hid, e₁, htake, processOneRecv_clean hr hclean htake⟩
  · intro s r hnone
    rw [processOneRecv, takeReply_eq_none ht hnone]
    split <;> rfl

/-- Two SMPs issued with a window of one: the first is on the wire, the second waits. -/
theorem correct_of_reachable_two :
    let H : Handlers Unit Nat Nat := ⟨fun _ _ _ d s => .done 0 (s + d), fun _ _ _ s => .done 0 s⟩
    let cfg : Config := ⟨1, 0, 1000, 3, 0, 0⟩
    let req : Request Unit Nat := ⟨⟨0, .empty⟩, ibAttrNodeInfo, 0, (), 7⟩
    let e₀ := smpEngineInit Unit Nat cfg ⟨0, 5⟩ fun _ => 0
    Correct H cfg ((e₀.issueSmp req).2.issueSmp req).2 :=
  correct_of_reachable (by decide) (.issue _ (.issue _ .init)) (by decide) (by decide)

end Engine
end InfinibandDiags
