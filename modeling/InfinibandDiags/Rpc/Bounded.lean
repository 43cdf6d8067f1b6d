import InfinibandDiags.Mad.Header
import InfinibandDiags.Rpc.Result

/-! How many requests `mad_rpc` sends and how many packets it reads: no more than redirections and
packets with foreign ids let it. -/
namespace InfinibandDiags
open Rounds

/-- The status is exactly that of a redirection, and there is a LID to go to. -/
def UmadPacket.Redirects (packet : UmadPacket) : Prop :=
  madGetField packet.mad 0 .drsmpStatus = ibMadStsRedirect ∧
    getField packet.mad 64 RpcPort.cpiRedirectLid ≠ 0

instance (packet : UmadPacket) : Decidable packet.Redirects := inferInstanceAs (Decidable (_ ∧ _))

section Counts

/-- Requests sent. -/
def sends : UmadHistory → Nat
  | [] => 0
  | .sent _ _ :: h => sends h + 1
  | .received _ :: h => sends h

/-- Packets read. -/
def reads : UmadHistory → Nat
  | [] => 0
  | .sent _ _ :: h => reads h
  | .received _ :: h => reads h + 1

/-- Packets that redirect. -/
def redirections : UmadHistory → Nat
  | [] => 0
  | .sent _ _ :: h => redirections h
  | .received packet :: h => redirections h + if packet.Redirects then 1 else 0

/-- Packets that have not the id of the last request. -/
def foreign : UmadHistory → Nat
  | [] => 0
  | .sent _ _ :: h => foreign h
  | .received packet :: h =>
      foreign h + if (lastSent h).map trid32 = some (trid32 packet.mad) then 0 else 1

variable {h h' : UmadHistory}

theorem redirections_mono (hle : h <:+ h') : redirections h ≤ redirections h' := by
  induction h' with
  | nil => rw [List.suffix_nil.mp hle]
  | cons event h' ih =>
      rcases List.suffix_cons_iff.mp hle with rfl | hle
      · exact Nat.le_refl _
      · refine (ih hle).trans ?_
        cases event with
        | sent mad addr => exact Nat.le_refl _
        | received packet => exact Nat.le_add_right _ _

theorem foreign_mono (hle : h <:+ h') : foreign h ≤ foreign h' := by
  induction h' with
  | nil => rw [List.suffix_nil.mp hle]
  | cons event h' ih =>
      rcases List.suffix_cons_iff.mp hle with rfl | hle
      · exact Nat.le_refl _
      · refine (ih hle).trans ?_
        cases event with
        | sent mad addr => exact Nat.le_refl _
        | received packet => exact Nat.le_add_right _ _

theorem redirections_le_reads (h : UmadHistory) : redirections h ≤ reads h := by
  induction h with
  | nil => exact Nat.le_refl 0
  | cons event h ih =>
      cases event with
      | sent mad addr => exact ih
      | received packet =>
          refine Nat.add_le_add ih ?_
          split <;> decide

theorem foreign_le_reads (h : UmadHistory) : foreign h ≤ reads h := by
  induction h with
  | nil => exact Nat.le_refl 0
  | cons event h ih =>
      cases event with
      | sent mad addr => exact ih
      | received packet =>
          refine Nat.add_le_add ih ?_
          split <;> decide

/-- Every packet was delivered by the port. -/
def Umad.Plays (umad : Umad) : UmadHistory → Prop
  | [] => True
  | .sent _ _ :: h => umad.Plays h
  | .received packet :: h => umad.recv h = some packet ∧ umad.Plays h

/-- Every packet answers a request of its own, or is foreign. -/
def Balanced (h : UmadHistory) : Prop := reads h ≤ sends h + foreign h

/-- `h'` goes on from `h` with at most `n` requests. -/
structure Umad.Extends (umad : Umad) (h h' : UmadHistory) (n : Nat) : Prop where
  older : h <:+ h'
  sends : sends h' ≤ sends h + n
  balanced : Balanced h → Balanced h'
  plays : umad.Plays h → umad.Plays h'

theorem Umad.Extends.refl (umad : Umad) (h : UmadHistory) (n : Nat) : umad.Extends h h n :=
  ⟨List.suffix_refl h, Nat.le_add_right _ n, id, id⟩

theorem Umad.Extends.mono {umad : Umad} {m n : Nat} (hm : umad.Extends h h' m) (hmn : m ≤ n) :
    umad.Extends h h' n :=
  ⟨hm.older, hm.sends.trans (Nat.add_le_add_left hmn _), hm.balanced, hm.plays⟩

theorem Umad.Extends.trans {umad : Umad} {h'' : UmadHistory} {m n : Nat}
    (hm : umad.Extends h h' m) (hn : umad.Extends h' h'' n) : umad.Extends h h'' (m + n) := by
  refine ⟨hm.older.trans hn.older, ?_, fun hbalanced => hn.balanced (hm.balanced hbalanced),
    fun hplays => hn.plays (hm.plays hplays)⟩
  have hsends := hm.sends
  have hsends' := hn.sends
  omega

end Counts

namespace Umad
variable {umad : Umad} {mad : Bytes} {addr : UmadAddr} {n : Nat} {h h' : UmadHistory}

/-- The inner loop after `i` foreign packets. -/
structure Waits (umad : Umad) (mad : Bytes) (h : UmadHistory) (i : Nat) (s : UmadHistory) :
    Prop where
  last : lastSent s = some mad
  older : h <:+ s
  sends : sends s = sends h + 1
  foreign : foreign s = foreign h + i
  reads : reads s = reads h + i
  plays : umad.Plays h → umad.Plays s

theorem waits_sent (umad : Umad) (mad : Bytes) (addr : UmadAddr) (h : UmadHistory) :
    umad.Waits mad h 0 (.sent mad addr :: h) :=
  ⟨rfl, List.suffix_cons _ h, rfl, rfl, rfl, id⟩

theorem Waits.again {i : Nat} {s s' : UmadHistory} (hs : umad.Waits mad h i s)
    (hround : umad.recvRound (trid32 mad) s = .again s') : umad.Waits mad h (i + 1) s' := by
  unfold recvRound at hround
  split at hround
  · cases hround
  · split at hround
    · cases hround
    · next packet hrecv htrid =>
        cases hround
        refine ⟨hs.last, hs.older.trans (List.suffix_cons _ s), hs.sends, ?_, ?_,
          fun hplays => ⟨hrecv, hs.plays hplays⟩⟩
        · have hne : ¬ (lastSent s).map trid32 = some (trid32 packet.mad) := by
            rw [hs.last, Option.map_some, Option.some.injEq]
            exact fun heq => htrid heq.symm
          rw [InfinibandDiags.foreign, if_neg hne, hs.foreign, Nat.add_assoc]
        · rw [InfinibandDiags.reads, hs.reads, Nat.add_assoc]

theorem Waits.extends {i : Nat} {s : UmadHistory} (hs : umad.Waits mad h i s) :
    umad.Extends h s 1 := by
  refine ⟨hs.older, hs.sends.le, fun hbalanced => ?_, hs.plays⟩
  have hsends := hs.sends
  have hforeign := hs.foreign
  have hreads := hs.reads
  rw [Balanced] at *
  omega

/-- The packet with the id uses up the request. -/
theorem Waits.answered {i : Nat} {s : UmadHistory} {packet : UmadPacket}
    (hs : umad.Waits mad h i s) (hrecv : umad.recv s = some packet)
    (htrid : trid32 packet.mad = trid32 mad) : umad.Extends h (.received packet :: s) 1 := by
  refine ⟨hs.older.trans (List.suffix_cons _ s), hs.sends.le, fun hbalanced => ?_,
    fun hplays => ⟨hrecv, hs.plays hplays⟩⟩
  have hsame : (lastSent s).map trid32 = some (trid32 packet.mad) := by
    rw [hs.last, Option.map_some, htrid]
  have hsends := hs.sends
  have hforeign := hs.foreign
  have hreads := hs.reads
  rw [Balanced, InfinibandDiags.reads, InfinibandDiags.sends, InfinibandDiags.foreign, if_pos hsame]
  rw [Balanced] at hbalanced
  omega

theorem run_recvRound_error (hrun : run (umad.recvRound (trid32 mad)) n (.sent mad addr :: h) =
    .error h') : umad.Extends h h' 1 ∧ n ≤ foreign h' := by
  have hwaits := run_error (fun _ _ _ hs hround => Waits.again hs hround) hrun
    (waits_sent umad mad addr h)
  refine ⟨hwaits.extends, ?_⟩
  have hforeign := hwaits.foreign
  omega

theorem run_recvRound_none {k : Nat} (hrun : run (umad.recvRound (trid32 mad)) n
    (.sent mad addr :: h) = .ok (k, none, h')) : umad.Extends h h' 1 := by
  obtain ⟨m, s, hwaits, hleave, -⟩ := run_invariant
    (fun _ _ _ hs hround => Waits.again hs hround) hrun (waits_sent umad mad addr h)
  unfold recvRound at hleave
  split at hleave
  · cases hleave
    exact hwaits.extends
  · split at hleave
    · cases hleave
    · cases hleave

theorem run_recvRound_some {k : Nat} {packet : UmadPacket} (hrun : run
    (umad.recvRound (trid32 mad)) n (.sent mad addr :: h) = .ok (k, some packet, h')) :
    umad.Extends h h' 1 ∧ ∃ earlier, h' = .received packet :: earlier ∧ h <:+ earlier := by
  obtain ⟨m, s, hwaits, hleave, -⟩ := run_invariant
    (fun _ _ _ hs hround => Waits.again hs hround) hrun (waits_sent umad mad addr h)
  obtain ⟨rfl, hrecv, htrid⟩ := recvRound_leave hleave
  exact ⟨hwaits.answered hrecv htrid, s, rfl, hwaits.older⟩

/-- How an end of `_do_madrpc` goes on from `h`: with at most `m` requests, a packet that came
after `h` if there is one, and `n` foreign packets if it waits. -/
def EndsFrom (umad : Umad) (h : UmadHistory) (m n : Nat) : DoMadrpcEnd → Prop
  | .done packet h' =>
      umad.Extends h h' m ∧ ∃ earlier, h' = .received packet :: earlier ∧ h <:+ earlier
  | .failed _ h' => umad.Extends h h' m
  | .waits h' => umad.Extends h h' m ∧ n ≤ foreign h'

theorem EndsFrom.after {m i : Nat} {e : DoMadrpcEnd} (hi : umad.Extends h h' i)
    (he : umad.EndsFrom h' m n e) : umad.EndsFrom h (i + m) n e := by
  cases e with
  | done packet h'' =>
      obtain ⟨hext, earlier, hlast, holder⟩ := he
      exact ⟨hi.trans hext, earlier, hlast, hi.older.trans holder⟩
  | failed error h'' => exact hi.trans he
  | waits h'' => exact ⟨hi.trans he.1, he.2⟩

theorem EndsFrom.mono {m m' : Nat} {e : DoMadrpcEnd} (he : umad.EndsFrom h m n e) (hm : m ≤ m') :
    umad.EndsFrom h m' n e := by
  have hpad := he.after (Extends.refl umad h (m' - m))
  rwa [Nat.sub_add_cancel hm] at hpad

theorem sendRound_again (hround : umad.sendRound mad addr n h = .again h') :
    umad.Extends h h' 1 := by
  unfold sendRound at hround
  split at hround
  · split at hround
    · cases hround
    · cases hround
    · next hrun =>
        split at hround
        · cases hround
        · cases hround
          exact (run_recvRound_some hrun).1
  · cases hround

theorem sendRound_leave {e : DoMadrpcEnd} (hround : umad.sendRound mad addr n h = .leave e) :
    umad.EndsFrom h 1 n e := by
  unfold sendRound at hround
  split at hround
  · split at hround
    · next hrun =>
        cases hround
        exact run_recvRound_error hrun
    · next hrun =>
        cases hround
        exact run_recvRound_none hrun
    · next hrun =>
        split at hround
        · cases hround
          exact run_recvRound_some hrun
        · cases hround
  · cases hround
    exact Extends.refl umad h 1

variable (umad mad addr n h) in
/-- `_do_madrpc` sends at most `max_retries` requests. -/
theorem doMadrpc_endsFrom (maxRetries : Int) :
    umad.EndsFrom h maxRetries.toNat n (umad.doMadrpc mad addr maxRetries n h) := by
  have hstep : ∀ i s s', umad.Extends h s i → umad.sendRound mad addr n s = .again s' →
      umad.Extends h s' (i + 1) := fun i s s' hs hround => hs.trans (sendRound_again hround)
  unfold doMadrpc
  split
  · exact Extends.refl umad h _
  · split
    · next hrun =>
        have hall := run_error hstep hrun (Extends.refl umad h 0)
        rwa [Nat.zero_add] at hall
    · next hrun =>
        obtain ⟨m, s, hs, hleave, hcount⟩ := run_invariant hstep hrun (Extends.refl umad h 0)
        exact ((sendRound_leave hleave).after hs).mono (by omega)

/-- The history at the end of a call, or as far as it has come. -/
def MadRpcEnd.history : MadRpcEnd → UmadHistory
  | .returns result => result.state.h
  | .waits h => h

@[simp] theorem finish_h (st : RpcState) (mad : Bytes) (rcvdata : Option Bytes) :
    (st.finish mad rcvdata).state.h = st.h := by
  unfold RpcState.finish
  dsimp only
  split <;> rfl

/-- The state of a call that has sent nothing so far. -/
def RpcState.call (rpc : Rpc) (dport : RpcPort) (trids : TridState) : RpcState :=
  ⟨rpc, dport, trids, []⟩

section Redirects
variable {maxRetries : Int} {payload rcvdata : Option Bytes} {st st' : RpcState}

theorem redirect_ok {dport dport' : RpcPort} {mad : Bytes} (hok : dport.redirect mad = .ok dport') :
    getField mad 64 RpcPort.cpiRedirectLid ≠ 0 := by
  intro hzero
  rw [RpcPort.redirect, if_pos hzero] at hok
  cases hok

/-- Another round takes a packet that redirects. -/
theorem rpcRound_redirects
    (hround : umad.rpcRound maxRetries payload rcvdata n st = .again st') :
    umad.Extends st.h st'.h maxRetries.toNat ∧ redirections st.h + 1 ≤ redirections st'.h := by
  unfold rpcRound at hround
  split at hround
  · cases hround
  · next mad rpc trids hbuilt =>
      have hends :=
        doMadrpc_endsFrom umad mad (st.dport.addr rpc.mgtclass) n st.h maxRetries
      split at hround
      · cases hround
      · cases hround
      · next packet h hdone =>
          rw [hdone] at hends
          obtain ⟨hext, earlier, rfl, holder⟩ := hends
          split at hround
          · next hstatus =>
              split at hround
              · cases hround
              · next hok =>
                  cases hround
                  refine ⟨hext, ?_⟩
                  have hredirects : packet.Redirects := ⟨hstatus, redirect_ok hok⟩
                  rw [redirections, if_pos hredirects]
                  exact Nat.add_le_add_right (redirections_mono holder) 1
          · cases hround

/-- How an end of `mad_rpc` goes on from `h`. -/
def RpcEndsFrom (umad : Umad) (h : UmadHistory) (m n : Nat) (e : MadRpcEnd) : Prop :=
  umad.Extends h e.history m ∧ ∀ h', e = .waits h' → n ≤ foreign h'

theorem rpcRound_leave {e : MadRpcEnd}
    (hround : umad.rpcRound maxRetries payload rcvdata n st = .leave e) :
    umad.RpcEndsFrom st.h maxRetries.toNat n e := by
  unfold rpcRound at hround
  split at hround
  · cases hround
    exact ⟨Extends.refl umad st.h _, fun _ heq => by cases heq⟩
  · next mad rpc trids hbuilt =>
      have hends :=
        doMadrpc_endsFrom umad mad (st.dport.addr rpc.mgtclass) n st.h maxRetries
      split at hround
      · next hwaits =>
          cases hround
          rw [hwaits] at hends
          exact ⟨hends.1, fun _ heq => by cases heq; exact hends.2⟩
      · next hfailed =>
          cases hround
          rw [hfailed] at hends
          exact ⟨hends, fun _ heq => by cases heq⟩
      · next packet h hdone =>
          rw [hdone] at hends
          have hfinish : ∀ dport mad, umad.RpcEndsFrom st.h maxRetries.toNat n
              (.returns (RpcState.finish ⟨rpc, dport, trids, h⟩ mad rcvdata)) := by
            intro dport mad
            refine ⟨?_, fun _ heq => by cases heq⟩
            rw [MadRpcEnd.history, finish_h]
            exact hends.1
          split at hround
          · split at hround
            · cases hround
              exact hfinish _ _
            · cases hround
          · cases hround
            exact hfinish _ _

variable (umad maxRetries payload rcvdata n) in
/-- Only redirections make `mad_rpc` send more than `max_retries` requests, and only they and foreign
packets keep it from returning. -/
theorem madRpc_endsFrom (rounds : Nat) (hst : st.h = []) :
    let e := umad.madRpc maxRetries payload rcvdata rounds n st
    umad.Extends [] e.history ((redirections e.history + 1) * maxRetries.toNat) ∧
      ∀ h, e = .waits h → rounds ≤ redirections h ∨ n ≤ foreign h := by
  have hstep : ∀ i s s',
      (umad.Extends [] s.h (i * maxRetries.toNat) ∧ i ≤ redirections s.h) →
      umad.rpcRound maxRetries payload rcvdata n s = .again s' →
      umad.Extends [] s'.h ((i + 1) * maxRetries.toNat) ∧ i + 1 ≤ redirections s'.h := by
    rintro i s s' ⟨hext, hcount⟩ hround
    obtain ⟨hnext, hmore⟩ := rpcRound_redirects hround
    refine ⟨?_, (Nat.add_le_add_right hcount 1).trans hmore⟩
    rw [Nat.succ_mul]
    exact hext.trans hnext
  have hstart : umad.Extends [] st.h (0 * maxRetries.toNat) ∧ 0 ≤ redirections st.h :=
    ⟨by rw [hst]; exact Extends.refl umad [] _, Nat.zero_le _⟩
  intro e
  unfold e madRpc
  split
  · next hrun =>
      obtain ⟨m, s, ⟨hext, hcount⟩, hleave, -⟩ := run_invariant hstep hrun hstart
      obtain ⟨hend, hwaits⟩ := rpcRound_leave hleave
      rw [Nat.zero_add] at hext hcount
      have hmore := hcount.trans (redirections_mono hend.older)
      have hall := hext.trans hend
      rw [← Nat.succ_mul] at hall
      exact ⟨hall.mono (Nat.mul_le_mul_right _ (Nat.succ_le_succ hmore)),
        fun h heq => .inr (hwaits h heq)⟩
  · next s hrun =>
      obtain ⟨hext, hcount⟩ := run_error hstep hrun hstart
      rw [Nat.zero_add] at hext hcount
      refine ⟨hext.mono (Nat.mul_le_mul_right _ (hcount.trans (Nat.le_succ _))), ?_⟩
      rintro h heq
      cases heq
      exact .inl hcount

variable (umad maxRetries payload rcvdata) in
/-- Nowhere in the call have more than `R` packets redirected or more than `F` had foreign ids. -/
def MeetsAtMost (st : RpcState) (R F : Nat) : Prop :=
  ∀ rounds n, let h := (umad.madRpc maxRetries payload rcvdata rounds n st).history
    redirections h ≤ R ∧ foreign h ≤ F

variable (umad maxRetries payload rcvdata) in
/-- The call returns, and nowhere in it have more than `N` requests been sent or more than `M` packets
been read. -/
structure Terminates (st : RpcState) (N M : Nat) : Prop where
  returns : ∃ rounds n result, umad.madRpc maxRetries payload rcvdata rounds n st = .returns result
  bounded : ∀ rounds n, let h := (umad.madRpc maxRetries payload rcvdata rounds n st).history
    sends h ≤ N ∧ reads h ≤ M

theorem MeetsAtMost.returns {R F : Nat} (hst : st.h = [])
    (hmeets : umad.MeetsAtMost maxRetries payload rcvdata st R F) :
    ∃ result, umad.madRpc maxRetries payload rcvdata (R + 1) (F + 1) st = .returns result := by
  have hwaits := (madRpc_endsFrom umad (F + 1) maxRetries payload rcvdata (R + 1) hst).2
  have hfew := hmeets (R + 1) (F + 1)
  generalize umad.madRpc maxRetries payload rcvdata (R + 1) (F + 1) st = e at *
  cases e with
  | returns result => exact ⟨result, rfl⟩
  | waits h =>
      rcases hwaits h rfl with hredirects | hforeign
      · exact absurd (hredirects.trans hfew.1) (Nat.not_succ_le_self R)
      · exact absurd (hforeign.trans hfew.2) (Nat.not_succ_le_self F)

theorem MeetsAtMost.terminates {R F : Nat} (hst : st.h = [])
    (hmeets : umad.MeetsAtMost maxRetries payload rcvdata st R F) :
    umad.Terminates maxRetries payload rcvdata st ((R + 1) * maxRetries.toNat)
      ((R + 1) * maxRetries.toNat + F) := by
  refine ⟨⟨R + 1, F + 1, hmeets.returns hst⟩, fun rounds n => ?_⟩
  obtain ⟨hredirects, hforeign⟩ := hmeets rounds n
  have hext := (madRpc_endsFrom umad n maxRetries payload rcvdata rounds hst).1
  intro h
  have hsends : sends h ≤ 0 + (R + 1) * maxRetries.toNat := hext.sends.trans (Nat.add_le_add_left
    (Nat.mul_le_mul_right maxRetries.toNat (Nat.succ_le_succ hredirects)) 0)
  have hreads : Balanced h := hext.balanced (Nat.le_refl 0)
  rw [Nat.zero_add] at hsends
  exact ⟨hsends, hreads.trans (Nat.add_le_add hsends hforeign)⟩

/-- A call that meets at most `R` redirections and `F` foreign packets sends at most `max_retries`
requests to each of its targets and returns; and only such a call does so within any bound. -/
theorem madRpc_terminates_iff (umad : Umad) (maxRetries : Int) (payload rcvdata : Option Bytes)
    (rpc : Rpc) (dport : RpcPort) (trids : TridState) :
    (∀ R F, umad.MeetsAtMost maxRetries payload rcvdata (.call rpc dport trids) R F →
      umad.Terminates maxRetries payload rcvdata (.call rpc dport trids)
        ((R + 1) * maxRetries.toNat) ((R + 1) * maxRetries.toNat + F)) ∧
    ∀ N M, umad.Terminates maxRetries payload rcvdata (.call rpc dport trids) N M →
      umad.MeetsAtMost maxRetries payload rcvdata (.call rpc dport trids) M M := by
  refine ⟨fun R F hmeets => hmeets.terminates rfl, fun N M hterminates rounds n => ?_⟩
  have hreads := (hterminates.bounded rounds n).2
  exact ⟨(redirections_le_reads _).trans hreads, (foreign_le_reads _).trans hreads⟩

/-- A port whose packets answer the last request and never redirect. -/
theorem meets_none (hanswers : ∀ h packet, umad.recv h = some packet →
    ¬ packet.Redirects ∧ (lastSent h).map trid32 = some (trid32 packet.mad)) (hst : st.h = []) :
    umad.MeetsAtMost maxRetries payload rcvdata st 0 0 := by
  have hplays : ∀ h, umad.Plays h → redirections h ≤ 0 ∧ foreign h ≤ 0 := by
    intro h
    induction h with
    | nil => exact fun _ => ⟨Nat.le_refl 0, Nat.le_refl 0⟩
    | cons event h ih =>
        cases event with
        | sent mad addr => exact ih
        | received packet =>
            rintro ⟨hrecv, hplays⟩
            obtain ⟨hstays, hsame⟩ := hanswers h packet hrecv
            rw [redirections, foreign, if_neg hstays, if_pos hsame]
            exact ih hplays
  exact fun rounds n => hplays _ ((madRpc_endsFrom umad n maxRetries payload rcvdata rounds hst).1.plays trivial)

end Redirects

/-- A port that sends back what has no error status. -/
def mirror : Umad where
  send _ := true
  recv h := (lastSent h).bind fun mad =>
    if hok : mad.length = ibMadSize ∧ madGetField mad 0 .drsmpStatus = 0 then some ⟨0, mad, hok.1⟩
    else none

theorem mirror_answers {packet : UmadPacket} (hrecv : mirror.recv h = some packet) :
    ¬ packet.Redirects ∧ (lastSent h).map trid32 = some (trid32 packet.mad) := by
  obtain ⟨mad, hlast, hpacket⟩ := Option.bind_eq_some_iff.mp hrecv
  split at hpacket
  · next hok =>
      cases hpacket
      refine ⟨fun hredirects => ?_, by rw [hlast]; rfl⟩
      exact absurd (hok.2.symm.trans hredirects.1) (by decide)
  · cases hpacket

theorem madRpc_terminates_iff_mirror : mirror.Terminates 3 (some [1, 2]) (some [0, 0, 9])
    (.call echoed.rpc echoed.dport echoed.trids) 3 3 :=
  (madRpc_terminates_iff mirror 3 _ _ echoed.rpc echoed.dport echoed.trids).1 0 0
    (meets_none (fun _ _ hrecv => mirror_answers hrecv) rfl)

/-- A port that answers every request with `mad`. -/
def answersWith (mad : Bytes) (hlen : mad.length = ibMadSize) : Umad where
  send _ := true
  recv _ := some ⟨0, mad, hlen⟩

section Counterexamples
variable {reply : Bytes} {hlen : reply.length = ibMadSize}

/-- A reply with the transaction id `trid` that redirects to LID 7. -/
def redirecting (trid : UInt64) : Bytes :=
  setField (madSetField (madSetField64 (List.replicate ibMadSize 0) 0 .madTrid trid) 0 .drsmpStatus
    ibMadStsRedirect) 64 RpcPort.cpiRedirectLid 7

theorem redirecting_length (trid : UInt64) : (redirecting trid).length = ibMadSize := by
  simp [redirecting, madSetField64, setField64]

theorem doMadrpc_answersWith (hsame : trid32 reply = trid32 mad) :
    (answersWith reply hlen).doMadrpc mad addr 1 1 h =
      .done ⟨0, reply, hlen⟩ (.received ⟨0, reply, hlen⟩ :: .sent mad addr :: h) := by
  simp [doMadrpc, sendRound, recvRound, answersWith, run, hsame]

theorem recvRound_answersWith {trid : Nat} (hother : trid32 reply ≠ trid) :
    (answersWith reply hlen).recvRound trid h = .again (.received ⟨0, reply, hlen⟩ :: h) := by
  simp [recvRound, answersWith, hother]

/-- Every request of the call is the same. -/
theorem madBuildPkt_echoed (dport : PortId) (trids : TridState) :
    madBuildPkt echoed.rpc dport none trids =
      some (echoed.rpc.packet .empty none, echoed.rpc, trids) := by
  have htrid : echoed.rpc.trid ≠ 0 := by decide
  have hclass : echoed.rpc.mgtclass % 256 ≠ ibSmiDirectClass := by decide
  have hbuilt : madBuildPkt echoed.rpc dport none trids =
      some (echoed.rpc.packet dport.drpath none, echoed.rpc, trids) :=
    madEncode_eq none trids htrid fun hdirect => absurd hdirect hclass
  rw [hbuilt]
  rfl

/-- A port that redirects every request of the call. -/
def redirector : Umad := answersWith (redirecting echoed.rpc.trid) (redirecting_length _)

theorem redirector_again {st : RpcState} (hrpc : st.rpc = echoed.rpc) :
    ∃ st', redirector.rpcRound 1 none none 1 st = .again st' ∧ st'.rpc = echoed.rpc ∧
      sends st'.h = sends st.h + 1 := by
  have hsame : trid32 (redirecting echoed.rpc.trid) = trid32 (echoed.rpc.packet .empty none) := by
    decide +kernel
  have hstatus : madGetField (redirecting echoed.rpc.trid) 0 .drsmpStatus = ibMadStsRedirect := by
    decide +kernel
  have hlid : getField (redirecting echoed.rpc.trid) 64 RpcPort.cpiRedirectLid ≠ 0 := by
    decide +kernel
  unfold rpcRound redirector
  rw [hrpc, madBuildPkt_echoed]
  dsimp only
  rw [doMadrpc_answersWith hsame]
  dsimp only
  rw [if_pos hstatus, RpcPort.redirect, if_neg hlid]
  exact ⟨_, rfl, rfl, rfl⟩

theorem redirector_madRpc (rounds : Nat) :
    ∃ h, redirector.madRpc 1 none none rounds 1 echoed = .waits h ∧ sends h = rounds := by
  have hstep : ∀ i st, (st.rpc = echoed.rpc ∧ sends st.h = i) →
      ∃ st', redirector.rpcRound 1 none none 1 st = .again st' ∧
        st'.rpc = echoed.rpc ∧ sends st'.h = i + 1 := by
    rintro i st ⟨hrpc, rfl⟩
    exact redirector_again hrpc
  obtain ⟨st, hrun, -, hsends⟩ := run_never_leaves hstep rounds (i := 0) (s := echoed) ⟨rfl, rfl⟩
  rw [Nat.zero_add] at hsends
  refine ⟨st.h, ?_, hsends⟩
  rw [madRpc, hrun]

/-- A port whose packets all have another id than the call. -/
def stranger : Umad := answersWith (redirecting (echoed.rpc.trid + 1)) (redirecting_length _)

theorem stranger_madRpc (n : Nat) :
    ∃ h, stranger.madRpc 1 none none 1 n echoed = .waits h ∧ reads h = n := by
  have hother : trid32 (redirecting (echoed.rpc.trid + 1)) ≠
      trid32 (echoed.rpc.packet .empty none) := by decide +kernel
  have hstep : ∀ i s, reads s = i →
      ∃ s', stranger.recvRound (trid32 (echoed.rpc.packet .empty none)) s = .again s' ∧
        reads s' = i + 1 := by
    rintro i s rfl
    exact ⟨_, recvRound_answersWith hother, rfl⟩
  obtain ⟨h, hrun, hreads⟩ := run_never_leaves hstep n (i := 0)
    (s := [.sent (echoed.rpc.packet .empty none) (echoed.dport.addr echoed.rpc.mgtclass)]) rfl
  rw [Nat.zero_add] at hreads
  have hsend : stranger.doMadrpc (echoed.rpc.packet .empty none)
      (echoed.dport.addr echoed.rpc.mgtclass) 1 n echoed.h = .waits h := by
    have hround : stranger.sendRound (echoed.rpc.packet .empty none)
        (echoed.dport.addr echoed.rpc.mgtclass) n echoed.h = .leave (.waits h) := by
      have hsent : stranger.send echoed.h = true := rfl
      rw [sendRound, if_pos hsent]
      dsimp only [echoed] at hrun ⊢
      rw [hrun]
    rw [doMadrpc, if_neg (by decide), Int.toNat_one, run_leave hround]
  refine ⟨h, ?_, hreads⟩
  have hround : stranger.rpcRound 1 none none n echoed = .leave (.waits h) := by
    rw [rpcRound, madBuildPkt_echoed]
    dsimp only
    rw [hsend]
  rw [madRpc, run_leave hround]

/-- Two ports that answer everything and keep a call with a single retry busy forever: one by
redirections, for any number of requests, and one by foreign ids, for any number of packets. -/
theorem not_madRpc_terminates :
    (∀ rounds, ∃ h, redirector.madRpc 1 none none rounds 1 echoed = .waits h ∧ sends h = rounds) ∧
      ∀ n, ∃ h, stranger.madRpc 1 none none 1 n echoed = .waits h ∧ reads h = n :=
  ⟨redirector_madRpc, stranger_madRpc⟩

end Counterexamples
end Umad
end InfinibandDiags
