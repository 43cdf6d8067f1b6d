import InfinibandDiags.Rpc.MadRpc

/-! What `mad_rpc` returns: the payload of a reply to its last request, or nothing. -/
namespace InfinibandDiags
open Rounds

/-- The MAD of the last request. -/
def lastSent : UmadHistory → Option Bytes
  | [] => none
  | .sent mad _ :: _ => some mad
  | .received _ :: h => lastSent h

/-- The caller's data but for the transaction id stay as they are. -/
theorem madBuildPkt_rpc {rpc rpc' : Rpc} {dport : PortId} {data : Option Bytes}
    {s s' : TridState} {mad : Bytes} (h : madBuildPkt rpc dport data s = some (mad, rpc', s')) :
    rpc' = { rpc with trid := rpc'.trid } := by
  unfold madBuildPkt madEncode at h
  obtain ⟨second, -, hrest⟩ := Option.map_eq_some_iff.mp h
  simp only [Prod.mk.injEq] at hrest
  obtain ⟨-, rfl, -⟩ := hrest
  rfl

theorem bytesAt_eq_take_drop {buf : Bytes} {i n : Nat} (h : i + n ≤ buf.length) :
    bytesAt buf i n = (buf.drop i).take n := by
  apply List.ext_getElem
  · rw [bytesAt_length, List.length_take, List.length_drop]
    omega
  · intro k hk hk'
    rw [bytesAt_length] at hk
    have hlt : i + k < buf.length := by omega
    simp [bytesAt, byteAt, hlt]

theorem drop_copyInto (buf : Bytes) (i : Nat) (bs : List UInt8) :
    (copyInto buf i bs).drop (i + bs.length) = buf.drop (i + bs.length) := by
  induction bs generalizing buf i with
  | nil => rfl
  | cons b bs ih =>
      have hset := ih (buf.set i b) (i + 1)
      rw [copyInto, List.length_cons, show i + (bs.length + 1) = i + 1 + bs.length by omega, hset,
        List.drop_set_of_lt (by omega)]

theorem take_copyInto {buf bs : Bytes} (h : bs.length ≤ buf.length) :
    (copyInto buf 0 bs).take bs.length = bs := by
  have hcopy : bytesAt (copyInto buf 0 bs) 0 bs.length = bs := bytesAt_copyInto bs (by omega)
  rwa [bytesAt_eq_take_drop (by rw [copyInto_length]; omega), List.drop_zero] at hcopy

namespace Umad
variable {umad : Umad} {mad : Bytes} {addr : UmadAddr} {reads : Nat} {h h' : UmadHistory}
  {packet : UmadPacket}

/-- `packet` was delivered last, and has the id of the request before it. -/
structure Answers (umad : Umad) (h : UmadHistory) (packet : UmadPacket) (earlier : UmadHistory) :
    Prop where
  last : h = .received packet :: earlier
  delivered : umad.recv earlier = some packet
  trid : (lastSent earlier).map trid32 = some (trid32 packet.mad)

theorem recvRound_again {trid : Nat} (hround : umad.recvRound trid h = .again h') :
    lastSent h' = lastSent h := by
  unfold recvRound at hround
  split at hround
  · cases hround
  · split at hround
    · cases hround
    · cases hround
      rfl

theorem recvRound_leave {trid : Nat} (hround : umad.recvRound trid h = .leave (some packet, h')) :
    h' = .received packet :: h ∧ umad.recv h = some packet ∧ trid32 packet.mad = trid := by
  unfold recvRound at hround
  split at hround
  · cases hround
  · next delivered hrecv =>
      split at hround
      · next htrid =>
          cases hround
          exact ⟨rfl, hrecv, htrid⟩
      · cases hround

/-- The inner loop passes on a packet that answers the request. -/
theorem run_recvRound {k : Nat} (hrun : run (umad.recvRound (trid32 mad)) reads
    (.sent mad addr :: h) = .ok (k, some packet, h')) :
    ∃ earlier, umad.Answers h' packet earlier := by
  obtain ⟨m, earlier, hsent, hleave, -⟩ := run_invariant (R := fun _ s => lastSent s = some mad)
    (fun _ _ _ hs hround => (recvRound_again hround).trans hs) hrun (i := 0) rfl
  obtain ⟨hlast, hdelivered, htrid⟩ := recvRound_leave hleave
  exact ⟨earlier, hlast, hdelivered, by rw [hsent, htrid]; rfl⟩

theorem sendRound_done (hround : umad.sendRound mad addr reads h = .leave (.done packet h')) :
    ∃ earlier, umad.Answers h' packet earlier := by
  unfold sendRound at hround
  split at hround
  · split at hround
    · cases hround
    · cases hround
    · next hrun =>
        split at hround
        · cases hround
          exact run_recvRound hrun
        · cases hround
  · cases hround

theorem doMadrpc_done {maxRetries : Int}
    (hend : umad.doMadrpc mad addr maxRetries reads h = .done packet h') :
    ∃ earlier, umad.Answers h' packet earlier := by
  unfold doMadrpc at hend
  split at hend
  · cases hend
  · split at hend
    · cases hend
    · next hrun =>
        rw [hend] at hrun
        obtain ⟨-, s, -, hleave, -⟩ := run_invariant (R := fun _ _ => True)
          (fun _ _ _ _ _ => trivial) hrun (i := 0) trivial
        exact sendRound_done hleave

/-- What a call may end with: the payload of an answer without error, or nothing new. -/
structure Sound (umad : Umad) (rpc : Rpc) (buf : Bytes) (result : RpcResult) : Prop where
  returned : result.returned = true → ∃ packet earlier,
    umad.Answers result.state.h packet earlier ∧ madGetField packet.mad 0 .drsmpStatus = 0 ∧
      result.rcvdata = some (copyInto buf 0 (bytesAt packet.mad rpc.dataoffs rpc.datasz))
  failed : result.returned = false → result.rcvdata = some buf

theorem sound_failed {rpc : Rpc} {buf : Bytes} {st : RpcState} {error : Option Nat} :
    umad.Sound rpc buf ⟨false, some buf, st, error⟩ :=
  ⟨fun h => absurd h Bool.false_ne_true, fun _ => rfl⟩

theorem finish_sound {rpc : Rpc} {buf : Bytes} {st : RpcState} {earlier : UmadHistory}
    (hoffs : st.rpc.dataoffs = rpc.dataoffs) (hsz : st.rpc.datasz = rpc.datasz)
    (hanswers : umad.Answers st.h packet earlier) :
    umad.Sound rpc buf (st.finish packet.mad (some buf)) := by
  unfold RpcState.finish
  dsimp only
  split
  · exact sound_failed
  · next hstatus =>
      refine ⟨fun _ => ⟨packet, earlier, hanswers, not_not.mp hstatus, ?_⟩, fun h => ?_⟩
      · rw [hoffs, hsz]
        rfl
      · cases h

/-- Where the payload lies is not changed by a redirection. -/
theorem rpcRound_again {maxRetries : Int} {payload rcvdata : Option Bytes} {st st' : RpcState}
    (hround : umad.rpcRound maxRetries payload rcvdata reads st = .again st') :
    st'.rpc.dataoffs = st.rpc.dataoffs ∧ st'.rpc.datasz = st.rpc.datasz := by
  unfold rpcRound at hround
  split at hround
  · cases hround
  · next hbuilt =>
      have hrpc := madBuildPkt_rpc hbuilt
      split at hround
      · cases hround
      · cases hround
      · split at hround
        · split at hround
          · cases hround
          · cases hround
            dsimp only
            rw [hrpc]
            exact ⟨rfl, rfl⟩
        · cases hround

theorem rpcRound_returns {maxRetries : Int} {payload : Option Bytes} {buf : Bytes} {st : RpcState}
    {result : RpcResult}
    (hround : umad.rpcRound maxRetries payload (some buf) reads st = .leave (.returns result)) :
    umad.Sound st.rpc buf result := by
  unfold rpcRound at hround
  split at hround
  · cases hround
    exact sound_failed
  · next mad rpc trids hbuilt =>
      have hrpc := madBuildPkt_rpc hbuilt
      have hoffs : rpc.dataoffs = st.rpc.dataoffs := by rw [hrpc]
      have hsz : rpc.datasz = st.rpc.datasz := by rw [hrpc]
      split at hround
      · cases hround
      · cases hround
        exact sound_failed
      · next hdone =>
          obtain ⟨earlier, hanswers⟩ := doMadrpc_done hdone
          split at hround
          · split at hround
            · cases hround
              exact finish_sound hoffs hsz hanswers
            · cases hround
          · cases hround
            exact finish_sound hoffs hsz hanswers

theorem madRpc_sound {maxRetries : Int} {payload : Option Bytes} {buf : Bytes} {redirects : Nat}
    {st : RpcState} {result : RpcResult}
    (hend : umad.madRpc maxRetries payload (some buf) redirects reads st = .returns result) :
    umad.Sound st.rpc buf result := by
  unfold madRpc at hend
  split at hend
  · next hrun =>
      rw [hend] at hrun
      obtain ⟨-, s, ⟨hoffs, hsz⟩, hleave, -⟩ := run_invariant
        (R := fun _ s => s.rpc.dataoffs = st.rpc.dataoffs ∧ s.rpc.datasz = st.rpc.datasz)
        (fun _ _ _ hs hround => ⟨(rpcRound_again hround).1.trans hs.1,
          (rpcRound_again hround).2.trans hs.2⟩) hrun (i := 0) ⟨rfl, rfl⟩
      have hsound := rpcRound_returns hleave
      exact ⟨fun h => by rw [← hoffs, ← hsz]; exact hsound.returned h, hsound.failed⟩
  · cases hend

/-- Whatever `umad_recv` delivers, `mad_rpc` returns its data only with the payload of a MAD without
error that has the id of the last request, and else it returns NULL and leaves the data alone. -/
theorem madRpc_returns (umad : Umad) (maxRetries : Int) (payload : Option Bytes) {buf : Bytes}
    (redirects reads : Nat) {st : RpcState} {result : RpcResult}
    (hpayload : st.rpc.dataoffs + st.rpc.datasz ≤ ibMadSize) (hroom : st.rpc.datasz ≤ buf.length)
    (hend : umad.madRpc maxRetries payload (some buf) redirects reads st = .returns result) :
    (result.returned = true → ∃ packet earlier buf',
      umad.Answers result.state.h packet earlier ∧
      madGetField packet.mad 0 .drsmpStatus = 0 ∧ result.rcvdata = some buf' ∧
      buf'.take st.rpc.datasz = (packet.mad.drop st.rpc.dataoffs).take st.rpc.datasz ∧
      buf'.drop st.rpc.datasz = buf.drop st.rpc.datasz) ∧
    (result.returned = false → result.rcvdata = some buf) := by
  have hsound := madRpc_sound hend
  refine ⟨fun hreturned => ?_, hsound.failed⟩
  obtain ⟨packet, earlier, hanswers, hstatus, hdata⟩ := hsound.returned hreturned
  have hlen : (bytesAt packet.mad st.rpc.dataoffs st.rpc.datasz).length = st.rpc.datasz :=
    bytesAt_length _ _ _
  refine ⟨packet, earlier, _, hanswers, hstatus, hdata, ?_, ?_⟩
  · have htake := take_copyInto (hlen.symm ▸ hroom)
    rw [hlen] at htake
    rw [htake, bytesAt_eq_take_drop (by rw [packet.length]; exact hpayload)]
  · have hdrop := drop_copyInto buf 0 (bytesAt packet.mad st.rpc.dataoffs st.rpc.datasz)
    rwa [hlen, Nat.zero_add] at hdrop

/-- A port that sends every request back. -/
def echo : Umad where
  send _ := true
  recv h := (lastSent h).bind fun mad =>
    if hlen : mad.length = ibMadSize then some ⟨0, mad, hlen⟩ else none

def echoed : RpcState where
  rpc := {
    mgtclass := ibSmiClass
    method := ibMadMethodGet
    attrId := ibAttrNodeInfo
    attrMod := 0
    dataoffs := ibSmpDataOffs
    datasz := 2
    mkey := 0
    trid := 5
    timeout := 0 }
  dport := ⟨⟨1, .empty⟩, 0, 0, 0⟩
  trids := ⟨0, 0⟩
  h := []

def MadRpcEnd.result : MadRpcEnd → Option RpcResult
  | .returns result => some result
  | .waits _ => none

theorem echoed_returns : ∃ result,
    echo.madRpc 3 (some [1, 2]) (some [0, 0, 9]) 1 1 echoed = .returns result ∧
      result.returned = true ∧ result.rcvdata = some [1, 2, 9] := by
  have hresult : (echo.madRpc 3 (some [1, 2]) (some [0, 0, 9]) 1 1 echoed).result.any
      fun result => result.returned = true ∧ result.rcvdata = some [1, 2, 9] := by decide +kernel
  generalize echo.madRpc 3 (some [1, 2]) (some [0, 0, 9]) 1 1 echoed = rpcEnd at hresult ⊢
  cases rpcEnd with
  | returns result => exact ⟨result, rfl, by simpa [MadRpcEnd.result] using hresult⟩
  | waits h => cases hresult

theorem madRpc_returns_echo : ∃ result,
    echo.madRpc 3 (some [1, 2]) (some [0, 0, 9]) 1 1 echoed = .returns result ∧
      ∃ packet earlier, echo.Answers result.state.h packet earlier := by
  obtain ⟨result, hend, hreturned, -⟩ := echoed_returns
  obtain ⟨packet, earlier, -, hanswers, -⟩ :=
    (madRpc_returns echo 3 (some [1, 2]) 1 1 (by decide) (by decide) hend).1 hreturned
  exact ⟨result, hend, packet, earlier, hanswers⟩

end Umad
end InfinibandDiags
