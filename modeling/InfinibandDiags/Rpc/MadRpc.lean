import InfinibandDiags.Library.Rounds
import InfinibandDiags.Mad.Codec
import InfinibandDiags.Mad.Packet

/-! `mad_rpc` (rpc.c): a request that is sent again when it fails and goes elsewhere when it is
redirected. What `umad_send` and `umad_recv` do may depend on all that went over the port. -/
namespace InfinibandDiags
open Rounds

def enomem : Nat := 12
def einval : Nat := 22
def etimedout : Nat := 110

/-- `IB_MAD_STS_REDIRECT`. -/
def ibMadStsRedirect : Nat := 2

def ibMadRpcVersionMask : Nat := 0x0f00
def ibMadRpcVersion1 : Nat := 0x0100

/-- What `umad_recv` delivers: the packet's `umad_status` and its MAD. -/
structure UmadPacket where
  status : Nat
  mad : Bytes
  length : mad.length = ibMadSize

/-- The address that `mad_build_pkt` gives to `umad_set_addr`. -/
structure UmadAddr where
  lid : Nat
  qp : Nat
  sl : Nat
  qkey : Nat
  deriving DecidableEq

inductive UmadEvent
  | sent (mad : Bytes) (addr : UmadAddr)
  | received (packet : UmadPacket)

/-- The last event first. -/
abbrev UmadHistory := List UmadEvent

/-- The port and everything behind it: whether `umad_send` succeeds, and what `umad_recv` delivers,
`none` where it fails. -/
structure Umad where
  send : UmadHistory → Bool
  recv : UmadHistory → Option UmadPacket

/-- `ib_portid_t`, without GRH and P_Key. -/
structure RpcPort where
  port : PortId
  qp : Nat
  qkey : Nat
  sl : Nat

namespace RpcPort

/-- The addressing of `mad_build_pkt`. -/
def addr (dport : RpcPort) (mgtclass : Nat) : UmadAddr :=
  if mgtclass % 256 ≠ ibSmiClass ∧ mgtclass % 256 ≠ ibSmiDirectClass then
    ⟨dport.port.lid, dport.qp, dport.sl, dport.qkey⟩
  else if mgtclass % 256 ≠ ibSmiDirectClass then ⟨dport.port.lid, dport.qp, 0, 0⟩
  else if dport.port.drpath.drslid ≠ 0xffff ∧ 0 < dport.port.lid then ⟨dport.port.lid, 0, 0, 0⟩
  else ⟨0xffff, 0, 0, 0⟩

/-- `IB_CPI_REDIRECT_LID_F` and the other fields of a redirection. -/
def cpiRedirectLid : IbField := bitsOffs 224 16
def cpiRedirectQp : IbField := bitsOffs 264 24
def cpiRedirectQkey : IbField := ⟨288, 32⟩
def cpiRedirectSl : IbField := bitsOffs 200 4

/-- `redirect_port`: `.error` is its -1, with the LID of 0 that the port has then. -/
def redirect (dport : RpcPort) (mad : Bytes) : Except RpcPort RpcPort :=
  let lid := getField mad 64 cpiRedirectLid
  let dport := { dport with port := { dport.port with lid } }
  if lid = 0 then .error dport
  else .ok { dport with
    qp := getField mad 64 cpiRedirectQp
    qkey := getField mad 64 cpiRedirectQkey
    sl := getField mad 64 cpiRedirectSl }

end RpcPort

/-- The 32 bits of a transaction id that are compared. -/
def trid32 (mad : Bytes) : Nat := (madGetField64 mad 0 .madTrid).toNat % 2 ^ 32

namespace Umad
variable (umad : Umad)

/-- One `umad_recv` of the inner loop: the packet that has the id, or `none` where it failed. -/
def recvRound (trid : Nat) (h : UmadHistory) :
    Round UmadHistory (Option UmadPacket × UmadHistory) :=
  match umad.recv h with
  | none => .leave (none, h)
  | some packet =>
      if trid32 packet.mad = trid then .leave (some packet, .received packet :: h)
      else .again (.received packet :: h)

/-- How `_do_madrpc` ends: with a packet, with -1 and the `*p_error` it has set, if any, or not at
all as long as it waits for the id. -/
inductive DoMadrpcEnd
  | done (packet : UmadPacket) (h : UmadHistory)
  | failed (error : Nat) (h : UmadHistory)
  | waits (h : UmadHistory)

/-- One round of the retry loop, which reads at most `reads` packets. -/
def sendRound (mad : Bytes) (addr : UmadAddr) (reads : Nat) (h : UmadHistory) :
    Round UmadHistory DoMadrpcEnd :=
  if umad.send h then
    match run (umad.recvRound (trid32 mad)) reads (.sent mad addr :: h) with
    | .error h => .leave (.waits h)
    | .ok (_, none, h) => .leave (.failed 0 h)
    | .ok (_, some packet, h) =>
        if packet.status = 0 ∨ packet.status = enomem then .leave (.done packet h) else .again h
  else .leave (.failed 0 h)

/-- `_do_madrpc`. -/
def doMadrpc (mad : Bytes) (addr : UmadAddr) (maxRetries : Int) (reads : Nat) (h : UmadHistory) :
    DoMadrpcEnd :=
  if maxRetries ≤ 0 then .failed einval h
  else
    match run (umad.sendRound mad addr reads) maxRetries.toNat h with
    | .error h => .failed etimedout h
    | .ok (_, result) => result

/-- The caller's data and what has happened so far. -/
structure RpcState where
  rpc : Rpc
  dport : RpcPort
  trids : TridState
  h : UmadHistory

/-- What `mad_rpc` leaves behind: whether it returns `rcvdata`, what that points to, the caller's
data, and the `error` of a version 1 call. -/
structure RpcResult where
  returned : Bool
  rcvdata : Option Bytes
  state : RpcState
  error : Option Nat

inductive MadRpcEnd
  | returns (result : RpcResult)
  | waits (h : UmadHistory)

/-- `rpcv1->error = error`, for callers that have the field. -/
def rpcError (rpc : Rpc) (error : Nat) : Option Nat :=
  if rpc.mgtclass &&& ibMadRpcVersionMask = ibMadRpcVersion1 then some error else none

/-- What follows the redirect loop: a status other than 0 is an error, and else the payload is
copied. -/
def RpcState.finish (st : RpcState) (mad : Bytes) (rcvdata : Option Bytes) : RpcResult :=
  let status := madGetField mad 0 .drsmpStatus
  let state := { st with rpc := { st.rpc with rstatus := status } }
  if status ≠ 0 then ⟨false, rcvdata, state, rpcError st.rpc 0⟩
  else
    ⟨rcvdata.isSome, rcvdata.map fun buf => copyInto buf 0 (bytesAt mad st.rpc.dataoffs st.rpc.datasz),
      state, rpcError st.rpc 0⟩

/-- One round of the redirect loop. -/
def rpcRound (maxRetries : Int) (payload rcvdata : Option Bytes) (reads : Nat) (st : RpcState) :
    Round RpcState MadRpcEnd :=
  match madBuildPkt st.rpc st.dport.port payload st.trids with
  | none => .leave (.returns ⟨false, rcvdata, st, rpcError st.rpc 0⟩)
  | some (mad, rpc, trids) =>
      match umad.doMadrpc mad (st.dport.addr rpc.mgtclass) maxRetries reads st.h with
      | .waits h => .leave (.waits h)
      | .failed error h => .leave (.returns ⟨false, rcvdata, ⟨rpc, st.dport, trids, h⟩,
          rpcError rpc error⟩)
      | .done packet h =>
          if madGetField packet.mad 0 .drsmpStatus = ibMadStsRedirect then
            match st.dport.redirect packet.mad with
            | .error dport =>
                .leave (.returns (RpcState.finish ⟨rpc, dport, trids, h⟩ packet.mad rcvdata))
            | .ok dport => .again ⟨rpc, dport, trids, h⟩
          else .leave (.returns (RpcState.finish ⟨rpc, st.dport, trids, h⟩ packet.mad rcvdata))

/-- `mad_rpc`, as far as it gets with `redirects` redirections and `reads` packets for each request:
it returns, or has come to a history from where it goes on. -/
def madRpc (maxRetries : Int) (payload rcvdata : Option Bytes) (redirects reads : Nat)
    (st : RpcState) : MadRpcEnd :=
  match run (umad.rpcRound maxRetries payload rcvdata reads) redirects st with
  | .ok (_, result) => result
  | .error st => .waits st.h

end Umad
end InfinibandDiags
