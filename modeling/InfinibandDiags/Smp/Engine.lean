import InfinibandDiags.Complib.Qmap
import InfinibandDiags.Fault
import InfinibandDiags.Library.Fifo
import InfinibandDiags.Mad.Packet

/-! The SMP engine (query_smp.c). Callbacks are programs that may issue further SMPs;
what `umad_send` and `umad_recv` answer is input. The `log` is history only. -/
namespace InfinibandDiags

/-- `struct ibnd_config`. -/
structure Config where
  maxSmps : Nat
  maxHops : UInt32
  timeoutMs : Nat
  retries : Nat
  flags : Nat
  mkey : UInt64
  deriving DecidableEq

/-- The arguments of `issue_smp`. -/
structure Request (κ δ : Type) where
  portid : PortId
  attrId : Nat
  attrMod : Nat
  cb : κ
  cbData : δ
  deriving DecidableEq

/-- `struct ibnd_smp`; `ref` stands for its address. -/
structure Smp (κ δ : Type) where
  ref : Nat
  cb : κ
  cbData : δ
  path : PortId
  rpc : Rpc
  deriving DecidableEq

inductive Event (κ δ : Type)
  | issued (req : Request κ δ) (smp : Smp κ δ)
  | sent (smp : Smp κ δ) (mad : Bytes)
  | sendFailed (smp : Smp κ δ) (rc : Int)
  | dropped (smp : Smp κ δ)
  | answered (smp : Smp κ δ)
  | called (smp : Smp κ δ) (mad : Bytes)

/-- `struct smp_engine` with the static state of `mad_trid` and the answers of `umad_send`. -/
structure Engine (κ δ : Type) where
  smpQueue : Fifo (Smp κ δ)
  smpsOnWire : Qmap (Smp κ δ)
  cfg : Config
  totalSmps : Nat
  nextRef : Nat
  trids : TridState
  umadSend : Nat → Int
  sends : Nat
  log : List (Event κ δ)

/-- `smp_engine_init` once the umad port is open. -/
def smpEngineInit (κ δ : Type) (cfg : Config) (trids : TridState) (umadSend : Nat → Int) :
    Engine κ δ where
  smpQueue := .empty
  smpsOnWire := ∅
  cfg := cfg
  totalSmps := 0
  nextRef := 0
  trids := trids
  umadSend := umadSend
  sends := 0
  log := []

/-- A callback: it issues SMPs one after the other, sees every return code, and ends with
its own return code and the new user data, or faults. -/
inductive Prog (κ δ σ : Type)
  | done (rc : Int) (s : σ)
  | fault (f : Fault)
  | issue (req : Request κ δ) (next : Int → Prog κ δ σ)

/-- The functions behind `smp->cb`, and `mlnx_ext_port_info_err`. -/
structure Handlers (κ δ σ : Type) where
  call : κ → Smp κ δ → Bytes → δ → σ → Prog κ δ σ
  mlnxExtPortInfoErr : Smp κ δ → Bytes → δ → σ → Prog κ δ σ

/-- One message taken from `umad_recv`: its return code, `umad_status` and the MAD. -/
structure Recv where
  rc : Int
  status : Int
  mad : Bytes

def eio : Int := 5

namespace Engine
variable {κ δ σ : Type}

def note (e : Engine κ δ) (ev : Event κ δ) : Engine κ δ := { e with log := e.log ++ [ev] }

def wireKey (smp : Smp κ δ) : UInt32 := smp.rpc.trid.toUInt32

def queueSmp (e : Engine κ δ) (smp : Smp κ δ) : Engine κ δ :=
  { e with smpQueue := e.smpQueue.push smp }

def getSmp (e : Engine κ δ) : Option (Smp κ δ) × Engine κ δ :=
  (e.smpQueue.pop.1, { e with smpQueue := e.smpQueue.pop.2 })

/-- `send_smp`: the SMP keeps the transaction id that `mad_encode` may have drawn for it. -/
def sendSmp (e : Engine κ δ) (smp : Smp κ δ) : Int × Smp κ δ × Engine κ δ :=
  if smp.rpc.mgtclass ≠ ibSmiClass ∧ smp.rpc.mgtclass ≠ ibSmiDirectClass then
    (-eio, smp, e.note (.sendFailed smp (-eio)))
  else
    match madBuildPkt smp.rpc smp.path none e.trids with
    | none => (-1, smp, e.note (.sendFailed smp (-1)))
    | some (mad, rpc, trids) =>
        let rc := e.umadSend e.sends
        let smp := { smp with rpc }
        let e := { e with trids, sends := e.sends + 1 }
        if rc < 0 then (rc, smp, e.note (.sendFailed smp rc)) else (0, smp, e.note (.sent smp mad))

/-- The insertion after a successful send. -/
def putOnWire (e : Engine κ δ) (smp : Smp κ δ) : Engine κ δ :=
  let e' := { e with
    smpsOnWire := clQmapInsert e.smpsOnWire (wireKey smp) smp
    totalSmps := e.totalSmps + 1 }
  if wireKey smp ∈ e.smpsOnWire then e'.note (.dropped smp) else e'

/-- `process_smp_queue`. Each round takes an SMP off the queue, so its length bounds the rounds. -/
def processSmpQueueLoop : Nat → Engine κ δ → Int × Engine κ δ
  | 0, e => (0, e)
  | fuel + 1, e =>
      if clQmapCount e.smpsOnWire < e.cfg.maxSmps then
        match e.getSmp with
        | (none, e) => (0, e)
        | (some smp, e) =>
            match e.sendSmp smp with
            | (rc, smp, e) =>
                if rc ≠ 0 then (rc, e) else processSmpQueueLoop fuel (e.putOnWire smp)
      else (0, e)

def processSmpQueue (e : Engine κ δ) : Int × Engine κ δ :=
  processSmpQueueLoop e.smpQueue.toList.length e

/-- The SMP that `issue_smp` allocates and fills in. -/
def newSmp (e : Engine κ δ) (req : Request κ δ) : Smp κ δ where
  ref := e.nextRef
  cb := req.cb
  cbData := req.cbData
  path := req.portid
  rpc := {
    method := ibMadMethodGet
    attrId := req.attrId
    attrMod := req.attrMod
    timeout := e.cfg.timeoutMs
    datasz := ibSmpDataSize
    dataoffs := ibSmpDataOffs
    trid := (madTrid e.trids).1
    mkey := e.cfg.mkey
    mgtclass :=
      if req.portid.lid = 0 ∨ req.portid.drpath.drslid = 0xffff ∨ req.portid.drpath.drdlid = 0xffff
      then ibSmiDirectClass else ibSmiClass }

/-- The part of `issue_smp` up to `queue_smp`. -/
def enqueue (e : Engine κ δ) (req : Request κ δ) : Engine κ δ :=
  let smp := e.newSmp req
  let e := { e with nextRef := e.nextRef + 1, trids := (madTrid e.trids).2 }
  (e.queueSmp smp).note (.issued req smp)

def issueSmp (e : Engine κ δ) (req : Request κ δ) : Int × Engine κ δ :=
  (e.enqueue req).processSmpQueue

end Engine

namespace Prog
variable {κ δ σ : Type}

def exec : Prog κ δ σ → Engine κ δ → Except Fault (Int × Engine κ δ × σ)
  | .done rc s, e => .ok (rc, e, s)
  | .fault f, _ => .error f
  | .issue req next, e => (next (e.issueSmp req).1).exec (e.issueSmp req).2

/-- The engines in which the `issue_smp` calls of a callback have returned. -/
def visits : Prog κ δ σ → Engine κ δ → List (Engine κ δ)
  | .done _ _, _ => []
  | .fault _, _ => []
  | .issue req next, e => (e.issueSmp req).2 :: (next (e.issueSmp req).1).visits (e.issueSmp req).2

/-- A callback that issues a fixed list of SMPs and drops their return codes. -/
def issueAll (rc : Int) (s : σ) : List (Request κ δ) → Prog κ δ σ
  | [] => .done rc s
  | req :: reqs => .issue req fun _ => issueAll rc s reqs

end Prog

namespace Engine
variable {κ δ σ : Type} (H : Handlers κ δ σ)

/-- The branch on the two status values, once the SMP is off the wire. -/
def handler (smp : Smp κ δ) (r : Recv) (s : σ) : Prog κ δ σ :=
  let err :=
    if smp.rpc.attrId = ibAttrMlnxExtPortInfo then H.mlnxExtPortInfoErr smp r.mad smp.cbData s
    else .done 0 s
  if r.status ≠ 0 then err
  else if madGetField r.mad 0 .drsmpStatus ≠ 0 then err
  else H.call smp.cb smp r.mad smp.cbData s

/-- Whether the reply runs the callback of its SMP. -/
def isClean (r : Recv) : Bool := r.status = 0 && madGetField r.mad 0 .drsmpStatus = 0

/-- `cl_qmap_remove` with the low 32 bits of the transaction id of the reply. -/
def takeReply (e : Engine κ δ) (r : Recv) : Option (Smp κ δ × Engine κ δ) :=
  let trid := (madGetField64 r.mad 0 .madTrid).toUInt32
  (e.smpsOnWire.lookup trid).map fun smp =>
    (smp, { e with smpsOnWire := e.smpsOnWire.erase trid }.note (.answered smp))

def beginCallback (e : Engine κ δ) (smp : Smp κ δ) (r : Recv) : Engine κ δ :=
  if isClean r then e.note (.called smp r.mad) else e

def processOneRecv (e : Engine κ δ) (s : σ) (r : Recv) : Except Fault (Int × Engine κ δ × σ) :=
  if r.rc < 0 then .ok (-1, e, s)
  else
    match e.takeReply r with
    | none => .ok (-1, e, s)
    | some (smp, e) =>
        match e.processSmpQueue with
        | (rc, e) =>
            if rc ≠ 0 then .ok (rc, e, s) else (handler H smp r s).exec (e.beginCallback smp r)

/-- `process_mads` on the messages that arrive; `none` while it still waits for the next one. -/
def processMads (e : Engine κ δ) (s : σ) : List Recv → Except Fault (Option Int × Engine κ δ × σ)
  | [] => .ok (if clQmapCount e.smpsOnWire = 0 then some 0 else none, e, s)
  | r :: rs =>
      if clQmapCount e.smpsOnWire = 0 then .ok (some 0, e, s)
      else
        match processOneRecv H e s r with
        | .error f => .error f
        | .ok (rc, e, s) => if rc ≠ 0 then .ok (some rc, e, s) else processMads e s rs

end Engine
end InfinibandDiags
