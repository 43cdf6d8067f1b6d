import InfinibandDiags.Discover.Numerals
import InfinibandDiags.Errors.Config
import InfinibandDiags.Library.Overwrite

/-! `mk_reply` of ibsysstat: the host and CPU texts that the server writes behind the header. -/
namespace InfinibandDiags
namespace Ibsysstat

def ibPingAttr : Nat := 0x10
def ibHostinfoAttr : Nat := 0x11
def ibCpuinfoAttr : Nat := 0x12

def maxCpus : Nat := 8

/-- `build_cpuinfo` copies what it keeps out of a line of less than 1023 bytes; what the file does
not say stays NULL. -/
structure CpuInfo where
  model : Option CString
  mhz : Option CString
  short : ∀ s ∈ [model, mhz], ∀ t ∈ s, t.text.length < 1023

/-- What the replies are made of. A name is `none` where asking for it fails. -/
structure Host where
  hostname : Option CString
  domainname : Option CString
  cpus : List CpuInfo
  cpus_le : cpus.length ≤ maxCpus

def put (mem : Bytes) (i : Nat) (bytes : Bytes) : Except Fault Bytes :=
  match Overwrite.write mem i bytes with
  | none => .error .outOfBounds
  | some mem => .ok mem

def strlen (mem : Bytes) (i : Nat) : Except Fault Nat :=
  if 0 ∈ mem.drop i then .ok ((mem.drop i).takeWhile (· ≠ 0)).length else .error .outOfBounds

def snprintf (mem : Bytes) (i size : Nat) (text : Bytes) : Except Fault Bytes :=
  if size = 0 then .ok mem else put mem i (text.take (size - 1) ++ [0])

/-- `gethostname`: a name that does not fit with its NUL is copied as far as it fits, and reported as
an error. -/
def gethostname (name : Option CString) (mem : Bytes) (i len : Nat) : Except Fault (Bool × Bytes) :=
  match name with
  | none => .ok (false, mem)
  | some name => do
      let mem ← put mem i ((name.text ++ [0]).take len)
      .ok (name.text.length < len, mem)

/-- `getdomainname`: the same, but without an error. -/
def getdomainname (name : Option CString) (mem : Bytes) (i len : Nat) :
    Except Fault (Bool × Bytes) :=
  match name with
  | none => .ok (false, mem)
  | some name => do
      let mem ← put mem i ((name.text ++ [0]).take len)
      .ok (true, mem)

def period : UInt8 := 46

def noHostname : Bytes := nameBytes "?hostname?"
def noDomainname : Bytes := nameBytes "?domainname?"

/-- The first part of the host text, always with a NUL in the last byte. -/
def mkHostname (host : Host) (mem : Bytes) (sz : Nat) : Except Fault Bytes := do
  let (found, mem) ← gethostname host.hostname mem 0 sz
  let mem ← if found then .ok mem else snprintf mem 0 sz noHostname
  put mem (sz - 1) [0]

/-- The domain name from index `i` on. -/
def copyDomainname (host : Host) (mem : Bytes) (i sz : Nat) : Except Fault Bytes := do
  let (found, mem) ← getdomainname host.domainname mem i sz
  if found then .ok mem else snprintf mem i sz noDomainname

/-- The second part of the host text, and its length. -/
def mkDomainname (host : Host) (mem : Bytes) (i sz : Nat) : Except Fault (Nat × Bytes) := do
  let mem ← copyDomainname host mem i sz
  let n ← strlen mem i
  if n = 0 then do
    -- no domain
    let mem ← put mem (i - 1) [0]
    .ok (0, mem)
  else .ok (n, mem)

def hostinfo (host : Host) (mem : Bytes) : Except Fault (Nat × Bytes) := do
  let sz := mem.length
  let mem ← mkHostname host mem sz
  let n ← strlen mem 0
  if n ≥ sz - 1 then .ok (sz, mem)
  else do
    let mem ← put mem n [period]
    let (k, mem) ← mkDomainname host mem (n + 1) (sz - (n + 1))
    .ok (n + 1 + k, mem)

/-- What `%s` prints. -/
def shownString (s : Option CString) : Bytes := s.elim (nameBytes "(null)") CString.text

def cpuLine (i : Nat) (cpu : CpuInfo) : Bytes :=
  nameBytes "cpu " ++ toDecimal i ++ nameBytes ": model " ++ shownString cpu.model ++
    nameBytes " MHZ " ++ shownString cpu.mhz ++ [newline]

/-- The loop over the CPUs from number `i` on, with `sz` bytes left from index `s` on. -/
def cpuLoop : List CpuInfo → Nat → Nat → Nat → Nat → Bytes → Except Fault (Nat × Bytes)
  | [], _, _, _, ret, mem => .ok (ret, mem)
  | cpu :: cpus, i, s, sz, ret, mem =>
      if sz = 0 then .ok (ret, mem)
      else do
        let text := cpuLine i cpu
        let mem ← snprintf mem s sz text
        let n := text.length
        if n ≥ sz then .ok (sz, mem)
        else cpuLoop cpus (i + 1) (s + n) (sz - n) (ret + n) mem

def cpuinfo (host : Host) (mem : Bytes) : Except Fault (Nat × Bytes) := do
  let sz := mem.length
  let mem ← put mem 0 [0]
  let (ret, mem) ← cpuLoop host.cpus 0 0 sz 0 mem
  .ok (ret + 1, mem)

/-- The length that `mk_reply` returns, and the bytes it was given. -/
def mkReply (host : Host) (attr : Nat) (mem : Bytes) : Except Fault (Nat × Bytes) :=
  if attr = ibHostinfoAttr then hostinfo host mem
  else if attr = ibCpuinfoAttr then cpuinfo host mem
  else .ok (0, mem)

/-- The host's name, as far as there is room for it. -/
def hostPart (host : Host) (sz : Nat) : Bytes :=
  match host.hostname with
  | none => noHostname.take (sz - 1)
  | some name => if name.text.length < sz then name.text else noHostname.take (sz - 1)

/-- The domain's name, as far as there is room for it behind the host's. -/
def domainPart (host : Host) (sz : Nat) : Bytes :=
  (host.domainname.elim noDomainname CString.text).take (sz - (hostPart host sz).length - 2)

/-- Host and domain. -/
def hostText (host : Host) (sz : Nat) : Bytes :=
  if domainPart host sz = [] then hostPart host sz
  else hostPart host sz ++ [period] ++ domainPart host sz

/-- The lines of the CPUs from number `i` on. -/
def cpuText : List CpuInfo → Nat → Bytes
  | [], _ => []
  | cpu :: cpus, i => cpuLine i cpu ++ cpuText cpus (i + 1)

/-- The text of an attribute that has one. -/
def replyText (host : Host) (attr sz : Nat) : Option Bytes :=
  if attr = ibHostinfoAttr then some (hostText host sz)
  else if attr = ibCpuinfoAttr then some (cpuText host.cpus 0)
  else none

/-- The reply keeps to its buffer, and what is sent of it is the text, cut to fit, with its NUL. -/
def ReplyWhole (host : Host) (attr : Nat) (mem : Bytes) : Prop :=
  ∃ ret mem', mkReply host attr mem = .ok (ret, mem') ∧ mem'.length = mem.length ∧
    ret ≤ mem.length ∧ ∀ text ∈ replyText host attr mem.length,
      (text.take (mem.length - 1) ++ [0]) <+: mem'.take ret

/-- A host without a domain, or with a name that fills the buffer; lines of CPUs that all fit. -/
def ReplyFits (host : Host) (attr sz : Nat) : Prop :=
  (attr = ibHostinfoAttr → sz ≤ (hostPart host sz).length + 1 ∨
    match host.domainname with
    | none => sz = (hostPart host sz).length + 2
    | some name => name.text = []) ∧
  (attr = ibCpuinfoAttr → (cpuText host.cpus 0).length < sz)

end Ibsysstat
end InfinibandDiags
