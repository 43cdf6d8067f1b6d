import InfinibandDiags.Errors.Config

/-! The operations and parameters that ibportstate is given. -/
namespace InfinibandDiags
namespace Ibportstate

/-- The arguments of `port_args` without a value. -/
inductive PortOp
  | query | enable | reset | disable | down | arm | active | on | off
  deriving DecidableEq

/-- The arguments of `port_args` with a value. -/
inductive PortParam
  | speed | espeed | fdr10 | width | vls | mtu | lid | smlid | lmc | mkey | mkeylease | mkeyprot
  deriving DecidableEq

inductive PortArg
  | op (o : PortOp)
  | param (p : PortParam)

def portArgs : List (String × PortArg) :=
  [("query", .op .query), ("enable", .op .enable), ("reset", .op .reset),
    ("disable", .op .disable), ("speed", .param .speed), ("espeed", .param .espeed),
    ("fdr10", .param .fdr10), ("width", .param .width), ("down", .op .down), ("arm", .op .arm),
    ("active", .op .active), ("vls", .param .vls), ("mtu", .param .mtu), ("lid", .param .lid),
    ("smlid", .param .smlid), ("lmc", .param .lmc), ("mkey", .param .mkey),
    ("mkeylease", .param .mkeylease), ("mkeyprot", .param .mkeyprot), ("on", .op .on),
    ("off", .op .off)]

/-- Where `main` gives up. -/
inductive Exit
  | onlyOneOf
  | requiresParameter (p : PortParam)
  | invalidValue (p : PortParam) (val : Nat)
  | badNewMkey
  | invalidOperation (arg : Bytes)
  | mkeyOnSwitchPort
  deriving DecidableEq

/-- The sign of a numeral and the number behind it. -/
def numeral (s : Bytes) : Bool × Nat :=
  let (negative, body) :=
    match s.dropWhile isSpace with
    | 45 :: body => (true, body)
    | 43 :: body => (false, body)
    | body => (false, body)
  let (base, digits) := numeralBase body
  (negative, (digits.takeWhile (isDigitOf base)).foldl (fun v c => base * v + digitValue c) 0)

/-- `strtoull(s, NULL, 0)`. -/
def strtoull (s : Bytes) : Nat := unsignedLong (numeral s).1 (numeral s).2

/-- `strtoull(s, &endp, 0)`, where neither `errno` is set nor something is left at `endp`. -/
def wholeNumeral (s : Bytes) : Option Nat :=
  if (numeral s).2 < 2 ^ 64 ∧ (strtolEnd s).2 = [] then some (strtoull s) else none

/-- What is checked of a value before it is kept. -/
def PortParam.inRange : PortParam → Nat → Bool
  | .speed, val => val ≤ 15
  | .espeed, val => val ≤ 31
  | .fdr10, val => val ≤ 1
  | .width, val => val ≤ 31 || val = 255
  | .vls, val => val ≠ 0 && val ≤ 5
  | .mtu, val => val ≠ 0 && val ≤ 5
  | .lid, val => val ≠ 0 && val < 0xc000
  | .smlid, val => val ≠ 0 && val < 0xc000
  | .lmc, val => val ≤ 7
  | .mkey, _ => true
  | .mkeylease, val => val ≤ 0xffff
  | .mkeyprot, val => val ≤ 3

/-- A new M_Key that is no numeral is asked for with `getpass`. -/
def paramValue (pass : Bytes) (p : PortParam) (arg : Bytes) : Except Exit Nat :=
  if p = .mkey then
    match wholeNumeral arg with
    | some val => .ok val
    | none => (wholeNumeral pass).elim (.error .badNewMkey) .ok
  else if p.inRange (strtoull arg) then .ok (strtoull arg)
  else .error (.invalidValue p (strtoull arg))

/-- `port_op`, and for each parameter the value it was given last. -/
structure Settings where
  op : Option PortOp
  param : PortParam → Option Nat

def Settings.initial : Settings := ⟨none, fun _ => none⟩

def parseArgs (pass : Bytes) : List Bytes → Settings → Except Exit Settings
  | [], s => .ok s
  | arg :: args, s =>
      match portArgs.find? (fun entry => arg = nameBytes entry.1) with
      | none => .error (.invalidOperation arg)
      | some (_, .op o) =>
          if s.op.isSome then .error .onlyOneOf else parseArgs pass args { s with op := some o }
      | some (_, .param p) =>
          match args with
          | [] => .error (.requiresParameter p)
          | val :: args =>
              match paramValue pass p val with
              | .error e => .error e
              | .ok val =>
                  parseArgs pass args { s with param := Function.update s.param p (some val) }

/-- What a value is promised to be. -/
def PortParam.Bounded (p : PortParam) (val : Nat) : Prop :=
  p.inRange val = true ∧ val < 2 ^ 64

def Settings.Bounded (s : Settings) : Prop := ∀ p, ∀ val ∈ s.param p, p.Bounded val

section Parse
variable {pass arg : Bytes} {p : PortParam} {val : Nat}

theorem unsignedLong_lt (negative : Bool) (value : Nat) : unsignedLong negative value < 2 ^ 64 := by
  unfold unsignedLong
  split
  · exact Nat.sub_lt (by decide) (by decide)
  · split
    · exact Nat.mod_lt _ (by decide)
    · omega

theorem wholeNumeral_lt (h : wholeNumeral arg = some val) : val < 2 ^ 64 := by
  unfold wholeNumeral at h
  split at h
  · cases h
    exact unsignedLong_lt _ _
  · cases h

theorem paramValue_bounded (h : paramValue pass p arg = .ok val) : p.Bounded val := by
  unfold paramValue at h
  split at h
  · next hmkey =>
      subst hmkey
      refine ⟨rfl, ?_⟩
      cases hwhole : wholeNumeral arg with
      | some v =>
          rw [hwhole] at h
          cases h
          exact wholeNumeral_lt hwhole
      | none =>
          rw [hwhole] at h
          cases hpass : wholeNumeral pass with
          | some v =>
              rw [hpass] at h
              cases h
              exact wholeNumeral_lt hpass
          | none =>
              rw [hpass] at h
              cases h
  · split at h
    · next hrange =>
        cases h
        exact ⟨hrange, unsignedLong_lt _ _⟩
    · cases h

/-- One more value. -/
theorem Settings.Bounded.update {s : Settings} (hs : s.Bounded) (hval : p.Bounded val) :
    Settings.Bounded { s with param := Function.update s.param p (some val) } := by
  intro q v hv
  dsimp only at hv
  by_cases hq : q = p
  · subst hq
    rw [Function.update_self] at hv
    cases hv
    exact hval
  · rw [Function.update_of_ne hq] at hv
    exact hs q v hv

theorem parseArgs_bounded {args : List Bytes} {s s' : Settings} (hs : s.Bounded)
    (h : parseArgs pass args s = .ok s') : s'.Bounded := by
  fun_induction parseArgs pass args s with
  | case1 s =>
      cases h
      exact hs
  | case2 => cases h
  | case3 => cases h
  | case4 s arg args name o hfind hop ih => exact ih hs h
  | case5 => cases h
  | case6 => cases h
  | case7 s arg val args name p hfind v hvalue ih =>
      exact ih (hs.update (paramValue_bounded hvalue)) h

end Parse

end Ibportstate
end InfinibandDiags
