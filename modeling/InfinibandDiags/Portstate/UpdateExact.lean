import InfinibandDiags.Mad.Layouts
import InfinibandDiags.Portstate.Update

/-! ibportstate changes what it was asked to change. -/
namespace InfinibandDiags
namespace Ibportstate

namespace PortField

/-- A bit that the field does not have. -/
def Misses (f : PortField) (k : Nat) : Prop :=
  k < f.field.bitoffs ∨ f.field.bitoffs + f.field.bitlen ≤ k

/-- Where the fields lie. -/
def place : PortField → IbField
  | .mkey => ⟨0, 64⟩
  | .lid => bitsOffs 128 16
  | .smlid => bitsOffs 144 16
  | .mkeyLease => bitsOffs 208 16
  | .linkWidthEnabled => bitsOffs 232 8
  | .state => bitsOffs 260 4
  | .physState => bitsOffs 264 4
  | .mkeyProtBits => bitsOffs 272 2
  | .lmc => bitsOffs 277 3
  | .linkSpeedEnabled => bitsOffs 284 4
  | .neighborMtu => bitsOffs 288 4
  | .operVls => bitsOffs 344 4
  | .linkSpeedExtEnabled => bitsOffs 507 5

def all : List PortField :=
  [.mkey, .lid, .smlid, .mkeyLease, .linkWidthEnabled, .state, .physState, .mkeyProtBits, .lmc,
    .linkSpeedEnabled, .neighborMtu, .operVls, .linkSpeedExtEnabled]

theorem mem_all (f : PortField) : f ∈ all := by
  cases f <;> decide

theorem field_eq (f : PortField) : f.field = f.place := by
  have hall : ∀ f ∈ all, f.field = f.place := by
    simp only [field, tableField_parts]
    decide +kernel
  exact hall f (mem_all f)

theorem fields_apart {f g : PortField} (h : f ≠ g) : f.field.Apart g.field := by
  have hall : ∀ f ∈ all, ∀ g ∈ all, f ≠ g → f.place.Apart g.place := by decide +kernel
  rw [field_eq, field_eq]
  exact hall f (mem_all f) g (mem_all g) h

theorem field_regular {f : PortField} (h : f ≠ .mkey) :
    f.field.Regular ∧ (f.field.InByte ∨ f.field.postbits = 0) := by
  have hall : ∀ f ∈ all, f ≠ .mkey → f.place.Regular ∧ (f.place.InByte ∨ f.place.postbits = 0) := by
    decide +kernel
  rw [field_eq]
  exact hall f (mem_all f) h

theorem field_holds (f : PortField) {data : Bytes} (hlen : data.length = 64) :
    HoldsWords data 0 f.field := by
  have hall : ∀ f ∈ all, 4 * ((f.place.bitoffs + f.place.bitlen + 31) / 32) ≤ 64 := by
    decide +kernel
  rw [HoldsWords, field_eq, hlen, Nat.zero_add]
  exact hall f (mem_all f)

theorem mkey_field : mkey.field = ⟨0, 64⟩ := field_eq .mkey

section Set
variable {data : Bytes} {f g : PortField} {val : Nat}

theorem length_set : (f.set data val).length = data.length := by
  unfold set
  split
  · exact copyInto_length _ _ _
  · exact setField_length _ _ _ _

/-- No bit outside the field has changed. -/
theorem set_onlyField (hlen : data.length = 64) : OnlyField data (f.set data val) 0 f.field := by
  unfold set
  split
  · next hmkey =>
      subst hmkey
      rw [mkey_field]
      intro k hk
      rw [IbField.start] at hk
      exact wordBit_copyInto (bigEndian64 (UInt64.ofNat val)) (n := 8) (by simp [bigEndian64])
        (by decide) (by decide) (by omega)
  · next hmkey =>
      have hreg := field_regular hmkey
      exact (setField_onlyField hreg.1 ((field_holds f hlen).holds (by decide)) val).mpr
        (not_spills (hreg.2.imp_right .inl))

theorem get_set (hlen : data.length = 64) (hval : val < 2 ^ f.field.bitlen) :
    f.get (f.set data val) = val := by
  unfold get set
  by_cases hmkey : f = .mkey
  · subst hmkey
    rw [mkey_field] at hval ⊢
    rw [if_pos rfl, if_pos rfl, getField64_setField64]
    · exact UInt64.toNat_ofNat_of_lt hval
    · rw [hlen]
      decide
  · rw [if_neg hmkey, if_neg hmkey,
      getField_setField (field_regular hmkey).1 ((field_holds f hlen).holds (by decide)),
      Nat.mod_eq_of_lt hval]

/-- What a field holds depends on its bits alone. -/
theorem get_congr {data' : Bytes}
    (h : ∀ k, ¬ f.Misses k → wordBit data' k = wordBit data k) : f.get data' = f.get data := by
  have hbits : ∀ k, f.field.start 0 ≤ k → k < f.field.start 0 + f.field.bitlen →
      wordBit data' k = wordBit data k := by
    intro k hk hk'
    rw [IbField.start] at hk hk'
    refine h k ?_
    rw [Misses]
    omega
  unfold get
  by_cases hmkey : f = .mkey
  · subst hmkey
    rw [if_pos rfl, if_pos rfl, getField64_eq_bytes, getField64_eq_bytes]
    rw [mkey_field] at hbits ⊢
    have hbyte : ∀ k < 8, byteAt data' (0 + 0 / 8 + k) = byteAt data (0 + 0 / 8 + k) :=
      fun k hk => byteAt_words (f := ⟨0, 64⟩) rfl rfl (by decide) hbits (by omega)
    rw [bytesAt_congr hbyte]
  · rw [if_neg hmkey, if_neg hmkey]
    exact getField_congr (field_regular hmkey).1 hbits

theorem get_set_of_ne (hlen : data.length = 64) (hne : f ≠ g) :
    g.get (f.set data val) = g.get data := by
  have hapart := fields_apart hne
  refine get_congr fun k hk => set_onlyField hlen k ?_
  rw [Misses] at hk
  rw [IbField.Apart] at hapart
  rw [IbField.start]
  omega

end Set
end PortField

/-- What the fields hold. -/
def registers (data : Bytes) : PortField → Nat := fun f => f.get data

/-- The fields that may change lie among `changed`, and hold what `upd` says. -/
structure Wrote (changed : PortField → Prop) (data data' : Bytes)
    (upd : (PortField → Nat) → PortField → Nat) : Prop where
  length : data'.length = data.length
  registers : registers data' = upd (registers data)
  kept : ∀ k, (∀ f, changed f → f.Misses k) → wordBit data' k = wordBit data k

/-- What a LID holds that is not given and may be the default. -/
def lidUpdate (given : Option Nat) (f : PortField) (r : PortField → Nat) : PortField → Nat :=
  if given = none ∧ (r f = 0 ∨ r f = 0xffff) then Function.update r f 0x1234 else r

section Steps
variable {changed : PortField → Prop} {data data' data'' : Bytes} {f : PortField} {val : Nat}
  {given : Option Nat} {upd upd' : (PortField → Nat) → PortField → Nat}

theorem Wrote.unchanged : Wrote changed data data id := ⟨rfl, rfl, fun _ _ => rfl⟩

theorem Wrote.trans (h : Wrote changed data data' upd) (h' : Wrote changed data' data'' upd') :
    Wrote changed data data'' fun r => upd' (upd r) where
  length := h'.length.trans h.length
  registers := by rw [h'.registers, h.registers]
  kept k hk := (h'.kept k hk).trans (h.kept k hk)

theorem wrote_set (hlen : data.length = 64) (hval : val < 2 ^ f.field.bitlen) (hf : changed f) :
    Wrote changed data (f.set data val) fun r => Function.update r f val where
  length := PortField.length_set
  registers := by
    funext g
    by_cases hg : g = f
    · subst hg
      rw [Function.update_self]
      exact PortField.get_set hlen hval
    · rw [Function.update_of_ne hg]
      exact PortField.get_set_of_ne hlen (Ne.symm hg)
  kept k hk := by
    refine PortField.set_onlyField hlen k ?_
    rw [IbField.start, Nat.mul_zero, Nat.zero_add]
    exact hk f hf

theorem wrote_setGiven (hlen : data.length = 64)
    (hgiven : ∀ val ∈ given, val < 2 ^ f.field.bitlen ∧ changed f) :
    Wrote changed data (setGiven given f data) fun r => given.elim r (Function.update r f) := by
  cases given with
  | none => exact Wrote.unchanged
  | some val => exact wrote_set hlen (hgiven val rfl).1 (hgiven val rfl).2

theorem wrote_defaultLid (hlen : data.length = 64) (hwide : 0x1234 < 2 ^ f.field.bitlen)
    (hf : given = none → f.get data = 0 ∨ f.get data = 0xffff → changed f) :
    Wrote changed data (defaultLid given f data) (lidUpdate given f) := by
  unfold defaultLid
  dsimp only
  by_cases hdefault : given = none ∧ (f.get data = 0 ∨ f.get data = 0xffff)
  · rw [if_pos hdefault]
    have hset : Wrote changed data (f.set data 0x1234) _ :=
      wrote_set hlen hwide (hf hdefault.1 hdefault.2)
    exact ⟨hset.length, hset.registers.trans (if_pos hdefault).symm, hset.kept⟩
  · rw [if_neg hdefault]
    exact ⟨rfl, (if_neg hdefault).symm, fun _ _ => rfl⟩

end Steps

/-- The port states that an operation asks for. -/
def PortOp.state : PortOp → Nat
  | .down => 1
  | .arm => 3
  | .active => 4
  | _ => 0

def PortOp.physState : PortOp → Nat
  | .on | .enable | .reset => 2
  | .off | .disable => 3
  | _ => 0

/-- The field that a parameter names. FDR10 is set in another attribute. -/
def PortParam.portField : PortParam → Option PortField
  | .speed => some .linkSpeedEnabled
  | .espeed => some .linkSpeedExtEnabled
  | .fdr10 => none
  | .width => some .linkWidthEnabled
  | .vls => some .operVls
  | .mtu => some .neighborMtu
  | .lid => some .lid
  | .smlid => some .smlid
  | .lmc => some .lmc
  | .mkey => some .mkey
  | .mkeylease => some .mkeyLease
  | .mkeyprot => some .mkeyProtBits

/-- The fields that may differ: those of the operation, of the speeds and the width, those that were
named, and a LID that reads as 0 or 0xffff. -/
def Settings.Writes (s : Settings) (read : Bytes) (f : PortField) : Prop :=
  f ∈ [PortField.state, .physState, .linkSpeedEnabled, .linkSpeedExtEnabled, .linkWidthEnabled] ∨
    (∃ p, p.portField = some f ∧ s.param p ≠ none) ∨
    f ∈ [PortField.lid, .smlid] ∧ (f.get read = 0 ∨ f.get read = 0xffff)

/-- A LID that was not given. -/
def lidSent (f : PortField) (read : Bytes) : Nat :=
  if f.get read = 0 ∨ f.get read = 0xffff then 0x1234 else f.get read

/-- What is sent for the PortInfo that was read. -/
structure PortInfoSent (s : Settings) (op : PortOp) (read sent : Bytes) : Prop where
  length : sent.length = read.length
  kept : ∀ k, (∀ f, s.Writes read f → f.Misses k) → wordBit sent k = wordBit read k
  given : ∀ p f, p.portField = some f → ∀ val ∈ s.param p, f.get sent = val
  state : PortField.state.get sent = op.state
  physState : PortField.physState.get sent = op.physState
  linkSpeed : PortField.linkSpeedEnabled.get sent = s.value .speed
  linkSpeedExt : PortField.linkSpeedExtEnabled.get sent = s.value .espeed
  linkWidth : PortField.linkWidthEnabled.get sent = s.value .width
  lid : s.param .lid = none → PortField.lid.get sent = lidSent .lid read
  smlid : s.param .smlid = none → PortField.smlid.get sent = lidSent .smlid read

section Sent
variable {s : Settings} {op : PortOp} {read sent data data' : Bytes}

theorem portField_wide {p : PortParam} {f : PortField} (hp : p.portField = some f) {val : Nat}
    (hval : p.Bounded val) : val < 2 ^ f.field.bitlen := by
  obtain ⟨hrange, hlt⟩ := hval
  rw [PortField.field_eq]
  cases p <;> cases hp <;> simp [PortParam.inRange, PortField.place, bitsOffs] at hrange ⊢ <;> omega

/-- A parameter's field may be written with what it was given. -/
theorem wrote_param {p : PortParam} {f : PortField} (hs : s.Bounded) (hp : p.portField = some f)
    (hlen : data.length = 64) : Wrote (s.Writes read) data (setGiven (s.param p) f data)
      fun r => (s.param p).elim r (Function.update r f) := by
  refine wrote_setGiven hlen fun val hval => ⟨portField_wide hp (hs p val hval), ?_⟩
  refine .inr (.inl ⟨p, hp, fun hnone => ?_⟩)
  rw [hnone] at hval
  cases hval

/-- So may an enabled speed or width, with 0 where it was not given. -/
theorem wrote_value {p : PortParam} {f : PortField} (hs : s.Bounded) (hp : p.portField = some f)
    (hlen : data.length = 64)
    (hf : f ∈ [PortField.state, .physState, .linkSpeedEnabled, .linkSpeedExtEnabled,
      .linkWidthEnabled]) :
    Wrote (s.Writes read) data (f.set data (s.value p)) fun r =>
      Function.update r f (s.value p) := by
  refine wrote_set hlen ?_ (.inl hf)
  rw [Settings.value]
  cases hparam : s.param p with
  | none => exact Nat.two_pow_pos _
  | some val => exact portField_wide hp (hs p val hparam)

/-- The operation writes one of the two states. -/
theorem wrote_setOp (s : Settings) (read : Bytes) {physstate : Nat} {r : PortField → Nat} (hlen : data.length = 64)
    (hstate : r .state = 0) (hphys : r .physState = 0)
    (h : setOp op physstate data = some data') : ∃ upd,
    Wrote (s.Writes read) data data' upd ∧
      upd r = Function.update (Function.update r .state op.state) .physState op.physState := by
  have hwide : ∀ f ∈ [PortField.state, .physState], ∀ val < 16, val < 2 ^ f.field.bitlen := by
    simp only [PortField.field_eq]
    decide
  have hset : ∀ f ∈ [PortField.state, .physState], ∀ val < 16,
      Wrote (s.Writes read) data (f.set data val) fun r => Function.update r f val := by
    refine fun f hf val hval => wrote_set hlen (hwide f hf val hval) (.inl ?_)
    revert f
    decide
  have hstate0 : Function.update r .state 0 = r := Function.update_eq_self_iff.mpr hstate.symm
  have hphys0 : ∀ val, Function.update (Function.update r .state val) .physState 0 =
      Function.update r .state val := fun val =>
    Function.update_eq_self_iff.mpr (hphys.symm.trans (Function.update_of_ne (by decide) _ _).symm)
  have hphysOnly : ∀ val < 16, op.state = 0 → op.physState = val → ∃ upd,
      Wrote (s.Writes read) data (PortField.physState.set data val) upd ∧
        upd r = Function.update (Function.update r .state op.state) .physState op.physState :=
    fun val hval h0 h1 =>
      ⟨_, hset .physState (by decide) val hval, by rw [h0, h1, hstate0]⟩
  have hstateOnly : ∀ val < 16, op.state = val → op.physState = 0 → ∃ upd,
      Wrote (s.Writes read) data (PortField.state.set data val) upd ∧
        upd r = Function.update (Function.update r .state op.state) .physState op.physState :=
    fun val hval h0 h1 => ⟨_, hset .state (by decide) val hval, by rw [h0, h1, hphys0]⟩
  cases op with
  | query =>
      have h0 : PortOp.query.state = 0 := rfl
      have h1 : PortOp.query.physState = 0 := rfl
      cases h
      exact ⟨_, .unchanged, by rw [h0, h1, hphys0, hstate0]; rfl⟩
  | on =>
      have hon : (if physstate ≠ 3 then none else some (PortField.physState.set data 2)) =
          some data' := h
      split at hon
      · cases hon
      · cases hon
        exact hphysOnly 2 (by decide) rfl rfl
  | enable =>
      cases h
      exact hphysOnly 2 (by decide) rfl rfl
  | reset =>
      cases h
      exact hphysOnly 2 (by decide) rfl rfl
  | off =>
      cases h
      exact hphysOnly 3 (by decide) rfl rfl
  | disable =>
      cases h
      exact hphysOnly 3 (by decide) rfl rfl
  | down =>
      cases h
      exact hstateOnly 1 (by decide) rfl rfl
  | arm =>
      cases h
      exact hstateOnly 3 (by decide) rfl rfl
  | active =>
      cases h
      exact hstateOnly 4 (by decide) rfl rfl

/-- What the fields hold in front of the operation. -/
def Settings.prepared (s : Settings) (r : PortField → Nat) : PortField → Nat := fun f =>
  if f = .state ∨ f = .physState then 0
  else if (f = .lid ∧ s.param .lid = none ∨ f = .smlid ∧ s.param .smlid = none) ∧
      (r f = 0 ∨ r f = 0xffff) then 0x1234
  else r f

/-- What the fields hold behind it. -/
def Settings.finished (s : Settings) (r : PortField → Nat) : PortField → Nat
  | .mkey => (s.param .mkey).getD (r .mkey)
  | .lid => (s.param .lid).getD (r .lid)
  | .smlid => (s.param .smlid).getD (r .smlid)
  | .mkeyLease => (s.param .mkeylease).getD (r .mkeyLease)
  | .linkWidthEnabled => s.value .width
  | .state => r .state
  | .physState => r .physState
  | .mkeyProtBits => (s.param .mkeyprot).getD (r .mkeyProtBits)
  | .lmc => (s.param .lmc).getD (r .lmc)
  | .linkSpeedEnabled => s.value .speed
  | .neighborMtu => (s.param .mtu).getD (r .neighborMtu)
  | .operVls => (s.param .vls).getD (r .operVls)
  | .linkSpeedExtEnabled => s.value .espeed

theorem elim_update (given : Option Nat) (r : PortField → Nat) (f g : PortField) :
    given.elim r (Function.update r f) g = if g = f then given.getD (r g) else r g := by
  cases given with
  | none => simp
  | some val => simp [Function.update_apply]

theorem lidUpdate_apply (given : Option Nat) (r : PortField → Nat) (f g : PortField) :
    lidUpdate given f r g =
      if g = f ∧ given = none ∧ (r f = 0 ∨ r f = 0xffff) then 0x1234 else r g := by
  unfold lidUpdate
  by_cases hc : given = none ∧ (r f = 0 ∨ r f = 0xffff)
  · rw [if_pos hc, Function.update_apply]
    simp only [hc, and_true]
  · rw [if_neg hc, if_neg fun h => hc h.2]

theorem wrote_prepare (hlen : read.length = 64) :
    Wrote (s.Writes read) read (preparePortInfo s read) s.prepared := by
  have hwide : ∀ f ∈ [PortField.lid, .smlid, .state, .physState], ∀ val < 2 ^ f.place.bitlen,
      val < 2 ^ f.field.bitlen := fun f _ val hval => by rwa [PortField.field_eq]
  have hlid : Wrote (s.Writes read) read (defaultLid (s.param .lid) .lid read) _ :=
    wrote_defaultLid hlen (hwide .lid (by decide) _ (by decide)) fun _ h =>
      .inr (.inr ⟨by decide, h⟩)
  have hlen₁ := hlid.length.trans hlen
  have hread : PortField.smlid.get (defaultLid (s.param .lid) .lid read) =
      PortField.smlid.get read := by
    refine (congrFun hlid.registers .smlid).trans ?_
    rw [lidUpdate_apply, if_neg fun h => absurd h.1 (by decide)]
    rfl
  have hsmlid : Wrote (s.Writes read) (defaultLid (s.param .lid) .lid read)
      (defaultLid (s.param .smlid) .smlid (defaultLid (s.param .lid) .lid read)) _ :=
    wrote_defaultLid hlen₁ (hwide .smlid (by decide) _ (by decide)) fun _ h =>
      .inr (.inr ⟨by decide, hread ▸ h⟩)
  have hlen₂ := hsmlid.length.trans hlen₁
  have hstate : Wrote (s.Writes read) (defaultLid (s.param .smlid) .smlid
      (defaultLid (s.param .lid) .lid read)) _ _ :=
    wrote_set hlen₂ (hwide .state (by decide) 0 (by decide)) (.inl (by decide))
  have hlen₃ := hstate.length.trans hlen₂
  have hphys : Wrote (s.Writes read) (PortField.state.set (defaultLid (s.param .smlid) .smlid
      (defaultLid (s.param .lid) .lid read)) 0) _ _ :=
    wrote_set hlen₃ (hwide .physState (by decide) 0 (by decide)) (.inl (by decide))
  have hall := ((hlid.trans hsmlid).trans hstate).trans hphys
  refine ⟨hall.length, hall.registers.trans ?_, hall.kept⟩
  funext f
  simp only [Function.update_apply, lidUpdate_apply, Settings.prepared]
  cases f <;> simp

/-- The length is kept along the way, and each write is of a field that may change. -/
theorem wrote_params (read : Bytes) (hs : s.Bounded) (hlen : data.length = 64) :
    Wrote (s.Writes read) data (setParams s data) s.finished := by
  have hvalue : ∀ p f, p.portField = some f → f ∈ [PortField.state, .physState, .linkSpeedEnabled,
      .linkSpeedExtEnabled, .linkWidthEnabled] → ∀ data : Bytes, data.length = 64 →
        Wrote (s.Writes read) data (f.set data (s.value p)) fun r =>
          Function.update r f (s.value p) := fun p f hp hf data hlen => wrote_value hs hp hlen hf
  have hparam : ∀ p f, p.portField = some f → ∀ data : Bytes, data.length = 64 →
      Wrote (s.Writes read) data (setGiven (s.param p) f data) fun r =>
        (s.param p).elim r (Function.update r f) := fun p f hp data hlen => wrote_param hs hp hlen
  have h1 := hvalue .speed .linkSpeedEnabled rfl (by decide) data hlen
  have h2 := h1.trans (hvalue .espeed .linkSpeedExtEnabled rfl (by decide) _ (h1.length.trans hlen))
  have h3 := h2.trans (hvalue .width .linkWidthEnabled rfl (by decide) _ (h2.length.trans hlen))
  have h4 := h3.trans (hparam .vls .operVls rfl _ (h3.length.trans hlen))
  have h5 := h4.trans (hparam .mtu .neighborMtu rfl _ (h4.length.trans hlen))
  have h6 := h5.trans (hparam .lid .lid rfl _ (h5.length.trans hlen))
  have h7 := h6.trans (hparam .smlid .smlid rfl _ (h6.length.trans hlen))
  have h8 := h7.trans (hparam .lmc .lmc rfl _ (h7.length.trans hlen))
  have h9 := h8.trans (hparam .mkey .mkey rfl _ (h8.length.trans hlen))
  have h10 := h9.trans (hparam .mkeylease .mkeyLease rfl _ (h9.length.trans hlen))
  have h11 := h10.trans (hparam .mkeyprot .mkeyProtBits rfl _ (h10.length.trans hlen))
  refine ⟨h11.length, h11.registers.trans ?_, h11.kept⟩
  funext f
  simp only [elim_update, Function.update_apply]
  cases f <;> simp [Settings.finished]

theorem portInfoSent (hs : s.Bounded) (hlen : read.length = 64)
    (h : updatePortInfo s op read = some sent) : PortInfoSent s op read sent := by
  obtain ⟨data, hop, rfl⟩ := Option.map_eq_some_iff.mp h
  have hprepare := wrote_prepare (s := s) hlen
  obtain ⟨upd, hdone, hupd⟩ := wrote_setOp s read (r := s.prepared (registers read))
    (hprepare.length.trans hlen) rfl rfl hop
  have hparams := wrote_params read hs ((hdone.length.trans hprepare.length).trans hlen)
  have hall := (hprepare.trans hdone).trans hparams
  have hregs : registers (setParams s data) = s.finished (Function.update (Function.update
      (s.prepared (registers read)) .state op.state) .physState op.physState) := by
    rw [hall.registers, hupd]
  constructor
  case length => exact hall.length
  case kept => exact hall.kept
  case given =>
    intro p f hp val hval
    have hf := congrFun hregs f
    have hparam : s.param p = some val := hval
    refine hf.trans ?_
    cases p <;> cases hp <;> simp [Settings.finished, Settings.value, hparam]
  case state => exact (congrFun hregs .state).trans rfl
  case physState => exact (congrFun hregs .physState).trans rfl
  case linkSpeed => exact congrFun hregs .linkSpeedEnabled
  case linkSpeedExt => exact congrFun hregs .linkSpeedExtEnabled
  case linkWidth => exact congrFun hregs .linkWidthEnabled
  case lid =>
    intro hlid
    refine (congrFun hregs .lid).trans ?_
    simp [Settings.finished, Settings.prepared, hlid, lidSent, registers]
  case smlid =>
    intro hsmlid
    refine (congrFun hregs .smlid).trans ?_
    simp [Settings.finished, Settings.prepared, hsmlid, lidSent, registers]

theorem portInfoSet_exact {args : List Bytes} {pass : Bytes} {isSwitch : Bool} {portnum : Int}
    {data : SmpData} (h : portInfoSet args pass isSwitch portnum data = .ok (some sent)) :
    ∃ s, parseArgs pass args .initial = .ok s ∧
      PortInfoSent s (s.op.getD .query) data.bytes sent := by
  obtain ⟨s, hparse, h⟩ := bind_eq_ok.mp h
  have hs : s.Bounded := parseArgs_bounded (fun p val hval => by cases hval) hparse
  refine ⟨s, hparse, ?_⟩
  dsimp only at h
  split at h
  · cases h
  · split at h
    · exact portInfoSent hs data.size (Except.ok.inj h)
    · cases h

/-- Arming a port and giving it an enabled speed. -/
theorem portInfoSet_exact_arm : ∃ sent,
    portInfoSet [nameBytes "arm", nameBytes "speed", [52]] [] false 1 .zero = .ok (some sent) ∧
      ∃ s, parseArgs [] [nameBytes "arm", nameBytes "speed", [52]] .initial = .ok s ∧
        PortInfoSent s (s.op.getD .query) SmpData.zero.bytes sent := by
  have hsome : ((portInfoSet [nameBytes "arm", nameBytes "speed", [52]] [] false 1
      .zero).toOption.bind id).isSome = true := by
    decide +kernel
  obtain ⟨sent, hsent⟩ := Option.isSome_iff_exists.mp hsome
  obtain ⟨set, hset, hid⟩ := Option.bind_eq_some_iff.mp hsent
  have hrun := (toOption_eq_some.mp hset).trans (congrArg Except.ok hid)
  exact ⟨sent, hrun, portInfoSet_exact hrun⟩

end Sent

end Ibportstate
end InfinibandDiags
