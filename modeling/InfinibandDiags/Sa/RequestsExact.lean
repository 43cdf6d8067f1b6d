import Mathlib.Tactic.NormNum
import InfinibandDiags.Sa.Requests

/-! For which options saquery asks for just the components that were given. -/
namespace InfinibandDiags
namespace Saquery

section Setting
variable {val : Int} {size : Nat} {compWith : Int} {a b k : Nat}

theorem differs_iff : differs val size compWith = true ↔ val % 2 ^ size ≠ compWith % 2 ^ size := by
  have hpos : (0 : Int) < 2 ^ size := Int.pow_pos (by decide)
  have hval := Int.emod_nonneg val hpos.ne'
  have hcomp := Int.emod_nonneg compWith hpos.ne'
  rw [differs, decide_eq_true_iff, ne_eq, ne_eq, ← BitVec.toNat_inj, BitVec.toNat_ofInt,
    BitVec.toNat_ofInt]
  push_cast
  omega

/-- Two components in one word. -/
theorem or_shiftLeft (ha : a < 2 ^ k) : a ||| b <<< k = b * 2 ^ k + a := by
  rw [Nat.or_comm, ← Nat.shiftLeft_add_eq_or_of_lt ha, Nat.shiftLeft_eq]

theorem checkAndSetVal_fst (mask compMask : BitVec 64) :
    (checkAndSetVal val size compWith 0 mask compMask).1 =
      if differs val size compWith then (val % 2 ^ size).toNat else 0 := by
  rw [checkAndSetVal]
  split <;> rfl

theorem differs_zero (n : Nat) : differs n size 0 = true ↔ n % 2 ^ size ≠ 0 := by
  rw [differs_iff, Int.zero_emod]
  norm_cast

theorem differs_zero_of_lt {n : Nat} (hn : n < 2 ^ size) :
    differs n size 0 = true ↔ (n : Int) ≠ 0 := by
  rw [differs_zero, Nat.mod_eq_of_lt hn]
  norm_cast

theorem validGid_iff (gid : Gid) : validGid gid = true ↔ (gid.toNat : Int) ≠ (0 : Gid).toNat := by
  rw [validGid, decide_eq_true_iff, ne_eq, ne_eq, Nat.cast_inj, BitVec.toNat_inj]

theorem byte_ne_zero (b : UInt8) : decide (b ≠ 0) = true ↔ (b.toNat : Int) ≠ (0 : UInt8).toNat := by
  rw [decide_eq_true_iff, ne_eq, ne_eq, Nat.cast_inj, UInt8.toNat_inj]

/-- Below the largest value of the size, only an option that is not given looks like -1. -/
theorem differs_neg_one (hlow : -1 ≤ val) (hhigh : val < 2 ^ size - 1) :
    differs val size (-1) = true ↔ val ≠ -1 := by
  have hpos : (0 : Int) < 2 ^ size := Int.pow_pos (by decide)
  have hunset : (-1 : Int) % 2 ^ size = 2 ^ size - 1 := by
    rw [← Int.add_emod_right, Int.emod_eq_of_lt (by omega) (by omega)]
    omega
  rw [differs_iff, hunset]
  by_cases hval : val = -1
  · subst hval
    rw [hunset]
    exact iff_of_false (not_not_intro rfl) (not_not_intro rfl)
  · rw [Int.emod_eq_of_lt (by omega) (by omega)]
    exact iff_of_true (by omega) hval

theorem checkAndSetVal_zero (n : Nat) (mask compMask : BitVec 64) :
    (checkAndSetVal n size 0 0 mask compMask).1 = n % 2 ^ size := by
  have hval : ((n : Int) % 2 ^ size).toNat = n % 2 ^ size := by norm_cast
  rw [checkAndSetVal_fst, hval]
  split
  · rfl
  · next h => exact (not_not.mp (mt (differs_zero n).mpr h)).symm

theorem checkAndSetVal_neg_one (size : Nat) (hlow : -1 ≤ val) (hhigh : val < 2 ^ size - 1)
    (mask compMask : BitVec 64) :
    (checkAndSetVal val size (-1) 0 mask compMask).1 = val.toNat := by
  rw [checkAndSetVal_fst]
  by_cases hval : val = -1
  · subst hval
    rw [if_neg fun h => (differs_neg_one hlow hhigh).mp h rfl]
    rfl
  · rw [if_pos ((differs_neg_one hlow hhigh).mpr hval), Int.emod_eq_of_lt (by omega) (by omega)]

theorem checkAndSetVal_snd (target : Nat) (mask compMask : BitVec 64) :
    (checkAndSetVal val size compWith target mask compMask).2 =
      Flags.orIf (differs val size compWith) mask compMask := by
  rw [checkAndSetVal, Flags.orIf]
  split <;> rfl

theorem checkAndSetGid_snd (val target : Gid) (mask compMask : BitVec 64) :
    (checkAndSetGid val target mask compMask).2 =
      Flags.orIf (validGid val) mask compMask := by
  rw [checkAndSetGid, Flags.orIf]
  split <;> rfl

theorem checkAndSetGid_fst (val : Gid) (mask compMask : BitVec 64) :
    (checkAndSetGid val 0 mask compMask).1 = val := by
  rw [checkAndSetGid]
  split
  · rfl
  · next h =>
      have hzero : val = 0 := by_contra fun hne => h (decide_eq_true hne)
      exact hzero.symm

theorem checkAndSetValAndSel_snd (val target : UInt8) (maskSel mask compMask : BitVec 64) :
    (checkAndSetValAndSel val target maskSel mask compMask).2 =
      Flags.orIf (val ≠ 0) mask (Flags.orIf (val ≠ 0) maskSel compMask) := by
  rw [checkAndSetValAndSel]
  by_cases h : val ≠ 0
  · rw [if_pos h, decide_eq_true h]
    rfl
  · rw [if_neg h, decide_eq_false h]
    rfl

theorem checkAndSetValAndSel_fst (val : UInt8) (maskSel mask compMask : BitVec 64) :
    (checkAndSetValAndSel val 0 maskSel mask compMask).1 = val := by
  rw [checkAndSetValAndSel]
  split
  · rfl
  · next h => exact (not_not.mp h).symm

end Setting

/-- The values are in the ranges of their components, or the options are not given. -/
structure QueryParams.InRange (p : QueryParams) : Prop where
  flowLabel : p.flowLabel.toNat < 2 ^ 20
  hopLimit : -1 ≤ p.hopLimit ∧ p.hopLimit < 2 ^ 8
  reversible : -1 ≤ p.reversible ∧ p.reversible < 2
  numbPath : -1 ≤ p.numbPath ∧ p.numbPath < 2 ^ 7
  qosClass : -1 ≤ p.qosClass ∧ p.qosClass < 2 ^ 12
  sl : -1 ≤ p.sl ∧ p.sl < 2 ^ 4
  scope : p.scope.toNat < 2 ^ 4
  joinState : p.joinState.toNat < 2 ^ 4
  proxyJoin : -1 ≤ p.proxyJoin ∧ p.proxyJoin < 2

section PathRecords
variable {h : IbTypes} {p : QueryParams}

/-- The component in a record. A selector is kept in the byte of what it selects. -/
def PathRec.component (r : PathRec) : PrComponent → Nat
  | .serviceid => r.serviceId
  | .sgid => r.sgid.toNat
  | .dgid => r.dgid.toNat
  | .slid => r.slid
  | .dlid => r.dlid
  | .hoplimit => r.hopFlowRaw % 2 ^ 8
  | .flowlabel => r.hopFlowRaw / 2 ^ 8 % 2 ^ 20
  | .tclass => r.tclass
  | .reversible => r.numPath / 2 ^ 7
  | .numbpath => r.numPath % 2 ^ 7
  | .pkey => r.pkey
  | .sl => r.qosClassSl % 2 ^ 4
  | .qosClass => r.qosClassSl / 2 ^ 4
  | .mtu | .mtuselec => r.mtu.toNat
  | .rate | .rateselec => r.rate.toNat
  | .pktlifetime | .pktlifetimeselec => r.pktLife.toNat

/-- The option for a component. -/
def QueryParams.prOption (p : QueryParams) : PrComponent → Int
  | .serviceid => p.serviceId.toNat
  | .sgid => p.sgid.toNat
  | .dgid => p.dgid.toNat
  | .slid => p.slid.toNat
  | .dlid => p.dlid.toNat
  | .hoplimit => p.hopLimit
  | .flowlabel => p.flowLabel.toNat
  | .tclass => p.tclass.toNat
  | .reversible => p.reversible
  | .numbpath => p.numbPath
  | .pkey => p.pkey.toNat
  | .sl => p.sl
  | .qosClass => p.qosClass
  | .mtu | .mtuselec => p.mtu.toNat
  | .rate | .rateselec => p.rate.toNat
  | .pktlifetime | .pktlifetimeselec => p.pktLife.toNat

/-- The condition on which a component is set. -/
def QueryParams.prFlag (p : QueryParams) : PrComponent → Bool
  | .serviceid => differs p.serviceId.toNat 64 0
  | .sgid => validGid p.sgid
  | .dgid => validGid p.dgid
  | .slid => differs p.slid.toNat 16 0
  | .dlid => differs p.dlid.toNat 16 0
  | .hoplimit => differs p.hopLimit 32 (-1)
  | .flowlabel => differs p.flowLabel.toNat 8 0
  | .tclass => differs p.tclass.toNat 8 0
  | .reversible => differs p.reversible 8 (-1)
  | .numbpath => differs p.numbPath 8 (-1)
  | .pkey => differs p.pkey.toNat 16 0
  | .sl => differs p.sl 16 (-1)
  | .qosClass => differs (p.qosClass * 2 ^ 4) 16 (-1)
  | .mtu | .mtuselec => p.mtu ≠ 0
  | .rate | .rateselec => p.rate ≠ 0
  | .pktlifetime | .pktlifetimeselec => p.pktLife ≠ 0

/-- The components in the order of the code. -/
def prComponents : List PrComponent :=
  [.serviceid, .sgid, .dgid, .slid, .dlid, .hoplimit, .flowlabel, .tclass, .reversible, .numbpath,
    .pkey, .sl, .qosClass, .mtuselec, .mtu, .rateselec, .rate, .pktlifetimeselec, .pktlifetime]

theorem queryPathRecords_compMask :
    (queryPathRecords h p).compMask = h.prCompmask.gather p.prFlag prComponents 0#64 := by
  simp only [queryPathRecords, checkAndSetVal_snd, checkAndSetGid_snd, checkAndSetValAndSel_snd,
    QueryParams.prFlag, prComponents, Flags.Masks.gather, List.foldl_cons, List.foldl_nil]

theorem has_queryPathRecords (c : PrComponent) :
    h.prCompmask.Has (queryPathRecords h p).compMask c ↔ p.prFlag c = true := by
  have hmem : c ∈ prComponents := by cases c <;> decide
  rw [queryPathRecords_compMask, Flags.Masks.has_gather, and_iff_right hmem]

/-- Other options than QoS class and flow label are recognized as given. -/
theorem prFlag_iff (hp : p.InRange) {c : PrComponent} (hqos : c = .qosClass → p.qosClass ≠ -1)
    (hflow : c = .flowlabel → p.flowLabel.toNat < 2 ^ 8) :
    p.prFlag c = true ↔ p.prOption c ≠ QueryParams.unset.prOption c := by
  cases c with
  | serviceid => exact differs_zero_of_lt p.serviceId.toNat_lt
  | sgid => exact validGid_iff p.sgid
  | dgid => exact validGid_iff p.dgid
  | slid => exact differs_zero_of_lt p.slid.toNat_lt
  | dlid => exact differs_zero_of_lt p.dlid.toNat_lt
  | hoplimit => exact differs_neg_one hp.hopLimit.1 (hp.hopLimit.2.trans (by decide))
  | flowlabel => exact differs_zero_of_lt (hflow rfl)
  | tclass => exact differs_zero_of_lt p.tclass.toNat_lt
  | reversible => exact differs_neg_one hp.reversible.1 (hp.reversible.2.trans (by decide))
  | numbpath => exact differs_neg_one hp.numbPath.1 (hp.numbPath.2.trans (by decide))
  | pkey => exact differs_zero_of_lt p.pkey.toNat_lt
  | sl => exact differs_neg_one hp.sl.1 (hp.sl.2.trans (by decide))
  | qosClass =>
      have hgiven := hqos rfl
      obtain ⟨hlow, hhigh⟩ := hp.qosClass
      have hdiffers : differs (p.qosClass * 2 ^ 4) 16 (-1) = true ↔ p.qosClass * 2 ^ 4 ≠ -1 :=
        differs_neg_one (by omega) (by omega)
      exact iff_of_true (hdiffers.mpr (by omega)) hgiven
  | mtu => exact byte_ne_zero p.mtu
  | mtuselec => exact byte_ne_zero p.mtu
  | rate => exact byte_ne_zero p.rate
  | rateselec => exact byte_ne_zero p.rate
  | pktlifetime => exact byte_ne_zero p.pktLife
  | pktlifetimeselec => exact byte_ne_zero p.pktLife

theorem record_hopFlowRaw (hp : p.InRange) :
    (queryPathRecords h p).record.hopFlowRaw =
      p.flowLabel.toNat % 2 ^ 8 * 2 ^ 8 + p.hopLimit.toNat := by
  obtain ⟨hlow, hhigh⟩ := hp.hopLimit
  have hhop := fun m n => checkAndSetVal_neg_one 32 hlow (hhigh.trans (by decide)) m n
  have hsmall : p.hopLimit.toNat < 2 ^ 8 := by omega
  have hflow : (p.flowLabel.toNat % 2 ^ 8) <<< 8 < 2 ^ 32 := by
    rw [Nat.shiftLeft_eq]
    omega
  simp only [queryPathRecords, hhop, checkAndSetVal_zero]
  rw [Nat.mod_eq_of_lt hflow, or_shiftLeft hsmall]

theorem record_numPath (hp : p.InRange) :
    (queryPathRecords h p).record.numPath = p.reversible.toNat * 2 ^ 7 + p.numbPath.toNat := by
  obtain ⟨hlow, hhigh⟩ := hp.numbPath
  obtain ⟨hlow', hhigh'⟩ := hp.reversible
  have hnumb := fun m n => checkAndSetVal_neg_one 8 hlow (hhigh.trans (by decide)) m n
  have hrev := fun m n => checkAndSetVal_neg_one 8 hlow' (hhigh'.trans (by decide)) m n
  have hsmall : p.numbPath.toNat < 2 ^ 7 := by omega
  simp only [queryPathRecords, hnumb, hrev]
  rw [or_shiftLeft hsmall]
  omega

theorem record_qosClassSl (hp : p.InRange) (hqos : p.qosClass ≠ -1) :
    (queryPathRecords h p).record.qosClassSl = p.qosClass.toNat * 2 ^ 4 + p.sl.toNat := by
  obtain ⟨hlow, hhigh⟩ := hp.sl
  obtain ⟨hlow', hhigh'⟩ := hp.qosClass
  have hsl := fun m n => checkAndSetVal_neg_one 16 hlow (hhigh.trans (by decide)) m n
  have hlow16 : -1 ≤ p.qosClass * 2 ^ 4 := by omega
  have hclass := fun m n => checkAndSetVal_neg_one 16 hlow16 (by omega) m n
  have hshift : (p.qosClass * 2 ^ 4).toNat = p.qosClass.toNat <<< 4 := by
    rw [Nat.shiftLeft_eq]
    omega
  have hmask : p.sl.toNat &&& 0xf = p.sl.toNat := by
    rw [Nat.and_two_pow_sub_one_eq_mod _ 4]
    omega
  simp only [queryPathRecords, hsl, hclass]
  rw [h.pathRecSlMask_eq, hmask, hshift, or_shiftLeft (by omega)]

/-- The components are those given. -/
theorem component_eq (hp : p.InRange) (hqos : p.qosClass ≠ -1) (hflow : p.flowLabel.toNat < 2 ^ 8)
    (c : PrComponent) :
    (queryPathRecords h p).record.component c = (p.prOption c).toNat := by
  obtain ⟨hhop, hhop'⟩ := hp.hopLimit
  obtain ⟨hrev, hrev'⟩ := hp.reversible
  obtain ⟨hnumb, hnumb'⟩ := hp.numbPath
  obtain ⟨hsl, hsl'⟩ := hp.sl
  cases c with
  | serviceid =>
      simp only [PathRec.component, queryPathRecords, checkAndSetVal_zero, QueryParams.prOption,
        Int.toNat_natCast]
      exact Nat.mod_eq_of_lt p.serviceId.toNat_lt
  | sgid =>
      simp only [PathRec.component, queryPathRecords, checkAndSetGid_fst, QueryParams.prOption,
        Int.toNat_natCast]
  | dgid =>
      simp only [PathRec.component, queryPathRecords, checkAndSetGid_fst, QueryParams.prOption,
        Int.toNat_natCast]
  | slid =>
      simp only [PathRec.component, queryPathRecords, checkAndSetVal_zero, QueryParams.prOption,
        Int.toNat_natCast]
      exact Nat.mod_eq_of_lt p.slid.toNat_lt
  | dlid =>
      simp only [PathRec.component, queryPathRecords, checkAndSetVal_zero, QueryParams.prOption,
        Int.toNat_natCast]
      exact Nat.mod_eq_of_lt p.dlid.toNat_lt
  | hoplimit =>
      rw [PathRec.component, record_hopFlowRaw hp, QueryParams.prOption]
      omega
  | flowlabel =>
      rw [PathRec.component, record_hopFlowRaw hp, QueryParams.prOption]
      omega
  | tclass =>
      simp only [PathRec.component, queryPathRecords, checkAndSetVal_zero, QueryParams.prOption,
        Int.toNat_natCast]
      exact Nat.mod_eq_of_lt p.tclass.toNat_lt
  | reversible =>
      rw [PathRec.component, record_numPath hp, QueryParams.prOption]
      omega
  | numbpath =>
      rw [PathRec.component, record_numPath hp, QueryParams.prOption]
      omega
  | pkey =>
      simp only [PathRec.component, queryPathRecords, checkAndSetVal_zero, QueryParams.prOption,
        Int.toNat_natCast]
      exact Nat.mod_eq_of_lt p.pkey.toNat_lt
  | sl =>
      rw [PathRec.component, record_qosClassSl hp hqos, QueryParams.prOption]
      omega
  | qosClass =>
      rw [PathRec.component, record_qosClassSl hp hqos, QueryParams.prOption]
      omega
  | mtu =>
      simp only [PathRec.component, queryPathRecords, checkAndSetValAndSel_fst,
        QueryParams.prOption, Int.toNat_natCast]
  | mtuselec =>
      simp only [PathRec.component, queryPathRecords, checkAndSetValAndSel_fst,
        QueryParams.prOption, Int.toNat_natCast]
  | rate =>
      simp only [PathRec.component, queryPathRecords, checkAndSetValAndSel_fst,
        QueryParams.prOption, Int.toNat_natCast]
  | rateselec =>
      simp only [PathRec.component, queryPathRecords, checkAndSetValAndSel_fst,
        QueryParams.prOption, Int.toNat_natCast]
  | pktlifetime =>
      simp only [PathRec.component, queryPathRecords, checkAndSetValAndSel_fst,
        QueryParams.prOption, Int.toNat_natCast]
  | pktlifetimeselec =>
      simp only [PathRec.component, queryPathRecords, checkAndSetValAndSel_fst,
        QueryParams.prOption, Int.toNat_natCast]

end PathRecords

section MemberRecords
variable {h : IbTypes} {p : QueryParams} {val : Int} {size : Nat} {compWith : Int}

def MemberRec.component (r : MemberRec) : McrComponent → Nat
  | .mgid => r.mgid.toNat
  | .portGid => r.portGid.toNat
  | .mlid => r.mlid
  | .qkey => r.qkey
  | .mtu | .mtuSel => r.mtu.toNat
  | .rate | .rateSel => r.rate.toNat
  | .life | .lifeSel => r.pktLife.toNat
  | .tclass => r.tclass
  | .pkey => r.pkey
  | .sl => r.slFlowHop / 2 ^ 28
  | .flow => r.slFlowHop / 2 ^ 8 % 2 ^ 20
  | .hop => r.slFlowHop % 2 ^ 8
  | .scope => r.scopeState / 2 ^ 4
  | .joinState => r.scopeState % 2 ^ 4
  | .proxy => r.proxyJoin

def QueryParams.mcrOption (p : QueryParams) : McrComponent → Int
  | .mgid => p.mgid.toNat
  | .portGid => p.gid.toNat
  | .mlid => p.mlid.toNat
  | .qkey => p.qkey.toNat
  | .mtu | .mtuSel => p.mtu.toNat
  | .rate | .rateSel => p.rate.toNat
  | .life | .lifeSel => p.pktLife.toNat
  | .tclass => p.tclass.toNat
  | .pkey => p.pkey.toNat
  | .sl => p.sl
  | .flow => p.flowLabel.toNat
  | .hop => p.hopLimit
  | .scope => p.scope.toNat
  | .joinState => p.joinState.toNat
  | .proxy => p.proxyJoin

def QueryParams.mcrFlag (p : QueryParams) : McrComponent → Bool
  | .mgid => validGid p.mgid
  | .portGid => validGid p.gid
  | .mlid => differs p.mlid.toNat 16 0
  | .qkey => differs p.qkey.toNat 32 0
  | .mtu | .mtuSel => p.mtu ≠ 0
  | .rate | .rateSel => p.rate ≠ 0
  | .life | .lifeSel => p.pktLife ≠ 0
  | .tclass => differs p.tclass.toNat 8 0
  | .pkey => differs p.pkey.toNat 16 0
  | .sl => differs p.sl 8 (-1)
  | .flow => differs p.flowLabel.toNat 8 0
  | .hop => differs p.hopLimit 8 (-1)
  | .scope => differs p.scope.toNat 8 0
  | .joinState => differs p.joinState.toNat 8 0
  | .proxy => differs p.proxyJoin 8 (-1)

def mcrComponents : List McrComponent :=
  [.mgid, .portGid, .mlid, .qkey, .mtuSel, .mtu, .rateSel, .rate, .lifeSel, .life, .tclass, .pkey,
    .sl, .flow, .hop, .scope, .joinState, .proxy]

theorem queryMcmemberRecords_compMask :
    (queryMcmemberRecords h p).compMask = h.mcrCompmask.gather p.mcrFlag mcrComponents 0#64 := by
  simp only [queryMcmemberRecords, checkAndSetVal_snd, checkAndSetGid_snd, checkAndSetValAndSel_snd,
    QueryParams.mcrFlag, mcrComponents, Flags.Masks.gather, List.foldl_cons, List.foldl_nil]

theorem has_queryMcmemberRecords (c : McrComponent) :
    h.mcrCompmask.Has (queryMcmemberRecords h p).compMask c ↔ p.mcrFlag c = true := by
  have hmem : c ∈ mcrComponents := by cases c <;> decide
  rw [queryMcmemberRecords_compMask, Flags.Masks.has_gather, and_iff_right hmem]

/-- Other options than flow label and hop limit are recognized as given. -/
theorem mcrFlag_iff (hp : p.InRange) {c : McrComponent}
    (hflow : c = .flow → p.flowLabel.toNat < 2 ^ 8) (hhop : c = .hop → p.hopLimit ≠ 255) :
    p.mcrFlag c = true ↔ p.mcrOption c ≠ QueryParams.unset.mcrOption c := by
  cases c with
  | mgid => exact validGid_iff p.mgid
  | portGid => exact validGid_iff p.gid
  | mlid => exact differs_zero_of_lt p.mlid.toNat_lt
  | qkey => exact differs_zero_of_lt p.qkey.toNat_lt
  | mtu => exact byte_ne_zero p.mtu
  | mtuSel => exact byte_ne_zero p.mtu
  | rate => exact byte_ne_zero p.rate
  | rateSel => exact byte_ne_zero p.rate
  | life => exact byte_ne_zero p.pktLife
  | lifeSel => exact byte_ne_zero p.pktLife
  | tclass => exact differs_zero_of_lt p.tclass.toNat_lt
  | pkey => exact differs_zero_of_lt p.pkey.toNat_lt
  | sl => exact differs_neg_one hp.sl.1 (hp.sl.2.trans (by decide))
  | flow => exact differs_zero_of_lt (hflow rfl)
  | hop =>
      have hlimit := hhop rfl
      have hhigh := hp.hopLimit.2
      exact differs_neg_one hp.hopLimit.1 (by omega)
  | scope => exact differs_zero_of_lt p.scope.toNat_lt
  | joinState => exact differs_zero_of_lt p.joinState.toNat_lt
  | proxy => exact differs_neg_one hp.proxyJoin.1 (hp.proxyJoin.2.trans (by decide))

theorem record_scopeState (hp : p.InRange) :
    (queryMcmemberRecords h p).record.scopeState = p.scope.toNat * 2 ^ 4 + p.joinState.toNat := by
  have hscope := hp.scope
  have hjoin := hp.joinState
  simp only [queryMcmemberRecords, checkAndSetVal_zero]
  have hscope' : p.scope.toNat % 2 ^ 8 = p.scope.toNat := by omega
  have hjoin' : p.joinState.toNat % 2 ^ 8 = p.joinState.toNat := by omega
  rw [hscope', hjoin', or_shiftLeft hjoin]
  omega

theorem checkAndSetVal_lt (mask compMask : BitVec 64) :
    (checkAndSetVal val size compWith 0 mask compMask).1 < 2 ^ size := by
  have hpos : (0 : Int) < 2 ^ size := Int.pow_pos (by decide)
  have hlt := Int.emod_lt_of_pos val hpos
  have hnonneg := Int.emod_nonneg val hpos.ne'
  rw [checkAndSetVal_fst]
  split
  · rw [Int.toNat_lt hnonneg]
    exact_mod_cast hlt
  · exact Nat.two_pow_pos size

/-- The flow label is cut to eight bits. -/
theorem record_slFlowHop (h : IbTypes) (hp : p.InRange) :
    ∃ hop < 2 ^ 8, (p.hopLimit ≠ 255 → hop = p.hopLimit.toNat) ∧
      (queryMcmemberRecords h p).record.slFlowHop =
        p.sl.toNat * 2 ^ 28 + p.flowLabel.toNat % 2 ^ 8 * 2 ^ 8 + hop := by
  obtain ⟨hlow, hhigh⟩ := hp.sl
  obtain ⟨hlow', hhigh'⟩ := hp.hopLimit
  have hsl := fun m n => checkAndSetVal_neg_one 8 hlow (hhigh.trans (by decide)) m n
  simp only [queryMcmemberRecords, checkAndSetVal_zero, hsl]
  generalize (checkAndSetVal p.flowLabel.toNat 8 0 0 _ _).2 = compMask
  refine ⟨_, checkAndSetVal_lt (h.mcrCompmask.bits .hop) compMask,
    fun hhop => checkAndSetVal_neg_one 8 hlow' (by omega) _ _, ?_⟩
  exact h.memberSetSlFlowHop_eq _ _ _ (by omega) (by omega) (checkAndSetVal_lt _ _)

theorem memberComponent_eq (hp : p.InRange) (hflow : p.flowLabel.toNat < 2 ^ 8)
    (hhop : p.hopLimit ≠ 255) (c : McrComponent) :
    (queryMcmemberRecords h p).record.component c = (p.mcrOption c).toNat := by
  obtain ⟨hsl, hsl'⟩ := hp.sl
  obtain ⟨hlimit, hlimit'⟩ := hp.hopLimit
  obtain ⟨hproxy, hproxy'⟩ := hp.proxyJoin
  have hscope := hp.scope
  have hjoin := hp.joinState
  obtain ⟨hop, hlt, heq, hword⟩ := record_slFlowHop h hp
  have heq := heq hhop
  cases c with
  | mgid | portGid =>
      simp only [MemberRec.component, queryMcmemberRecords, checkAndSetGid_fst,
        QueryParams.mcrOption, Int.toNat_natCast]
  | mlid =>
      simp only [MemberRec.component, queryMcmemberRecords, checkAndSetVal_zero,
        QueryParams.mcrOption, Int.toNat_natCast]
      exact Nat.mod_eq_of_lt p.mlid.toNat_lt
  | qkey =>
      simp only [MemberRec.component, queryMcmemberRecords, checkAndSetVal_zero,
        QueryParams.mcrOption, Int.toNat_natCast]
      exact Nat.mod_eq_of_lt p.qkey.toNat_lt
  | mtu | mtuSel | rate | rateSel | life | lifeSel =>
      simp only [MemberRec.component, queryMcmemberRecords, checkAndSetValAndSel_fst,
        QueryParams.mcrOption, Int.toNat_natCast]
  | tclass =>
      simp only [MemberRec.component, queryMcmemberRecords, checkAndSetVal_zero,
        QueryParams.mcrOption, Int.toNat_natCast]
      exact Nat.mod_eq_of_lt p.tclass.toNat_lt
  | pkey =>
      simp only [MemberRec.component, queryMcmemberRecords, checkAndSetVal_zero,
        QueryParams.mcrOption, Int.toNat_natCast]
      exact Nat.mod_eq_of_lt p.pkey.toNat_lt
  | sl | flow | hop =>
      rw [MemberRec.component, hword, QueryParams.mcrOption]
      omega
  | scope | joinState =>
      rw [MemberRec.component, record_scopeState hp, QueryParams.mcrOption]
      omega
  | proxy =>
      have hset := fun m n =>
        checkAndSetVal_neg_one 8 hproxy (hproxy'.trans (by decide)) m n
      simp only [MemberRec.component, queryMcmemberRecords, hset, QueryParams.mcrOption]

end MemberRecords

section Exact

/-- The component mask has just the components whose options were given, and the record has the
values given, and 0 elsewhere. -/
structure Request.Exact {R C : Type} (q : Request R) (masks : Flags.Masks C 64)
    (component : R → C → Nat) (option unset : C → Int) : Prop where
  mask : ∀ c, masks.Has q.compMask c ↔ option c ≠ unset c
  value : ∀ c, component q.record c = if option c ≠ unset c then (option c).toNat else 0

variable {h : IbTypes} {p : QueryParams}

theorem prOption_unset (c : PrComponent) : (QueryParams.unset.prOption c).toNat = 0 := by
  cases c <;> rfl

theorem mcrOption_unset (c : McrComponent) : (QueryParams.unset.mcrOption c).toNat = 0 := by
  cases c <;> rfl

/-- What an option stands for is its value, whether it was given or not. -/
theorem given_value {option unset : Int} (hunset : unset.toNat = 0) :
    (if option ≠ unset then option.toNat else 0) = option.toNat := by
  by_cases hgiven : option ≠ unset
  · rw [if_pos hgiven]
  · rw [if_neg hgiven, not_not.mp hgiven, hunset]

theorem pathRecords_exact_iff (hp : p.InRange) :
    (queryPathRecords h p).Exact h.prCompmask PathRec.component p.prOption
        QueryParams.unset.prOption ↔
      p.qosClass ≠ -1 ∧ p.flowLabel.toNat < 2 ^ 8 := by
  constructor
  · intro hexact
    constructor
    · intro hqos
      have hset : p.prFlag .qosClass = true := by
        rw [QueryParams.prFlag, hqos, differs_iff]
        decide
      have hgiven := (hexact.mask .qosClass).mp ((has_queryPathRecords _).mpr hset)
      exact hgiven hqos
    · have hvalue := hexact.value .flowlabel
      rw [given_value (prOption_unset _), PathRec.component, record_hopFlowRaw hp,
        QueryParams.prOption] at hvalue
      have hhop := hp.hopLimit
      omega
  · rintro ⟨hqos, hflow⟩
    constructor
    case mask =>
      intro c
      rw [has_queryPathRecords, prFlag_iff hp (fun _ => hqos) fun _ => hflow]
    case value =>
      intro c
      rw [given_value (prOption_unset c), component_eq hp hqos hflow]

theorem memberRecords_exact_iff (hp : p.InRange) :
    (queryMcmemberRecords h p).Exact h.mcrCompmask MemberRec.component p.mcrOption
        QueryParams.unset.mcrOption ↔
      p.flowLabel.toNat < 2 ^ 8 ∧ p.hopLimit ≠ 255 := by
  constructor
  · intro hexact
    constructor
    · obtain ⟨hop, hlt, -, hword⟩ := record_slFlowHop h hp
      have hvalue := hexact.value .flow
      rw [given_value (mcrOption_unset _), MemberRec.component, hword, QueryParams.mcrOption]
        at hvalue
      omega
    · intro hhop
      have hgiven : h.mcrCompmask.Has (queryMcmemberRecords h p).compMask .hop :=
        (hexact.mask .hop).mpr (by rw [QueryParams.mcrOption, hhop]; decide)
      rw [has_queryMcmemberRecords, QueryParams.mcrFlag, hhop, differs_iff] at hgiven
      exact hgiven rfl
  · rintro ⟨hflow, hhop⟩
    constructor
    case mask =>
      intro c
      rw [has_queryMcmemberRecords, mcrFlag_iff hp (fun _ => hflow) fun _ => hhop]
    case value =>
      intro c
      rw [given_value (mcrOption_unset c), memberComponent_eq hp hflow hhop]

/-- With options in range, both requests ask for just the components given if the QoS class is among
them, the flow label has eight bits, and the hop limit is not 255. -/
theorem requests_exact_iff (h : IbTypes) (hp : p.InRange) :
    ((queryPathRecords h p).Exact h.prCompmask PathRec.component p.prOption
        QueryParams.unset.prOption ↔ p.qosClass ≠ -1 ∧ p.flowLabel.toNat < 2 ^ 8) ∧
    ((queryMcmemberRecords h p).Exact h.mcrCompmask MemberRec.component p.mcrOption
        QueryParams.unset.mcrOption ↔ p.flowLabel.toNat < 2 ^ 8 ∧ p.hopLimit ≠ 255) :=
  ⟨pathRecords_exact_iff hp, memberRecords_exact_iff hp⟩

/-- Component masks with one bit for each component. -/
def oneBit {C : Type} (place : C → Nat) (hplace : ∀ c, place c < 64)
    (hinj : ∀ c d, place c = place d → c = d) : Flags.Masks C 64 where
  bits c := BitVec.twoPow 64 (place c)
  bits_ne_zero c hzero := by
    have hbit := congrArg (BitVec.getLsbD · (place c)) hzero
    rw [BitVec.getLsbD_twoPow, BitVec.getLsbD_zero, decide_eq_true (hplace c)] at hbit
    simp at hbit
  disjoint c d hne := by
    apply BitVec.eq_of_getLsbD_eq
    intro i _
    rw [BitVec.getLsbD_and, BitVec.getLsbD_twoPow, BitVec.getLsbD_twoPow, BitVec.getLsbD_zero]
    by_cases hc : place c = i
    · have hd : place d ≠ i := fun hd => hne (hinj c d (hc.trans hd.symm))
      simp [hd]
    · simp [hc]

def prPlace : PrComponent → Nat
  | .serviceid => 0
  | .dgid => 2
  | .sgid => 3
  | .dlid => 4
  | .slid => 5
  | .flowlabel => 8
  | .hoplimit => 9
  | .tclass => 10
  | .reversible => 11
  | .numbpath => 12
  | .pkey => 13
  | .qosClass => 14
  | .sl => 15
  | .mtuselec => 16
  | .mtu => 17
  | .rateselec => 18
  | .rate => 19
  | .pktlifetimeselec => 20
  | .pktlifetime => 21

def mcrPlace : McrComponent → Nat
  | .mgid => 0
  | .portGid => 1
  | .qkey => 2
  | .mlid => 3
  | .mtuSel => 4
  | .mtu => 5
  | .tclass => 6
  | .pkey => 7
  | .rateSel => 8
  | .rate => 9
  | .lifeSel => 10
  | .life => 11
  | .sl => 12
  | .flow => 13
  | .hop => 14
  | .scope => 15
  | .joinState => 16
  | .proxy => 17

def ibTypes : IbTypes where
  prCompmask := oneBit prPlace (fun c => by cases c <;> decide) fun c d h => by
    cases c <;> cases d <;> first | rfl | cases h
  mcrCompmask := oneBit mcrPlace (fun c => by cases c <;> decide) fun c d h => by
    cases c <;> cases d <;> first | rfl | cases h
  pathRecSlMask := 0xf
  memberSetSlFlowHop sl flow hop := sl * 2 ^ 28 + flow * 2 ^ 8 + hop
  pathRecSlMask_eq := rfl
  memberSetSlFlowHop_eq _ _ _ _ _ _ := rfl

/-- `--slid 1 --dlid 2`. -/
def lidOptions : QueryParams := { QueryParams.unset with slid := 1, dlid := 2 }

/-- `--slid 1 --dlid 2 --qos_class 5 --flow_label 7 --hop_limit 64`. -/
def qosOptions : QueryParams := { lidOptions with qosClass := 5, flowLabel := 7, hopLimit := 64 }

theorem requests_exact_qosClass :
    (queryPathRecords ibTypes qosOptions).Exact ibTypes.prCompmask PathRec.component
        qosOptions.prOption QueryParams.unset.prOption ∧
    (queryMcmemberRecords ibTypes qosOptions).Exact ibTypes.mcrCompmask MemberRec.component
      qosOptions.mcrOption QueryParams.unset.mcrOption := by
  have hexact := requests_exact_iff ibTypes (show qosOptions.InRange by constructor <;> decide)
  exact ⟨hexact.1.mpr (by decide), hexact.2.mpr (by decide)⟩

/-- QoS class 0xfff is asked for. -/
theorem not_exact_lids :
    ¬ (queryPathRecords ibTypes lidOptions).Exact ibTypes.prCompmask PathRec.component
      lidOptions.prOption QueryParams.unset.prOption :=
  fun hexact => ((pathRecords_exact_iff (by constructor <;> decide)).mp hexact).1 rfl

end Exact

end Saquery
end InfinibandDiags
