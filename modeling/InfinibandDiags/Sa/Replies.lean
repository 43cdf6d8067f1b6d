import Mathlib.Tactic.NormNum
import InfinibandDiags.Mad.Header

/-! The records of an SA reply: how many `sa_query` counts, and where the callers read them. -/
namespace InfinibandDiags

def ibMadMethodF : Nat := 3
def ibMadStatusF : Nat := 8
def ibSaAttroffsF : Nat := 20

def ibMadMethodGetTable : Nat := 0x12
def ibSaMadStatusSuccess : Nat := 0

/-- What was received, as long as `umad_recv` says in an `int`, and not shorter than the header. -/
structure SaReply where
  mad : Bytes
  dataOffs_le : ibSaDataOffs ≤ mad.length
  length_lt : mad.length < 2 ^ 31

namespace SaReply

/-- `sa_query_result`, but for `p_result_madw`. -/
structure QueryResult where
  status : Nat
  resultCnt : Nat
  deriving DecidableEq

def field (r : SaReply) (f : Nat) : Nat := getField r.mad 0 (tableField f)

/-- `sa_query`, from the reply on: `len - IB_SA_DATA_OFFS` is divided as an `int`, and the result kept
in an `unsigned`. -/
def saQuery (r : SaReply) : QueryResult where
  status := r.field ibMadStatusF
  resultCnt :=
    if r.field ibMadStatusF ≠ ibSaMadStatusSuccess then 0
    else if r.field ibMadMethodF ≠ ibMadMethodGetTable then 1
    else if r.field ibSaAttroffsF = 0 then 0
    else
      (((r.mad.length : Int) - (ibSaDataOffs : Nat)).tdiv ((r.field ibSaAttroffsF : Nat) * 2 ^ 3) %
        2 ^ 32).toNat

/-- `sa_get_query_rec`, from `mad` on. -/
def saGetQueryRec (r : SaReply) (i : Nat) : Nat :=
  ibSaDataOffs + i * (r.field ibSaAttroffsF * 2 ^ 3) % 2 ^ 32

/-- The bytes that a caller reads of each record lie inside the reply. -/
def ReadsInside (r : SaReply) (reads : List Nat) : Prop :=
  ∀ i < r.saQuery.resultCnt, ∀ k ∈ reads, r.saGetQueryRec i + k < r.mad.length

/-- The bytes behind the header. -/
def dataLength (r : SaReply) : Nat := r.mad.length - ibSaDataOffs

def stride (r : SaReply) : Nat := r.field ibSaAttroffsF * 2 ^ 3

/-- The bytes read lie in the data of a single record, and in a stride and what is left over behind
the last one of a table. -/
def HasRoom (r : SaReply) (reads : List Nat) : Prop :=
  if r.field ibMadMethodF = ibMadMethodGetTable then
    r.stride = 0 ∨ r.dataLength < r.stride ∨ ∀ k ∈ reads, k < r.stride + r.dataLength % r.stride
  else ∀ k ∈ reads, k < r.dataLength

/-- Records at a stride are all inside if the last one is. -/
theorem forall_stride_iff {length stride : Nat} (hstride : 0 < stride) (reads : List Nat) :
    (∀ i < length / stride, ∀ k ∈ reads, i * stride + k < length) ↔
      length < stride ∨ ∀ k ∈ reads, k < stride + length % stride := by
  have hlength := Nat.div_add_mod length stride
  constructor
  · intro h
    by_cases hnone : length < stride
    · exact .inl hnone
    · right
      intro k hk
      have hpos : 0 < length / stride := Nat.div_pos (Nat.not_lt.mp hnone) hstride
      have hlast := h (length / stride - 1) (Nat.sub_one_lt hpos.ne') k hk
      have hsplit : stride * (length / stride) = (length / stride - 1) * stride + stride := by
        rw [← Nat.succ_mul, Nat.succ_eq_add_one, Nat.sub_add_cancel hpos, Nat.mul_comm]
      omega
  · rintro (hnone | hroom) i hi k hk
    · rw [Nat.div_eq_of_lt hnone] at hi
      exact absurd hi (Nat.not_lt_zero i)
    · have hk := hroom k hk
      have hle : (i + 1) * stride ≤ length / stride * stride := Nat.mul_le_mul_right stride hi
      rw [Nat.succ_mul, Nat.mul_comm (length / stride)] at hle
      omega

variable {r : SaReply}

theorem tableField_sa :
    tableField ibMadMethodF = beOffs 0 7 ∧ tableField ibMadStatusF = beOffs 48 16 ∧
      tableField ibSaAttroffsF = beOffs 368 16 := by
  simp only [tableField_parts]
  decide +kernel

theorem stride_lt (r : SaReply) : r.stride < 2 ^ 19 := by
  have hoffset : getField r.mad 0 (beOffs 368 16) < 2 ^ 16 := getField_lt_width (by decide) r.mad 0
  rw [stride, field, tableField_sa.2.2]
  omega

theorem dataLength_lt (r : SaReply) : r.dataLength < 2 ^ 31 :=
  (Nat.sub_le _ _).trans_lt r.length_lt

theorem resultCnt_table (hstatus : r.field ibMadStatusF = ibSaMadStatusSuccess)
    (hmethod : r.field ibMadMethodF = ibMadMethodGetTable) (hstride : r.stride ≠ 0) :
    r.saQuery.resultCnt = r.dataLength / r.stride := by
  have hoffset : r.field ibSaAttroffsF ≠ 0 := fun hzero => hstride (by rw [stride, hzero]; rfl)
  have hdata : (r.mad.length : Int) - (ibSaDataOffs : Nat) = (r.dataLength : Nat) := by
    rw [dataLength, Nat.cast_sub r.dataOffs_le]
  have hdiv : ((r.dataLength : Nat) : Int).tdiv ((r.field ibSaAttroffsF : Nat) * 2 ^ 3) =
      (r.dataLength / r.stride : Nat) := by
    rw [stride]
    norm_cast
  have hle := (Nat.div_le_self r.dataLength r.stride).trans_lt r.dataLength_lt
  simp only [saQuery]
  rw [if_neg (not_not_intro hstatus), if_neg (not_not_intro hmethod), if_neg hoffset, hdata, hdiv]
  generalize r.dataLength / r.stride = count at hle
  omega

/-- The record that is counted is found at its place. -/
theorem saGetQueryRec_table {i : Nat} (hi : i < r.dataLength / r.stride) :
    r.saGetQueryRec i = ibSaDataOffs + i * r.stride := by
  have hle : i * r.stride ≤ r.dataLength :=
    (Nat.mul_le_mul_right _ hi.le).trans (Nat.div_mul_le_self _ _)
  have hlt := hle.trans_lt r.dataLength_lt
  rw [saGetQueryRec, ← stride, Nat.mod_eq_of_lt (by omega)]

/-- All bytes read lie inside the reply if the request has failed, or there is room for them. -/
theorem readsInside_iff (r : SaReply) (reads : List Nat) :
    r.ReadsInside reads ↔
      r.field ibMadStatusF ≠ ibSaMadStatusSuccess ∨ r.HasRoom reads := by
  have hlength : r.mad.length = ibSaDataOffs + r.dataLength :=
    (Nat.add_sub_cancel' r.dataOffs_le).symm
  by_cases hstatus : r.field ibMadStatusF = ibSaMadStatusSuccess
  swap
  · have hnone : r.saQuery.resultCnt = 0 := by
      simp only [saQuery]
      rw [if_pos hstatus]
    rw [ReadsInside, hnone]
    exact iff_of_true (fun i hi => absurd hi (Nat.not_lt_zero i)) (.inl hstatus)
  rw [or_iff_right (not_not_intro hstatus), ReadsInside, HasRoom]
  by_cases hmethod : r.field ibMadMethodF = ibMadMethodGetTable
  · rw [if_pos hmethod]
    by_cases hstride : r.stride = 0
    · have hoffset : r.field ibSaAttroffsF = 0 := by
        rw [stride] at hstride
        omega
      have hnone : r.saQuery.resultCnt = 0 := by
        simp only [saQuery]
        rw [if_neg (not_not_intro hstatus), if_neg (not_not_intro hmethod), if_pos hoffset]
      rw [hnone]
      exact iff_of_true (fun i hi => absurd hi (Nat.not_lt_zero i)) (.inl hstride)
    · rw [or_iff_right hstride, resultCnt_table hstatus hmethod hstride,
        ← forall_stride_iff (Nat.pos_of_ne_zero hstride)]
      refine forall_congr' fun i => forall_congr' fun hi => forall_congr' fun k => ?_
      rw [saGetQueryRec_table hi, hlength, Nat.add_assoc, Nat.add_lt_add_iff_left]
  · have hone : r.saQuery.resultCnt = 1 := by
      simp only [saQuery]
      rw [if_neg (not_not_intro hstatus), if_pos hmethod]
    have hstart : r.saGetQueryRec 0 = ibSaDataOffs := by
      rw [saGetQueryRec, Nat.zero_mul]
      rfl
    rw [if_neg hmethod, hone]
    simp only [Nat.lt_one_iff, forall_eq, hstart, hlength, Nat.add_lt_add_iff_left]

/-- A table of 8 strides of eight bytes, and a successful GetTableResp. -/
def narrowTable : SaReply where
  mad := [1, 3, 2, 0x92] ++ List.replicate 41 0 ++ [1] ++ List.replicate 74 0
  dataOffs_le := by decide
  length_lt := by decide

/-- PathRecords, of which 64 bytes are read, are read beyond the reply. -/
theorem not_readsInside_narrowTable : ¬ narrowTable.ReadsInside (List.range 64) := by
  intro h
  have hcount : narrowTable.saQuery.resultCnt = 8 := by decide +kernel
  have hlast := h 7 (by rw [hcount]; decide) 63 (by decide)
  exact absurd hlast (by decide +kernel)

end SaReply
end InfinibandDiags
