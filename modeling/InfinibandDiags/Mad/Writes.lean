import InfinibandDiags.Mad.Layouts

/-! Writing fields one after the other into a MAD: what a field holds at the end is what was last
written into it, as long as the later fields lie elsewhere. -/
namespace InfinibandDiags

/-- What one of the three setters is given. -/
inductive FieldValue
  | num (val : Nat)
  | num64 (val : UInt64)
  | array (val : List UInt8)

namespace FieldValue

def write (buf : Bytes) (f : MadField) : FieldValue → Bytes
  | .num val => madSetField buf 0 f val
  | .num64 val => madSetField64 buf 0 f val
  | .array val => madSetArray buf 0 f val

/-- The getter of the same kind gives the value, cut down to the bits of the field. -/
def ReadBack (buf : Bytes) (f : MadField) : FieldValue → Prop
  | .num val => madGetField buf 0 f = val % 2 ^ (ibMadF f).bitlen
  | .num64 val => madGetField64 buf 0 f = val
  | .array val => getArray buf 0 (ibMadF f) = val

/-- Whole 32-bit words, more than one. -/
def Words (f : IbField) : Prop := 32 < f.bitlen ∧ f.bitoffs % 32 = 0 ∧ f.bitlen % 32 = 0

instance (f : IbField) : Decidable (Words f) := inferInstanceAs (Decidable (_ ∧ _))

/-- The value is of the kind of the field, and does not spill. -/
def Fits (f : MadField) : FieldValue → Prop
  | .num val => (ibMadF f).Regular ∧
      ((ibMadF f).InByte ∨ (ibMadF f).postbits = 0 ∨ val < 2 ^ (ibMadF f).bitlen)
  | .num64 _ => Words (ibMadF f) ∧ (ibMadF f).bitlen = 64
  | .array val => Words (ibMadF f) ∧ val.length = (ibMadF f).bitlen / 8

variable {buf buf' : Bytes} {f : MadField} {v : FieldValue}

@[simp] theorem write_length (buf : Bytes) (f : MadField) (v : FieldValue) :
    (v.write buf f).length = buf.length := by
  cases v with
  | num val => exact setField_length buf 0 (ibMadF f) val
  | num64 val => exact copyInto_length buf _ _
  | array val => exact copyInto_length buf _ _

theorem readBack_write (hfits : v.Fits f) (hbuf : HoldsWords buf 0 (ibMadF f)) :
    v.ReadBack (v.write buf f) f := by
  cases v with
  | num val => exact getField_setField hfits.1 (hbuf.holds (by decide)) val
  | num64 val =>
      refine getField64_setField64 ?_ val
      rw [HoldsWords, hfits.2] at hbuf
      omega
  | array val =>
      have hlen := hfits.1.2
      refine getArray_setArray ?_ hfits.2
      rw [HoldsWords] at hbuf
      omega

/-- Bits outside the field stay. -/
theorem write_onlyField (hfits : v.Fits f) (hbuf : HoldsWords buf 0 (ibMadF f)) :
    OnlyField buf (v.write buf f) 0 (ibMadF f) := by
  cases v with
  | num val =>
      exact (setField_onlyField hfits.1 (hbuf.holds (by decide)) val).mpr (not_spills hfits.2)
  | num64 val =>
      obtain ⟨⟨-, hoffs, -⟩, h64⟩ := hfits
      intro k hk
      rw [IbField.start] at hk
      exact wordBit_copyInto (bigEndian64 val) (n := 8) (by simp [bigEndian64]) (by omega) (by decide)
        (by omega)
  | array val =>
      obtain ⟨⟨-, hoffs, hwords⟩, hval⟩ := hfits
      intro k hk
      rw [IbField.start] at hk
      exact wordBit_copyInto (val.take ((ibMadF f).bitlen / 8)) (n := (ibMadF f).bitlen / 8)
        (List.length_take_le _ _) (by omega) (by omega) (by omega)

/-- What is read depends on the bits of the field alone. -/
theorem readBack_congr (hfits : v.Fits f)
    (h : ∀ k, (ibMadF f).bitoffs ≤ k → k < (ibMadF f).bitoffs + (ibMadF f).bitlen →
      wordBit buf' k = wordBit buf k) (hread : v.ReadBack buf f) : v.ReadBack buf' f := by
  have hbits : ∀ k, (ibMadF f).start 0 ≤ k → k < (ibMadF f).start 0 + (ibMadF f).bitlen →
      wordBit buf' k = wordBit buf k := by
    intro k hk hk'
    rw [IbField.start] at hk hk'
    exact h k (by omega) (by omega)
  cases v with
  | num val =>
      have hget : madGetField buf' 0 f = madGetField buf 0 f := by
        apply Nat.eq_of_testBit_eq
        intro i
        rw [madGetField, madGetField, testBit_getField hfits.1, testBit_getField hfits.1]
        by_cases hi : i < (ibMadF f).bitlen
        · rw [hbits _ (by omega) (by omega)]
        · rw [decide_eq_false hi, Bool.false_and, Bool.false_and]
      exact hget.trans hread
  | num64 val =>
      obtain ⟨⟨-, hoffs, hwords⟩, h64⟩ := hfits
      have hbyte : ∀ k < 8, byteAt buf' (0 + (ibMadF f).bitoffs / 8 + k) =
          byteAt buf (0 + (ibMadF f).bitoffs / 8 + k) :=
        fun k hk => byteAt_words hoffs hwords (by decide) hbits (by omega)
      refine Eq.trans ?_ hread
      rw [madGetField64, madGetField64, getField64_eq_bytes, getField64_eq_bytes,
        bytesAt_congr hbyte]
  | array val =>
      obtain ⟨⟨-, hoffs, hwords⟩, -⟩ := hfits
      have hbyte : ∀ k < (ibMadF f).bitlen / 8, byteAt buf' (0 + (ibMadF f).bitoffs / 8 + k) =
          byteAt buf (0 + (ibMadF f).bitoffs / 8 + k) :=
        fun k hk => byteAt_words hoffs hwords (by decide) hbits hk
      exact (bytesAt_congr hbyte).trans hread

end FieldValue

/-- A field and what is written into it. -/
abbrev FieldWrite := MadField × FieldValue

def writeAll (buf : Bytes) (ws : List FieldWrite) : Bytes :=
  ws.foldl (fun buf w => w.2.write buf w.1) buf

section WriteAll
variable {buf : Bytes} {ws : List FieldWrite}

@[simp] theorem writeAll_length (buf : Bytes) (ws : List FieldWrite) :
    (writeAll buf ws).length = buf.length := by
  induction ws generalizing buf with
  | nil => rfl
  | cons w ws ih => exact (ih _).trans (w.2.write_length buf w.1)

/-- All values fit into their fields, and all fields into the buffer. -/
structure Writable (buf : Bytes) (ws : List FieldWrite) : Prop where
  fits : ∀ w ∈ ws, w.2.Fits w.1
  holds : ∀ w ∈ ws, HoldsWords buf 0 (ibMadF w.1)

theorem Writable.tail {w : FieldWrite} (h : Writable buf (w :: ws)) :
    Writable (w.2.write buf w.1) ws := by
  refine ⟨fun w' hw' => h.fits w' (List.mem_cons_of_mem w hw'), fun w' hw' => ?_⟩
  rw [HoldsWords, FieldValue.write_length]
  exact h.holds w' (List.mem_cons_of_mem w hw')

/-- Fields apart from all that are written keep their value. -/
theorem readBack_writeAll_of_apart (hws : Writable buf ws) {f : MadField} {v : FieldValue}
    (hfits : v.Fits f) (hapart : ∀ w ∈ ws, (ibMadF f).Apart (ibMadF w.1))
    (hread : v.ReadBack buf f) : v.ReadBack (writeAll buf ws) f := by
  induction ws generalizing buf with
  | nil => exact hread
  | cons w ws ih =>
      refine ih hws.tail (fun w' hw' => hapart w' (List.mem_cons_of_mem w hw')) ?_
      have honly := FieldValue.write_onlyField (hws.fits w List.mem_cons_self)
        (hws.holds w List.mem_cons_self)
      refine FieldValue.readBack_congr hfits (fun k hk hk' => honly k ?_) hread
      have hw := hapart w List.mem_cons_self
      simp only [IbField.start, IbField.Apart] at *
      omega

/-- Every value that no later write lies over is read back. -/
theorem readBack_writeAll (counts : MadField → Prop) (hws : Writable buf ws)
    (hapart : ws.Pairwise fun w w' => counts w.1 → (ibMadF w.1).Apart (ibMadF w'.1))
    {w : FieldWrite} (hw : w ∈ ws) (hcounts : counts w.1) :
    w.2.ReadBack (writeAll buf ws) w.1 := by
  induction ws generalizing buf with
  | nil => cases hw
  | cons w' ws ih =>
      obtain ⟨hhead, htail⟩ := List.pairwise_cons.mp hapart
      rcases List.mem_cons.mp hw with rfl | hw
      · refine readBack_writeAll_of_apart hws.tail (hws.fits w List.mem_cons_self)
          (fun w' hw' => hhead w' hw' hcounts) ?_
        exact FieldValue.readBack_write (hws.fits w List.mem_cons_self)
          (hws.holds w List.mem_cons_self)
      · exact ih hws.tail htail hw

/-- Bytes copied beside a field leave it. -/
theorem readBack_copyInto {f : MadField} {v : FieldValue} (hfits : v.Fits f) {i : Nat}
    {bs : List UInt8} (h : ((ibMadF f).bitoffs + (ibMadF f).bitlen + 31) / 32 * 4 ≤ i ∨
      i + bs.length ≤ (ibMadF f).bitoffs / 32 * 4) (hread : v.ReadBack buf f) :
    v.ReadBack (copyInto buf i bs) f := by
  refine FieldValue.readBack_congr hfits (fun k hk hk' => ?_) hread
  have hbyte : byteAt (copyInto buf i bs) (3 ^^^ (k / 8)) = byteAt buf (3 ^^^ (k / 8)) := by
    rw [xor_three]
    rcases h with hbefore | hbehind
    · exact byteAt_copyInto_of_lt bs (by omega)
    · exact byteAt_copyInto_of_ge bs (by omega)
  rw [wordBit, wordBit, hbyte]

end WriteAll
end InfinibandDiags
