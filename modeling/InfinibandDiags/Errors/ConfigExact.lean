import InfinibandDiags.Errors.Config
import InfinibandDiags.Mad.Layouts

/-! When ibqueryerrors takes from its command line and its file just what they say. -/
namespace InfinibandDiags

section Names

/-- The name of a field is the one given. -/
def IsNamed (name : Bytes) (f : Nat) : Bool := (madFieldName f).map nameBytes = some name

end Names

section Strtok
variable {delim : UInt8} {s : Bytes}

end Strtok

section Suppressed
variable {val : Bytes} {fs suppressed suppressed' : List Nat}

end Suppressed

section Encode

/-- The extended error counters. -/
def extErrorFields : List Nat := List.range' ibPcExtErrSym (ibPcExtXmtWait + 1 - ibPcExtErrSym)

variable {buf : Bytes} {f g val : Nat}

end Encode

section SetThres
variable {val : Nat}

end SetThres

section Lines
variable {buf text thresholds : Bytes}

/-- A line as a string: up to a NUL, and without its newline. -/
def lineText (buf : Bytes) : Bytes := (buf.takeWhile (· ≠ 0)).takeWhile (· ≠ newline)

/-- A blank line, or a comment. -/
def Ignored (text : Bytes) : Prop := text = [] ∨ text.head? = some 35

instance (text : Bytes) : Decidable (Ignored text) := inferInstanceAs (Decidable (_ ∨ _))

/-- What stands before the first `=`, and what stands behind it. -/
def lineName (text : Bytes) : Bytes := (text.dropWhile (· = 61)).takeWhile (· ≠ 61)

def lineNumber (text : Bytes) : Bytes := ((text.dropWhile (· = 61)).dropWhile (· ≠ 61)).tail

/-- A line that has something behind its `=`, unless it is ignored. -/
def Complete (buf : Bytes) : Prop := Ignored (lineText buf) ∨ lineNumber (lineText buf) ≠ []

instance (buf : Bytes) : Decidable (Complete buf) := inferInstanceAs (Decidable (_ ∨ _))

/-- The name and the number of a line `name=number`. -/
def assignment (buf : Bytes) : Option (Bytes × Nat) :=
  if Ignored (lineText buf) ∨ lineNumber (lineText buf) = [] then none
  else some (lineName (lineText buf), strtoul (lineNumber (lineText buf)))

theorem takeWhile_ne {c : UInt8} {s : Bytes} (hs : c ∉ s) : s.takeWhile (· ≠ c) = s :=
  List.takeWhile_eq_self_iff.mpr fun d hd => by
    simpa using fun h : d = c => hs (h ▸ hd)

theorem unsignedLong_lt (negative : Bool) (value : Nat) : unsignedLong negative value < 2 ^ 64 := by
  unfold unsignedLong
  split
  · decide
  · split
    · exact Nat.mod_lt _ (Nat.two_pow_pos 64)
    · omega

/-- The number of the last line with the counter's name, 0 where there is none. -/
def lastNumber (bufs : List Bytes) (f : Nat) : Nat :=
  (((bufs.filterMap assignment).filter fun a => IsNamed a.1 f).getLast?).elim 0 Prod.snd

end Lines

section File
variable {file : Bytes}

/-- A call of `fgets` takes a line with its newline, or 1023 bytes without one. -/
theorem fgets_cases (file : Bytes) :
    (∃ line rest, newline ∉ line ∧ line.length < 1023 ∧ file = line ++ newline :: rest ∧
      fgets file = (line ++ [newline], rest)) ∨
    (newline ∉ file.take 1023 ∧ fgets file = (file.take 1023, file.drop 1023)) := by
  by_cases hmem : newline ∈ file.take 1023
  · obtain ⟨line, rest, hhead, hline⟩ := List.eq_append_cons_of_mem hmem
    have hlen : line.length < 1023 := by
      have htake := List.length_take_le 1023 file
      rw [hhead, List.length_append, List.length_cons] at htake
      omega
    have hfile : file = line ++ newline :: (rest ++ file.drop 1023) := by
      rw [← List.cons_append, ← List.append_assoc, ← hhead, List.take_append_drop]
    have htext : (file.take 1023).takeWhile (· ≠ newline) = line := by
      rw [hhead, List.takeWhile_append_of_pos fun c hc => by
        simpa using fun h : c = newline => hline (h ▸ hc)]
      simp
    refine .inl ⟨line, rest ++ file.drop 1023, hline, hlen, hfile, ?_⟩
    unfold fgets
    dsimp only
    rw [htext, if_pos (by rw [hhead]; simp)]
    congr 1
    have hcut := congrArg (List.drop (line.length + 1)) hfile
    rw [hcut]
    simp [List.drop_append]
  · refine .inr ⟨hmem, ?_⟩
    unfold fgets
    dsimp only
    rw [takeWhile_ne hmem, if_neg (Nat.lt_irrefl _)]

theorem lineText_newline (line : Bytes) : lineText (line ++ [newline]) = lineText line := by
  induction line with
  | nil => rfl
  | cons c line ih =>
      unfold lineText at ih ⊢
      rw [List.cons_append, List.takeWhile_cons, List.takeWhile_cons]
      split
      · rw [List.takeWhile_cons, List.takeWhile_cons, ih]
      · rfl

theorem assignment_newline (line : Bytes) : assignment (line ++ [newline]) = assignment line := by
  rw [assignment, assignment, lineText_newline]

/-- Where no line is longer than what `fgets` has room for, it reads the lines. -/
theorem assignments_of_short {fuel : Nat} (hfuel : file.length ≤ fuel)
    (hshort : ∀ line ∈ file.splitOn newline, line.length ≤ 1023) :
    (fgetsReads fuel file).filterMap assignment = (file.splitOn newline).filterMap assignment := by
  induction fuel generalizing file with
  | zero =>
      rw [List.length_eq_zero_iff.mp (Nat.le_zero.mp hfuel)]
      rfl
  | succ fuel ih =>
      rw [fgetsReads]
      by_cases hne : file = []
      · rw [if_pos hne, hne]
        rfl
      · rw [if_neg hne]
        rcases fgets_cases file with ⟨line, rest, hline, -, hfile, hfgets⟩ | ⟨hhead, hfgets⟩
        · rw [hfile, List.splitOn_append_cons_self_of_not_mem hline, List.forall_mem_cons] at hshort
          have hroom : rest.length ≤ fuel := by
            rw [hfile, List.length_append, List.length_cons] at hfuel
            omega
          rw [hfgets, hfile, List.splitOn_append_cons_self_of_not_mem hline, List.filterMap_cons,
            List.filterMap_cons, assignment_newline, ih hroom hshort.2]
        · rw [hfgets, List.filterMap_cons]
          by_cases hmem : newline ∈ file
          · obtain ⟨line, rest, hfile, hline⟩ := List.eq_append_cons_of_mem hmem
            rw [hfile, List.splitOn_append_cons_self_of_not_mem hline,
              List.forall_mem_cons] at hshort
            have hlen : line.length = 1023 := by
              by_contra hlen
              refine hhead ?_
              rw [hfile, List.take_append, List.mem_append]
              refine .inr ?_
              obtain ⟨k, hk⟩ : ∃ k, 1023 - line.length = k + 1 := ⟨1023 - line.length - 1, by omega⟩
              rw [hk, List.take_succ_cons]
              exact List.mem_cons_self
            have hsplit := List.splitOn_append_cons_self_of_not_mem
              (List.not_mem_nil (a := newline)) rest
            rw [List.nil_append] at hsplit
            have hroom : (newline :: rest).length ≤ fuel := by
              rw [hfile, List.length_append] at hfuel
              omega
            have hrest := ih hroom
              (by rw [hsplit, List.forall_mem_cons]; exact ⟨Nat.zero_le _, hshort.2⟩)
            rw [hfile, List.splitOn_append_cons_self_of_not_mem hline,
              List.take_append_of_le_length hlen.ge, List.take_of_length_le hlen.le,
              List.drop_append_of_le_length hlen.ge, List.drop_of_length_le hlen.le,
              List.nil_append, hrest, hsplit, List.filterMap_cons, List.filterMap_cons]
            rfl
          · rw [List.splitOn_eq_singleton hmem] at hshort ⊢
            have hlen : file.length ≤ 1023 := hshort file List.mem_cons_self
            rw [List.take_of_length_le hlen, List.drop_of_length_le hlen, List.filterMap_cons]
            cases fuel <;> rfl

/-- All that `fgets` reads, which are the lines and the pieces of lines that are too long for it,
has something behind its `=`, unless it is ignored; and a line that is cut leaves the counters with
the last numbers of the lines. -/
structure FileFine (file : Bytes) : Prop where
  complete : ∀ buf ∈ fgetsReads file.length file, Complete buf
  uncut : ∀ f ∈ extErrorFields,
    lastNumber (fgetsReads file.length file) f = lastNumber (file.splitOn newline) f

theorem fileFine_of_short (hshort : ∀ line ∈ file.splitOn newline, line.length ≤ 1023) :
    FileFine file ↔ ∀ buf ∈ fgetsReads file.length file, Complete buf := by
  refine ⟨FileFine.complete, fun h => ⟨h, fun f _ => ?_⟩⟩
  rw [lastNumber, lastNumber, assignments_of_short (Nat.le_refl _) hshort]

end File

end InfinibandDiags
