import InfinibandDiags.Route.Strings

/-! Which strings the route parsers read as the comma separated list that they are, without
leaving the string or the hop array. -/
namespace InfinibandDiags

section Strtol
variable {s beyond : Bytes} {base : Nat}

theorem isDigitOf_nul (hbase : base ≤ 16) : isDigitOf base 0 = false := by
  have hvalue : digitValue 0 = 36 := rfl
  rw [isDigitOf, hvalue, decide_eq_false_iff_not]
  omega

theorem numeralBase_le (s : Bytes) : (numeralBase s).1 ≤ 16 := by
  unfold numeralBase
  split
  · split
    · exact Nat.le_refl 16
    · exact Nat.le_of_ble_eq_true rfl
  · exact Nat.le_of_ble_eq_true rfl
  · exact Nat.le_of_ble_eq_true rfl

/-- The prefix of a hexadecimal numeral does not reach over a NUL. -/
theorem numeralBase_append (s beyond : Bytes) :
    numeralBase (s ++ 0 :: beyond) = ((numeralBase s).1, (numeralBase s).2 ++ 0 :: beyond) := by
  rcases s with _ | ⟨a, _ | ⟨b, _ | ⟨c, s⟩⟩⟩
  · rfl
  · by_cases ha : a = 48
    · subst ha
      cases beyond <;> rfl
    · simp [numeralBase, ha]
  · by_cases ha : a = 48
    · subst ha
      have hnul : isDigitOf 16 0 = false := rfl
      simp [numeralBase, hnul]
    · simp [numeralBase, ha]
  · by_cases ha : a = 48
    · subst ha
      simp only [numeralBase, List.cons_append]
      split <;> rfl
    · simp [numeralBase, ha]

theorem takeWhile_append_nul {p : UInt8 → Bool} (hp : p 0 = false) (s beyond : Bytes) :
    (s ++ 0 :: beyond).takeWhile p = s.takeWhile p := by
  induction s with
  | nil => simp [hp]
  | cons c s ih => rw [List.cons_append, List.takeWhile_cons, List.takeWhile_cons, ih]

theorem dropWhile_append_nul {p : UInt8 → Bool} (hp : p 0 = false) (s beyond : Bytes) :
    (s ++ 0 :: beyond).dropWhile p = s.dropWhile p ++ 0 :: beyond := by
  induction s with
  | nil => simp [hp]
  | cons c s ih =>
      rw [List.cons_append, List.dropWhile_cons, List.dropWhile_cons, ih]
      split <;> rfl

/-- The sign of a numeral and what follows it. -/
def signedBody (start : Bytes) : Bool × Bytes :=
  match start with
  | 45 :: body => (true, body)
  | 43 :: body => (false, body)
  | body => (false, body)

theorem signedBody_append (s beyond : Bytes) :
    signedBody (s ++ 0 :: beyond) = ((signedBody s).1, (signedBody s).2 ++ 0 :: beyond) := by
  cases s with
  | nil => rfl
  | cons c s =>
      by_cases hminus : c = 45
      · subst hminus
        rfl
      · by_cases hplus : c = 43
        · subst hplus
          rfl
        · simp [signedBody, hminus, hplus]

/-- `strtolEnd`, with its parts named. -/
theorem strtolEnd_eq (s : Bytes) : strtolEnd s =
    let body := signedBody (s.dropWhile isSpace)
    let digits := numeralBase body.2
    let numeral := digits.2.takeWhile (isDigitOf digits.1)
    if numeral = [] then (0, s)
    else
      let value : Int := (numeral.foldl (fun v c => digits.1 * v + digitValue c) 0 : Nat)
      (max (-2 ^ 63) (min (if body.1 then -value else value) (2 ^ 63 - 1)),
        digits.2.dropWhile (isDigitOf digits.1)) := rfl

/-- `strtol` stops at the NUL at the latest. -/
theorem strtolEnd_append (s beyond : Bytes) :
    strtolEnd (s ++ 0 :: beyond) = ((strtolEnd s).1, (strtolEnd s).2 ++ 0 :: beyond) := by
  have hspace : isSpace 0 = false := rfl
  have hdigit := isDigitOf_nul (numeralBase_le (signedBody (s.dropWhile isSpace)).2)
  rw [strtolEnd_eq, strtolEnd_eq]
  dsimp only
  rw [dropWhile_append_nul hspace, signedBody_append, numeralBase_append]
  dsimp only
  rw [takeWhile_append_nul hdigit, dropWhile_append_nul hdigit]
  split <;> rfl

theorem signedBody_suffix (s : Bytes) : (signedBody s).2 <:+ s := by
  unfold signedBody
  split
  · exact List.suffix_cons _ _
  · exact List.suffix_cons _ _
  · exact List.suffix_refl _

theorem numeralBase_suffix (s : Bytes) : (numeralBase s).2 <:+ s := by
  unfold numeralBase
  split
  · split
    · exact (List.suffix_cons _ _).trans (List.suffix_cons _ _)
    · exact List.suffix_refl _
  · exact List.suffix_refl _
  · exact List.suffix_refl _

theorem strtolEnd_suffix (s : Bytes) : (strtolEnd s).2 <:+ s := by
  rw [strtolEnd_eq]
  dsimp only
  split
  · exact List.suffix_refl s
  · exact (List.dropWhile_suffix _).trans ((numeralBase_suffix _).trans
      ((signedBody_suffix _).trans (List.dropWhile_suffix _)))

end Strtol

section Exact

/-- What a parser owes to the items of its route: the last place and the hops, or a negative
result. -/
structure Exact (items : List Bytes) (ret cnt : Int) (p : Vector UInt8 64) : Prop where
  accepts : 1 ≤ items.length → items.length ≤ 64 → 0 ≤ ret ∧ cnt = items.length - 1 ∧
    ∀ i (hi : i < items.length), p[i]? = some (UInt8.ofInt (atoi items[i]))
  rejects : items = [] ∨ 64 < items.length → ret < 0

theorem exact_storeHops {items : List Bytes} (p : Vector UInt8 64) {ret : Int}
    (hret : ret < 0 ↔ items = []) (hroom : items.length ≤ 64) :
    Exact items ret (items.length - 1 : Int) (storeHops p 0 items) := by
  refine ⟨fun hsome _ => ⟨?_, rfl, fun i hi => ?_⟩, fun hreject => ?_⟩
  · have hne : items ≠ [] := List.ne_nil_of_length_pos hsome
    exact Int.not_lt.mp fun hneg => hne (hret.mp hneg)
  · have hget := storeHops_get p 0 (items.length.zero_add.symm ▸ hroom) hi
    rwa [Nat.zero_add] at hget
  · rcases hreject with hnil | hlong
    · exact hret.mpr hnil
    · exact absurd hroom (Nat.not_le.mpr hlong)

/-- The return value of the parsers, or the -1 and 0 of `resolve_portid_str`. -/
theorem length_pred_neg (items : List Bytes) : (items.length - 1 : Int) < 0 ↔ items = [] := by
  rw [← List.length_eq_zero_iff]
  omega

theorem resolved_neg (items : List Bytes) :
    (if (items.length - 1 : Int) < 0 then (-1 : Int) else 0) < 0 ↔ items = [] := by
  rw [← length_pred_neg items]
  split <;> simp_all

/-- `str2drpath` does what it should for a string in any buffer, whatever the path held. -/
def Str2drpathExact (s : Bytes) : Prop :=
  ∀ (path : IbDrPath) (beyond : Bytes) (drslid drdlid : Nat), ∃ ret path',
    path.str2drpath (s ++ 0 :: beyond) drslid drdlid = .ok (ret, path') ∧
      Exact (items s) ret path'.cnt path'.p

def Str2DRPathExact (s : Bytes) : Prop :=
  ∀ (path : DRPath) (beyond : Bytes), ∃ ret path',
    str2DRPath (s ++ 0 :: beyond) path = .ok (ret, path') ∧
      Exact (items s) ret path'.hopCnt path'.path

def ResolveDrpathExact (s : Bytes) : Prop :=
  ∀ beyond, ∃ ret portid, resolveDrpath (s ++ 0 :: beyond) = .ok (ret, portid) ∧
    Exact (items s) ret portid.drpath.cnt portid.drpath.p

/-- The LID in front of a route. -/
def lidOf (s : Bytes) : Int := (strtolEnd s).1.bmod (2 ^ 32)

/-- The route that follows the LID and one separator. -/
def routeBehindLid (s : Bytes) : Bytes := (strtolEnd s).2.tail

/-- A LID that is not valid and a local port that is not found are errors; else the route counts. -/
def ResolveDrslidExact (s : Bytes) : Prop :=
  ∀ (selfLid : Option Nat) (beyond : Bytes), ∃ ret portid,
    resolveDrslid selfLid (s ++ 0 :: beyond) = .ok (ret, portid) ∧
      (if ibLidValid (lidOf s) ∧ selfLid.isSome then
        Exact (items (routeBehindLid s)) ret portid.drpath.cnt portid.drpath.p
      else ret < 0)

/-- All four parsers are exact and safe for a string. -/
structure StringExact (s : CString) : Prop where
  str2drpath : Str2drpathExact s.text
  str2DRPath : Str2DRPathExact s.text
  resolveDrpath : ResolveDrpathExact s.text
  resolveDrslid : ResolveDrslidExact s.text

end Exact

section Fine
variable {s : Bytes}

/-- What `str2drpath` makes of a path. -/
def parsedPath (path : IbDrPath) (s : Bytes) (drslid drdlid : Nat) : IbDrPath where
  cnt := (items s).length - 1
  p := storeHops path.p 0 (items s)
  drslid := if drslid ≠ 0 then drslid else 0xffff
  drdlid := if drdlid ≠ 0 then drdlid else 0xffff

theorem str2drpath_eq (path : IbDrPath) (beyond : Bytes) (drslid drdlid : Nat)
    (hnul : (0 : UInt8) ∉ s) : path.str2drpath (s ++ 0 :: beyond) drslid drdlid =
      if (items s).length ≤ 64 then
        .ok ((items s).length - 1, parsedPath path s drslid drdlid)
      else .error .outOfBounds := by
  have hlen : s.length < (s ++ 0 :: beyond).length + 1 := by
    rw [List.length_append]
    omega
  rw [IbDrPath.str2drpath, hopLoop_eq _ path.p beyond hnul hlen (Nat.zero_le 64), Nat.zero_add]
  split <;> rfl

theorem str2DRPath_eq (path : DRPath) (beyond : Bytes) (hnul : (0 : UInt8) ∉ s) :
    str2DRPath (s ++ 0 :: beyond) path =
      if (items s).length ≤ 64 then
        .ok ((items s).length - 1, ⟨(items s).length - 1, storeHops path.path 0 (items s)⟩)
      else .error .outOfBounds := by
  have hlen : s.length < (s ++ 0 :: beyond).length + 1 := by
    rw [List.length_append]
    omega
  rw [str2DRPath, hopLoop_eq _ path.path beyond hnul hlen (Nat.zero_le 64), Nat.zero_add]
  split <;> rfl

theorem str2drpathExact_iff (hnul : (0 : UInt8) ∉ s) :
    Str2drpathExact s ↔ (items s).length ≤ 64 := by
  constructor
  · intro h
    obtain ⟨ret, path', hok, -⟩ := h RoutePortId.zero.drpath [] 0 0
    rw [str2drpath_eq _ _ _ _ hnul] at hok
    by_contra hlong
    rw [if_neg hlong] at hok
    cases hok
  · intro hroom path beyond drslid drdlid
    refine ⟨_, _, (str2drpath_eq path beyond drslid drdlid hnul).trans (if_pos hroom), ?_⟩
    exact exact_storeHops path.p (length_pred_neg (items s)) hroom

theorem str2DRPathExact_of (hnul : (0 : UInt8) ∉ s) (hroom : (items s).length ≤ 64) :
    Str2DRPathExact s := by
  intro path beyond
  refine ⟨_, _, (str2DRPath_eq path beyond hnul).trans (if_pos hroom), ?_⟩
  exact exact_storeHops path.path (length_pred_neg (items s)) hroom

theorem resolveDrpathExact_of (hnul : (0 : UInt8) ∉ s) (hroom : (items s).length ≤ 64) :
    ResolveDrpathExact s := by
  intro beyond
  have hparsed := (str2drpath_eq RoutePortId.zero.drpath beyond 0 0 hnul).trans (if_pos hroom)
  refine ⟨if ((items s).length - 1 : Int) < 0 then -1 else 0,
    { RoutePortId.zero with drpath := parsedPath RoutePortId.zero.drpath s 0 0 }, ?_, ?_⟩
  · rw [resolveDrpath, hparsed]
    rfl
  · exact exact_storeHops RoutePortId.zero.drpath.p (resolved_neg (items s)) hroom

/-- The separator is a character of the string. -/
def DrslidFine (s : Bytes) : Prop :=
  ibLidValid (lidOf s) → (strtolEnd s).2 ≠ [] ∧ (items (routeBehindLid s)).length ≤ 64

theorem resolveDrslid_invalid {selfLid : Option Nat} {beyond : Bytes}
    (hinvalid : ibLidValid (lidOf s) = false) :
    resolveDrslid selfLid (s ++ 0 :: beyond) = .ok (-1, .zero) := by
  unfold resolveDrslid
  rw [strtolEnd_append]
  dsimp only
  rw [← lidOf, hinvalid]
  rfl

theorem resolveDrslid_noPort {beyond : Bytes} (hvalid : ibLidValid (lidOf s) = true) :
    resolveDrslid none (s ++ 0 :: beyond) = .ok (-1, { RoutePortId.zero with lid := lidOf s }) := by
  unfold resolveDrslid
  rw [strtolEnd_append]
  dsimp only
  rw [← lidOf, hvalid]
  rfl

theorem resolveDrslid_port {drslid : Nat} {beyond : Bytes} (hvalid : ibLidValid (lidOf s) = true) :
    resolveDrslid (some drslid) (s ++ 0 :: beyond) =
      (RoutePortId.zero.drpath.str2drpath ((strtolEnd s).2 ++ 0 :: beyond).tail drslid 0).map
        fun parsed => (if parsed.1 < 0 then -1 else 0, ⟨lidOf s, parsed.2⟩) := by
  unfold resolveDrslid
  rw [strtolEnd_append]
  dsimp only
  rw [← lidOf, hvalid]
  cases RoutePortId.zero.drpath.str2drpath ((strtolEnd s).2 ++ 0 :: beyond).tail drslid 0 <;> rfl

theorem str2drpath_nil (path : IbDrPath) (drslid drdlid : Nat) :
    path.str2drpath [] drslid drdlid = .error .outOfBounds := rfl

theorem resolveDrslidExact_iff (hnul : (0 : UInt8) ∉ s) :
    ResolveDrslidExact s ↔ DrslidFine s := by
  have hsuffix := strtolEnd_suffix s
  have hroute : (0 : UInt8) ∉ routeBehindLid s := fun h =>
    hnul (hsuffix.subset (List.mem_of_mem_tail h))
  constructor
  · intro h hvalid
    obtain ⟨ret, portid, hok, -⟩ := h (some 0) []
    rw [resolveDrslid_port hvalid] at hok
    -- without a separator the read starts behind the NUL, where nothing is left
    have hne : (strtolEnd s).2 ≠ [] := by
      intro hnil
      rw [hnil, List.nil_append, List.tail_cons, str2drpath_nil] at hok
      cases hok
    refine ⟨hne, ?_⟩
    rw [List.tail_append_of_ne_nil hne, ← routeBehindLid, str2drpath_eq _ _ _ _ hroute] at hok
    by_contra hlong
    rw [if_neg hlong] at hok
    cases hok
  · intro hfine selfLid beyond
    cases hvalid : ibLidValid (lidOf s) with
    | false =>
        refine ⟨-1, .zero, resolveDrslid_invalid hvalid, ?_⟩
        rw [if_neg (by simp)]
        decide
    | true =>
        cases selfLid with
        | none =>
            refine ⟨-1, _, resolveDrslid_noPort hvalid, ?_⟩
            rw [if_neg (by simp)]
            decide
        | some drslid =>
            obtain ⟨hne, hroom⟩ := hfine hvalid
            have hparsed := (str2drpath_eq RoutePortId.zero.drpath beyond drslid 0 hroute).trans
              (if_pos hroom)
            refine ⟨if ((items (routeBehindLid s)).length - 1 : Int) < 0 then -1 else 0,
              ⟨lidOf s, parsedPath RoutePortId.zero.drpath (routeBehindLid s) drslid 0⟩, ?_, ?_⟩
            · rw [resolveDrslid_port hvalid, List.tail_append_of_ne_nil hne, ← routeBehindLid,
                hparsed]
              rfl
            · rw [if_pos ⟨rfl, rfl⟩]
              exact exact_storeHops RoutePortId.zero.drpath.p
                (resolved_neg (items (routeBehindLid s))) hroom

/-- No more items than hops, in the string and in the route behind a valid LID, which must be set
off by a character. -/
structure StringFine (s : CString) : Prop where
  room : (items s.text).length ≤ 64
  drslid : DrslidFine s.text

theorem stringExact_iff (s : CString) : StringExact s ↔ StringFine s := by
  constructor
  · intro h
    exact ⟨(str2drpathExact_iff s.noNul).mp h.str2drpath,
      (resolveDrslidExact_iff s.noNul).mp h.resolveDrslid⟩
  · intro h
    exact ⟨(str2drpathExact_iff s.noNul).mpr h.room, str2DRPathExact_of s.noNul h.room,
      resolveDrpathExact_of s.noNul h.room, (resolveDrslidExact_iff s.noNul).mpr h.drslid⟩

end Fine
end InfinibandDiags
