import InfinibandDiags.Chassis.MellanoxDesc

/-! Directed routes as text: `str2drpath` and `drpath2str` (portid.c), `str2DRPath` (smpdump.c),
and the two cases of `resolve_portid_str` that read a route (ibdiag_common.c). A string is a
buffer that is read up to its NUL and must not be read past the end. -/
namespace InfinibandDiags

/-- The loop that both parsers are: `strchr` up to a comma or the NUL, and `p[++cnt] = atoi(str)`,
`next` being `cnt + 1`. Every round reads a character. -/
def hopLoop : Nat → Vector UInt8 64 → Nat → Bytes → Except Fault (Vector UInt8 64 × Nat)
  | 0, _, _, _ => .error .endlessLoop
  | _ + 1, _, _, [] => .error .outOfBounds
  | fuel + 1, p, next, c :: str =>
      if c = 0 then .ok (p, next)
      else do
        let (item, separator, rest) ← scanTo [comma] (c :: str)
        if next < 64 then
          let p := p.setIfInBounds next (UInt8.ofInt (atoi item))
          if separator = 0 then .ok (p, next + 1) else hopLoop fuel p (next + 1) rest
        else .error .outOfBounds

/-- `ib_dr_path_t` with its `int`. -/
structure IbDrPath where
  cnt : Int
  p : Vector UInt8 64
  drslid : Nat
  drdlid : Nat

namespace IbDrPath

/-- `str2drpath`. -/
def str2drpath (path : IbDrPath) (routepath : Bytes) (drslid drdlid : Nat) :
    Except Fault (Int × IbDrPath) := do
  let (p, next) ← hopLoop (routepath.length + 1) path.p 0 routepath
  let cnt : Int := next - 1
  .ok (cnt, ⟨cnt, p, if drslid ≠ 0 then drslid else 0xffff, if drdlid ≠ 0 then drdlid else 0xffff⟩)

end IbDrPath

/-- `DRPath` of smpdump, the `char` of its path being bytes. -/
structure DRPath where
  hopCnt : Int
  path : Vector UInt8 64

/-- `str2DRPath` of smpdump. -/
def str2DRPath (str : Bytes) (path : DRPath) : Except Fault (Int × DRPath) := do
  let (p, next) ← hopLoop (str.length + 1) path.path 0 str
  let hopCnt : Int := next - 1
  .ok (hopCnt, ⟨hopCnt, p⟩)

section Strtol

/-- The value of a digit or a letter. -/
def digitValue (c : UInt8) : Nat :=
  if 48 ≤ c ∧ c ≤ 57 then c.toNat - 48
  else if 97 ≤ c ∧ c ≤ 122 then c.toNat - 87
  else if 65 ≤ c ∧ c ≤ 90 then c.toNat - 55
  else 36

def isDigitOf (base : Nat) (c : UInt8) : Bool := digitValue c < base

/-- The base of a numeral, and its digits. -/
def numeralBase : Bytes → Nat × Bytes
  | 48 :: x :: c :: rest =>
      if (x = 120 ∨ x = 88) ∧ isDigitOf 16 c then (16, c :: rest) else (8, 48 :: x :: c :: rest)
  | 48 :: rest => (8, 48 :: rest)
  | s => (10, s)

/-- `strtol(s, &end, 0)`: the number, and what is left at `end`. -/
def strtolEnd (s : Bytes) : Int × Bytes :=
  let start := s.dropWhile isSpace
  let (negative, body) :=
    match start with
    | 45 :: body => (true, body)
    | 43 :: body => (false, body)
    | body => (false, body)
  let (base, digits) := numeralBase body
  let numeral := digits.takeWhile (isDigitOf base)
  if numeral = [] then (0, s)
  else
    let value : Int := (numeral.foldl (fun v c => base * v + digitValue c) 0 : Nat)
    (max (-2 ^ 63) (min (if negative then -value else value) (2 ^ 63 - 1)),
      digits.dropWhile (isDigitOf base))

end Strtol

/-- The `ib_portid_t` that `resolve_portid_str` fills in. -/
structure RoutePortId where
  lid : Int
  drpath : IbDrPath

def RoutePortId.zero : RoutePortId := ⟨0, 0, .replicate 64 0, 0, 0⟩

/-- `IB_LID_VALID`. -/
def ibLidValid (lid : Int) : Bool := 1 ≤ lid ∧ lid ≤ 0xbfff

section Resolve

/-- `IB_DEST_DRPATH` of `resolve_portid_str`. -/
def resolveDrpath (addrStr : Bytes) : Except Fault (Int × RoutePortId) := do
  let (cnt, drpath) ← RoutePortId.zero.drpath.str2drpath addrStr 0 0
  .ok (if cnt < 0 then -1 else 0, { RoutePortId.zero with drpath })

/-- `IB_DEST_DRSLID` of `resolve_portid_str`: `routepath++` steps over one character behind the
LID, whatever it is. `selfLid` is the LID of the local port, `none` where `resolve_self` fails. -/
def resolveDrslid (selfLid : Option Nat) (addrStr : Bytes) : Except Fault (Int × RoutePortId) := do
  let (value, routepath) := strtolEnd addrStr
  let lid := value.bmod (2 ^ 32)
  if !ibLidValid lid then .ok (-1, .zero)
  else
    let portid := { RoutePortId.zero with lid }
    match selfLid with
    | none => .ok (-1, portid)
    | some drslid =>
        let (cnt, drpath) ← portid.drpath.str2drpath routepath.tail drslid 0
        .ok (if cnt < 0 then -1 else 0, { portid with drpath })

end Resolve

/-- The text of a string, before its NUL. -/
structure CString where
  text : Bytes
  noNul : (0 : UInt8) ∉ text

/-- The items between commas, without an empty one at the end. -/
def items (s : Bytes) : List Bytes :=
  let parts := s.splitOn comma
  if parts.getLast? = some [] then parts.dropLast else parts

section Items
variable {s item rest : Bytes}

theorem items_nil : items [] = [] := rfl

theorem items_single (hne : s ≠ []) (hs : comma ∉ s) : items s = [s] := by
  unfold items
  rw [List.splitOn_eq_singleton hs]
  simp [hne]

theorem items_cons (hitem : comma ∉ item) : items (item ++ comma :: rest) = item :: items rest := by
  obtain ⟨part, parts, hparts⟩ := List.exists_cons_of_ne_nil (List.splitOn_ne_nil comma rest)
  unfold items
  rw [List.splitOn_append_cons_self_of_not_mem hitem, hparts]
  simp only [List.getLast?_cons_cons, List.dropLast_cons_cons]
  split <;> rfl

/-- A string is empty, one item, or an item, a comma and the rest. -/
theorem items_cases (s : Bytes) : s = [] ∨ (s ≠ [] ∧ comma ∉ s) ∨
    ∃ item rest, s = item ++ comma :: rest ∧ comma ∉ item := by
  by_cases hs : comma ∈ s
  · obtain ⟨item, rest, rfl, hitem⟩ := List.eq_append_cons_of_mem hs
    exact .inr (.inr ⟨item, rest, rfl, hitem⟩)
  · by_cases hne : s = []
    · exact .inl hne
    · exact .inr (.inl ⟨hne, hs⟩)

end Items

/-- The hops that a list of items is stored as, from place `next` on. -/
def storeHops : Vector UInt8 64 → Nat → List Bytes → Vector UInt8 64
  | p, _, [] => p
  | p, next, item :: items =>
      storeHops (p.setIfInBounds next (UInt8.ofInt (atoi item))) (next + 1) items

theorem storeHops_below (p : Vector UInt8 64) {next i : Nat} (items : List Bytes) (hi : i < next) :
    (storeHops p next items)[i]? = p[i]? := by
  induction items generalizing p next with
  | nil => rfl
  | cons item items ih =>
      rw [storeHops, ih _ (Nat.lt_succ_of_lt hi)]
      exact Vector.getElem?_setIfInBounds_ne (Nat.ne_of_gt hi)

theorem storeHops_get (p : Vector UInt8 64) (next : Nat) {i : Nat} {items : List Bytes}
    (hroom : next + items.length ≤ 64) (hi : i < items.length) :
    (storeHops p next items)[next + i]? = some (UInt8.ofInt (atoi items[i])) := by
  induction items generalizing p next i with
  | nil => exact absurd hi (Nat.not_lt_zero i)
  | cons item items ih =>
      rw [List.length_cons] at hroom hi
      rw [storeHops]
      cases i with
      | zero =>
          have hkept := storeHops_below (p.setIfInBounds next (UInt8.ofInt (atoi item))) items
            (Nat.lt_succ_self next)
          refine hkept.trans ?_
          exact Vector.getElem?_setIfInBounds_self_of_lt (by omega)
      | succ i =>
          have hnext := ih (p.setIfInBounds next (UInt8.ofInt (atoi item))) (next + 1) (i := i)
            (by omega) (by omega)
          rw [show next + (i + 1) = next + 1 + i by omega, hnext]
          rfl

/-- The loop stores the items and stays inside the string, unless there are more items than
places. -/
theorem hopLoop_eq (fuel : Nat) (p : Vector UInt8 64) {next : Nat} {s : Bytes} (beyond : Bytes)
    (hnul : (0 : UInt8) ∉ s) (hfuel : s.length < fuel) (hnext : next ≤ 64) :
    hopLoop fuel p next (s ++ 0 :: beyond) =
      if next + (items s).length ≤ 64 then
        .ok (storeHops p next (items s), next + (items s).length)
      else .error .outOfBounds := by
  induction fuel generalizing p next s with
  | zero => exact absurd hfuel (Nat.not_lt_zero _)
  | succ fuel ih =>
      cases s with
      | nil =>
          rw [List.nil_append, hopLoop, if_pos rfl, items_nil, if_pos (by simpa using hnext)]
          rfl
      | cons c s =>
          have hc : c ≠ 0 := fun h => hnul (h ▸ List.mem_cons_self)
          rw [List.cons_append, hopLoop, if_neg hc, ← List.cons_append]
          rcases items_cases (c :: s) with hnil | ⟨hne, hcomma⟩ | ⟨item, rest, htext, hitem⟩
          · cases hnil
          · have havoid : Avoids [comma] (c :: s) := by
              intro d hd hsep
              rcases hsep with hsep | rfl
              · exact hcomma (List.mem_singleton.mp hsep ▸ hd)
              · exact hnul hd
            rw [scanTo_append havoid (.inr rfl), items_single hne hcomma, ok_bind]
            rw [List.length_singleton]
            by_cases hlt : next < 64
            · simp [hlt, storeHops, Nat.succ_le_of_lt hlt]
            · dsimp only
              rw [if_neg hlt, if_neg (by omega)]
          · rw [htext] at hnul hfuel ⊢
            have hrest : (0 : UInt8) ∉ rest := fun h => hnul (by simp [h])
            have havoid : Avoids [comma] item := by
              intro d hd hsep
              rcases hsep with hsep | rfl
              · exact hitem (List.mem_singleton.mp hsep ▸ hd)
              · exact hnul (List.mem_append_left _ hd)
            rw [List.append_assoc, List.cons_append, scanTo_append havoid (.inl (by simp)), ok_bind,
              items_cons hitem]
            by_cases hlt : next < 64
            · have hlen : rest.length < fuel := by
                rw [List.length_append, List.length_cons] at hfuel
                omega
              dsimp only
              rw [if_pos hlt, if_neg (by decide), ih _ hrest hlen hlt, List.length_cons, storeHops,
                show next + ((items rest).length + 1) = next + 1 + (items rest).length by omega]
            · dsimp only
              rw [if_neg hlt, if_neg (by rw [List.length_cons]; omega)]

end InfinibandDiags
