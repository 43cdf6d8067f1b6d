import InfinibandDiags.Route.Exact

/-! `drpath2str` (portid.c): the text of a path, cut off where the buffer ends, and when parsing
its hop list gives the path back. -/
namespace InfinibandDiags

/-- `"slid "`, `"; dlid "` and `"; "`. -/
def slidText : Bytes := [115, 108, 105, 100, 32]
def dlidText : Bytes := [59, 32, 100, 108, 105, 100, 32]
def hopsText : Bytes := [59, 32]

namespace IbDrPath

/-- The loop of `drpath2str`, with the number of hops left. `text` is what was printed so far, and
its length is `rc`. -/
def printHops (path : IbDrPath) (dstrSize : Nat) : Nat → Nat → Bytes → Except Fault Bytes
  | 0, _, text => .ok text
  | left + 1, i, text =>
      match path.p[i]? with
      | none => .error .outOfBounds
      | some hop =>
          let text := text ++ comma :: toDecimal hop.toNat
          if dstrSize ≤ text.length then .ok text else printHops path dstrSize left (i + 1) text

/-- `drpath2str`: what `dstr` holds, of which `snprintf` keeps one character less than it has room
for. -/
def drpath2str (path : IbDrPath) (dstrSize : Nat) : Except Fault Bytes := do
  let text := slidText ++ toDecimal path.drslid ++ dlidText ++ toDecimal path.drdlid ++ hopsText ++
    toDecimal path.p[0].toNat
  let text ← if dstrSize ≤ text.length then .ok text else printHops path dstrSize path.cnt.toNat 1 text
  .ok (text.take (dstrSize - 1))

end IbDrPath

/-- Hops between commas. -/
def hopText : List Nat → Bytes
  | [] => []
  | [hop] => toDecimal hop
  | hop :: hops => toDecimal hop ++ comma :: hopText hops

section HopText
variable {hop : Nat} {hops : List Nat}

theorem hopText_cons (hne : hops ≠ []) :
    hopText (hop :: hops) = toDecimal hop ++ comma :: hopText hops := by
  cases hops with
  | nil => exact absurd rfl hne
  | cons next hops => rfl

theorem notMem_toDecimal {c : UInt8} (hc : isDigit c = false) (n : Nat) : c ∉ toDecimal n := by
  intro hmem
  have hdigit := (isNumeral_toDecimal n).2 c hmem
  exact absurd (hdigit.symm.trans hc) (by decide)

theorem notMem_take_toDecimal {c : UInt8} (hc : isDigit c = false) (n k : Nat) :
    c ∉ (toDecimal n).take k := fun hmem => notMem_toDecimal hc n (List.mem_of_mem_take hmem)

theorem notMem_nul_hopText (hops : List Nat) : (0 : UInt8) ∉ hopText hops := by
  induction hops with
  | nil => exact List.not_mem_nil
  | cons hop hops ih =>
      cases hops with
      | nil => exact notMem_toDecimal rfl hop
      | cons next hops =>
          rw [hopText_cons (List.cons_ne_nil next hops), List.mem_append, List.mem_cons, not_or,
            not_or]
          exact ⟨notMem_toDecimal rfl hop, by decide, ih⟩

/-- The items of a hop list are its hops. -/
theorem items_hopText (hops : List Nat) : items (hopText hops) = hops.map toDecimal := by
  induction hops with
  | nil => rfl
  | cons hop hops ih =>
      cases hops with
      | nil =>
          exact items_single (isNumeral_toDecimal hop).1 (notMem_toDecimal rfl hop)
      | cons next hops =>
          rw [hopText_cons (List.cons_ne_nil next hops), items_cons (notMem_toDecimal rfl hop), ih]
          rfl

theorem hopOf_toDecimal (hhop : hop < 256) : hopOf (toDecimal hop) = hop := by
  have hread := (hopOf_eq_decimal_iff (isNumeral_toDecimal hop) noDigitHead_nil).mpr
    ((decimal_toDecimal hop).symm ▸ hhop)
  rwa [List.append_nil, decimal_toDecimal] at hread

/-- The hops that the parsers read off a hop list. -/
def readHops (s : Bytes) : List Nat := (items s).map hopOf

theorem readHops_hopText (hhops : ∀ hop ∈ hops, hop < 256) : readHops (hopText hops) = hops := by
  rw [readHops, items_hopText, List.map_map]
  exact (List.map_congr_left fun hop hhop => hopOf_toDecimal (hhops hop hhop)).trans
    (List.map_id hops)

/-- A numeral cut short is a smaller number. -/
theorem decimal_take_toDecimal_lt {n k : Nat} (hpos : 0 < k) (hk : k < (toDecimal n).length) :
    decimal ((toDecimal n).take k) < n := by
  induction n using toDecimal.induct with
  | case1 n hn =>
      rw [toDecimal, if_pos hn, List.length_singleton] at hk
      omega
  | case2 n hn ih =>
      rw [toDecimal, if_neg hn, List.length_append, List.length_singleton] at hk
      rw [toDecimal, if_neg hn, List.take_append_of_le_length (by omega)]
      by_cases hlt : k < (toDecimal (n / 10)).length
      · exact (ih hlt).trans (by omega)
      · rw [List.take_of_length_le (by omega), decimal_toDecimal]
        omega

theorem isNumeral_take_toDecimal {n k : Nat} (hpos : 0 < k) :
    IsNumeral ((toDecimal n).take k) := by
  refine ⟨?_, fun c hc => (isNumeral_toDecimal n).2 c (List.mem_of_mem_take hc)⟩
  rw [Ne, List.take_eq_nil_iff, not_or]
  exact ⟨Nat.ne_of_gt hpos, (isNumeral_toDecimal n).1⟩

/-- A hop list that is cut short is read as other hops. -/
theorem readHops_take_ne {k : Nat} (hhops : ∀ hop ∈ hops, hop < 256)
    (hk : k < (hopText hops).length) : readHops ((hopText hops).take k) ≠ hops := by
  induction hops generalizing k with
  | nil => exact absurd hk (Nat.not_lt_zero k)
  | cons hop hops ih =>
      have hhop := hhops hop List.mem_cons_self
      by_cases hshort : k ≤ (toDecimal hop).length
      · -- at most one numeral is left
        have htake : (hopText (hop :: hops)).take k = (toDecimal hop).take k := by
          cases hops with
          | nil => rfl
          | cons next hops =>
              rw [hopText_cons (List.cons_ne_nil next hops), List.take_append_of_le_length hshort]
        rw [htake]
        rcases Nat.eq_zero_or_pos k with rfl | hpos
        · exact (List.cons_ne_nil hop hops).symm
        · have hnumeral := isNumeral_take_toDecimal (n := hop) hpos
          rw [readHops, items_single hnumeral.1 (notMem_take_toDecimal rfl hop k), List.map_singleton]
          intro heq
          obtain ⟨hread, rfl⟩ := List.cons.inj heq
          have hlt := decimal_take_toDecimal_lt hpos hk
          have hvalue := hopOf_numeral hnumeral noDigitHead_nil
          rw [List.append_nil] at hvalue
          omega
      · cases hops with
        | nil => exact absurd (Nat.le_of_lt hk) hshort
        | cons next hops =>
            have hlong : k = (toDecimal hop).length + (k - (toDecimal hop).length - 1 + 1) := by
              omega
            rw [hopText_cons (List.cons_ne_nil next hops), List.length_append,
              List.length_cons] at hk
            rw [hopText_cons (List.cons_ne_nil next hops), hlong, List.take_length_add_append,
              List.take_succ_cons, readHops, items_cons (notMem_toDecimal rfl hop), List.map_cons]
            intro heq
            have hrest := ih (fun h hh => hhops h (List.mem_cons_of_mem hop hh)) (k :=
              k - (toDecimal hop).length - 1) (by omega)
            exact hrest (List.cons.inj heq).2

theorem length_toDecimal_le {n k : Nat} (hn : n < 10 ^ (k + 1)) :
    (toDecimal n).length ≤ k + 1 := by
  induction k generalizing n with
  | zero =>
      rw [toDecimal, if_pos (by simpa using hn)]
      exact Nat.le_refl 1
  | succ k ih =>
      rw [toDecimal]
      split
      · exact Nat.le_add_left 1 (k + 1)
      · have hdiv : n / 10 < 10 ^ (k + 1) := Nat.div_lt_of_lt_mul (by rwa [← Nat.pow_succ'])
        have hlen := ih hdiv
        rw [List.length_append, List.length_singleton]
        omega

theorem length_hopText_le {hops : List Nat} (hhops : ∀ hop ∈ hops, hop < 256) :
    (hopText hops).length ≤ 4 * hops.length := by
  induction hops with
  | nil => exact Nat.le_refl 0
  | cons hop hops ih =>
      have hhop : (toDecimal hop).length ≤ 2 + 1 :=
        length_toDecimal_le ((hhops hop List.mem_cons_self).trans (by decide))
      have hrest := ih fun h hh => hhops h (List.mem_cons_of_mem hop hh)
      cases hops with
      | nil => exact hhop.trans (Nat.le_succ 3)
      | cons next hops =>
          rw [hopText_cons (List.cons_ne_nil next hops)]
          simp only [List.length_append, List.length_cons] at hrest ⊢
          omega

end HopText

/-- The text behind the next semicolon and blank. -/
def afterSemicolon (text : Bytes) : Bytes := (text.dropWhile (· ≠ 59)).drop 2

/-- The hop list of a text of `drpath2str`. -/
def hopListOf (text : Bytes) : Bytes := afterSemicolon (afterSemicolon text)

theorem afterSemicolon_take {head rest : Bytes} (c : UInt8) (k : Nat) (hhead : (59 : UInt8) ∉ head) :
    afterSemicolon ((head ++ 59 :: c :: rest).take k) = rest.take (k - (head.length + 2)) := by
  have hdrop : ∀ {text : Bytes}, (∀ d ∈ text, d ∈ head) → text.dropWhile (· ≠ 59) = [] := by
    intro text htext
    rw [List.dropWhile_eq_nil_iff]
    intro d hd
    exact decide_eq_true fun heq => hhead (heq ▸ htext d hd)
  by_cases hk : k ≤ head.length
  · rw [afterSemicolon, List.take_append_of_le_length hk,
      hdrop fun d hd => List.mem_of_mem_take hd, Nat.sub_eq_zero_of_le (by omega)]
    rfl
  · obtain ⟨j, rfl⟩ : ∃ j, k = head.length + (j + 1) := ⟨k - head.length - 1, by omega⟩
    rw [afterSemicolon, List.take_length_add_append, List.take_succ_cons,
      List.dropWhile_append, hdrop fun d hd => hd, List.isEmpty_nil, if_pos rfl,
      List.dropWhile_cons, if_neg (by decide)]
    cases j with
    | zero =>
        rw [show head.length + (0 + 1) - (head.length + 2) = 0 by omega]
        rfl
    | succ j =>
        rw [show head.length + (j + 1 + 1) - (head.length + 2) = j by omega]
        rfl

theorem hopText_eq_flatMap (hop : Nat) (hops : List Nat) :
    hopText (hop :: hops) = toDecimal hop ++ hops.flatMap fun hop => comma :: toDecimal hop := by
  induction hops generalizing hop with
  | nil => exact (List.append_nil _).symm
  | cons next hops ih => rw [hopText_cons (List.cons_ne_nil next hops), ih]; rfl

namespace IbDrPath
variable (path : IbDrPath) (dstrSize : Nat)

/-- The hops up to `p[cnt]`. -/
def hops : List Nat := (path.p.toList.take (path.cnt.toNat + 1)).map UInt8.toNat

/-- What stands before the hop list. -/
def slids : Bytes := slidText ++ toDecimal path.drslid ++ dlidText ++ toDecimal path.drdlid ++ hopsText

/-- The text of a path, whole. -/
def fullText : Bytes := path.slids ++ hopText path.hops

theorem hops_lt {path : IbDrPath} : ∀ hop ∈ path.hops, hop < 256 := by
  intro hop hhop
  obtain ⟨byte, -, rfl⟩ := List.mem_map.mp hhop
  exact byte.toNat_lt

theorem length_hops {path : IbDrPath} (h0 : 0 ≤ path.cnt) (h63 : path.cnt ≤ 63) :
    (path.hops.length : Int) = path.cnt + 1 := by
  rw [hops, List.length_map, List.length_take, Vector.length_toList]
  omega

/-- Whatever the loop leaves out lies behind the end of the buffer. -/
theorem printHops_take (left i : Nat) (text : Bytes) (hroom : i + left ≤ 64) :
    ∃ printed, path.printHops dstrSize left i text = .ok printed ∧
      printed.take (dstrSize - 1) = (text ++ (((path.p.toList.drop i).take left).map
        UInt8.toNat).flatMap fun hop => comma :: toDecimal hop).take (dstrSize - 1) := by
  induction left generalizing i text with
  | zero => exact ⟨text, rfl, by simp⟩
  | succ left ih =>
      have hi : i < 64 := by omega
      have hdrop : path.p.toList.drop i = path.p[i] :: path.p.toList.drop (i + 1) := by
        rw [List.drop_eq_getElem_cons (by rw [Vector.length_toList]; exact hi)]
        rfl
      rw [printHops, Vector.getElem?_eq_getElem hi, hdrop, List.take_succ_cons, List.map_cons,
        List.flatMap_cons, ← List.append_assoc]
      dsimp only
      split
      · next hfull =>
          refine ⟨_, rfl, (List.take_append_of_le_length ?_).symm⟩
          omega
      · exact ih _ _ (by omega)

theorem drpath2str_eq (h0 : 0 ≤ path.cnt) (h63 : path.cnt ≤ 63) :
    path.drpath2str dstrSize = .ok (path.fullText.take (dstrSize - 1)) := by
  have hhops : path.hops = path.p[0].toNat ::
      ((path.p.toList.drop 1).take path.cnt.toNat).map UInt8.toNat := by
    have hcons : path.p.toList = path.p[0] :: path.p.toList.drop 1 :=
      List.drop_eq_getElem_cons (i := 0) (by simp)
    rw [hops, hcons, List.take_succ_cons, List.map_cons]
    rfl
  obtain ⟨printed, hprinted, htake⟩ := path.printHops_take dstrSize path.cnt.toNat 1
    (path.slids ++ toDecimal path.p[0].toNat) (by omega)
  rw [drpath2str, fullText, hhops, hopText_eq_flatMap, ← slids, ← List.append_assoc, ← htake]
  dsimp only
  split
  · next hfull =>
      have hcut : dstrSize - 1 ≤ (path.slids ++ toDecimal path.p[0].toNat).length := by omega
      rw [ok_bind, htake, List.take_append_of_le_length hcut]
  · rw [hprinted, ok_bind]

theorem hopListOf_take (k : Nat) : hopListOf (path.fullText.take k) =
    (hopText path.hops).take (k - path.slids.length) := by
  have hslid : (59 : UInt8) ∉ slidText ++ toDecimal path.drslid := by
    rw [List.mem_append, not_or]
    exact ⟨by decide, notMem_toDecimal rfl _⟩
  have hdlid : (59 : UInt8) ∉ [100, 108, 105, 100, 32] ++ toDecimal path.drdlid := by
    rw [List.mem_append, not_or]
    exact ⟨by decide, notMem_toDecimal rfl _⟩
  have htext : path.fullText = (slidText ++ toDecimal path.drslid) ++ 59 :: 32 ::
      (([100, 108, 105, 100, 32] ++ toDecimal path.drdlid) ++ 59 :: 32 :: hopText path.hops) := by
    simp [fullText, slids, dlidText, hopsText]
  rw [hopListOf, htext, afterSemicolon_take _ _ hslid, afterSemicolon_take _ _ hdlid]
  congr 1
  simp only [slids, dlidText, hopsText, List.length_append, List.length_cons, List.length_nil]
  omega

/-- A path that is the same as `path` as far as its `cnt` says. -/
structure Same (path : IbDrPath) (ret : Int) (path' : IbDrPath) : Prop where
  ret : ret = path.cnt
  cnt : path'.cnt = path.cnt
  p : ∀ i : Nat, (i : Int) ≤ path.cnt → path'.p[i]? = path.p[i]?

/-- The hop list that is printed is parsed as the path, whatever the path held before. -/
def RoundTrips : Prop :=
  ∃ text, path.drpath2str dstrSize = .ok text ∧
    ∀ (start : IbDrPath) (beyond : Bytes) (drslid drdlid : Nat), ∃ ret path',
      start.str2drpath (hopListOf text ++ 0 :: beyond) drslid drdlid = .ok (ret, path') ∧
        path.Same ret path'

section Same
variable {path} {s : Bytes} {start : IbDrPath} {drslid drdlid : Nat}

theorem hops_get {i : Nat} (hi : i < path.hops.length) (hp : i < 64) :
    path.hops[i] = path.p[i].toNat := by
  simp [hops]

/-- Places of the parsed path are places of the hops read. -/
theorem parsedPath_get (start : IbDrPath) (s : Bytes) (drslid drdlid : Nat) {i : Nat}
    (hroom : (items s).length ≤ 64) (hi : i < (items s).length) :
    ∃ byte, (parsedPath start s drslid drdlid).p[i]? = some byte ∧
      (readHops s)[i]? = some byte.toNat := by
  have hget := storeHops_get start.p 0 ((items s).length.zero_add.symm ▸ hroom) hi
  rw [Nat.zero_add] at hget
  refine ⟨_, hget, ?_⟩
  rw [readHops, List.getElem?_map, List.getElem?_eq_getElem hi]
  rfl

theorem same_parsedPath_iff (h0 : 0 ≤ path.cnt) (h63 : path.cnt ≤ 63)
    (hroom : (items s).length ≤ 64) :
    path.Same ((items s).length - 1) (parsedPath start s drslid drdlid) ↔
      readHops s = path.hops := by
  have hlen := length_hops h0 h63
  have hitems : (readHops s).length = (items s).length := List.length_map _
  constructor
  · intro h
    have hcnt := h.ret
    refine List.ext_getElem (by omega) fun i hi hi' => ?_
    have hp : i < 64 := by omega
    obtain ⟨byte, hbyte, hread⟩ := parsedPath_get start s drslid drdlid hroom (hitems ▸ hi)
    have hsame := h.p i (by omega)
    rw [hbyte, Vector.getElem?_eq_getElem hp] at hsame
    rw [List.getElem?_eq_getElem hi] at hread
    rw [hops_get hi' hp, Option.some.inj hread, Option.some.inj hsame]
  · intro h
    have hcnt : ((items s).length : Int) = path.cnt + 1 := by rw [← hitems, h, hlen]
    refine ⟨by omega, ?_, fun i hi => ?_⟩
    · change ((items s).length : Int) - 1 = path.cnt
      omega
    · have hp : i < 64 := by omega
      have hi' : i < path.hops.length := by omega
      obtain ⟨byte, hbyte, hread⟩ := parsedPath_get start s drslid drdlid (i := i) hroom
        (by omega)
      rw [hbyte, Vector.getElem?_eq_getElem hp]
      congr 1
      rw [h, List.getElem?_eq_getElem hi', hops_get hi' hp] at hread
      exact UInt8.toNat_inj.mp (Option.some.inj hread).symm

end Same

/-- A path of up to 64 hops is parsed back from its text if the text fits into the buffer, and only
then. -/
theorem roundTrips_iff (h0 : 0 ≤ path.cnt) (h63 : path.cnt ≤ 63) :
    path.RoundTrips dstrSize ↔ path.fullText.length < dstrSize := by
  have hprint := path.drpath2str_eq dstrSize h0 h63
  have hhops : path.hops.length ≠ 0 := by
    have hlen := length_hops h0 h63
    omega
  have htext : path.fullText.length = path.slids.length + (hopText path.hops).length :=
    List.length_append
  have hlist := path.hopListOf_take (dstrSize - 1)
  constructor
  · rintro ⟨text, hok, hparse⟩
    by_contra hlong
    obtain rfl : path.fullText.take (dstrSize - 1) = text := Except.ok.inj (hprint.symm.trans hok)
    obtain ⟨ret, path', hstr, hsame⟩ := hparse path [] 0 0
    have hnul : (0 : UInt8) ∉ hopListOf (path.fullText.take (dstrSize - 1)) := by
      rw [hlist]
      exact fun hmem => notMem_nul_hopText path.hops (List.mem_of_mem_take hmem)
    rw [str2drpath_eq _ _ _ _ hnul] at hstr
    split at hstr
    · next hroom =>
        obtain ⟨rfl, rfl⟩ := Prod.mk.inj (Except.ok.inj hstr)
        have hread := (same_parsedPath_iff h0 h63 hroom).mp hsame
        rw [hlist] at hread
        have hpos : 0 < (hopText path.hops).length := by
          refine List.length_pos_iff.mpr fun hnil => hhops ?_
          have hitems := items_hopText path.hops
          rw [hnil, items_nil] at hitems
          rw [List.map_eq_nil_iff.mp hitems.symm]
          rfl
        exact readHops_take_ne hops_lt (by omega) hread
    · cases hstr
  · intro hfits
    refine ⟨_, hprint, fun start beyond drslid drdlid => ?_⟩
    rw [hlist, List.take_of_length_le (by omega)]
    have hitems : (items (hopText path.hops)).length = path.hops.length := by
      rw [items_hopText, List.length_map]
    have hlen := length_hops h0 h63
    have hroom : (items (hopText path.hops)).length ≤ 64 := by omega
    refine ⟨_, _, (str2drpath_eq start beyond drslid drdlid (notMem_nul_hopText _)).trans
      (if_pos hroom), ?_⟩
    exact (same_parsedPath_iff h0 h63 hroom).mpr (readHops_hopText hops_lt)

/-- The buffer of `portid2str`, which has 1024 characters, has room for every text. -/
theorem fullText_length_le (hslid : path.drslid < 2 ^ 16) (hdlid : path.drdlid < 2 ^ 16)
    (h0 : 0 ≤ path.cnt) (h63 : path.cnt ≤ 63) : path.fullText.length ≤ 280 := by
  have hs : (toDecimal path.drslid).length ≤ 4 + 1 := length_toDecimal_le (hslid.trans (by decide))
  have hd : (toDecimal path.drdlid).length ≤ 4 + 1 := length_toDecimal_le (hdlid.trans (by decide))
  have hhops : (hopText path.hops).length ≤ 4 * path.hops.length := length_hopText_le hops_lt
  have hlen := length_hops h0 h63
  simp only [fullText, slids, slidText, dlidText, hopsText, List.length_append, List.length_cons,
    List.length_nil]
  omega

end IbDrPath

/-- What is read is exact and stays inside for just the strings that fit, and what is printed is
parsed back. -/
theorem routeStrings_iff (s : CString) {path : IbDrPath} (h0 : 0 ≤ path.cnt) (h63 : path.cnt ≤ 63)
    (dstrSize : Nat) : (StringExact s ↔ StringFine s) ∧
      (path.RoundTrips dstrSize ↔ path.fullText.length < dstrSize) :=
  ⟨stringExact_iff s, path.roundTrips_iff dstrSize h0 h63⟩

section Cases

/-- `"0,19"`. -/
def twoHops : CString := ⟨[48, 44, 49, 57], by decide⟩

/-- `"0,0,...,0"` with 65 zeros. -/
def manyHops : CString := ⟨(List.replicate 64 [48, 44]).flatten ++ [48], by decide +kernel⟩

/-- `"5"`, a LID without a route. -/
def lidOnly : CString := ⟨[53], by decide⟩

theorem one_lt_pathSize : 1 < 64 := by decide

def path19 : IbDrPath := ⟨1, (Vector.replicate 64 0).set 1 19 one_lt_pathSize, 0xffff, 0xffff⟩

theorem twoHops_fine : StringFine twoHops :=
  ⟨by decide, fun hvalid => absurd hvalid (by decide +kernel)⟩

theorem routeStrings_iff_twoHops : StringExact twoHops ∧ path19.RoundTrips 1024 :=
  have h := routeStrings_iff twoHops (by decide : 0 ≤ path19.cnt) (by decide) 1024
  ⟨h.1.mpr twoHops_fine, h.2.mpr (by decide +kernel)⟩

/-- Too many hops are stored behind the array, and a LID alone is read past its end. -/
theorem not_stringExact_manyHops : ¬ StringExact manyHops ∧ ¬ StringExact lidOnly := by
  refine ⟨fun h => ?_, fun h => ?_⟩
  · have hroom := ((stringExact_iff manyHops).mp h).room
    exact absurd hroom (by decide +kernel)
  · have hfine := ((stringExact_iff lidOnly).mp h).drslid (by decide +kernel)
    exact hfine.1 (by decide +kernel)

end Cases
end InfinibandDiags
