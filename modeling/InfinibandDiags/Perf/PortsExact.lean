import InfinibandDiags.Mad.Layouts
import InfinibandDiags.Perf.Ports

/-! When perfquery asks for just the ports that its port argument denotes. -/
namespace InfinibandDiags
namespace Perfquery

/-- The items between commas that are not empty. -/
def tokens (s : Bytes) : List Bytes := (s.splitOn comma).filter (· ≠ [])

section Tokens
variable {s tok rest : Bytes}

theorem tokens_comma (s : Bytes) : tokens (comma :: s) = tokens s := by
  have hsplit := List.splitOn_append_cons_self_of_not_mem (List.not_mem_nil (a := comma)) s
  rw [List.nil_append] at hsplit
  rw [tokens, hsplit]
  rfl

theorem tokens_dropWhile (s : Bytes) : tokens (s.dropWhile (· = comma)) = tokens s := by
  induction s with
  | nil => rfl
  | cons c s ih =>
      rw [List.dropWhile_cons]
      split
      · next hc => rw [ih, of_decide_eq_true hc, tokens_comma]
      · rfl

theorem tokens_single (hne : s ≠ []) (hs : comma ∉ s) : tokens s = [s] := by
  rw [tokens, List.splitOn_eq_singleton hs]
  simp [hne]

theorem tokens_cons (hne : tok ≠ []) (htok : comma ∉ tok) :
    tokens (tok ++ comma :: rest) = tok :: tokens rest := by
  rw [tokens, List.splitOn_append_cons_self_of_not_mem htok, List.filter_cons_of_pos (by simpa using hne)]
  rfl

/-- `strtok` returns the tokens one by one. -/
theorem strtokR_none (h : strtokR comma s = none) : tokens s = [] := by
  have hempty : s.dropWhile (· = comma) = [] := by
    unfold strtokR at h
    by_contra hne
    rw [if_neg hne] at h
    cases h
  rw [← tokens_dropWhile, hempty]
  rfl

theorem strtokR_some (h : strtokR comma s = some (tok, rest)) :
    tokens s = tok :: tokens rest ∧ rest.length < s.length := by
  unfold strtokR at h
  dsimp only at h
  rw [← tokens_dropWhile s]
  have hle : (s.dropWhile (· = comma)).length ≤ s.length :=
    (List.dropWhile_suffix _).sublist.length_le
  have hhead : ∀ c, (s.dropWhile (· = comma)).head? = some c → c ≠ comma := by
    intro c hc hcomma
    have := List.head?_dropWhile_not (fun c : UInt8 => decide (c = comma)) s
    rw [hc] at this
    simp [hcomma] at this
  generalize s.dropWhile (· = comma) = t at h hle hhead ⊢
  split at h
  · cases h
  · next hne =>
      cases h
      have hsplit : t.takeWhile (· ≠ comma) ++ t.dropWhile (· ≠ comma) = t :=
        List.takeWhile_append_dropWhile
      have htok : comma ∉ t.takeWhile (· ≠ comma) := fun hmem => by
        simpa using List.mem_takeWhile_imp hmem
      have hfirst : t.takeWhile (· ≠ comma) ≠ [] := by
        cases t with
        | nil => exact absurd rfl hne
        | cons c t =>
            rw [List.takeWhile_cons_of_pos (by simpa using hhead c rfl)]
            exact List.cons_ne_nil _ _
      have hpos : 0 < (t.takeWhile (· ≠ comma)).length := List.length_pos_iff.mpr hfirst
      cases hrest : t.dropWhile (· ≠ comma) with
      | nil =>
          rw [hrest, List.append_nil] at hsplit
          rw [hsplit] at htok hpos ⊢
          exact ⟨by rw [tokens_single hne htok]; rfl, lt_of_lt_of_le hpos hle⟩
      | cons c u =>
          have hc : c = comma := by
            have := List.head?_dropWhile_not (fun c : UInt8 => decide (c ≠ comma)) t
            rw [hrest] at this
            simpa using this
          rw [hrest, hc] at hsplit
          have hlen := congrArg List.length hsplit
          rw [List.length_append, List.length_cons] at hlen
          refine ⟨?_, by rw [List.tail_cons]; omega⟩
          rw [List.tail_cons, ← tokens_cons hfirst htok, hsplit]

end Tokens

section Loops
variable {ports : List Int}

/-- A list is stored as far as there is room. -/
theorem listPorts_eq {fuel : Nat} {s : Bytes} (hfuel : s.length < fuel)
    (hroom : ports.length ≤ maxPorts) :
    listPorts fuel s ports =
      if ports.length + (tokens s).length ≤ maxPorts then
        .ok (ports ++ (tokens s).map fun tok => toInt (strtoul tok))
      else .error .outOfBounds := by
  induction fuel generalizing s ports with
  | zero => omega
  | succ fuel ih =>
      rw [listPorts]
      cases hstep : strtokR comma s with
      | none =>
          rw [strtokR_none hstep]
          simp [hroom]
      | some found =>
          obtain ⟨tok, rest⟩ := found
          obtain ⟨htokens, hlen⟩ := strtokR_some hstep
          rw [htokens, List.length_cons, List.map_cons]
          dsimp only
          by_cases hfull : ports.length < maxPorts
          · rw [storePort, if_pos hfull]
            have hnext : (ports ++ [toInt (strtoul tok)]).length ≤ maxPorts := by
              rw [List.length_append, List.length_singleton]
              omega
            refine (ih (by omega) hnext).trans ?_
            rw [List.length_append, List.length_singleton, List.append_assoc, List.singleton_append,
              Nat.add_assoc, Nat.add_comm 1]
          · rw [storePort, if_neg hfull, if_neg (by omega)]
            rfl

/-- The ports of a range. -/
def rangeOf (pmin pmax : Int) : List Int :=
  (List.range (pmax + 1 - pmin).toNat).map fun (i : Nat) => pmin + i

theorem rangeOf_cons {pmin pmax : Int} (h : pmin ≤ pmax) :
    rangeOf pmin pmax = pmin :: rangeOf (pmin + 1) pmax := by
  have hcount : (pmax + 1 - pmin).toNat = (pmax + 1 - (pmin + 1)).toNat + 1 := by omega
  rw [rangeOf, hcount, List.range_succ_eq_map, List.map_cons, List.map_map]
  refine congrArg₂ _ (by simp) ?_
  refine List.map_congr_left fun i _ => ?_
  simp only [Function.comp_apply]
  omega

theorem length_rangeOf (pmin pmax : Int) : (rangeOf pmin pmax).length = (pmax + 1 - pmin).toNat := by
  rw [rangeOf, List.length_map, List.length_range]

/-- A range is stored as far as there is room. -/
theorem rangePorts_eq {fuel : Nat} {pmin pmax : Int} (hmin : -2 ^ 31 ≤ pmin)
    (hmax : pmax < 2 ^ 31 - 1) (hle : pmin ≤ pmax + 1) (hroom : ports.length ≤ maxPorts)
    (hfuel : maxPorts + 1 < fuel + ports.length) :
    rangePorts pmax fuel pmin ports =
      if ports.length + (rangeOf pmin pmax).length ≤ maxPorts then .ok (ports ++ rangeOf pmin pmax)
      else .error .outOfBounds := by
  induction fuel generalizing pmin ports with
  | zero => omega
  | succ fuel ih =>
      rw [rangePorts]
      by_cases hmore : pmin ≤ pmax
      · rw [if_pos hmore, rangeOf_cons hmore, List.length_cons]
        by_cases hfull : ports.length < maxPorts
        · rw [storePort, if_pos hfull]
          have hwrap : (pmin + 1).bmod (2 ^ 32) = pmin + 1 :=
            Int.bmod_eq_of_le (by omega) (by omega)
          have hnext : (ports ++ [pmin]).length ≤ maxPorts := by
            rw [List.length_append, List.length_singleton]
            omega
          rw [hwrap]
          refine (ih (by omega) (by omega) hnext ?_).trans ?_
          · rw [List.length_append, List.length_singleton]
            omega
          · rw [List.length_append, List.length_singleton, List.append_assoc, List.singleton_append,
              Nat.add_assoc, Nat.add_comm 1]
        · rw [storePort, if_neg hfull, if_neg (by omega)]
          rfl
      · have hend : rangeOf pmin pmax = [] :=
          List.length_eq_zero_iff.mp (by rw [length_rangeOf]; omega)
        rw [if_neg hmore, hend]
        simp [hroom]

/-- Up to the largest `int`, the loop does not end before the array does. -/
theorem rangePorts_endless {fuel : Nat} {pmin : Int} (hmin : -2 ^ 31 ≤ pmin ∧ pmin < 2 ^ 31)
    (hroom : ports.length ≤ maxPorts) (hfuel : maxPorts < fuel + ports.length) :
    rangePorts (2 ^ 31 - 1) fuel pmin ports = .error .outOfBounds := by
  induction fuel generalizing pmin ports with
  | zero => omega
  | succ fuel ih =>
      rw [rangePorts, if_pos (by omega)]
      by_cases hfull : ports.length < maxPorts
      · rw [storePort, if_pos hfull]
        have hwrap : -2 ^ 31 ≤ (pmin + 1).bmod (2 ^ 32) ∧ (pmin + 1).bmod (2 ^ 32) < 2 ^ 31 :=
          ⟨Int.le_bmod (by decide), Int.bmod_lt (by decide)⟩
        have hlen : (ports ++ [pmin]).length = ports.length + 1 := by
          rw [List.length_append, List.length_singleton]
        exact ih hwrap (by omega) (by omega)
      · rw [storePort, if_neg hfull]
        rfl

end Loops

/-- What a port argument can denote, with its numbers as they stand there. -/
inductive PortArg
  | list (ports : List Nat)
  | range (first last : Nat)
  | single (port : Nat)
  deriving DecidableEq

def denoted (arg : Bytes) : PortArg :=
  if comma ∈ arg then .list ((tokens arg).map strtoul)
  else if dash ∈ arg then
    .range (strtoul (arg.takeWhile (· ≠ dash))) (strtoul (arg.dropWhile (· ≠ dash)).tail)
  else .single (strtoul arg)

namespace PortArg

def ports : PortArg → List Nat
  | list ports => ports
  | range first last => List.range' first (last + 1 - first)
  | single port => [port]

/-- As `int`s, the bounds are not in order, and perfquery exits. -/
def Rejected : PortArg → Prop
  | list _ => False
  | range first last => toInt last ≤ toInt first
  | single _ => False

/-- There is room for all ports in `info.ports`. -/
def Fits : PortArg → Prop
  | list ports => ports.length ≤ maxPorts
  | range first last => toInt last - toInt first < maxPorts ∧ toInt last ≠ 2 ^ 31 - 1
  | single _ => True

instance : DecidablePred Rejected := fun arg => by
  cases arg <;> unfold Rejected <;> infer_instance

instance : DecidablePred Fits := fun arg => by
  cases arg <;> unfold Fits <;> infer_instance

/-- What is kept of an argument that fits. -/
def info : PortArg → Info
  | list ports => ⟨(ports.map toInt).headD 0, ports.map toInt⟩
  | range first last => ⟨toInt first, rangeOf (toInt first) (toInt last)⟩
  | single port => ⟨toInt port, []⟩

end PortArg

theorem toInt_bounds (value : Nat) : -2 ^ 31 ≤ toInt value ∧ toInt value < 2 ^ 31 :=
  ⟨Int.le_bmod (by decide), Int.bmod_lt (by decide)⟩

theorem portArgument_eq (arg : Bytes) :
    portArgument arg =
      if (denoted arg).Rejected then .ok none
      else if (denoted arg).Fits then .ok (some (denoted arg).info)
      else .error .outOfBounds := by
  unfold portArgument denoted
  split
  · have hgood : ¬ (PortArg.list ((tokens arg).map strtoul)).Rejected := not_false
    rw [listPorts_eq (Nat.lt_succ_self _) (Nat.zero_le _), if_neg hgood, List.length_nil,
      Nat.zero_add, List.nil_append]
    by_cases hroom : (tokens arg).length ≤ maxPorts
    · have hfits : (PortArg.list ((tokens arg).map strtoul)).Fits := by
        rwa [PortArg.Fits, List.length_map]
      rw [if_pos hroom, if_pos hfits]
      simp only [bind, Except.bind, PortArg.info, List.map_map, Function.comp_def]
    · have hfull : ¬ (PortArg.list ((tokens arg).map strtoul)).Fits := by
        rwa [PortArg.Fits, List.length_map]
      rw [if_neg hroom, if_neg hfull]
      rfl
  · split
    · generalize strtoul (arg.takeWhile (· ≠ dash)) = first
      generalize strtoul (arg.dropWhile (· ≠ dash)).tail = last
      obtain ⟨hmin, hmin'⟩ := toInt_bounds first
      obtain ⟨hmax, hmax'⟩ := toInt_bounds last
      dsimp only
      by_cases horder : toInt last ≤ toInt first
      · have hbad : (PortArg.range first last).Rejected := horder
        rw [if_pos horder, if_pos hbad]
      · have hgood : ¬ (PortArg.range first last).Rejected := horder
        rw [if_neg horder, if_neg hgood]
        by_cases hlast : toInt last = 2 ^ 31 - 1
        · have hfull : ¬ (PortArg.range first last).Fits := fun h => h.2 hlast
          rw [if_neg hfull, hlast, rangePorts_endless ⟨hmin, hmin'⟩ (Nat.zero_le _) (by decide)]
          rfl
        · rw [rangePorts_eq hmin (by omega) (by omega) (Nat.zero_le _) (by decide), length_rangeOf,
            List.length_nil, List.nil_append]
          by_cases hroom : toInt last - toInt first < maxPorts
          · have hfits : (PortArg.range first last).Fits := ⟨hroom, hlast⟩
            have hhead : (rangeOf (toInt first) (toInt last)).headD 0 = toInt first := by
              rw [rangeOf_cons (by omega), List.headD_cons]
            rw [if_pos (by rw [maxPorts] at hroom ⊢; omega), if_pos hfits]
            simp only [bind, Except.bind, PortArg.info, hhead]
          · have hfull : ¬ (PortArg.range first last).Fits := fun h => hroom h.1
            rw [if_neg (by rw [maxPorts] at hroom ⊢; omega), if_neg hfull]
            rfl
    · have hgood : ¬ (PortArg.single (strtoul arg)).Rejected := not_false
      have hfits : (PortArg.single (strtoul arg)).Fits := trivial
      rw [if_neg hgood, if_pos hfits]
      rfl

section Select

/-- PortSelect has eight bits. -/
theorem portSelect_eq (port : Int) : portSelect port = (port % 256).toNat := by
  have hfield : tableField ibPcPortSelect = bitsOffs 8 8 := by
    rw [tableField_parts]
    decide +kernel
  have hregular : (bitsOffs 8 8).Regular := by decide
  have hholds : Holds (List.replicate 256 0) 0 (bitsOffs 8 8) := by
    rw [Holds, List.length_replicate]
    decide
  rw [portSelect, hfield, getField_setField hregular hholds]
  have hlen : (2 : Nat) ^ (bitsOffs 8 8).bitlen = 256 := rfl
  rw [hlen]
  omega

theorem portSelect_add (value i : Nat) : portSelect (toInt value + i) = (value + i) % 256 := by
  have hwrap : toInt value % ((2 ^ 32 : Nat) : Int) = (value : Int) % ((2 ^ 32 : Nat) : Int) :=
    Int.bmod_emod
  rw [portSelect_eq]
  omega

theorem portSelect_toInt (value : Nat) : portSelect (toInt value) = value % 256 := by
  have hadd := portSelect_add value 0
  rwa [Nat.add_zero, Int.natCast_zero, Int.add_zero] at hadd

theorem map_mod_eq_iff (l : List Nat) : l.map (· % 256) = l ↔ ∀ p ∈ l, p < 256 := by
  induction l with
  | nil => simp
  | cons p l ih =>
      rw [List.map_cons, List.cons.injEq, List.forall_mem_cons, ih]
      refine and_congr_left fun _ => ?_
      omega

theorem map_portSelect_rangeOf (first last : Nat) :
    (rangeOf (toInt first) (toInt last)).map portSelect =
      (List.range' first (toInt last + 1 - toInt first).toNat).map (· % 256) := by
  rw [rangeOf, List.map_map, List.range'_eq_map_range, List.map_map]
  refine List.map_congr_left fun i _ => ?_
  rw [Function.comp_apply, Function.comp_apply, portSelect_add]

end Select

theorem toInt_small {value : Nat} (h : value < 256) : toInt value = value :=
  Int.bmod_eq_of_le (by omega) (by omega)

/-- A list of ports in one request each. -/
theorem map_portSelect_toInt (ports : List Nat) :
    (ports.map toInt).map portSelect = ports.map (· % 256) := by
  rw [List.map_map]
  refine List.map_congr_left fun p _ => ?_
  rw [Function.comp_apply, portSelect_toInt]

/-- The ports that the loops go over when they do not go over all. -/
def PortArg.looped (arg : PortArg) : List Int :=
  if arg.info.ports.length > 1 then arg.info.ports else [arg.info.port]

theorem PortArg.looped_single {arg : PortArg} (h : arg.info.ports.length ≤ 1) :
    arg.looped = [arg.info.port] := by
  rw [looped, if_neg (Nat.not_lt.mpr h)]

theorem looped_list {p : Nat} {ports : List Nat} :
    (PortArg.list (p :: ports)).looped = (p :: ports).map toInt := by
  cases ports with
  | nil =>
      have hlen : (PortArg.list [p]).info.ports.length ≤ 1 := by
        rw [PortArg.info, List.length_map, List.length_singleton]
      rw [PortArg.looped_single hlen, PortArg.info, List.map_singleton, List.headD_cons]
  | cons q ports =>
      have hlen : (PortArg.list (p :: q :: ports)).info.ports.length > 1 := by
        rw [PortArg.info, List.length_map, List.length_cons, List.length_cons]
        omega
      rw [PortArg.looped, if_pos hlen, PortArg.info]

theorem looped_range {first last : Nat} (h : toInt first < toInt last) :
    (PortArg.range first last).looped = rangeOf (toInt first) (toInt last) := by
  have hlen : (PortArg.range first last).info.ports.length > 1 := by
    rw [PortArg.info, length_rangeOf]
    omega
  rw [PortArg.looped, if_pos hlen, PortArg.info]

/-- A list or a range is asked for port by port, as it is denoted, if all ports are below 256. -/
theorem looped_eq_iff {arg : PortArg} (h : ¬ arg.Rejected) :
    arg.looped.map portSelect = arg.ports ↔ arg.ports ≠ [] ∧ ∀ p ∈ arg.ports, p < 256 := by
  cases arg with
  | list ports =>
      cases ports with
      | nil =>
          have hone : (PortArg.list []).looped = [0] := PortArg.looped_single (Nat.zero_le _)
          rw [hone]
          exact iff_of_false (fun heq => by cases heq) fun hne => hne.1 rfl
      | cons p ports =>
          rw [looped_list, map_portSelect_toInt, PortArg.ports, map_mod_eq_iff,
            and_iff_right (List.cons_ne_nil _ _)]
  | range first last =>
      have horder : toInt first < toInt last := Int.not_le.mp h
      rw [looped_range horder, map_portSelect_rangeOf, PortArg.ports]
      constructor
      · intro heq
        refine ⟨fun hnil => ?_, fun p hp => ?_⟩
        · have hlen := congrArg List.length (heq.trans hnil)
          rw [List.length_map, List.length_range', List.length_nil] at hlen
          omega
        · rw [← heq] at hp
          obtain ⟨q, -, rfl⟩ := List.mem_map.mp hp
          exact Nat.mod_lt _ (by decide)
      · rintro ⟨hne, hbelow⟩
        have hpos : 0 < last + 1 - first := by
          by_contra hzero
          exact hne (by rw [Nat.eq_zero_of_not_pos hzero]; rfl)
        have hlast : last < 256 := hbelow last (List.mem_range'_1.mpr (by omega))
        have hcount : (toInt last + 1 - toInt first).toNat = last + 1 - first := by
          rw [toInt_small hlast, toInt_small (by omega)]
          omega
        rw [hcount]
        exact (map_mod_eq_iff _).mpr hbelow
  | single port =>
      have hone : (PortArg.single port).looped = [port].map toInt := by
        rw [PortArg.looped_single (Nat.zero_le _), PortArg.info, List.map_singleton]
      rw [hone, map_portSelect_toInt, PortArg.ports, map_mod_eq_iff,
        and_iff_right (List.cons_ne_nil _ _)]

/-- A single request is what is denoted if one port below 256 is. -/
theorem first_eq_iff {arg : PortArg} (h : ¬ arg.Rejected) :
    [portSelect arg.info.port] = arg.ports ↔
      (arg.ports ≠ [] ∧ ∀ p ∈ arg.ports, p < 256) ∧ arg.ports.length = 1 := by
  rw [← looped_eq_iff h]
  constructor
  · intro heq
    have hlen : arg.ports.length = 1 := by rw [← heq]; rfl
    refine ⟨?_, hlen⟩
    cases arg with
    | list ports =>
        obtain ⟨p, rfl⟩ := List.length_eq_one_iff.mp hlen
        exact heq
    | range first last =>
        rw [PortArg.ports, List.length_range'] at hlen
        have horder : toInt first < toInt last := Int.not_le.mp h
        obtain rfl : last = first := by omega
        exact absurd horder (Int.lt_irrefl _)
    | single port => exact heq
  · rintro ⟨heq, hlen⟩
    rw [← heq, PortArg.looped, List.length_map] at hlen
    rw [PortArg.looped] at heq
    split at hlen
    · omega
    · next hshort =>
        rwa [if_neg hshort] at heq

section Exact
variable {options : Options} {node : Target} {arg : Bytes}

/-- The options ask for what a port has, and for its reset. -/
def Options.queries (options : Options) : Bool :=
  options.shown = .samplesControl || !options.resetOnly

def Options.resets (options : Options) : Bool :=
  options.shown ≠ .samplesControl && (options.resetOnly || options.reset)

/-- All ports of the node, as the loops go over them. -/
def Target.ports (node : Target) : List Nat :=
  List.range' (startPort node) (node.numPorts + 1 - startPort node)

/-- The ports that an argument denotes: 255 stands for all, also where the loops go over these. -/
def PortArg.meant (options : Options) (node : Target) (a : PortArg) : List Nat :=
  if options.shown = .counters ∧ everyPort options node 255 = true ∧ a = .single 255 then node.ports
  else a.ports

/-- perfquery exits, or asks for just the ports that its argument denotes; it never stores a port
outside `info.ports`. -/
def AsksExactly (options : Options) (node : Target) (arg : Bytes) : Prop :=
  ∃ result, main options node arg = .ok result ∧ ∀ c, result = some c →
    c.queried = (if options.queries then (denoted arg).meant options node else []) ∧
      c.reset = if options.resets then (denoted arg).meant options node else []

/-- The node does not have what the argument would take: AllPortSelect for port 255, or any ports to
loop over. -/
def Refused (options : Options) (node : Target) (port : Int) : Prop :=
  (node.allPortSelect = false ∧ options.allPorts = false ∧ port = 255) ∨
    options.shown = .counters ∧ everyPort options node port = true ∧ node.numPorts = 0

/-- The ports are all the node has, where the loops go over these, and else ports with a PortSelect
of their own; other attributes than the counters are asked of one port only. -/
def Serves (options : Options) (node : Target) (a : PortArg) : Prop :=
  if options.shown = .counters ∧ everyPort options node a.info.port = true then
    a = .single 255 ∨ a.ports = node.ports
  else
    (a.ports ≠ [] ∧ ∀ p ∈ a.ports, p < 256) ∧
      (options.shown = .counters ∨ a.ports.length = 1)

instance (options : Options) (node : Target) (port : Int) :
    Decidable (Refused options node port) :=
  inferInstanceAs (Decidable (_ ∨ _))

instance (options : Options) (node : Target) (a : PortArg) : Decidable (Serves options node a) := by
  unfold Serves
  infer_instance

theorem calls_iff {asked : List Int} {ports : List Nat} (h : options.shown ≠ .samplesControl) :
    ((calls options asked asked).queried = (if options.queries then ports else []) ∧
        (calls options asked asked).reset = if options.resets then ports else []) ↔
      asked.map portSelect = ports := by
  cases hreset : options.resetOnly <;> cases hafter : options.reset <;>
    simp [calls, Options.queries, Options.resets, h, hreset, hafter]

/-- Each port of the node has a PortSelect of its own. -/
theorem map_portSelect_ports (node : Target) :
    (node.ports.map fun (i : Nat) => (i : Int)).map portSelect = node.ports := by
  have hle : startPort node ≤ 1 := by
    unfold startPort
    split <;> omega
  rw [List.map_map]
  conv_rhs => rw [← List.map_id node.ports]
  refine List.map_congr_left fun i hi => ?_
  have hi := List.mem_range'_1.mp hi
  have hlt := node.numPorts_lt
  rw [Function.comp_apply, portSelect_eq, id]
  omega

/-- Where the loops do not go over all ports, the numbers are meant as they stand. -/
theorem PortArg.meant_eq {a : PortArg}
    (h : ¬ (options.shown = .counters ∧ everyPort options node a.info.port = true)) :
    a.meant options node = a.ports := by
  rw [meant, if_neg]
  rintro ⟨hshown, hevery, rfl⟩
  exact h ⟨hshown, hevery⟩

theorem PortArg.meant_eq_iff {a : PortArg}
    (h : options.shown = .counters ∧ everyPort options node a.info.port = true) :
    node.ports = a.meant options node ↔ a = .single 255 ∨ a.ports = node.ports := by
  rw [meant]
  by_cases hall : a = .single 255
  · subst hall
    rw [if_pos ⟨h.1, h.2, rfl⟩]
    exact iff_of_true rfl (.inl rfl)
  · rw [if_neg fun hand => hall hand.2.2, or_iff_right hall, eq_comm]

theorem queryPorts_iff {a : PortArg} (h : ¬ a.Rejected) :
    (∀ c, queryPorts options node a.info = some c →
        c.queried = (if options.queries then a.meant options node else []) ∧
          c.reset = if options.resets then a.meant options node else []) ↔
      Refused options node a.info.port ∨ Serves options node a := by
  unfold queryPorts
  by_cases hselect : node.allPortSelect = false ∧ options.allPorts = false ∧ a.info.port = 255
  · have hbool : (!node.allPortSelect) = true ∧ (!options.allPorts) = true ∧ a.info.port = 255 := by
      simpa using hselect
    rw [if_pos hbool]
    exact iff_of_true (fun c hc => by cases hc) (.inl (.inl hselect))
  · have hbool : ¬ ((!node.allPortSelect) = true ∧ (!options.allPorts) = true ∧
        a.info.port = 255) := by simpa using hselect
    rw [if_neg hbool, Refused, or_iff_right hselect]
    cases hshown : options.shown with
    | common =>
        have hother : ¬ (options.shown = .counters ∧ everyPort options node a.info.port = true) := by
          simp [hshown]
        have hcalls : _ ↔ [a.info.port].map portSelect = a.ports :=
          calls_iff (h := by rw [hshown]; decide)
        rw [PortArg.meant_eq hother]
        simp only [Option.some.injEq, forall_eq', hcalls, List.map_singleton, first_eq_iff h]
        simp [Serves, hshown]
    | samplesControl =>
        have hother : ¬ (options.shown = .counters ∧ everyPort options node a.info.port = true) := by
          simp [hshown]
        have hasks : options.queries = true ∧ options.resets = false := by
          simp [Options.queries, Options.resets, hshown]
        rw [PortArg.meant_eq hother]
        simp only [Option.some.injEq, forall_eq', hasks, if_true, Bool.false_eq_true, if_false,
          and_true, first_eq_iff h]
        simp [Serves, hshown]
    | counters =>
        have hcalls : _ ↔ (loopedPorts options node a.info).map portSelect = a.meant options node :=
          calls_iff (h := by rw [hshown]; decide)
        dsimp only
        by_cases hevery : everyPort options node a.info.port = true
        · have hserves : Serves options node a ↔ a = .single 255 ∨ a.ports = node.ports := by
            rw [Serves, if_pos ⟨hshown, hevery⟩]
          by_cases hnone : node.numPorts = 0
          · have hports : everyPort options node a.info.port = true ∧ node.numPorts = 0 :=
              ⟨hevery, hnone⟩
            rw [if_pos hports]
            exact iff_of_true (fun c hc => by cases hc) (.inl ⟨rfl, hports⟩)
          · have hports : ¬ (everyPort options node a.info.port = true ∧ node.numPorts = 0) :=
              fun hand => hnone hand.2
            have hlooped : loopedPorts options node a.info =
                node.ports.map fun (i : Nat) => (i : Int) := by
              rw [loopedPorts, if_pos hevery, Target.ports]
            rw [if_neg hports, or_iff_right fun hand => hports hand.2, hserves]
            simp only [Option.some.injEq, forall_eq']
            rw [hcalls, hlooped, map_portSelect_ports, PortArg.meant_eq_iff ⟨hshown, hevery⟩]
        · have hports : ¬ (everyPort options node a.info.port = true ∧ node.numPorts = 0) :=
            fun hand => hevery hand.1
          have hlooped : loopedPorts options node a.info = a.looped := by
            rw [loopedPorts, if_neg hevery]
            rfl
          have hserves : Serves options node a ↔ a.ports ≠ [] ∧ ∀ p ∈ a.ports, p < 256 := by
            rw [Serves, if_neg fun hand => hevery hand.2, and_iff_left (.inl hshown)]
          rw [if_neg hports, or_iff_right fun hand => hports hand.2, hserves]
          simp only [Option.some.injEq, forall_eq']
          rw [hcalls, hlooped, PortArg.meant_eq fun hand => hevery hand.2, looped_eq_iff h]

/-- perfquery serves just the ports denoted if they fit into `info.ports`, each has a PortSelect of
its own, and the options go over them. -/
theorem asksExactly_iff (options : Options) (node : Target) (arg : Bytes) :
    AsksExactly options node arg ↔
      (denoted arg).Rejected ∨
        (denoted arg).Fits ∧
          (Refused options node (denoted arg).info.port ∨ Serves options node (denoted arg)) := by
  rw [AsksExactly, main, portArgument_eq]
  by_cases hbad : (denoted arg).Rejected
  · rw [if_pos hbad]
    exact iff_of_true ⟨none, rfl, fun c hc => by cases hc⟩ (.inl hbad)
  · rw [if_neg hbad, or_iff_right hbad, ← queryPorts_iff hbad]
    by_cases hfits : (denoted arg).Fits
    · rw [if_pos hfits, and_iff_right hfits]
      constructor
      · rintro ⟨result, hresult, hall⟩
        cases hresult
        exact hall
      · exact fun hall => ⟨_, rfl, hall⟩
    · rw [if_neg hfits]
      refine iff_of_false ?_ fun hand => hfits hand.1
      rintro ⟨result, hresult, -⟩
      cases hresult

/-- A switch with 36 ports. -/
def edgeSwitch : Target := ⟨true, true, 36, 0, by decide⟩

/-- The range `1-300` does not fit: `info.ports[255]` is stored. -/
theorem not_asksExactly_range :
    ¬ AsksExactly ⟨.counters, false, false, false, false⟩ edgeSwitch [49, 45, 51, 48, 48] := by
  rintro ⟨result, hresult, -⟩
  have hgood : ¬ (denoted [49, 45, 51, 48, 48]).Rejected := by decide +kernel
  have hfull : ¬ (denoted [49, 45, 51, 48, 48]).Fits := by decide +kernel
  rw [main, portArgument_eq, if_neg hgood, if_neg hfull] at hresult
  cases hresult

end Exact

end Perfquery
end InfinibandDiags
