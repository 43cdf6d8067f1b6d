import InfinibandDiags.Mad.Layouts
import InfinibandDiags.Trace.McSubnet

/-! When the table lookups of ibtracert.c return what the tables of the switch say. -/
namespace InfinibandDiags

/-- What a lookup is to return: the port that the table has for the LID, and something negative
behind LinearFDBTop, where the switch discards packets. -/
def Subnet.ReturnsEntry {V : Type} (S : Subnet V) (v : V) (lid : Nat) (r : Int) : Prop :=
  (lid ≤ S.linearTop v → (S.fdb v lid).toNat ≤ 254 → r = (S.fdb v lid).toNat) ∧
    (S.linearTop v < lid → r < 0)

instance {V : Type} (S : Subnet V) (v : V) (lid : Nat) (r : Int) :
    Decidable (S.ReturnsEntry v lid r) :=
  inferInstanceAs (Decidable ((_ → _ → _) ∧ (_ → _)))

namespace Ibtracert
variable {V : Type} {S : Subnet V} {T : Tracer} {portid : PortId} {b : V × Nat}

theorem int8_eq_toNat_iff (x : UInt8) : int8 x = x.toNat ↔ x.toNat ≤ 127 := by
  unfold int8
  split <;> omega

theorem int8_neg_iff (x : UInt8) : int8 x < 0 ↔ 128 ≤ x.toNat := by
  have hlt := x.toNat_lt
  unfold int8
  split <;> omega

section Unicast
variable {lid : Nat}

/-- With both queries answered, a lookup fails behind the capacity and LinearFDBTop, and is a signed
table entry otherwise. -/
theorem switchLookup_answer (hT : S.Truthful T.query) (hb : S.arrival portid = some b)
    (hsi : (T.query portid ibAttrSwitchInfo 0).isSome)
    (hfdb : (T.query portid ibAttrLinearforwtbl (lid / 64)).isSome) (sw : Switch) :
    (switchLookup T sw portid lid).1 =
      if S.linearCap b.1 ≤ lid ∧ S.linearTop b.1 < lid then -1 else int8 (S.fdb b.1 lid) := by
  obtain ⟨si, hsi⟩ := Option.isSome_iff_exists.mp hsi
  obtain ⟨fdb, hfdb⟩ := Option.isSome_iff_exists.mp hfdb
  have hinfo : si.field .swLinearFdbCap = S.linearCap b.1 ∧
      si.field .swLinearFdbTop = S.linearTop b.1 := by
    obtain ⟨b', hb', hknows⟩ := hT portid ibAttrSwitchInfo 0 si hsi
    obtain ⟨hcap, htop, -⟩ := hknows.switchInfo rfl
    rw [hb] at hb'
    cases hb'
    exact ⟨hcap, htop⟩
  have hentry : byteAt fdb.bytes (lid % 64) = S.fdb b.1 lid := by
    obtain ⟨b', hb', hknows⟩ := hT portid ibAttrLinearforwtbl (lid / 64) fdb hfdb
    rw [hb] at hb'
    cases hb'
    exact hknows.linearForwTbl rfl lid rfl
  simp only [switchLookup, hsi, hfdb, hinfo.1, hinfo.2, hentry, ge_iff_le, gt_iff_lt]
  split <;> rfl

/-- The entries are signed bytes, and LIDs behind LinearFDBTop are looked up all the same below
the capacity. -/
theorem switchLookup_returnsEntry_iff (hT : S.Truthful T.query) (hb : S.arrival portid = some b)
    (hsi : (T.query portid ibAttrSwitchInfo 0).isSome)
    (hfdb : (T.query portid ibAttrLinearforwtbl (lid / 64)).isSome) (sw : Switch) :
    S.ReturnsEntry b.1 lid (switchLookup T sw portid lid).1 ↔
      (lid ≤ S.linearTop b.1 → (S.fdb b.1 lid).toNat ≤ 127 ∨ (S.fdb b.1 lid).toNat = 255) ∧
        (S.linearTop b.1 < lid → S.linearCap b.1 ≤ lid ∨ 128 ≤ (S.fdb b.1 lid).toNat) := by
  have hlt := (S.fdb b.1 lid).toNat_lt
  rw [switchLookup_answer hT hb hsi hfdb sw, Subnet.ReturnsEntry]
  apply and_congr
  case h₁ =>
    refine forall_congr' fun htop => ?_
    rw [if_neg fun hout => absurd hout.2 (by omega), int8_eq_toNat_iff]
    omega
  case h₂ =>
    refine forall_congr' fun htop => ?_
    by_cases hcap : S.linearCap b.1 ≤ lid
    · rw [if_pos ⟨hcap, htop⟩]
      exact ⟨fun _ => .inl hcap, fun _ => by decide⟩
    · rw [if_neg fun hout => hcap hout.1, int8_neg_iff]
      exact ⟨.inr, fun h => h.resolve_left hcap⟩

/-- The port behind port 1 of the port that SMPs leave from. -/
def nextId : PortId :=
  { homeId with drpath := { homeId.drpath with cnt := 1, p := homeId.drpath.p.setIfInBounds 1 1 } }

theorem switchLookup_returnsEntry_iff_star :
    adapterStar.ReturnsEntry 0 2 (switchLookup starTracer starTracer.stack nextId 2).1 :=
  (switchLookup_returnsEntry_iff (b := ((0 : Fin 5), 1)) adapterStar_truthful (by decide +kernel)
    (by decide +kernel) (by decide +kernel) starTracer.stack).mpr (by decide +kernel)

/-- The switch of the star with LinearFDBTop before the last LID of its table. -/
def loweredStar : Subnet (Fin 5) := { adapterStar with linearTop := fun _ => 3 }

/-- Port 200 is looked up as -56, and LID 4 behind LinearFDBTop as port 3. -/
theorem not_switchLookup_returnsEntry :
    ¬ adapterStar.ReturnsEntry 0 3 (switchLookup starTracer starTracer.stack nextId 3).1 ∧
      ¬ loweredStar.ReturnsEntry 0 4
        (switchLookup { starTracer with query := loweredStar.answer } starTracer.stack nextId 4).1 := by
  decide +kernel

end Unicast

/-- The 256 bytes of the caller, and where in them `map` points. -/
structure MapCursor where
  map : Bytes
  pos : Nat

/-- The 16 bits of a mask, from where `map` points on. -/
def markPorts (mask : Nat) : List Nat → MapCursor → Except Fault MapCursor
  | [], c => .ok c
  | i :: is, c =>
      if mask.testBit i then
        if c.pos < c.map.length then markPorts mask is ⟨c.map.set c.pos 1, c.pos + 1⟩
        else .error .outOfBounds
      else markPorts mask is { c with pos := c.pos + 1 }

section Marking
variable (T : Tracer) (portid : PortId) (mlid : Int)

def markSets : List Nat → MapCursor → Except Fault (Option Bytes)
  | [], c => .ok (some c.map)
  | set :: sets, c =>
      let block := BitVec.ofInt 32 (mlid.tdiv 32) ||| BitVec.ofNat 32 (set <<< 28)
      match T.query portid ibAttrMulticastforwtbl block.toNat with
      | none => .ok none
      | some mdb =>
          if mlid.tmod 32 < 0 then .error .outOfBounds
          else
            match markPorts (mcMask mdb (mlid.tmod 32).toNat) (List.range 16) c with
            | .error e => .error e
            | .ok c => markSets sets c

/-- `switch_mclookup` with the map as the bytes that it writes; `switchMclookup` has the set of
ports that these bytes are read as. -/
def switchMclookupMap (node : Node) : Except Fault (Option Bytes) :=
  let map := List.replicate 256 0
  match T.query portid ibAttrSwitchInfo 0 with
  | none => .ok none
  | some si =>
      let mlid := mlid - 0xc000
      if mlid ≥ si.field .swMcastFdbCap then .ok none
      else markSets T portid mlid (List.range ((node.numports + 15) / 16)) ⟨map, 0⟩

end Marking

/-- The bytes that stand for a set of ports. -/
def mapBytes (ports : Nat → Bool) : Bytes :=
  (List.range 256).map fun p => if ports p then 1 else 0

theorem mapBytes_getElem? (ports : Nat → Bool) {p : Nat} (hp : p < 256) :
    (mapBytes ports)[p]? = some (if ports p then 1 else 0) := by
  simp [mapBytes, hp]

theorem mapBytes_set (ports : Nat → Bool) (p : Nat) :
    (mapBytes ports).set p 1 = mapBytes fun q => ports q || q = p := by
  apply List.ext_getElem?
  intro q
  by_cases hq : q < 256
  · rw [mapBytes_getElem? _ hq, List.getElem?_set, mapBytes_getElem? _ hq]
    by_cases hqp : q = p
    · subst hqp
      simp [mapBytes, hq]
    · simp [hqp, Ne.symm hqp]
  · simp [mapBytes, hq]

/-- One bit of a mask is written, within the 256 bytes. -/
theorem markPorts_cons (mask i : Nat) (is : List Nat) (ports : Nat → Bool) {pos : Nat}
    (hpos : pos < 256) :
    markPorts mask (i :: is) ⟨mapBytes ports, pos⟩ =
      markPorts mask is ⟨mapBytes fun p => ports p || (p = pos && mask.testBit i), pos + 1⟩ := by
  have hlen : pos < (mapBytes ports).length := by simpa [mapBytes] using hpos
  rw [markPorts]
  by_cases hbit : mask.testBit i = true
  · rw [if_pos hbit, if_pos hlen, mapBytes_set]
    simp only [hbit, Bool.and_true]
  · simp only [hbit, Bool.and_false, Bool.or_false, Bool.false_eq_true, if_false]

/-- The ports that the bits `i` to `i + n` of a mask stand for. -/
def maskPorts (mask base i n p : Nat) : Bool :=
  base + i ≤ p && p < base + i + n && mask.testBit (p - base)

theorem maskPorts_succ (mask base i n p : Nat) :
    maskPorts mask base i (n + 1) p =
      ((p = base + i && mask.testBit i) || maskPorts mask base (i + 1) n p) := by
  unfold maskPorts
  by_cases hp : p = base + i
  · subst hp
    simp
  · have hle : base + i ≤ p ↔ base + (i + 1) ≤ p := by omega
    have hlt : p < base + i + (n + 1) ↔ p < base + (i + 1) + n := by omega
    simp [hp, hle, hlt]

theorem markPorts_range' (mask base : Nat) (ports : Nat → Bool) (i n : Nat)
    (hle : base + i + n ≤ 256) :
    markPorts mask (List.range' i n) ⟨mapBytes ports, base + i⟩ =
      .ok ⟨mapBytes fun p => ports p || maskPorts mask base i n p, base + i + n⟩ := by
  induction n generalizing i ports with
  | zero =>
      have hnone : ∀ p, maskPorts mask base i 0 p = false := by
        intro p
        simp only [maskPorts, Nat.add_zero, Bool.and_eq_false_iff, decide_eq_false_iff_not]
        omega
      simp only [List.range'_zero, markPorts, hnone, Bool.or_false, Nat.add_zero]
  | succ n ih =>
      have hnext : base + i + 1 + n = base + i + (n + 1) := by omega
      rw [List.range'_succ, markPorts_cons _ _ _ _ (by omega), Nat.add_assoc base i 1,
        ih _ _ (by omega)]
      simp only [maskPorts_succ, Bool.or_assoc, ← Nat.add_assoc, hnext]

theorem maskPorts_set (mask k p : Nat) :
    maskPorts mask (16 * k) 0 16 p = (decide (p / 16 = k) && mask.testBit (p % 16)) := by
  unfold maskPorts
  by_cases hp : p / 16 = k
  · have hmod : p - 16 * k = p % 16 := by omega
    have hrange : 16 * k + 0 ≤ p ∧ p < 16 * k + 0 + 16 := by omega
    rw [decide_eq_true hrange.1, decide_eq_true hrange.2, decide_eq_true hp, hmod]
    rfl
  · have hout : 16 * k + 0 ≤ p → ¬ p < 16 * k + 0 + 16 := by omega
    simp [hp]
    omega

theorem markPorts_set (mask k : Nat) (ports : Nat → Bool) (hk : k < 16) :
    markPorts mask (List.range 16) ⟨mapBytes ports, 16 * k⟩ =
      .ok ⟨mapBytes fun p => ports p || (p / 16 = k && mask.testBit (p % 16)), 16 * (k + 1)⟩ := by
  have h := markPorts_range' mask (16 * k) ports 0 16 (by omega)
  simp only [maskPorts_set] at h
  exact h

/-- The map of 256 bytes has room for all sets, and ends up with the ports of `mcSets`. -/
theorem markSets_eq (T : Tracer) (portid : PortId) (mlid : Int) (ports : Nat → Bool) (k n : Nat)
    (hle : k + n ≤ 16) :
    markSets T portid mlid (List.range' k n) ⟨mapBytes ports, 16 * k⟩ =
      (mcSets T portid mlid (List.range' k n) ports).map (Option.map mapBytes) := by
  induction n generalizing k ports with
  | zero => rfl
  | succ n ih =>
      rw [List.range'_succ, markSets, mcSets]
      dsimp only
      cases T.query portid ibAttrMulticastforwtbl
        (BitVec.ofInt 32 (mlid.tdiv 32) ||| BitVec.ofNat 32 (k <<< 28)).toNat with
      | none => rfl
      | some mdb =>
          dsimp only
          by_cases hneg : mlid.tmod 32 < 0
          · rw [if_pos hneg, if_pos hneg]
            rfl
          · rw [if_neg hneg, if_neg hneg, markPorts_set _ _ _ (by omega)]
            exact ih _ (k + 1) (by omega)

/-- Up to 255 ports, the bytes that `switch_mclookup` writes stay in the map, and are the ports of
`switchMclookup`. -/
theorem switchMclookupMap_eq (T : Tracer) (portid : PortId) (mlid : Int) {node : Node}
    (hnode : node.numports ≤ 255) :
    switchMclookupMap T portid mlid node =
      (switchMclookup T node portid mlid).map (Option.map mapBytes) := by
  have hzero : List.replicate 256 0 = mapBytes fun _ => false := by simp [mapBytes]
  rw [switchMclookupMap, switchMclookup]
  cases T.query portid ibAttrSwitchInfo 0 with
  | none => rfl
  | some si =>
      dsimp only
      by_cases hcap : mlid - 0xc000 ≥ si.field .swMcastFdbCap
      · rw [if_pos hcap, if_pos hcap]
        rfl
      · rw [if_neg hcap, if_neg hcap, List.range_eq_range', hzero]
        exact markSets_eq T portid _ _ 0 _ (by omega)

section Multicast
open McSubnet (tableModifier)
variable {V : Type} {S : McSubnet V} {T : Tracer} {portid : PortId} {b : V × Nat} {m : Nat}

/-- The modifier that the lookup sends. -/
theorem mcBlock_toNat (hm : m < 2 ^ 16) {set : Nat} (hset : set < 16) :
    (BitVec.ofInt 32 ((m : Int).tdiv 32) ||| BitVec.ofNat 32 (set <<< 28)).toNat =
      tableModifier set m := by
  have hdiv : ((m : Int).tdiv 32) = ((m / 32 : Nat) : Int) := rfl
  have hblock : m / 32 < 2 ^ 28 := by omega
  rw [hdiv, BitVec.ofInt_natCast, BitVec.toNat_or, BitVec.toNat_ofNat, BitVec.toNat_ofNat,
    Nat.mod_eq_of_lt (by omega), Nat.mod_eq_of_lt (by rw [Nat.shiftLeft_eq]; omega), Nat.or_comm,
    ← Nat.shiftLeft_add_eq_or_of_lt hblock, Nat.shiftLeft_eq, tableModifier]

/-- With all chunks answered, the ports of the sets are those of the table. -/
theorem mcSets_answered (hT : S.McTruthful T.query) (hb : S.arrival portid = some b)
    (hm : m < 2 ^ 16) (ports : Nat → Bool) (k n : Nat) (hle : k + n ≤ 16)
    (hanswer : ∀ set, k ≤ set → set < k + n →
      (T.query portid ibAttrMulticastforwtbl (tableModifier set m)).isSome) :
    ∃ found, mcSets T portid m (List.range' k n) ports = .ok (some found) ∧
      ∀ p, found p = (ports p || (k ≤ p / 16 && p / 16 < k + n && S.forwards b.1 m p)) := by
  induction n generalizing k ports with
  | zero =>
      refine ⟨ports, rfl, fun p => ?_⟩
      have hnone : (decide (k ≤ p / 16) && decide (p / 16 < k + 0)) = false := by
        simp
      rw [hnone]
      simp
  | succ n ih =>
      obtain ⟨mdb, hmdb⟩ := Option.isSome_iff_exists.mp (hanswer k le_rfl (by omega))
      have hmask : mcMask mdb (m % 32) = S.mcastEntry b.1 m k := by
        obtain ⟨b', hb', hknows⟩ := hT portid _ _ mdb hmdb
        rw [hb] at hb'
        cases hb'
        exact hknows.multicastForwTbl rfl k m hm rfl
      have hmod : ((m : Int).tmod 32).toNat = m % 32 := rfl
      have hneg : ¬ (m : Int).tmod 32 < 0 := Int.not_lt.mpr (Int.natCast_nonneg (m % 32))
      obtain ⟨found, hfound, hports⟩ := ih
        (fun p => ports p || (p / 16 = k && (S.mcastEntry b.1 m k).testBit (p % 16))) (k + 1)
        (by omega) fun set hset hset' => hanswer set (by omega) (by omega)
      refine ⟨found, ?_, fun p => ?_⟩
      · rw [List.range'_succ, mcSets, mcBlock_toNat hm (by omega)]
        dsimp only
        rw [hmdb]
        dsimp only
        rw [if_neg hneg, hmod, hmask]
        exact hfound
      · rw [hports]
        by_cases hp : p / 16 = k
        · simp [hp, McSubnet.forwards]
        · have hle : k + 1 ≤ p / 16 ↔ k ≤ p / 16 := by omega
          have hlt : p / 16 < k + 1 + n ↔ p / 16 < k + (n + 1) := by omega
          simp [hp, hle, hlt]

/-- The lookup returns 0, with the ports 0 to `n` in the 256 bytes of its map as the table has
them. -/
def Maps (S : McSubnet V) (v : V) (m n : Nat) (r : Except Fault (Option Bytes)) : Prop :=
  ∃ map, r = .ok (some map) ∧ map.length = 256 ∧
    ∀ p ≤ n, map[p]? = some (if S.forwards v m p then 1 else 0)

/-- The sets are counted without port 0: where NumPorts is a multiple of 16, the last port has a set
of its own that is not asked for. -/
theorem switchMclookupMap_maps_iff (hT : S.McTruthful T.query) (hb : S.arrival portid = some b)
    {node : Node} (hnode : node.numports ≤ 255) (hm : m < S.mcastCap b.1)
    (hsi : (T.query portid ibAttrSwitchInfo 0).isSome)
    (hanswer : ∀ set < (node.numports + 15) / 16,
      (T.query portid ibAttrMulticastforwtbl (tableModifier set m)).isSome) :
    Maps S b.1 m node.numports (switchMclookupMap T portid (0xc000 + m) node) ↔
      (node.numports % 16 = 0 → S.forwards b.1 m node.numports = false) := by
  obtain ⟨si, hsi⟩ := Option.isSome_iff_exists.mp hsi
  have hcap : si.field .swMcastFdbCap = S.mcastCap b.1 := by
    obtain ⟨b', hb', hknows⟩ := hT portid _ _ si hsi
    rw [hb] at hb'
    cases hb'
    exact hknows.mcastCap rfl
  have hwidth : m < 2 ^ 16 := by
    have hregular : (ibMadF .swMcastFdbCap).Regular := by decide
    have hlt : si.field .swMcastFdbCap < 2 ^ 16 := getField_lt_width hregular si.bytes 0
    rw [hcap] at hlt
    exact hm.trans hlt
  have hmlid : (0xc000 + m : Int) - 0xc000 = m := by omega
  have hbelow : ¬ ((m : Int) ≥ si.field .swMcastFdbCap) := by omega
  obtain ⟨found, hfound, hports⟩ := mcSets_answered hT hb hwidth (fun _ => false) 0
    ((node.numports + 15) / 16) (by omega) fun set _ hset => hanswer set (by omega)
  have hlookup : switchMclookupMap T portid (0xc000 + m) node = .ok (some (mapBytes found)) := by
    rw [switchMclookupMap_eq T portid _ hnode, switchMclookup, hsi]
    dsimp only
    rw [hmlid, if_neg hbelow, List.range_eq_range', hfound]
    rfl
  have hbyte : ∀ p ≤ node.numports,
      (mapBytes found)[p]? = some (if S.forwards b.1 m p then 1 else 0) ↔
        (S.forwards b.1 m p = true → p / 16 < (node.numports + 15) / 16) := by
    intro p hp
    rw [mapBytes_getElem? _ (by omega), hports]
    cases hbit : S.forwards b.1 m p <;> simp
  constructor
  case mp =>
    rintro ⟨map, hmap, -, hall⟩ hmod
    rw [hlookup] at hmap
    cases hmap
    by_contra hset
    have hlast := (hbyte _ le_rfl).mp (hall _ le_rfl) (Bool.eq_true_of_not_eq_false hset)
    omega
  case mpr =>
    intro hlast
    refine ⟨mapBytes found, hlookup, by simp [mapBytes], fun p hp => ?_⟩
    refine (hbyte p hp).mpr fun hset => ?_
    by_contra hout
    have hlastPort : p = node.numports ∧ node.numports % 16 = 0 := by omega
    rw [hlastPort.1, hlast hlastPort.2] at hset
    cases hset

theorem switchMclookupMap_maps_iff_group :
    Maps groupStar 0 1 16
      (switchMclookupMap groupTracer nextId (0xc000 + (1 : Nat)) { numports := 16 }) :=
  have hb : groupStar.arrival nextId = some ((0 : Fin 5), 1) := by decide +kernel
  (switchMclookupMap_maps_iff groupStar_truthful hb (by decide) (by decide) (by decide +kernel)
    (by decide +kernel)).mpr (by decide +kernel)

/-- Port 16 of the switch is in the first group. -/
theorem not_switchMclookupMap_maps :
    ¬ Maps groupStar 0 0 16 (switchMclookupMap groupTracer nextId 0xc000 { numports := 16 }) := by
  rintro ⟨map, hmap, -, hall⟩
  have hlast : ((switchMclookupMap groupTracer nextId 0xc000 { numports := 16 }).toOption.join).bind
      (fun map => map[16]?) = some 0 := by decide +kernel
  rw [hmap] at hlast
  have hbit := hall 16 le_rfl
  rw [show groupStar.forwards 0 0 16 = true by decide +kernel] at hbit
  exact absurd (hbit.symm.trans hlast) (by decide)

end Multicast

end Ibtracert
end InfinibandDiags
