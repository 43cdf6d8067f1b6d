import InfinibandDiags.Fabric.Updates

/-! The LID map: `add_to_portlid_hash` enters a port under every LID of its range, and
`ibnd_find_port_lid` looks a LID up. -/
namespace InfinibandDiags

/-- A call of `add_to_portlid_hash`, with the LID range the port has at that time. -/
structure LidCall where
  port : PortRef
  baseLid : UInt16
  lmc : UInt8

namespace LidCall

def covers (lid : Nat) (c : LidCall) : Bool :=
  c.baseLid.toNat ≤ lid && lid < c.baseLid.toNat + 2 ^ c.lmc.toNat

/-- A unicast LID and an LMC of three bits. -/
def Unicast (c : LidCall) : Prop :=
  0 < c.baseLid.toNat ∧ c.baseLid.toNat ≤ 0xbfff ∧ c.lmc.toNat ≤ 7

instance (c : LidCall) : Decidable c.Unicast := inferInstanceAs (Decidable (_ ∧ _ ∧ _))

end LidCall

namespace Fabric

/-- `ibnd_find_port_lid`. The item behind a LID that is not in the map is the end of the map,
which is no part of a `struct lid2guid_item`. -/
def ibndFindPortLid (f : Fabric) (lid : UInt16) : Except Fault (Option PortRef) :=
  match f.lid2guid.lookup lid.toUInt32 with
  | some p => .ok (some p)
  | none => .error .badCast

/-- The calls one after the other; the port has got the LID and LMC of the call before it. -/
def addLids (f : Fabric) (calls : List LidCall) : Except Fault Fabric :=
  calls.foldlM (fun f c =>
    (f.modifyPort c.port fun port => { port with baseLid := c.baseLid, lmc := c.lmc
      }).addToPortlidHash c.port) f

/-- The loop enters the port under the LIDs that are still free. -/
theorem lookup_lidLoop (p : PortRef) (limit left lid : Nat) (m : Qmap PortRef)
    (hlimit : limit < 2 ^ 16) (hlid : lid ≤ limit + 1) (hroom : limit + 1 < lid + left) :
    ∃ m', lidLoop p limit left lid m = .ok m' ∧ ∀ key : UInt32, m'.lookup key =
      (m.lookup key).or (if lid ≤ key.toNat ∧ key.toNat ≤ limit then some p else none) := by
  induction left generalizing lid m with
  | zero => omega
  | succ left ih =>
      unfold lidLoop
      by_cases hle : lid ≤ limit
      · rw [if_pos hle]
        have hroom' : limit + 1 < lid + 1 + left := by omega
        obtain ⟨m', hloop, hlookup⟩ :=
          ih (lid + 1) (clQmapInsert m (UInt32.ofNat lid) p) (Nat.succ_le_succ hle) hroom'
        refine ⟨m', hloop, ?_⟩
        intro key
        have hkey : key = UInt32.ofNat lid ↔ key.toNat = lid := by
          rw [← UInt32.toNat_inj, UInt32.toNat_ofNat', Nat.mod_eq_of_lt (by omega)]
        rw [hlookup, lookup_clQmapInsert]
        cases hold : m.lookup key with
        | some q =>
            have hmem : key ∈ m := AList.lookup_isSome.mp (Option.isSome_of_eq_some hold)
            rw [if_neg]
            · rfl
            · rintro ⟨rfl, hnot⟩
              exact hnot hmem
        | none =>
            have hnot : key ∉ m := AList.lookup_eq_none.mp hold
            by_cases heq : key.toNat = lid
            · have hsame := hkey.mpr heq
              rw [if_pos ⟨hsame, hsame ▸ hnot⟩, if_neg (by omega), if_pos (by omega)]
              rfl
            · rw [if_neg fun h => heq (hkey.mp h.1), Option.none_or, Option.none_or]
              have hsame : lid + 1 ≤ key.toNat ↔ lid ≤ key.toNat := by omega
              simp only [hsame]
      · rw [if_neg hle]
        refine ⟨m, rfl, ?_⟩
        intro key
        rw [if_neg (by omega), Option.or_none]

/-- `add_to_portlid_hash` returns: the shift is one, and the counter can pass the last LID. -/
def LidsEnd (baseLid : UInt16) (lmc : UInt8) : Prop :=
  lmc.toNat < 31 ∧ (0 < baseLid.toNat ∧ baseLid.toNat ≤ 0xbfff →
    baseLid.toNat + (2 ^ lmc.toNat - 1) % 2 ^ 16 + 1 < 2 ^ 16)

instance (baseLid : UInt16) (lmc : UInt8) : Decidable (LidsEnd baseLid lmc) :=
  inferInstanceAs (Decidable (_ ∧ (_ → _)))

theorem lidLoop_ok_iff (p : PortRef) (limit left lid : Nat) (m : Qmap PortRef) :
    (∃ m', lidLoop p limit left lid m = .ok m') ↔ 0 < left ∧ limit + 1 < lid + left := by
  induction left generalizing lid m with
  | zero => simp [lidLoop]
  | succ left ih =>
      unfold lidLoop
      by_cases hle : lid ≤ limit
      · rw [if_pos hle, ih]
        omega
      · rw [if_neg hle]
        exact iff_of_true ⟨m, rfl⟩ (by omega)

theorem addToPortlidHash_ok_iff (f : Fabric) (p : PortRef) :
    (∃ f', f.addToPortlidHash p = .ok f') ↔ LidsEnd (f.port p).baseLid (f.port p).lmc := by
  have hbase : (f.port p).baseLid.toNat < 2 ^ 16 := (f.port p).baseLid.toNat_lt
  unfold addToPortlidHash LidsEnd
  dsimp only
  by_cases hshift : 31 ≤ (f.port p).lmc.toNat
  · rw [if_pos hshift]
    exact iff_of_false (fun ⟨_, h⟩ => by cases h) fun h => absurd h.1 (Nat.not_lt.mpr hshift)
  · rw [if_neg hshift]
    by_cases hrange : 0 < (f.port p).baseLid.toNat ∧ (f.port p).baseLid.toNat ≤ 0xbfff
    · rw [if_pos hrange]
      have hloop := lidLoop_ok_iff p
        ((f.port p).baseLid.toNat + (2 ^ (f.port p).lmc.toNat - 1) % 2 ^ 16)
        (2 ^ 16 - (f.port p).baseLid.toNat) (f.port p).baseLid.toNat f.lid2guid
      have hends : 0 < 2 ^ 16 - (f.port p).baseLid.toNat ∧
          (f.port p).baseLid.toNat + (2 ^ (f.port p).lmc.toNat - 1) % 2 ^ 16 + 1 <
            (f.port p).baseLid.toNat + (2 ^ 16 - (f.port p).baseLid.toNat) ↔
          (f.port p).lmc.toNat < 31 ∧ (0 < (f.port p).baseLid.toNat ∧
            (f.port p).baseLid.toNat ≤ 0xbfff →
              (f.port p).baseLid.toNat + (2 ^ (f.port p).lmc.toNat - 1) % 2 ^ 16 + 1 < 2 ^ 16) := by
        omega
      rw [← hends, ← hloop]
      simp only [bind_eq_ok]
      constructor
      · rintro ⟨f', m, hm, -⟩
        exact ⟨m, hm⟩
      · rintro ⟨m, hm⟩
        exact ⟨_, m, hm, rfl⟩
    · rw [if_neg hrange]
      exact iff_of_true ⟨f, rfl⟩ ⟨Nat.not_le.mp hshift, fun h => absurd h hrange⟩

/-- The LIDs that `add_to_portlid_hash` enters a port under, if it returns. -/
def entersLid (port : Port) (lid : Nat) : Bool :=
  0 < port.baseLid.toNat && port.baseLid.toNat ≤ 0xbfff && port.baseLid.toNat ≤ lid &&
    lid ≤ port.baseLid.toNat + (2 ^ port.lmc.toNat - 1) % 2 ^ 16

/-- A call that returns. -/
theorem addToPortlidHash_enters {f : Fabric} {p : PortRef}
    (h : LidsEnd (f.port p).baseLid (f.port p).lmc) :
    ∃ m, f.addToPortlidHash p = .ok { f with lid2guid := m } ∧ ∀ key : UInt32, m.lookup key =
      (f.lid2guid.lookup key).or (if entersLid (f.port p) key.toNat then some p else none) := by
  obtain ⟨hshift, hends⟩ := h
  unfold addToPortlidHash
  dsimp only
  rw [if_neg (Nat.not_le.mpr hshift)]
  by_cases hrange : 0 < (f.port p).baseLid.toNat ∧ (f.port p).baseLid.toNat ≤ 0xbfff
  · rw [if_pos hrange]
    have hlast := hends hrange
    obtain ⟨m, hloop, hlookup⟩ := lookup_lidLoop p
      ((f.port p).baseLid.toNat + (2 ^ (f.port p).lmc.toNat - 1) % 2 ^ 16)
      (2 ^ 16 - (f.port p).baseLid.toNat) (f.port p).baseLid.toNat f.lid2guid
      (by omega) (by omega) (by omega)
    refine ⟨m, by rw [hloop, ok_bind], fun key => ?_⟩
    rw [hlookup]
    simp [entersLid, hrange.1, hrange.2]
  · rw [if_neg hrange]
    refine ⟨f.lid2guid, rfl, fun key => ?_⟩
    have hnone : entersLid (f.port p) key.toNat = false := by
      unfold entersLid
      rw [← Bool.decide_and, decide_eq_false hrange, Bool.false_and, Bool.false_and]
    rw [hnone, if_neg Bool.false_ne_true, Option.or_none]

/-- One call. -/
theorem addToPortlidHash_lookup {f : Fabric} {c : LidCall} (h : c.Unicast)
    (hbase : (f.port c.port).baseLid = c.baseLid) (hlmc : (f.port c.port).lmc = c.lmc) :
    ∃ f', f.addToPortlidHash c.port = .ok f' ∧ ∀ lid : UInt16, f'.lid2guid.lookup lid.toUInt32 =
      (f.lid2guid.lookup lid.toUInt32).or (if c.covers lid.toNat then some c.port else none) := by
  obtain ⟨hpos, hmax, hlow⟩ := h
  have hwidth : 2 ^ c.lmc.toNat ≤ 128 := Nat.pow_le_pow_right (by decide) hlow
  have hone : 0 < 2 ^ c.lmc.toNat := Nat.two_pow_pos _
  have hmask : (2 ^ c.lmc.toNat - 1) % 2 ^ 16 = 2 ^ c.lmc.toNat - 1 := Nat.mod_eq_of_lt (by omega)
  obtain ⟨m, hloop, hlookup⟩ := lookup_lidLoop c.port (c.baseLid.toNat + (2 ^ c.lmc.toNat - 1))
    (2 ^ 16 - c.baseLid.toNat) c.baseLid.toNat f.lid2guid (by omega) (by omega) (by omega)
  refine ⟨{ f with lid2guid := m }, ?_, ?_⟩
  · unfold addToPortlidHash
    rw [hbase, hlmc]
    dsimp only
    rw [if_neg (by omega), if_pos ⟨hpos, hmax⟩, hmask, hloop]
    rfl
  · intro lid
    have hkey : lid.toUInt32.toNat = lid.toNat := UInt16.toNat_toUInt32 lid
    have hcovers : c.covers lid.toNat ↔ c.baseLid.toNat ≤ lid.toUInt32.toNat ∧
        lid.toUInt32.toNat ≤ c.baseLid.toNat + (2 ^ c.lmc.toNat - 1) := by
      rw [hkey, LidCall.covers, Bool.and_eq_true, decide_eq_true_eq, decide_eq_true_eq]
      omega
    rw [hlookup]
    simp only [hcovers]

/-- What the map holds after the calls: under every LID the port of the first call that covers
it. -/
theorem addLids_lookup {calls : List LidCall} (hcalls : ∀ c ∈ calls, c.Unicast) (f : Fabric) :
    ∃ f', f.addLids calls = .ok f' ∧ ∀ lid : UInt16, f'.lid2guid.lookup lid.toUInt32 =
      (f.lid2guid.lookup lid.toUInt32).or
        ((calls.find? fun c => c.covers lid.toNat).map LidCall.port) := by
  induction calls generalizing f with
  | nil => exact ⟨f, rfl, fun lid => (Option.or_none).symm⟩
  | cons c calls ih =>
      obtain ⟨f₁, hadd, hfirst⟩ := addToPortlidHash_lookup
        (f := f.modifyPort c.port fun port => { port with baseLid := c.baseLid, lmc := c.lmc })
        (hcalls c List.mem_cons_self) (by simp [modifyPort]) (by simp [modifyPort])
      obtain ⟨f', hrest, hlookup⟩ := ih (fun d hd => hcalls d (List.mem_cons_of_mem c hd)) f₁
      refine ⟨f', ?_, ?_⟩
      · unfold addLids
        rw [List.foldlM_cons]
        exact bind_eq_ok.mpr ⟨f₁, hadd, hrest⟩
      · intro lid
        rw [hlookup, hfirst, Option.or_assoc]
        congr 1
        by_cases hc : c.covers lid.toNat
        · rw [List.find?_cons_of_pos hc, if_pos hc]
          rfl
        · rw [List.find?_cons_of_neg hc, if_neg hc]
          rfl

/-- A LID lookup finds the port of the first call that covers the LID, and ends well exactly when
there is one: behind every other LID it reads the end of the map as an item. -/
theorem findPortLid_iff (calls : List LidCall) (hcalls : ∀ c ∈ calls, c.Unicast) {f : Fabric}
    (hempty : f.lid2guid = ∅) : ∃ f', f.addLids calls = .ok f' ∧ ∀ lid : UInt16,
      (f'.ibndFindPortLid lid = .ok ((calls.find? fun c => c.covers lid.toNat).map LidCall.port) ↔
        ∃ c ∈ calls, c.covers lid.toNat) := by
  obtain ⟨f', hadd, hlookup⟩ := addLids_lookup hcalls f
  refine ⟨f', hadd, ?_⟩
  intro lid
  have hmap : f'.lid2guid.lookup lid.toUInt32 =
      (calls.find? fun c => c.covers lid.toNat).map LidCall.port := by
    rw [hlookup, hempty]
    rfl
  unfold ibndFindPortLid
  rw [hmap]
  cases hfind : calls.find? fun c => c.covers lid.toNat with
  | some c =>
      exact iff_of_true rfl ⟨c, List.mem_of_find?_eq_some hfind, List.find?_some hfind⟩
  | none =>
      refine iff_of_false (fun h => (nomatch h)) ?_
      rintro ⟨c, hc, hcovers⟩
      exact List.find?_eq_none.mp hfind c hc hcovers

theorem findPortLid_iff_two_ports : ∃ f', allocateFabricInternal.addLids
    [⟨0, 4, 1⟩, ⟨1, 5, 0⟩] = .ok f' ∧ f'.ibndFindPortLid 5 = .ok (some 0) := by
  obtain ⟨f', hadd, hfind⟩ := findPortLid_iff [⟨0, 4, 1⟩, ⟨1, 5, 0⟩] (by decide)
    (f := allocateFabricInternal) rfl
  exact ⟨f', hadd, (hfind 5).mpr ⟨⟨0, 4, 1⟩, List.mem_cons_self, by decide⟩⟩

/-- A LID that no port has is no NULL. -/
theorem findPortLid_unknown : ∃ f', allocateFabricInternal.addLids [⟨0, 4, 1⟩] = .ok f' ∧
    f'.ibndFindPortLid 6 ≠ .ok none := by
  have hrun : (allocateFabricInternal.addLids [⟨0, 4, 1⟩]).toOption.any
      (fun f' => decide (faultOf (f'.ibndFindPortLid 6) = some .badCast)) = true := by
    decide +kernel
  obtain ⟨f', hf', hfault⟩ := (Option.any_eq_true _ _).mp hrun
  refine ⟨f', toOption_eq_some.mp hf', ?_⟩
  rw [faultOf_eq_some.mp (of_decide_eq_true hfault)]
  exact fun h => (nomatch h)

end Fabric
end InfinibandDiags
