import InfinibandDiags.Fabric.LidMap
import Mathlib.Computability.StateTransition

/-! The LIDs that `add_to_portlid_hash` registers a port under, and the LID ranges for which its
loop ends. -/
namespace InfinibandDiags
namespace Fabric
open StateTransition

/-- A round of the loop, whose counter is a `uint16_t`. -/
def lidRound (p : PortRef) (limit : Nat) (s : UInt16 × Qmap PortRef) :
    Option (UInt16 × Qmap PortRef) :=
  if s.1.toNat ≤ limit then some (s.1 + 1, clQmapInsert s.2 s.1.toUInt32 p) else none

/-- `base_lid + lid_mask`. -/
def lidLimit (f : Fabric) (p : PortRef) : Nat :=
  (f.port p).baseLid.toNat + (2 ^ (f.port p).lmc.toNat - 1) % 2 ^ 16

/-- The LIDs of a port that fit in 16 bits, when its base LID is a unicast LID. -/
def OwnLid (baseLid lmc lid : Nat) : Prop :=
  0 < baseLid ∧ baseLid ≤ 0xbfff ∧ baseLid ≤ lid ∧ lid ≤ baseLid + 2 ^ lmc - 1 ∧ lid < 2 ^ 16

instance (baseLid lmc lid : Nat) : Decidable (OwnLid baseLid lmc lid) :=
  inferInstanceAs (Decidable (_ ∧ _ ∧ _ ∧ _ ∧ _))

/-- The loop ends, and the port is entered under its LIDs and no other. A LID that has an entry
keeps it. -/
structure RegistersLids (f : Fabric) (p : PortRef) : Prop where
  ends : 0 < (f.port p).baseLid.toNat → (f.port p).baseLid.toNat ≤ 0xbfff →
    (eval (lidRound p (f.lidLimit p)) ((f.port p).baseLid, f.lid2guid)).Dom
  registers : ∃ f', f.addToPortlidHash p = .ok f' ∧ ∀ key : UInt32,
    f'.lid2guid.lookup key = (f.lid2guid.lookup key).or
      (if OwnLid (f.port p).baseLid.toNat (f.port p).lmc.toNat key.toNat then some p else none)

section Rounds
variable {p : PortRef} {limit left lid : Nat} {m m' : Qmap PortRef}

theorem lidRound_of_le (hlid : lid < 2 ^ 16) (hle : lid ≤ limit) :
    lidRound p limit (UInt16.ofNat lid, m) =
      some (UInt16.ofNat (lid + 1), clQmapInsert m (UInt32.ofNat lid) p) := by
  have hval : (UInt16.ofNat lid).toNat = lid := UInt16.toNat_ofNat_of_lt' hlid
  have hkey : (UInt16.ofNat lid).toUInt32 = UInt32.ofNat lid := by
    rw [← UInt32.toNat_inj, UInt16.toNat_toUInt32, hval, UInt32.toNat_ofNat_of_lt']
    exact Nat.lt_trans hlid (by decide)
  rw [lidRound, hval, if_pos hle, hkey, UInt16.ofNat_add]
  rfl

theorem lidRound_of_gt (hlid : lid < 2 ^ 16) (hgt : limit < lid) :
    lidRound p limit (UInt16.ofNat lid, m) = none := by
  rw [lidRound, UInt16.toNat_ofNat_of_lt' hlid]
  exact if_neg (Nat.not_le.mpr hgt)

/-- Where the loop of the model returns, the rounds come to the same end. -/
theorem lidLoop_halts (hroom : lid + left ≤ 2 ^ 16) (h : lidLoop p limit left lid m = .ok m') :
    ∃ last, (last, m') ∈ eval (lidRound p limit) (UInt16.ofNat lid, m) := by
  induction left generalizing lid m with
  | zero => cases h
  | succ left ih =>
      unfold lidLoop at h
      by_cases hle : lid ≤ limit
      · rw [if_pos hle] at h
        obtain ⟨last, hlast⟩ := ih (by omega) h
        obtain ⟨hreaches, hend⟩ := mem_eval.mp hlast
        have hround := lidRound_of_le (p := p) (m := m) (by omega) hle
        exact ⟨last, mem_eval.mpr ⟨Relation.ReflTransGen.head hround hreaches, hend⟩⟩
      · rw [if_neg hle] at h
        rw [← Except.ok.inj h]
        have hend := lidRound_of_gt (p := p) (m := m) (by omega) (Nat.not_le.mp hle)
        exact ⟨_, mem_eval.mpr ⟨Relation.ReflTransGen.refl, hend⟩⟩

/-- A bound that no `uint16_t` exceeds is never passed. -/
theorem lidRound_endless (hlimit : 0xffff ≤ limit) (s : UInt16 × Qmap PortRef) :
    ¬(eval (lidRound p limit) s).Dom := by
  intro h
  obtain ⟨-, hend⟩ := mem_eval.mp (Part.get_mem h)
  have hcount := ((eval (lidRound p limit) s).get h).1.toNat_lt
  rw [lidRound, if_pos (by omega)] at hend
  cases hend

end Rounds

section Ranges
variable {f : Fabric} {p : PortRef}

theorem lidLimit_eq (hlmc : (f.port p).lmc.toNat ≤ 15) :
    f.lidLimit p = (f.port p).baseLid.toNat + 2 ^ (f.port p).lmc.toNat - 1 := by
  have hmax : 2 ^ (f.port p).lmc.toNat ≤ 2 ^ 15 := Nat.pow_le_pow_right (by decide) hlmc
  have hone : 0 < 2 ^ (f.port p).lmc.toNat := Nat.two_pow_pos _
  rw [lidLimit, Nat.mod_eq_of_lt (by omega)]
  omega

/-- The port is registered under its LIDs exactly where they end below the last value of the
counter. -/
theorem registersLids_iff (f : Fabric) (p : PortRef) (hlmc : (f.port p).lmc.toNat ≤ 15) :
    f.RegistersLids p ↔
      (0 < (f.port p).baseLid.toNat → (f.port p).baseLid.toNat ≤ 0xbfff →
        (f.port p).baseLid.toNat + 2 ^ (f.port p).lmc.toNat - 1 < 0xffff) := by
  have hlimit := lidLimit_eq hlmc
  have hone : 0 < 2 ^ (f.port p).lmc.toNat := Nat.two_pow_pos _
  constructor
  · intro h hpos hmax
    by_contra htop
    exact lidRound_endless (by omega) _ (h.ends hpos hmax)
  · intro h
    by_cases hrange : 0 < (f.port p).baseLid.toNat ∧ (f.port p).baseLid.toNat ≤ 0xbfff
    · have htop := h hrange.1 hrange.2
      obtain ⟨m, hloop, hlookup⟩ := lookup_lidLoop p (f.lidLimit p)
        (2 ^ 16 - (f.port p).baseLid.toNat) (f.port p).baseLid.toNat f.lid2guid (by omega)
        (by omega) (by omega)
      constructor
      · intro _ _
        obtain ⟨last, hlast⟩ := lidLoop_halts (by omega) hloop
        rw [UInt16.ofNat_toNat] at hlast
        exact Part.dom_iff_mem.mpr ⟨_, hlast⟩
      · refine ⟨{ f with lid2guid := m }, ?_, ?_⟩
        · unfold addToPortlidHash
          rw [lidLimit] at hloop
          dsimp only
          rw [if_neg (by omega), if_pos hrange, hloop]
          rfl
        · intro key
          have hown : OwnLid (f.port p).baseLid.toNat (f.port p).lmc.toNat key.toNat ↔
              (f.port p).baseLid.toNat ≤ key.toNat ∧ key.toNat ≤ f.lidLimit p := by
            unfold OwnLid
            omega
          rw [hlookup]
          simp only [hown]
    · refine ⟨fun hpos hmax => absurd ⟨hpos, hmax⟩ hrange, f, ?_, ?_⟩
      · unfold addToPortlidHash
        dsimp only
        rw [if_neg (by omega), if_neg hrange]
      · intro key
        rw [if_neg fun h => hrange ⟨h.1, h.2.1⟩, Option.or_none]

end Ranges

/-- A fabric whose first port record has this LID range. -/
def oneRange (baseLid : UInt16) (lmc : UInt8) : Fabric :=
  allocateFabricInternal.modifyPort 0 fun port => { port with baseLid := baseLid, lmc := lmc }

theorem registersLids_iff_four : (oneRange 4 1).RegistersLids 0 :=
  (registersLids_iff (oneRange 4 1) 0 (by decide)).mpr fun _ _ => by decide

/-- The highest LID of this range is 0xffff. -/
theorem lastLid_endless : ((oneRange 0x8000 15).port 0).lmc.toNat ≤ 15 ∧
    ¬(oneRange 0x8000 15).RegistersLids 0 :=
  ⟨by decide, fun h => lidRound_endless (by decide) _ (h.ends (by decide) (by decide))⟩

end Fabric
end InfinibandDiags
