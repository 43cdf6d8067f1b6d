import InfinibandDiags.Trace.Agent
import InfinibandDiags.Trace.Multicast

/-! A subnet whose switches have MulticastForwardingTables too, and its agents. -/
namespace InfinibandDiags

/-- The MLIDs of a table are numbered from 0xc000 on; an entry has a chunk for each 16 ports. -/
structure McSubnet (V : Type) extends Subnet V where
  mcastCap : V → Nat
  mcastEntry : V → Nat → Nat → Nat
  mcastEntry_lt : ∀ v m chunk, mcastEntry v m chunk < 2 ^ 16

namespace McSubnet
open Ibtracert (mcMask)
variable {V : Type} (S : McSubnet V)

/-- The switch sends the packets of a group out through the port. -/
def forwards (v : V) (m p : Nat) : Bool := (S.mcastEntry v m (p / 16)).testBit (p % 16)

/-- The attribute modifier for a block of 32 MLIDs has the chunk in its top four bits. -/
def tableModifier (chunk m : Nat) : Nat := chunk * 2 ^ 28 + m / 32

structure McDescribes (b : V × Nat) (attrid mod : Nat) (data : SmpData) : Prop
    extends S.toSubnet.Describes b attrid mod data where
  mcastCap : attrid = ibAttrSwitchInfo → data.field .swMcastFdbCap = S.mcastCap b.1
  multicastForwTbl : attrid = ibAttrMulticastforwtbl → ∀ chunk m, m < 2 ^ 16 →
    tableModifier chunk m = mod → mcMask data (m % 32) = S.mcastEntry b.1 m chunk

def McTruthful (query : SmpQuery) : Prop :=
  ∀ portid attrid mod data, query portid attrid mod = some data →
    ∃ b, S.arrival portid = some b ∧ S.McDescribes b attrid mod data

variable {S} in
theorem McTruthful.truthful {query : SmpQuery} (h : S.McTruthful query) :
    S.toSubnet.Truthful query := by
  intro portid attrid mod data hdata
  obtain ⟨b, hb, hknows⟩ := h portid attrid mod data hdata
  exact ⟨b, hb, hknows.toDescribes⟩

def mcSwitchInfo (v : V) : SmpData :=
  .ofBytes (madSetField (S.switchInfo v).bytes 0 .swMcastFdbCap (S.mcastCap v))

/-- All ports are up. -/
def mcPortInfo (b : V × Nat) : SmpData :=
  .ofBytes (madSetField (S.portInfo b).bytes 0 .portPhysState ibPortPhysStateLinkup)

def mcastBlock (v : V) (mod : Nat) : SmpData :=
  ⟨(List.range ibSmpDataSize).map fun i =>
    let entry := S.mcastEntry v (32 * (mod % 2 ^ 28) + i / 2) (mod / 2 ^ 28)
    UInt8.ofNat (if i % 2 = 0 then entry / 256 else entry % 256), by simp⟩

def mcAttr (b : V × Nat) (attrid mod : Nat) : Option SmpData :=
  if attrid = ibAttrPortInfo then some (S.mcPortInfo b)
  else if attrid = ibAttrSwitchInfo ∧ S.IsSwitch b.1 then some (S.mcSwitchInfo b.1)
  else if attrid = ibAttrMulticastforwtbl ∧ S.IsSwitch b.1 then some (S.mcastBlock b.1 mod)
  else S.smpAttr b attrid mod

def mcAnswer : SmpQuery := fun portid attrid mod =>
  (S.arrival portid).bind fun b => S.mcAttr b attrid mod

/-- The values of a port fit into the fields of its attributes. -/
def McFits (b : V × Nat) : Prop :=
  S.Fits b ∧ (S.mcPortInfo b).field .portState = S.portState (S.asked b) ∧
    (S.mcSwitchInfo b.1).field .swLinearFdbCap = S.linearCap b.1 ∧
    (S.mcSwitchInfo b.1).field .swLinearFdbTop = S.linearTop b.1 ∧
    (S.mcSwitchInfo b.1).field .swEnhancedPort0 = S.enhancedPort0 b.1 ∧
    (S.mcSwitchInfo b.1).field .swMcastFdbCap = S.mcastCap b.1

instance (b : V × Nat) : Decidable (S.McFits b) :=
  inferInstanceAs (Decidable (_ ∧ _ ∧ _ ∧ _ ∧ _ ∧ _))

variable {S}

theorem byteAt_mcastBlock (v : V) (mod : Nat) {i : Nat} (hi : i < 64) :
    byteAt (S.mcastBlock v mod).bytes i =
      UInt8.ofNat (if i % 2 = 0 then
        S.mcastEntry v (32 * (mod % 2 ^ 28) + i / 2) (mod / 2 ^ 28) / 256
      else S.mcastEntry v (32 * (mod % 2 ^ 28) + i / 2) (mod / 2 ^ 28) % 256) := by
  simp [byteAt, mcastBlock, ibSmpDataSize, hi]

theorem mcMask_mcastBlock (v : V) (chunk : Nat) {m : Nat} (hm : m < 2 ^ 16) :
    mcMask (S.mcastBlock v (tableModifier chunk m)) (m % 32) = S.mcastEntry v m chunk := by
  have hblock : tableModifier chunk m % 2 ^ 28 = m / 32 := by
    unfold tableModifier
    omega
  have hchunk : tableModifier chunk m / 2 ^ 28 = chunk := by
    unfold tableModifier
    omega
  have hentry := S.mcastEntry_lt v m chunk
  have hhigh : 32 * (m / 32) + 2 * (m % 32) / 2 = m := by omega
  have hlow : 32 * (m / 32) + (2 * (m % 32) + 1) / 2 = m := by omega
  rw [mcMask, byteAt_mcastBlock _ _ (by omega), byteAt_mcastBlock _ _ (by omega), hblock, hchunk,
    if_pos (by omega), if_neg (by omega), hhigh, hlow, UInt8.toNat_ofNat', UInt8.toNat_ofNat']
  omega

theorem mcAttr_describes {b : V × Nat} (h : S.McFits b) {attrid mod : Nat} {data : SmpData}
    (hdata : S.mcAttr b attrid mod = some data) : S.McDescribes b attrid mod data := by
  obtain ⟨hfits, hstate, hcap, htop, henh, hmcap⟩ := h
  unfold mcAttr at hdata
  split at hdata
  · next hattr =>
      rw [← Option.some.inj hdata]
      subst hattr
      refine ⟨⟨?_, fun _ _ => hstate, ?_, ?_⟩, ?_, ?_⟩ <;> exact fun hattr => absurd hattr (by decide)
  · split at hdata
    · next hattr =>
        rw [← Option.some.inj hdata, hattr.1]
        refine ⟨⟨?_, ?_, fun _ => ⟨hcap, htop, henh⟩, ?_⟩, fun _ => hmcap, ?_⟩ <;>
          exact fun hattr => absurd hattr (by decide)
    · next hswitch =>
        split at hdata
        · next hattr =>
            rw [← Option.some.inj hdata, hattr.1]
            refine ⟨⟨?_, ?_, ?_, ?_⟩, ?_, ?_⟩
            case refine_6 =>
              rintro - chunk m hm rfl
              exact mcMask_mcastBlock b.1 chunk hm
            all_goals exact fun hattr => absurd hattr (by decide)
        · next hmcast =>
            refine ⟨Subnet.smpAttr_describes hfits hdata, ?_, ?_⟩
            · rintro rfl
              rw [Subnet.smpAttr, if_neg (by decide), if_neg (by decide),
                if_neg fun hport => absurd hport.1 (by decide), if_neg hswitch,
                if_neg fun hfdb => absurd hfdb.1 (by decide)] at hdata
              cases hdata
            · rintro rfl
              rw [Subnet.smpAttr, if_neg (by decide), if_neg (by decide),
                if_neg fun hport => absurd hport.1 (by decide),
                if_neg fun hinfo => absurd hinfo.1 (by decide),
                if_neg fun hfdb => absurd hfdb.1 (by decide)] at hdata
              cases hdata

/-- In a subnet whose values fit, its agents tell the truth. -/
theorem mcAnswer_truthful (hhome : S.McFits S.home)
    (howner : ∀ lid a, S.lidOwner lid = some a → S.McFits a)
    (hzero : ∀ v, S.IsSwitch v → S.McFits (v, 0)) (hpeer : ∀ a b, S.peer a = some b → S.McFits b) :
    S.McTruthful S.mcAnswer := by
  intro portid attrid mod data hdata
  obtain ⟨b, hb, hattr⟩ := Option.bind_eq_some_iff.mp hdata
  exact ⟨b, hb, mcAttr_describes (Subnet.arrival_ends hhome howner hzero hpeer hb) hattr⟩

end McSubnet

local instance neZero_five : NeZero 5 := ⟨by decide⟩

def groupCables : List ((Fin 5 × Nat) × (Fin 5 × Nat)) :=
  [((1, 1), (0, 1)), ((0, 1), (1, 1)), ((2, 1), (0, 2)), ((0, 2), (2, 1)), ((3, 1), (0, 16)),
    ((0, 16), (3, 1)), ((4, 1), (0, 3)), ((0, 3), (4, 1))]

theorem adapterStar_type_known (v : Fin 5) : adapterStar.type v = ibNodeCa ∨
    adapterStar.type v = ibNodeSwitch ∨ adapterStar.type v = ibNodeRouter :=
  adapterStar.type_known v

theorem adapterStar_portGuid_switch (v : Fin 5) (k : Nat) (hv : adapterStar.type v = ibNodeSwitch) :
    adapterStar.portGuid (v, k) = adapterStar.portGuid (v, 0) :=
  adapterStar.portGuid_switch v k hv

theorem starNodeGuid_injective (v w : Fin 5)
    (h : UInt64.ofNat (16 * v.val + 16) = UInt64.ofNat (16 * w.val + 16)) : v = w :=
  adapterStar.guid_injective h

theorem groupStar_portGuid_node (a b : Fin 5 × Nat) (ha : a.2 ≤ if a.1 = 0 then 16 else 1)
    (hb : b.2 ≤ if b.1 = 0 then 16 else 1) (h : adapterStar.portGuid a = adapterStar.portGuid b) :
    a.1 = b.1 ∧ (adapterStar.type a.1 ≠ ibNodeSwitch → a = b) := by
  have hle : ∀ v : Fin 5, (if v = 0 then 16 else 1) ≤ adapterStar.numports v := by
    decide +kernel
  exact adapterStar.portGuid_node a b (ha.trans (hle a.1)) (hb.trans (hle b.1)) h

theorem groupStar_owner_port {lid : Nat} {a : Fin 5 × Nat}
    (h : adapterStar.lidOwner lid = some a) : (a.2 ≤ if a.1 = 0 then 16 else 1) ∧
      ((if a.1 = 0 then ibNodeSwitch else ibNodeCa) ≠ ibNodeSwitch → 0 < a.2) := by
  simp only [adapterStar] at h
  split_ifs at h <;> cases h <;> decide +kernel

/-- Adapters on the ports 1, 2, 16 and 3 of a switch of 16 ports, with the LIDs 1 to 4. Ports 1, 2
and 16 are in the first group, ports 1 and 2 in the second. -/
def groupStar : McSubnet (Fin 5) where
  toNetwork := .ofCables (fun v => UInt64.ofNat (16 * v.val + 16))
    (fun v => if v = 0 then ibNodeSwitch else ibNodeCa) (fun v => if v = 0 then 16 else 1)
    groupCables starNodeGuid_injective (by decide +kernel) (by decide +kernel)
  portGuid := adapterStar.portGuid
  portState := adapterStar.portState
  linearCap := adapterStar.linearCap
  linearTop := adapterStar.linearTop
  enhancedPort0 := adapterStar.enhancedPort0
  fdb _ lid := if lid = 1 then 1 else if lid = 2 then 2 else if lid = 3 then 16 else 3
  home := adapterStar.home
  lidOwner := adapterStar.lidOwner
  type_known := adapterStar_type_known
  portGuid_switch := adapterStar_portGuid_switch
  portGuid_node := groupStar_portGuid_node
  home_port := by decide +kernel
  owner_port := groupStar_owner_port
  mcastCap _ := 2
  mcastEntry _ m chunk :=
    if chunk = 0 then 6 else if chunk = 1 ∧ m = 0 then 1 else 0
  mcastEntry_lt _ m chunk := by split_ifs <;> decide

theorem groupStar_truthful : groupStar.McTruthful groupStar.mcAnswer := by
  apply McSubnet.mcAnswer_truthful
  case hhome => decide +kernel
  case howner =>
    intro lid a h
    have hfits : ∀ v : Fin 5, groupStar.McFits (v, 1) := by decide +kernel
    have hone : a.2 = 1 := by
      simp only [groupStar, adapterStar] at h
      split_ifs at h <;> cases h <;> rfl
    have ha : a = (a.1, 1) := Prod.ext rfl hone
    rw [ha]
    exact hfits a.1
  case hzero => decide +kernel
  case hpeer =>
    intro a b h
    have hfits : ∀ c ∈ groupCables, groupStar.McFits c.2 := by decide +kernel
    have hmem : (a, b) ∈ groupCables := Network.mem_of_lookup h
    exact hfits (a, b) hmem

namespace Ibtracert

def groupTracer : Tracer := { starTracer with query := groupStar.mcAnswer }

end Ibtracert
end InfinibandDiags
