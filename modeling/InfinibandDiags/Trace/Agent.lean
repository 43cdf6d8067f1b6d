import InfinibandDiags.Mad.Reply
import InfinibandDiags.Trace.Route

/-! The management agents of a subnet: a query that every port within reach answers. -/
namespace InfinibandDiags
namespace Subnet
variable {V : Type} (S : Subnet V)

def nodeInfo (b : V × Nat) : SmpData :=
  .ofBytes (nodeInfoData (S.guid b.1) (S.portGuid b) (S.type b.1) (S.numports b.1) b.2)

def portInfo (b : V × Nat) : SmpData :=
  .ofBytes (madSetField SmpData.zero.bytes 0 .portState (S.portState (S.asked b)))

def switchInfo (v : V) : SmpData :=
  .ofBytes (madSetField (madSetField (madSetField SmpData.zero.bytes 0
    .swLinearFdbCap (S.linearCap v)) 0 .swLinearFdbTop (S.linearTop v)) 0
    .swEnhancedPort0 (S.enhancedPort0 v))

def fdbBlock (v : V) (block : Nat) : SmpData :=
  ⟨(List.range ibSmpDataSize).map fun i => S.fdb v (ibSmpDataSize * block + i), by simp⟩

/-- Switches have the switch attributes; all nodes have the others. -/
def smpAttr (b : V × Nat) (attrid mod : Nat) : Option SmpData :=
  if attrid = ibAttrNodeInfo then some (S.nodeInfo b)
  else if attrid = ibAttrNodeDesc then some .zero
  else if attrid = ibAttrPortInfo ∧ mod = 0 then some (S.portInfo b)
  else if attrid = ibAttrSwitchInfo ∧ S.IsSwitch b.1 then some (S.switchInfo b.1)
  else if attrid = ibAttrLinearforwtbl ∧ S.IsSwitch b.1 then some (S.fdbBlock b.1 mod)
  else none

def answer : SmpQuery := fun portid attrid mod =>
  (S.arrival portid).bind fun b => S.smpAttr b attrid mod

/-- The values of a port fit into the fields of its attributes. -/
def Fits (b : V × Nat) : Prop :=
  (S.NodeInfoOf b (S.nodeInfo b) ∧ (S.nodeInfo b).field64 .nodePortGuid = S.portGuid b) ∧
    (S.portInfo b).field .portState = S.portState (S.asked b) ∧
    (S.switchInfo b.1).field .swLinearFdbCap = S.linearCap b.1 ∧
    (S.switchInfo b.1).field .swLinearFdbTop = S.linearTop b.1 ∧
    (S.switchInfo b.1).field .swEnhancedPort0 = S.enhancedPort0 b.1

instance (b : V × Nat) : Decidable (S.Fits b) :=
  inferInstanceAs (Decidable ((_ ∧ _) ∧ _ ∧ _ ∧ _ ∧ _))

variable {S}

theorem byteAt_fdbBlock (v : V) (lid : Nat) :
    byteAt (S.fdbBlock v (lid / 64)).bytes (lid % 64) = S.fdb v lid := by
  have hlt : lid % 64 < 64 := Nat.mod_lt _ (by decide)
  have hlid : 64 * (lid / 64) + lid % 64 = lid := Nat.div_add_mod lid 64
  simp [byteAt, fdbBlock, ibSmpDataSize, hlt, hlid]

theorem smpAttr_describes {b : V × Nat} (h : S.Fits b) {attrid mod : Nat} {data : SmpData}
    (hdata : S.smpAttr b attrid mod = some data) : S.Describes b attrid mod data := by
  obtain ⟨hnode, hport, hcap, htop, henh⟩ := h
  constructor
  case nodeInfo =>
    rintro rfl
    rw [smpAttr, if_pos rfl] at hdata
    rw [← Option.some.inj hdata]
    exact hnode
  case portInfo =>
    rintro rfl rfl
    rw [smpAttr, if_neg (by decide), if_neg (by decide), if_pos ⟨rfl, rfl⟩] at hdata
    rw [← Option.some.inj hdata]
    exact hport
  case switchInfo =>
    rintro rfl
    rw [smpAttr, if_neg (by decide), if_neg (by decide),
      if_neg fun hport => absurd hport.1 (by decide)] at hdata
    split at hdata
    · rw [← Option.some.inj hdata]
      exact ⟨hcap, htop, henh⟩
    · rw [if_neg fun hfdb => absurd hfdb.1 (by decide)] at hdata
      cases hdata
  case linearForwTbl =>
    rintro rfl lid rfl
    rw [smpAttr, if_neg (by decide), if_neg (by decide),
      if_neg fun hport => absurd hport.1 (by decide),
      if_neg fun hswitch => absurd hswitch.1 (by decide)] at hdata
    split at hdata
    · rw [← Option.some.inj hdata]
      exact byteAt_fdbBlock _ lid
    · cases hdata

/-- In a subnet whose values fit, its agents tell the truth. -/
theorem answer_truthful (hhome : S.Fits S.home)
    (howner : ∀ lid a, S.lidOwner lid = some a → S.Fits a)
    (hzero : ∀ v, S.IsSwitch v → S.Fits (v, 0)) (hpeer : ∀ a b, S.peer a = some b → S.Fits b) :
    S.Truthful S.answer := by
  intro portid attrid mod data hdata
  obtain ⟨b, hb, hattr⟩ := Option.bind_eq_some_iff.mp hdata
  exact ⟨b, hb, smpAttr_describes (arrival_ends hhome howner hzero hpeer hb) hattr⟩

end Subnet

/-- The GUIDs of the ports of a few nodes, 16 apart; all ports of switch 0 have one. -/
theorem starGuid_node (v w : Fin 5) (k l : Nat) (hk : k ≤ if v = 0 then 254 else 1)
    (hl : l ≤ if w = 0 then 254 else 1)
    (h : UInt64.ofNat (16 * v.val + 16 + if v = 0 then 0 else k) =
      UInt64.ofNat (16 * w.val + 16 + if w = 0 then 0 else l)) :
    v = w ∧ (v ≠ 0 → k = l) := by
  have hle : ∀ (u : Fin 5) (m : Nat), (m ≤ if u = 0 then 254 else 1) →
      (if u = 0 then 0 else m) ≤ 1 := by
    intro u m hm
    by_cases hu : u = 0
    · simp [hu]
    · simpa [hu] using hm
  have hsize : UInt64.size = 2 ^ 64 := rfl
  have hv := hle v k hk
  have hw := hle w l hl
  have hnat := congrArg UInt64.toNat h
  rw [UInt64.toNat_ofNat_of_lt' (by omega), UInt64.toNat_ofNat_of_lt' (by omega)] at hnat
  have hvw : v = w := by omega
  refine ⟨hvw, fun hne => ?_⟩
  have hne' : w ≠ 0 := hvw ▸ hne
  rw [if_neg hne, if_neg hne', hvw] at hnat
  omega

def starCables : List ((Fin 5 × Nat) × (Fin 5 × Nat)) :=
  [((1, 1), (0, 1)), ((0, 1), (1, 1)), ((2, 1), (0, 2)), ((0, 2), (2, 1)), ((3, 1), (0, 200)),
    ((0, 200), (3, 1)), ((4, 1), (0, 3)), ((0, 3), (4, 1))]

/-- Adapters on the ports 1, 2, 200 and 3 of a switch, with the LIDs 1 to 4. The traces start at the
first. -/
def adapterStar : Subnet (Fin 5) where
  toNetwork := .ofCables (fun v => UInt64.ofNat (16 * v.val + 16))
    (fun v => if v = 0 then ibNodeSwitch else ibNodeCa) (fun v => if v = 0 then 254 else 1)
    starCables (by decide +kernel) (by decide +kernel) (by decide +kernel)
  portGuid a := UInt64.ofNat (16 * a.1.val + 16 + if a.1 = 0 then 0 else a.2)
  portState _ := 4
  linearCap _ := 48
  linearTop _ := 4
  enhancedPort0 _ := 0
  fdb _ lid :=
    if lid = 1 then 1 else if lid = 2 then 2 else if lid = 3 then 200 else if lid = 4 then 3
    else 255
  home := (1, 1)
  lidOwner lid :=
    if lid = 1 then some (1, 1) else if lid = 2 then some (2, 1)
    else if lid = 3 then some (3, 1) else if lid = 4 then some (4, 1) else none
  type_known := by decide +kernel
  portGuid_switch := by
    intro v k hv
    have hv : v = 0 := by
      revert v
      decide
    rw [hv]
    rfl
  portGuid_node := by
    intro a b ha hb h
    obtain ⟨hnode, hport⟩ := starGuid_node a.1 b.1 a.2 b.2 ha hb h
    exact ⟨hnode, fun hend => Prod.ext hnode (hport fun h0 => hend (by rw [h0]; rfl))⟩
  home_port := by decide +kernel
  owner_port := by
    intro lid a h
    split_ifs at h <;> cases h <;> decide +kernel

theorem adapterStar_truthful : adapterStar.Truthful adapterStar.answer := by
  apply Subnet.answer_truthful
  case hhome => decide +kernel
  case howner =>
    intro lid a h
    have hfits : ∀ v : Fin 5, adapterStar.Fits (v, 1) := by decide +kernel
    have hone : a.2 = 1 := by
      simp only [adapterStar] at h
      split_ifs at h <;> cases h <;> rfl
    have ha : a = (a.1, 1) := Prod.ext rfl hone
    rw [ha]
    exact hfits a.1
  case hzero => decide +kernel
  case hpeer =>
    intro a b h
    have hfits : ∀ c ∈ starCables, adapterStar.Fits c.2 := by decide +kernel
    have hmem : (a, b) ∈ starCables := Network.mem_of_lookup h
    exact hfits (a, b) hmem

namespace Ibtracert

/-- `ib_portid_t` with all zeros, where the search for a direct path starts. -/
def homeId : PortId := ⟨0, .empty⟩

def lidId (lid : Nat) : PortId := ⟨lid, .empty⟩

def starTracer : Tracer where
  query := adapterStar.answer
  force := false
  verbose := false
  stack := ⟨0, 0, 0⟩

end Ibtracert
end InfinibandDiags
