import InfinibandDiags.Discover.Links

/-! What two fabrics have in common, as they are and as the diffs of ibnetdiscover and
iblinkinfo look at them. -/
namespace InfinibandDiags
namespace Fabric

/-- The other end of a cable: its node and its port number. -/
def remoteEnd (f : Fabric) (p : PortRef) : Option (UInt64 × Nat) :=
  (f.remoteport p).map fun r => ((f.node (f.port r).node).guid, (f.port r).portnum)

/-- The other end of a cable as it is compared: the GUID of the port. -/
def remoteGuid (f : Fabric) (p : PortRef) : Option UInt64 :=
  (f.remoteport p).map fun r => (f.port r).guid

/-- A fabric whose nodes have distinct GUIDs and at least one port each, with its lists and its
node hash in order and its cables between ports that are in the port arrays. -/
structure WellFormed (f : Fabric) : Prop where
  find_iff : ∀ {guid n}, f.ibndFindNodeGuid guid = some n ↔ n ∈ f.nodes ∧ (f.node n).guid = guid
  switches : ∀ {n}, n ∈ f.switches ↔ n ∈ f.nodes ∧ (f.node n).type = ibNodeSwitch
  chAdapters : ∀ {n}, n ∈ f.chAdapters ↔ n ∈ f.nodes ∧ (f.node n).type = ibNodeCa
  routers : ∀ {n}, n ∈ f.routers ↔ n ∈ f.nodes ∧ (f.node n).type = ibNodeRouter
  ported : ∀ n ∈ f.nodes, ∃ k ≤ (f.node n).numports, ((f.node n).ports k).isSome
  cabled : ∀ {n k p r}, n ∈ f.nodes → k ≤ (f.node n).numports → (f.node n).ports k = some p →
    f.remoteport p = some r → (f.port r).node ∈ f.nodes ∧
      (f.port r).portnum ≤ (f.node (f.port r).node).numports ∧
      (f.node (f.port r).node).ports (f.port r).portnum = some r

/-- A node GUID and a port number stand for the same port GUID in both fabrics. -/
def SamePortGuids (f₁ f₂ : Fabric) : Prop :=
  ∀ n ∈ f₁.nodes, ∀ m ∈ f₂.nodes, (f₁.node n).guid = (f₂.node m).guid →
    ∀ k ≤ (f₁.node n).numports, k ≤ (f₂.node m).numports →
      ∀ p q, (f₁.node n).ports k = some p → (f₂.node m).ports k = some q →
        (f₁.port p).guid = (f₂.port q).guid

/-- One port of a node that is in both fabrics, with what it is cabled to. -/
def SameEnd (f₁ f₂ : Fabric) (n m : NodeRef) (k : Nat) : Prop :=
  ((f₁.node n).ports k).map f₁.remoteEnd = ((f₂.node m).ports k).map f₂.remoteEnd

/-- One port of a node that is in both fabrics, as it is compared. -/
def SameGuid (f₁ f₂ : Fabric) (n m : NodeRef) (k : Nat) : Prop :=
  ((f₁.node n).ports k).map f₁.remoteGuid = ((f₂.node m).ports k).map f₂.remoteGuid

structure SameTopology (f₁ f₂ : Fabric) : Prop where
  guids : ∀ guid, (∃ n ∈ f₁.nodes, (f₁.node n).guid = guid) ↔ ∃ m ∈ f₂.nodes, (f₂.node m).guid = guid
  numports : ∀ n ∈ f₁.nodes, ∀ m ∈ f₂.nodes, (f₁.node n).guid = (f₂.node m).guid →
    (f₁.node n).numports = (f₂.node m).numports
  ends : ∀ n ∈ f₁.nodes, ∀ m ∈ f₂.nodes, (f₁.node n).guid = (f₂.node m).guid →
    ∀ k ≤ (f₁.node n).numports, SameEnd f₁ f₂ n m k

/-- What is compared of a node that is in both fabrics. Port 0 is not. -/
structure Matches (f₁ f₂ : Fabric) (n m : NodeRef) : Prop where
  numports : (f₁.node n).numports = (f₂.node m).numports
  ports : ∀ k, 1 ≤ k → k ≤ (f₁.node n).numports → SameGuid f₁ f₂ n m k

def Missing (f₁ f₂ : Fabric) (n : NodeRef) : Prop :=
  ∀ m ∈ f₂.nodes, (f₁.node n).guid ≠ (f₂.node m).guid

/-- A difference in what is looked at: a node of one fabric only that is `shown`, or a node of
both that is `compared`. -/
inductive Seen (shown compared : Fabric → NodeRef → Prop) (f₁ f₂ : Fabric) : Prop
  | removed (n) (hn : n ∈ f₁.nodes) (hmiss : Missing f₁ f₂ n) (hshown : shown f₁ n)
  | added (m) (hm : m ∈ f₂.nodes) (hmiss : Missing f₂ f₁ m) (hshown : shown f₂ m)
  | changed (n m) (hn : n ∈ f₁.nodes) (hm : m ∈ f₂.nodes)
      (hguid : (f₁.node n).guid = (f₂.node m).guid) (hcmp : compared f₁ n)
      (hdiff : ¬ Matches f₁ f₂ n m)

/-- A difference in what is not looked at: such a node that is not `shown` or not `compared`, a
port 0, or a cable that was moved to another port of the same GUID. -/
inductive Hidden (shown compared : Fabric → NodeRef → Prop) (f₁ f₂ : Fabric) : Prop
  | removed (n) (hn : n ∈ f₁.nodes) (hmiss : Missing f₁ f₂ n) (hshown : ¬ shown f₁ n)
  | added (m) (hm : m ∈ f₂.nodes) (hmiss : Missing f₂ f₁ m) (hshown : ¬ shown f₂ m)
  | changed (n m) (hn : n ∈ f₁.nodes) (hm : m ∈ f₂.nodes)
      (hguid : (f₁.node n).guid = (f₂.node m).guid) (hcmp : ¬ compared f₁ n)
      (hdiff : ¬ Matches f₁ f₂ n m)
  | moved (n m k) (hn : n ∈ f₁.nodes) (hm : m ∈ f₂.nodes)
      (hguid : (f₁.node n).guid = (f₂.node m).guid) (hk : k ≤ (f₁.node n).numports)
      (hsame : k = 0 ∨ SameGuid f₁ f₂ n m k) (hdiff : ¬ SameEnd f₁ f₂ n m k)

variable {f₁ f₂ : Fabric} {n m : NodeRef} {k : Nat}

theorem WellFormed.guid_inj {f : Fabric} {n m : NodeRef} (hf : WellFormed f) (hn : n ∈ f.nodes)
    (hm : m ∈ f.nodes) (hguid : (f.node n).guid = (f.node m).guid) : n = m := by
  have hfind := hf.find_iff.mpr ⟨hn, hguid⟩
  rw [hf.find_iff.mpr ⟨hm, rfl⟩] at hfind
  exact (Option.some.inj hfind).symm

/-- Ends that are the same have the same port GUID. -/
theorem SameEnd.sameGuid (hf₁ : WellFormed f₁) (hf₂ : WellFormed f₂) (hports : SamePortGuids f₁ f₂)
    (hn : n ∈ f₁.nodes) (hm : m ∈ f₂.nodes) (hk₁ : k ≤ (f₁.node n).numports)
    (hk₂ : k ≤ (f₂.node m).numports) (h : SameEnd f₁ f₂ n m k) : SameGuid f₁ f₂ n m k := by
  unfold SameEnd at h
  unfold SameGuid
  cases hp : (f₁.node n).ports k with
  | none =>
      rw [hp, Option.map_none, eq_comm, Option.map_eq_none_iff] at h
      rw [h, Option.map_none, Option.map_none]
  | some p =>
      rw [hp, Option.map_some, eq_comm, Option.map_eq_some_iff] at h
      obtain ⟨q, hq, hends⟩ := h
      rw [hq, Option.map_some, Option.map_some]
      congr 1
      unfold remoteEnd at hends
      unfold remoteGuid
      cases hr : f₁.remoteport p with
      | none =>
          rw [hr, Option.map_none, Option.map_eq_none_iff] at hends
          rw [hends, Option.map_none, Option.map_none]
      | some r =>
          rw [hr, Option.map_some, Option.map_eq_some_iff] at hends
          obtain ⟨s, hs, hsame⟩ := hends
          obtain ⟨hguid, hnum⟩ := Prod.mk.inj hsame
          obtain ⟨hrn, hrk, hrs⟩ := hf₁.cabled hn hk₁ hp hr
          obtain ⟨hsn, hsk, hss⟩ := hf₂.cabled hm hk₂ hq hs
          rw [hnum] at hsk hss
          rw [hs, Option.map_some, Option.map_some]
          congr 1
          exact hports _ hrn _ hsn hguid.symm _ hrk hsk r s hrs hss

theorem SameTopology.matches (hf₁ : WellFormed f₁) (hf₂ : WellFormed f₂)
    (hports : SamePortGuids f₁ f₂) (h : SameTopology f₁ f₂) (hn : n ∈ f₁.nodes) (hm : m ∈ f₂.nodes)
    (hguid : (f₁.node n).guid = (f₂.node m).guid) : Matches f₁ f₂ n m where
  numports := h.numports n hn m hm hguid
  ports k _ hk := (h.ends n hn m hm hguid k hk).sameGuid hf₁ hf₂ hports hn hm hk
    (h.numports n hn m hm hguid ▸ hk)

/-- Two fabrics are the same if and only if they differ neither in what is looked at nor in what
is not. -/
theorem sameTopology_iff (shown compared : Fabric → NodeRef → Prop) (hf₁ : WellFormed f₁)
    (hf₂ : WellFormed f₂) (hports : SamePortGuids f₁ f₂) :
    SameTopology f₁ f₂ ↔ ¬ Seen shown compared f₁ f₂ ∧ ¬ Hidden shown compared f₁ f₂ := by
  constructor
  · intro h
    have hremoved : ∀ n ∈ f₁.nodes, ¬ Missing f₁ f₂ n := by
      intro n hn hmiss
      obtain ⟨m, hm, hguid⟩ := (h.guids _).mp ⟨n, hn, rfl⟩
      exact hmiss m hm hguid.symm
    have hadded : ∀ m ∈ f₂.nodes, ¬ Missing f₂ f₁ m := by
      intro m hm hmiss
      obtain ⟨n, hn, hguid⟩ := (h.guids _).mpr ⟨m, hm, rfl⟩
      exact hmiss n hn hguid.symm
    constructor
    · intro hseen
      cases hseen with
      | removed n hn hmiss _ => exact hremoved n hn hmiss
      | added m hm hmiss _ => exact hadded m hm hmiss
      | changed n m hn hm hguid _ hdiff => exact hdiff (h.matches hf₁ hf₂ hports hn hm hguid)
    · intro hhidden
      cases hhidden with
      | removed n hn hmiss _ => exact hremoved n hn hmiss
      | added m hm hmiss _ => exact hadded m hm hmiss
      | changed n m hn hm hguid _ hdiff => exact hdiff (h.matches hf₁ hf₂ hports hn hm hguid)
      | moved n m k hn hm hguid hk _ hdiff => exact hdiff (h.ends n hn m hm hguid k hk)
  · rintro ⟨hseen, hhidden⟩
    have hremoved : ∀ n ∈ f₁.nodes, ¬ Missing f₁ f₂ n := by
      intro n hn hmiss
      by_cases hshown : shown f₁ n
      · exact hseen (.removed n hn hmiss hshown)
      · exact hhidden (.removed n hn hmiss hshown)
    have hadded : ∀ m ∈ f₂.nodes, ¬ Missing f₂ f₁ m := by
      intro m hm hmiss
      by_cases hshown : shown f₂ m
      · exact hseen (.added m hm hmiss hshown)
      · exact hhidden (.added m hm hmiss hshown)
    have hmatches : ∀ n ∈ f₁.nodes, ∀ m ∈ f₂.nodes, (f₁.node n).guid = (f₂.node m).guid →
        Matches f₁ f₂ n m := by
      intro n hn m hm hguid
      by_contra hdiff
      by_cases hcmp : compared f₁ n
      · exact hseen (.changed n m hn hm hguid hcmp hdiff)
      · exact hhidden (.changed n m hn hm hguid hcmp hdiff)
    constructor
    · intro guid
      constructor
      · rintro ⟨n, hn, rfl⟩
        by_contra hnone
        exact hremoved n hn fun m hm hguid => hnone ⟨m, hm, hguid.symm⟩
      · rintro ⟨m, hm, rfl⟩
        by_contra hnone
        exact hadded m hm fun n hn hguid => hnone ⟨n, hn, hguid.symm⟩
    · intro n hn m hm hguid
      exact (hmatches n hn m hm hguid).numports
    · intro n hn m hm hguid k hk
      by_contra hdiff
      apply hhidden
      refine .moved n m k hn hm hguid hk ?_ hdiff
      rcases Nat.eq_zero_or_pos k with hzero | hpos
      · exact .inl hzero
      · exact .inr ((hmatches n hn m hm hguid).ports k hpos hk)

end Fabric
end InfinibandDiags
