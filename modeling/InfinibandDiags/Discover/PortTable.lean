import InfinibandDiags.Discover.IndexSafety
import InfinibandDiags.Library.Buckets

/-! The port hash. A port stays in the bucket it was inserted in, while `recv_node_info`
overwrites its GUID. -/
namespace InfinibandDiags
open Engine

namespace Fabric
open Chain (IsChain)
variable {f f' : Fabric} {p : PortRef} {n : NodeRef} {k : Nat}

theorem bucket_lt (f : Fabric) (p : PortRef) : f.bucket p < htsz :=
  Nat.mod_lt _ (by decide)

/-- The port hash holds exactly the ports it was given, each in the bucket of its GUID. -/
def Hashed (f : Fabric) : Prop :=
  (∃ chains, Buckets f.htnext f.portstbl f.bucket (· ∈ f.hashed) chains) ∧
    ∀ p ∈ f.hashed, p < f.portCount

/-- The representation invariant of the port table. -/
structure PortTable (f : Fabric) : Prop where
  finite : ∀ i, ∃ l, IsChain f.htnext (f.portstbl i) l ∧ l.Nodup
  members : ∀ i l, IsChain f.htnext (f.portstbl i) l → ∀ p ∈ l, p ∈ f.hashed
  inBucket : ∀ p ∈ f.hashed, ∀ i l, IsChain f.htnext (f.portstbl i) l →
    (p ∈ l ↔ i = f.bucket p)
  iterPorts : ∃ l, f.ibndIterPorts = .ok l ∧ l.Nodup ∧ ∀ p, p ∈ l ↔ p ∈ f.hashed
  findPortGuid : ∀ p ∈ f.hashed, ∃ q, f.ibndFindPortGuid (f.port p).guid = .ok (some q) ∧
    (f.port q).guid = (f.port p).guid

theorem findOnChain_isSome {guid : UInt64} {fuel : Nat} {h : Option PortRef} {l : List PortRef}
    (hl : IsChain f.htnext h l) (hfuel : l.length ≤ fuel) (hp : p ∈ l)
    (hguid : (f.port p).guid = guid) :
    ∃ q, f.findOnChain guid fuel h = .ok (some q) ∧ (f.port q).guid = guid := by
  induction hl generalizing fuel with
  | nil => cases hp
  | @cons r l ht ih =>
      cases fuel with
      | zero => exact absurd hfuel (Nat.not_succ_le_zero _)
      | succ fuel =>
          unfold findOnChain
          by_cases hr : (f.port r).guid = guid
          · exact ⟨r, if_pos hr, hr⟩
          · rw [if_neg hr]
            refine ih (Nat.le_of_succ_le_succ hfuel) ?_
            rcases List.mem_cons.mp hp with rfl | hp
            · exact absurd hguid hr
            · exact hp

theorem onChain_of_isChain {fuel : Nat} {h : Option PortRef} {l : List PortRef}
    (hl : IsChain f.htnext h l) (hfuel : l.length ≤ fuel) :
    f.onChain p fuel h = .ok (decide (p ∈ l)) := by
  induction hl generalizing fuel with
  | nil => cases fuel <;> rfl
  | @cons r l ht ih =>
      cases fuel with
      | zero => exact absurd hfuel (Nat.not_succ_le_zero _)
      | succ fuel =>
          unfold onChain
          by_cases hr : r = p
          · subst hr; simp
          · rw [if_neg hr, ih (Nat.le_of_succ_le_succ hfuel)]
            simp [Ne.symm hr]

theorem Hashed.length_le (h : Hashed f) {i : Nat} {l : List PortRef}
    (hl : IsChain f.htnext (f.portstbl i) l) : l.length ≤ f.portCount := by
  obtain ⟨⟨chains, hb⟩, hlt⟩ := h
  refine (Chain.walk_eq_some_iff.mp (Chain.walk_of_isChain hl fun r hr => ?_)).2
  rw [hl.unique (hb.chain i)] at hr
  exact hlt r ((hb.mem_iff i r).mp hr).1

theorem iterPorts_of_hashed (h : Hashed f) {chains : Nat → List PortRef}
    (hb : Buckets f.htnext f.portstbl f.bucket (· ∈ f.hashed) chains) :
    f.ibndIterPorts = .ok ((List.range htsz).flatMap chains) := by
  have hstep : ∀ (idxs : List Nat) (seen : List PortRef),
      idxs.foldlM f.iterBucket seen = .ok (seen ++ idxs.flatMap chains) := by
    intro idxs
    induction idxs with
    | nil => intro seen; simp [pure, Except.pure]
    | cons i idxs ih =>
        intro seen
        have hwalk : Chain.walk f.htnext f.portCount (f.portstbl i) = some (chains i) :=
          Chain.walk_eq_some_iff.mpr ⟨hb.chain i, h.length_le (hb.chain i)⟩
        rw [List.foldlM_cons, iterBucket, hwalk]
        change (idxs.foldlM _ (seen ++ chains i)) = _
        rw [ih, List.flatMap_cons, List.append_assoc]
  exact hstep (List.range htsz) []

/-- The invariant is what holding exactly the ports in their buckets means. -/
theorem portTable_of_hashed (h : Hashed f) : PortTable f := by
  obtain ⟨⟨chains, hb⟩, hlt⟩ := id h
  refine ⟨fun i => ⟨chains i, hb.chain i, (hb.chain i).nodup⟩, fun i l hl p hp => ?_,
    fun p hp i l hl => hb.mem_chain_iff hp hl, ?_, fun p hp => ?_⟩
  · rw [hl.unique (hb.chain i)] at hp
    exact ((hb.mem_iff i p).mp hp).1
  · exact ⟨_, iterPorts_of_hashed h hb, hb.nodup_flatMap htsz, hb.mem_flatMap f.bucket_lt⟩
  · have hmem := (hb.mem_iff (f.bucket p) p).mpr ⟨hp, rfl⟩
    exact findOnChain_isSome (hb.chain _) (h.length_le (hb.chain _)) hmem rfl

theorem PortTable.hashed (h : PortTable f) (hlt : ∀ p ∈ f.hashed, p < f.portCount) :
    Hashed f := by
  choose chains hchain using h.finite
  refine ⟨⟨chains, fun i => (hchain i).1, fun i p => ⟨fun hp => ?_, fun hp => ?_⟩⟩, hlt⟩
  · have hmem := h.members i _ (hchain i).1 p hp
    exact ⟨hmem, ((h.inBucket p hmem i _ (hchain i).1).mp hp).symm⟩
  · exact (h.inBucket p hp.1 i _ (hchain i).1).mpr hp.2.symm

/-- Two fabrics with the same port hash over the same GUIDs. -/
structure SameTable (f f' : Fabric) : Prop where
  htnext : f'.htnext = f.htnext
  portstbl : f'.portstbl = f.portstbl
  bucket : f'.bucket = f.bucket
  hashed : f'.hashed = f.hashed
  portCount : f'.portCount = f.portCount

theorem SameTable.refl (f : Fabric) : SameTable f f := ⟨rfl, rfl, rfl, rfl, rfl⟩

theorem SameTable.trans {f₁ f₂ f₃ : Fabric} (h₁ : SameTable f₁ f₂) (h₂ : SameTable f₂ f₃) :
    SameTable f₁ f₃ :=
  ⟨h₂.htnext.trans h₁.htnext, h₂.portstbl.trans h₁.portstbl, h₂.bucket.trans h₁.bucket,
    h₂.hashed.trans h₁.hashed, h₂.portCount.trans h₁.portCount⟩

theorem Hashed.congr (h : Hashed f) (hs : SameTable f f') : Hashed f' := by
  unfold Hashed
  rw [hs.htnext, hs.portstbl, hs.bucket, hs.hashed, hs.portCount]
  exact h

theorem sameTable_modifyPort (f : Fabric) (p : PortRef) {g : Port → Port}
    (hnext : ∀ port, (g port).htnext = port.htnext) (hguid : ∀ port, (g port).guid = port.guid) :
    SameTable f (f.modifyPort p g) := by
  refine ⟨?_, rfl, ?_, rfl, rfl⟩
  · rw [htnext_modifyPort, hnext]
    exact Function.update_eq_self _ _
  · rw [bucket_modifyPort, hguid]
    exact Function.update_eq_self _ _

theorem sameTable_linkPorts (f : Fabric) (p q : PortRef) : SameTable f (f.linkPorts p q) := by
  have hrelease : ∀ (f : Fabric) r, SameTable f (f.release r) := by
    intro f r
    unfold release
    split
    · exact sameTable_modifyPort _ _ (fun _ => rfl) fun _ => rfl
    · exact .refl f
  have hset : ∀ (f : Fabric) r v,
      SameTable f (f.modifyPort r fun port => { port with remoteport := v }) :=
    fun f r v => sameTable_modifyPort f r (fun _ => rfl) fun _ => rfl
  exact ((hrelease f p).trans (hrelease _ q)).trans ((hset _ p _).trans (hset _ q _))

theorem sameTable_createNode (f : Fabric) (path : PortId) (info : SmpData) :
    SameTable f (Scan.createNode f path info).2 := by
  unfold Scan.createNode addToTypeList addToNodeguidHash
  dsimp only
  split_ifs <;> exact ⟨rfl, rfl, rfl, rfl, rfl⟩

/-- A new port is in no chain. -/
theorem Hashed.newPort (h : Hashed f) (n : NodeRef) (k : Nat) (port : Port) :
    Hashed (f.newPort n k port) := by
  obtain ⟨⟨chains, hb⟩, hlt⟩ := h
  have hne : ∀ x ∈ f.hashed, x ≠ f.portCount := fun x hx => Nat.ne_of_lt (hlt x hx)
  refine ⟨⟨chains, hb.congr (fun _ => Iff.rfl) (fun x hx => ?_) fun x hx => ?_⟩,
    fun x hx => Nat.lt_succ_of_lt (hlt x hx)⟩
  · simp [Fabric.htnext, Fabric.newPort, hne x hx]
  · simp [Fabric.bucket, Fabric.newPort, hne x hx]

/-- `add_to_portguid_hash` always returns, and keeps the table. -/
theorem Hashed.addToPortguidHash (h : Hashed f) (hp : p < f.portCount) :
    ∃ rc f', f.addToPortguidHash p = .ok (rc, f') ∧ Hashed f' ∧
      f'.portCount = f.portCount ∧ f'.hashed = p :: f.hashed ∧ f'.bucket = f.bucket := by
  obtain ⟨⟨chains, hb⟩, hlt⟩ := id h
  have hdup := onChain_of_isChain (p := p) (hb.chain (f.bucket p))
    (h.length_le (hb.chain (f.bucket p)))
  have hmem : p ∈ chains (f.bucket p) ↔ p ∈ f.hashed := by simp [hb.mem_iff]
  have hdec : decide (p ∈ chains (f.bucket p)) = decide (p ∈ f.hashed) := decide_eq_decide.mpr hmem
  rw [hdec] at hdup
  unfold Fabric.addToPortguidHash
  dsimp only
  rw [hdup]
  by_cases hin : p ∈ f.hashed
  · refine ⟨1, { f with hashed := p :: f.hashed }, by simp [hin, bind, Except.bind], ?_, rfl, rfl, rfl⟩
    refine ⟨⟨chains, hb.congr (fun x => ?_) (fun _ _ => rfl) fun _ _ => rfl⟩, ?_⟩
    · simp only [List.mem_cons]
      exact ⟨fun hx => hx.elim (fun hx => hx ▸ hin) id, .inr⟩
    · simp only [List.mem_cons]
      rintro x (hx | hx)
      · exact hx ▸ hp
      · exact hlt x hx
  · set f₁ := { f with hashed := p :: f.hashed }
    set f₂ := f₁.modifyPort p fun port => { port with htnext := f.portstbl (f.bucket p) } with hf₂
    have hnext : f₂.htnext = Function.update f.htnext p (f.portstbl (f.bucket p)) :=
      htnext_modifyPort f₁ p fun port => { port with htnext := f.portstbl (f.bucket p) }
    have hbucket : f₂.bucket = f.bucket := by
      rw [hf₂, bucket_modifyPort]
      exact Function.update_eq_self _ _
    refine ⟨0, { f₂ with portstbl := Function.update f.portstbl (f.bucket p) (some p) },
      by simp [hin, bind, Except.bind, f₁, f₂, Fabric.modifyPort], ?_, rfl, rfl, hbucket⟩
    refine ⟨⟨_, (hb.insert hin).congr ?_ ?_ ?_⟩, ?_⟩
    · intro x
      exact List.mem_cons
    · intro x _
      exact congrFun hnext x
    · intro x _
      exact congrFun hbucket x
    · simp only [f₂, f₁, Fabric.modifyPort, List.mem_cons]
      rintro x (hx | hx)
      · exact hx ▸ hp
      · exact hlt x hx

/-- Writing a GUID that hashes to the same bucket, or the GUID of a port outside the table. -/
theorem Hashed.withPortGuid (h : Hashed f) {guid : UInt64}
    (hguid : p ∈ f.hashed → hashguid guid = f.bucket p) : Hashed (Scan.withPortGuid f p guid) := by
  obtain ⟨⟨chains, hb⟩, hlt⟩ := h
  refine ⟨⟨chains, hb.congr (fun _ => Iff.rfl) (fun x _ => ?_) fun x hx => ?_⟩, hlt⟩
  · unfold Scan.withPortGuid
    rw [htnext_modifyPort]
    exact congrFun (Function.update_eq_self p f.htnext) x
  · unfold Scan.withPortGuid
    rw [bucket_modifyPort]
    by_cases hxp : x = p
    · subst hxp
      rw [Function.update_self]
      exact hguid hx
    · rw [Function.update_of_ne hxp]

/-- What the table rests on: links and slots refer to allocated ports, slots lie inside the
arrays, and only allocated ports are hashed. -/
structure TableBase (f : Fabric) : Prop extends Linked f where
  inArray : ∀ {n k p}, (f.node n).ports k = some p → k ≤ (f.node n).numports
  hashed_lt : ∀ p ∈ f.hashed, p < f.portCount

theorem tableBase_init : TableBase allocateFabricInternal :=
  ⟨linked_init, fun h => (nomatch h), fun _ h => (nomatch h)⟩

theorem TableBase.of_linked (h : TableBase f) (hl : Linked f') (hhashed : f'.hashed = f.hashed)
    (hcount : f.portCount ≤ f'.portCount)
    (hshape : ∀ n, (f'.node n).ports = (f.node n).ports ∧
      (f'.node n).numports = (f.node n).numports) : TableBase f' := by
  refine ⟨hl, fun {n k p} hp => ?_, fun p hp => ?_⟩
  · rw [(hshape n).1] at hp
    rw [(hshape n).2]
    exact h.inArray hp
  · rw [hhashed] at hp
    exact Nat.lt_of_lt_of_le (h.hashed_lt p hp) hcount

theorem TableBase.modifyNode (h : TableBase f) {g : Node → Node} (hg : ∀ x, (g x).SameShape x) :
    TableBase (f.modifyNode n g) := by
  refine h.of_linked (h.toLinked.modifyNode fun x => (hg x).1) rfl (Nat.le_refl _) fun m => ?_
  by_cases hm : m = n
  · subst hm
    simpa [Fabric.modifyNode] using ⟨(hg _).1, (hg _).2.1⟩
  · simp [Fabric.modifyNode, hm]

theorem TableBase.newPort (h : TableBase f) (hk : k ≤ (f.node n).numports) {port : Port}
    (hport : port.remoteport = none) : TableBase (f.newPort n k port) := by
  refine ⟨h.toLinked.newPort n k hport, fun {m j p} hp => ?_,
    fun p hp => Nat.lt_succ_of_lt (h.hashed_lt p hp)⟩
  by_cases hm : m = n
  · subst hm
    by_cases hj : j = k
    · subst hj
      simpa [Fabric.newPort] using hk
    · simpa [Fabric.newPort] using h.inArray (n := m) (k := j) (by simpa [Fabric.newPort, hj] using hp)
  · simpa [Fabric.newPort, hm] using
      h.inArray (n := m) (k := j) (by simpa [Fabric.newPort, hm] using hp)

theorem TableBase.createNode (h : TableBase f) (path : PortId) (info : SmpData) :
    TableBase (Scan.createNode f path info).2 := by
  obtain ⟨-, -, hnode, -, hcount⟩ := createNode_node f path info
  have hhashed := (sameTable_createNode f path info).hashed
  refine ⟨h.toLinked.createNode path info, fun {m j p} hp => ?_, fun p hp => ?_⟩
  · rw [hnode] at hp ⊢
    by_cases hm : m = f.nodeCount
    · subst hm
      simp [default] at hp
    · rw [Function.update_of_ne hm] at hp ⊢
      exact h.inArray hp
  · rw [hhashed] at hp
    rw [hcount]
    exact h.hashed_lt p hp

end Fabric

namespace Scan
open Fabric

theorem tableBase_withPortGuid {f : Fabric} {p : PortRef} (guid : UInt64) (h : TableBase f) :
    TableBase (withPortGuid f p guid) :=
  h.of_linked (linked_withPortGuid guid h.toLinked) rfl (Nat.le_refl _) fun _ => ⟨rfl, rfl⟩

theorem tableBase_stable : FabricStable TableBase where
  node h hg := h.modifyNode hg
  extInfo d h := h.of_linked (linked_stable.extInfo d h.toLinked) rfl (Nat.le_refl _)
    fun _ => ⟨rfl, rfl⟩
  nodeInfoPort h hok := ensurePort_rule h (fun _ hk => h.newPort hk rfl) hok
  portInfo info h hok := storePortInfo_rule (ensurePort_rule h (fun _ hk => h.newPort hk rfl) hok)
    (fun g h hg => h.of_linked (h.toLinked.modifyPort fun x => (hg x).1) rfl (Nat.le_refl _)
      fun _ => ⟨rfl, rfl⟩)
    fun _ h hg => h.modifyNode hg
  hash {f f' p rc} h hp hok := by
    have hl := linked_stable.hash h.toLinked hp hok
    obtain ⟨dup, -, rfl⟩ := addToPortguidHash_ok hok
    have hlt : ∀ x ∈ p :: f.hashed, x < f.portCount := by
      intro x hx
      rcases List.mem_cons.mp hx with rfl | hx
      · exact h.isPort hp
      · exact h.hashed_lt x hx
    cases dup with
    | true => exact ⟨hl, h.inArray, hlt⟩
    | false => exact ⟨hl, h.inArray, hlt⟩
  lids m h := h.of_linked (linked_stable.lids m h.toLinked) rfl (Nat.le_refl _) fun _ => ⟨rfl, rfl⟩
  link {f p q} h hp hq := by
    obtain ⟨hnode, hcount⟩ := node_linkPorts f p q
    exact h.of_linked (linked_stable.link h.toLinked hp hq) (sameTable_linkPorts f p q).hashed
      (Nat.le_of_eq hcount.symm) fun m => by rw [hnode]; exact ⟨rfl, rfl⟩
  create h _ := h.createNode _ _
  origin n k h := h.of_linked (linked_stable.origin n k h.toLinked) rfl (Nat.le_refl _)
    fun _ => ⟨rfl, rfl⟩
  hops m h := h.of_linked (linked_stable.hops m h.toLinked) rfl (Nat.le_refl _)
    fun _ => ⟨rfl, rfl⟩

/-- No update apart from the GUID written by `recv_node_info` breaks the table. -/
theorem hashed_stable : FabricStable fun f => TableBase f ∧ Hashed f where
  node h hg := ⟨tableBase_stable.node h.1 hg, h.2.congr ⟨rfl, rfl, rfl, rfl, rfl⟩⟩
  extInfo d h := ⟨tableBase_stable.extInfo d h.1,
    h.2.congr (sameTable_modifyPort _ _ (fun _ => rfl) fun _ => rfl)⟩
  nodeInfoPort h hok := ⟨tableBase_stable.nodeInfoPort h.1 hok,
    ensurePort_rule h.2 (fun _ _ => h.2.newPort _ _ _) hok⟩
  portInfo info h hok := ⟨tableBase_stable.portInfo info h.1 hok,
    storePortInfo_rule (P := Hashed) (ensurePort_rule h.2 (fun _ _ => h.2.newPort _ _ _) hok)
      (fun _ h hg => h.congr (sameTable_modifyPort _ _ (fun x => (hg x).2.1) fun x => (hg x).2.2))
      fun _ h _ => h.congr ⟨rfl, rfl, rfl, rfl, rfl⟩⟩
  hash h hp hok := by
    obtain ⟨rc, f₁, hok₁, hhashed, -⟩ := h.2.addToPortguidHash (h.1.isPort hp)
    refine ⟨tableBase_stable.hash h.1 hp hok, ?_⟩
    obtain ⟨-, rfl⟩ := Prod.mk.inj (Except.ok.inj (hok₁.symm.trans hok))
    exact hhashed
  lids m h := ⟨tableBase_stable.lids m h.1, h.2.congr ⟨rfl, rfl, rfl, rfl, rfl⟩⟩
  link h hp hq := ⟨tableBase_stable.link h.1 hp hq, h.2.congr (sameTable_linkPorts _ _ _)⟩
  create h hnone := ⟨tableBase_stable.create h.1 hnone, h.2.congr (sameTable_createNode _ _ _)⟩
  origin n k h := ⟨tableBase_stable.origin n k h.1, h.2.congr ⟨rfl, rfl, rfl, rfl, rfl⟩⟩
  hops m h := ⟨tableBase_stable.hops m h.1, h.2.congr ⟨rfl, rfl, rfl, rfl, rfl⟩⟩

variable {scan : Scan} {smp : ScanSmp} {out : Outcome} {r : Recv}

/-- The port a NodeInfo is about is a known port of a known node, or has just been allocated. -/
theorem nodeInfoPort_cases {path : PortId} {info : SmpData} {p : PortRef} {f : Fabric}
    (h : scan.nodeInfoPort path info = .ok (p, f)) :
    (∃ n, scan.fabric.ibndFindNodeGuid (info.field64 .nodeGuid) = some n ∧
        (scan.fabric.node n).ports (info.field .nodeLocalPort) = some p ∧ f = scan.fabric) ∨
      (p = scan.fabric.portCount ∧ f.hashed = scan.fabric.hashed) := by
  unfold nodeInfoPort findOrCreateNode at h
  cases hfind : scan.fabric.ibndFindNodeGuid (info.field64 .nodeGuid) with
  | some n =>
      rw [hfind] at h
      obtain ⟨-, ⟨hslot, rfl⟩ | ⟨-, rfl, rfl⟩⟩ := ensurePort_ok h
      · exact .inl ⟨n, rfl, hslot, rfl⟩
      · exact .inr ⟨rfl, rfl⟩
  | none =>
      rw [hfind] at h
      obtain ⟨href, -, hnode, -, hcount⟩ := createNode_node scan.fabric path info
      obtain ⟨-, ⟨hslot, -⟩ | ⟨-, rfl, rfl⟩⟩ := ensurePort_ok h
      · dsimp only at hslot
        rw [href, hnode, Function.update_self] at hslot
        exact (nomatch hslot)
      · exact .inr ⟨hcount, (sameTable_createNode scan.fabric path info).hashed⟩

/-- A NodeInfo reply keeps a port that is in the table in its bucket. -/
def GuidOk (scan : Scan) (smp : ScanSmp) (r : Recv) : Prop :=
  match smp.cbData with
  | .niCbdata _ => isClean r → ∀ n p,
      scan.fabric.ibndFindNodeGuid ((smpData r.mad).field64 .nodeGuid) = some n →
      (scan.fabric.node n).ports ((smpData r.mad).field .nodeLocalPort) = some p →
      p ∈ scan.fabric.hashed →
        hashguid ((smpData r.mad).field64 .nodePortGuid) = scan.fabric.bucket p
  | .node _ => True

theorem hashed_reply (h : TableBase scan.fabric ∧ Hashed scan.fabric) (hC : GuidOk scan smp r)
    (hok : scan.reply smp r = .ok out) : Hashed out.scan.fabric := by
  refine (hashed_stable.reply h (fun p f hport hf hdata hclean => ?_) hok).2
  obtain ⟨cbdata, hdata⟩ := hdata
  refine ⟨tableBase_withPortGuid _ hf.1, hf.2.withPortGuid fun hp => ?_⟩
  unfold GuidOk at hC
  rw [hdata] at hC
  rcases nodeInfoPort_cases hport with ⟨n, hfind, hslot, rfl⟩ | ⟨rfl, hhashed⟩
  · exact hC hclean n p hfind hslot hp
  · rw [hhashed] at hp
    exact absurd (h.1.hashed_lt _ hp) (Nat.lt_irrefl _)

theorem sameTable_finishNodeInfo (scan : Scan) (path : PortId) (n : NodeRef) (isNew : Bool)
    (k : Nat) (f : Fabric) : SameTable f (scan.finishNodeInfo path n isNew k f).scan.fabric := by
  unfold finishNodeInfo
  dsimp only
  split <;> exact ⟨rfl, rfl, rfl, rfl, rfl⟩

/-- A port in the table whose new GUID hashes elsewhere is in the wrong bucket. -/
theorem not_portTable_withPortGuid {f f' : Fabric} {p : PortRef} {guid : UInt64}
    (h : PortTable f) (hp : p ∈ f.hashed) (hguid : hashguid guid ≠ f.bucket p)
    (hs : SameTable (withPortGuid f p guid) f') : ¬ PortTable f' := by
  intro h'
  obtain ⟨l, hl, -⟩ := h.finite (f.bucket p)
  have hmem : p ∈ l := (h.inBucket p hp _ l hl).mpr rfl
  have hnext : f'.htnext = f.htnext := by
    rw [hs.htnext, withPortGuid, htnext_modifyPort]
    exact Function.update_eq_self _ _
  have hbucket : f'.bucket p = hashguid guid := by
    rw [hs.bucket, withPortGuid, bucket_modifyPort, Function.update_self]
  have hl' : Chain.IsChain f'.htnext (f'.portstbl (f.bucket p)) l := by
    rw [hnext, hs.portstbl]
    exact hl
  have hsame := (h'.inBucket p (by rw [hs.hashed]; exact hp) _ l hl').mp hmem
  rw [hbucket] at hsame
  exact hguid hsame.symm

/-- A reply that moves a port in the table to another bucket is handled all the same. -/
theorem reply_of_not_guidOk (hbase : TableBase scan.fabric) (hw : WellTyped scan.fabric smp.request)
    (ht : PortTable scan.fabric) (hC : ¬ GuidOk scan smp r) :
    ∃ out, scan.reply smp r = .ok out ∧ ¬ PortTable out.scan.fabric := by
  unfold GuidOk at hC
  unfold WellTyped at hw
  cases hdata : smp.cbData with
  | node n => rw [hdata] at hC; exact absurd trivial hC
  | niCbdata cbdata =>
      have hreq : smp.request.cbData = .niCbdata cbdata := hdata
      rw [hdata] at hC
      rw [hreq] at hw
      push Not at hC
      obtain ⟨hclean, n, p, hfind, hslot, hp, hguid⟩ := hC
      have hcb : smp.cb = .recvNodeInfo := by
        cases cbdata with
        | none => exact hw
        | some rem => exact hw.1
      have hport : ensurePort scan.fabric n ((smpData r.mad).field .nodeLocalPort)
          { (default : Port) with node := n, portnum := (smpData r.mad).field .nodeLocalPort } =
            .ok (p, scan.fabric) := by
        rw [ensurePort, slot_eq_ok.mpr ⟨hbase.inArray hslot, hslot⟩]
        rfl
      have hbroken : ∀ f', SameTable (withPortGuid scan.fabric p _) f' → ¬ PortTable f' :=
        fun _ => not_portTable_withPortGuid ht hp hguid
      have hrun : scan.reply smp r = scan.recvNodeInfo smp r.mad cbdata := by
        rw [reply_of_clean hclean, hdata, hcb]
        rfl
      rw [hrun, recvNodeInfo, findOrCreateNode, hfind]
      dsimp only
      rw [hport]
      cases cbdata with
      | none =>
          refine ⟨_, rfl, hbroken _ ?_⟩
          refine SameTable.trans ?_ (sameTable_finishNodeInfo scan smp.path n false _ _)
          exact ⟨rfl, rfl, rfl, rfl, rfl⟩
      | some rem =>
          have hrem : slot (withPortGuid scan.fabric p ((smpData r.mad).field64 .nodePortGuid))
              rem.1 rem.2 = .ok ((scan.fabric.node rem.1).ports rem.2) :=
            slot_eq_ok.mpr ⟨hw.2.2, rfl⟩
          unfold withPortGuid at hrem
          simp only [bind, Except.bind, hrem]
          cases (scan.fabric.node rem.1).ports rem.2 with
          | none => exact ⟨_, rfl, hbroken _ (.refl _)⟩
          | some q =>
              refine ⟨_, rfl, hbroken _ ?_⟩
              exact (sameTable_linkPorts _ p q).trans (sameTable_finishNodeInfo _ _ _ _ _ _)

end Scan

theorem tableBase_of_reached {args : DiscoverArgs} {st : ScanState} (h : Reached args.start st) :
    st.scan.fabric.TableBase :=
  ((Scan.tableBase_stable.invariant Scan.tableBase_withPortGuid).reached
    Fabric.tableBase_init (fun _ _ => trivial) h).1

/-- The port table keeps its invariant exactly as long as no NodeInfo reply moves a port of the
table to another bucket. -/
theorem portTable_iff_guidOk (args : DiscoverArgs) (rs : List Recv) :
    Throughout (fun scan => scan.fabric.PortTable) args.start.engine args.start.scan rs ↔
      Along Scan.GuidOk args.start.engine args.start.scan rs := by
  have hempty : Fabric.PortTable args.start.scan.fabric :=
    Fabric.portTable_of_hashed ⟨⟨_, (Buckets.empty _ _).congr
      (fun p => by simp [DiscoverArgs.start, DiscoverArgs.scanInit, allocateFabricInternal])
      (fun _ _ => rfl) fun _ _ => rfl⟩, fun _ hp => (nomatch hp)⟩
  refine throughout_iff_along (fun st smp r h ht hsmp => ?_) .start hempty rs
  have hbase := tableBase_of_reached h
  have hbroken := Scan.reply_of_not_guidOk (r := r) hbase (wellTyped_of_handled h hsmp).2 ht
  refine ⟨⟨fun hC out hout => ?_, fun hall => ?_⟩, fun hC => ?_⟩
  · exact Fabric.portTable_of_hashed (Scan.hashed_reply ⟨hbase, ht.hashed hbase.hashed_lt⟩ hC hout)
  · by_contra hC
    obtain ⟨out, hout, hnot⟩ := hbroken hC
    exact hnot (hall out hout)
  · obtain ⟨out, hout, -⟩ := hbroken hC
    exact ⟨out, hout⟩

/-- An adapter whose port is reached again and then reports a second PortGUID: the port is on
two chains, and gone through twice. -/
theorem not_portTable_second_guid :
    let args : DiscoverArgs := ⟨⟨0, .empty⟩, ⟨0, 0, 0, 0, 0, 0⟩, 0, ⟨0, 5⟩, fun _ => 0⟩
    let replies : List Recv := [⟨0, 0, responseMad 6 0 (nodeInfoData 1 1 ibNodeCa 1 1)⟩,
      ⟨0, 0, responseMad 8 1 (portInfoData 1 ibPortPhysStateLinkup 3)⟩,
      ⟨0, 0, responseMad 9 0 (nodeInfoData 1 2 ibNodeCa 1 1)⟩,
      ⟨0, 0, responseMad 10 1 (portInfoData 1 ibPortPhysStateLinkup 3)⟩]
    ∃ st, args.runTo replies = some st ∧ Reached args.start st ∧
      st.scan.fabric.ibndIterPorts = .ok [0, 0] ∧ ¬ st.scan.fabric.PortTable := by
  intro args replies
  have hrun : (args.runTo replies).map (fun st => st.scan.fabric.ibndIterPorts.toOption) =
      some (some [0, 0]) := by
    decide +kernel
  obtain ⟨st, hst, hiter⟩ := Option.map_eq_some_iff.mp hrun
  refine ⟨st, hst, reached_of_runTo hst, toOption_eq_some.mp hiter, ?_⟩
  intro ht
  obtain ⟨l, hl, hnodup, -⟩ := ht.iterPorts
  rw [toOption_eq_some.mp hiter] at hl
  rw [← Except.ok.inj hl] at hnodup
  exact absurd hnodup (by decide)

end InfinibandDiags
