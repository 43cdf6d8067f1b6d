import InfinibandDiags.Discover.Touched
import InfinibandDiags.Discover.Trails
import InfinibandDiags.Mad.Layouts

/-! The port inventory of a scan. Whatever port belongs into the table is there, or a PortInfo
request that will bring it there has not been answered yet. -/
namespace InfinibandDiags
open Engine

/-- A request that brings no port into the table. -/
def QuietRequest (t : ScanRequest) : Prop := t.cb ≠ .recvPort0Info ∧ t.cb ≠ .recvPortInfo

/-- The request whose reply brings a port into the table, or leads to the one that does. -/
def Awaits (t : ScanRequest) (n : NodeRef) (k : Nat) : Prop :=
  t.cbData = .node n ∧ (t.cb = .recvPort0Info ∨ (t.cb = .recvPortInfo ∧ t.attrMod = k))

theorem quiet_of_cb {t : ScanRequest} {cb : ScanCb} (h : t.cb = cb) (hzero : cb ≠ .recvPort0Info)
    (hport : cb ≠ .recvPortInfo) : QuietRequest t :=
  ⟨h.trans_ne hzero, h.trans_ne hport⟩

theorem QuietRequest.not_awaits {t : ScanRequest} (h : QuietRequest t) (n : NodeRef) (k : Nat) :
    ¬ Awaits t n k := fun ⟨_, hcb⟩ => hcb.elim h.1 fun hcb => h.2 hcb.1

namespace Fabric
variable {f f' : Fabric} {p : PortRef} {n : NodeRef} {k : Nat}

/-- A slot whose port belongs into the table: any of a switch, and any that is filled. -/
structure Due (f : Fabric) (n : NodeRef) (k : Nat) : Prop where
  known : n < f.nodeCount
  inArray : k ≤ (f.node n).numports
  reason : (f.node n).type = ibNodeSwitch ∨ ∃ p, (f.node n).ports k = some p

def InTable (f : Fabric) (n : NodeRef) (k : Nat) : Prop :=
  ∃ p ∈ f.hashed, (f.node n).ports k = some p

/-- What a PortInfo is asked for. -/
def Asks (f : Fabric) (t : ScanRequest) : Prop :=
  ∀ n, t.cbData = .node n → (t.cb = .recvPort0Info ∨ t.cb = .recvPortInfo → f.Due n t.attrMod) ∧
    (t.cb = .recvPort0Info → t.attrMod = 0 ∧ (f.node n).type = ibNodeSwitch)

theorem asks_of_quiet {t : ScanRequest} (h : QuietRequest t) : f.Asks t :=
  fun _ _ => ⟨fun hcb => absurd hcb (not_or.mpr h), fun hcb => absurd hcb h.1⟩

theorem Touched.due (h : Touched f f' p) (hd : f.Due n k) : f'.Due n k := by
  obtain ⟨hn, hk, hreason⟩ := hd
  refine ⟨by rwa [h.nodeCount], by rwa [h.numports], hreason.imp (fun htype => ?_) ?_⟩
  · rwa [h.type]
  · exact fun ⟨x, hx⟩ => ⟨x, h.kept hx⟩

theorem Touched.due_or (h : Touched f f' p) (hd : f'.Due n k) :
    f.Due n k ∨ (f'.node n).ports k = some p := by
  obtain ⟨hn, hk, hreason⟩ := hd
  rw [h.nodeCount] at hn
  rw [h.numports] at hk
  rw [h.type] at hreason
  rcases hreason with hsw | ⟨x, hx⟩
  · exact .inl ⟨hn, hk, .inl hsw⟩
  · by_cases hxp : x = p
    · exact .inr (hxp ▸ hx)
    · exact .inl ⟨hn, hk, .inr ⟨x, h.slots hx hxp⟩⟩

theorem Touched.asks (h : Touched f f' p) {t : ScanRequest} (ht : f.Asks t) : f'.Asks t := by
  intro n hn
  refine ⟨fun hcb => h.due ((ht n hn).1 hcb), fun hcb => ?_⟩
  rw [h.type]
  exact (ht n hn).2 hcb

end Fabric

namespace Network
variable {V : Type} (N : Network V) (s : V × Nat)

/-- A port at which the scan arrives: the start port, or the far end of a cable it follows. -/
def Arrives (a : V × Nat) : Prop :=
  a = s ∨ ∃ c, N.Reach s c.1 ∧ N.Explores s c ∧ N.peer c = some a

/-- The port GUIDs of a network: those of a switch are one, those of two nodes differ. -/
structure PortGuids (N : Network V) (pg : V × Nat → UInt64) : Prop where
  switch : ∀ v j k, N.type v = ibNodeSwitch → pg (v, j) = pg (v, k)
  apart : ∀ a b, pg a = pg b → a.1 = b.1

/-- A NodeInfo reports the port GUID of the port it was asked for through. -/
def ReportsGuid (origin : PortId) (pg : V × Nat → UInt64) (smp : ScanSmp) (r : Recv) : Prop :=
  smp.rpc.attrId = ibAttrNodeInfo → ∀ b ∈ N.arrival s origin smp.path,
    (smpData r.mad).field64 .nodePortGuid = pg b

instance decidableReportsGuid (origin : PortId) (pg : V × Nat → UInt64) (smp : ScanSmp) (r : Recv) :
    Decidable (N.ReportsGuid s origin pg smp r) :=
  inferInstanceAs (Decidable (_ → ∀ b ∈ N.arrival s origin smp.path, _))

/-- The ports that are known, and the requests that more will come of. -/
structure Inventory (pg : V × Nat → UInt64) (f : Fabric) (T : Multiset ScanRequest) : Prop where
  due : ∀ {n k}, f.Due n k → f.InTable n k ∨ ∃ t ∈ T, Awaits t n k
  asks : ∀ t ∈ T, f.Asks t
  guid : ∀ {n v k p}, N.Knows f n v → (f.node n).ports k = some p → (f.port p).guid = pg (v, k)
  info : ∀ {n v}, N.Knows f n v → N.type v = ibNodeSwitch →
    (f.node n).info.field64 .nodePortGuid = pg (v, 0)
  arrives : ∀ {n v k p}, N.Knows f n v → (f.node n).ports k = some p →
    N.type v = ibNodeSwitch ∨ N.Arrives s (v, k)
  held : ∀ p ∈ f.hashed, ∃ n < f.nodeCount, ∃ k, (f.node n).ports k = some p
  lids : ∀ p ∈ f.hashed, Fabric.LidsEnd (f.port p).baseLid (f.port p).lmc
  bytes : ∀ n < f.nodeCount, (f.node n).FitsBytes

variable {N s} {pg : V × Nat → UInt64} {f f' : Fabric} {n : NodeRef} {v : V} {p : PortRef}
  {k : Nat} {t : ScanRequest} {T : Multiset ScanRequest} {reqs : List ScanRequest}

theorem inventory_init (hT : ∀ t ∈ T, QuietRequest t) :
    N.Inventory s pg allocateFabricInternal T where
  due h := absurd h.known (Nat.not_lt_zero _)
  asks t ht := Fabric.asks_of_quiet (hT t ht)
  guid h := absurd h.1 (Nat.not_lt_zero _)
  info h := absurd h.1 (Nat.not_lt_zero _)
  arrives h := absurd h.1 (Nat.not_lt_zero _)
  held _ h := (nomatch h)
  lids _ h := (nomatch h)
  bytes _ h := absurd h (Nat.not_lt_zero _)

theorem knows_touched (h : f.Touched f' p) : N.Knows f' n v ↔ N.Knows f n v := by
  rw [Knows, Knows, h.nodeCount, h.guid]

/-- One request answered, when what it did concerns one port. -/
theorem Inventory.touch (h : N.Inventory s pg f (t ::ₘ T)) (ht : f.Touched f' p)
    (hb : f.TableBase) (hkept : ∀ x ∈ f.hashed, x ∈ f'.hashed)
    (hmore : ∀ x ∈ f'.hashed, x ∈ f.hashed ∨
      (x = p ∧ ∃ m < f.nodeCount, ∃ j, (f'.node m).ports j = some p))
    (hlids : p ∈ f'.hashed → Fabric.LidsEnd (f'.port p).baseLid (f'.port p).lmc)
    (hport : ∀ {m v j}, N.Knows f m v → (f'.node m).ports j = some p →
      (f'.port p).guid = pg (v, j) ∧ (N.type v = ibNodeSwitch ∨ N.Arrives s (v, j)))
    (hreqs : ∀ r ∈ reqs, f'.Asks r)
    (hcov : ∀ {m j}, f'.Due m j →
      Awaits t m j ∨ (¬ f.Due m j ∧ (f'.node m).ports j = some p) →
        f'.InTable m j ∨ ∃ r ∈ reqs, Awaits r m j) : N.Inventory s pg f' (reqs + T) := by
  constructor
  case due =>
    intro m j hd
    have hlift : (f'.InTable m j ∨ ∃ r ∈ reqs, Awaits r m j) →
        f'.InTable m j ∨ ∃ r ∈ reqs + T, Awaits r m j :=
      Or.imp_right fun ⟨r, hr, ha⟩ => ⟨r, Multiset.mem_add.mpr (.inl hr), ha⟩
    by_cases hold : f.Due m j
    · rcases h.due hold with ⟨x, hx, hslot⟩ | ⟨r, hr, ha⟩
      · exact .inl ⟨x, hkept x hx, ht.kept hslot⟩
      · rcases Multiset.mem_cons.mp hr with rfl | hr
        · exact hlift (hcov hd (.inl ha))
        · exact .inr ⟨r, Multiset.mem_add.mpr (.inr hr), ha⟩
    · exact hlift (hcov hd (.inr ⟨hold, (ht.due_or hd).resolve_left hold⟩))
  case asks =>
    intro r hr
    rcases Multiset.mem_add.mp hr with hr | hr
    · exact hreqs r (Multiset.mem_coe.mp hr)
    · exact ht.asks (h.asks r (Multiset.mem_cons_of_mem hr))
  case guid =>
    intro m w j x hm hx
    rw [knows_touched ht] at hm
    by_cases hxp : x = p
    · subst hxp
      exact (hport hm hx).1
    · have hold := ht.slots hx hxp
      rw [(ht.port x (hb.slots hold) hxp).1]
      exact h.guid hm hold
  case info =>
    intro m w hm hsw
    rw [ht.info]
    exact h.info ((knows_touched ht).mp hm) hsw
  case arrives =>
    intro m w j x hm hx
    rw [knows_touched ht] at hm
    by_cases hxp : x = p
    · subst hxp
      exact (hport hm hx).2
    · exact h.arrives hm (ht.slots hx hxp)
  case held =>
    intro x hx
    rw [ht.nodeCount]
    rcases hmore x hx with hold | ⟨rfl, hslot⟩
    · obtain ⟨m, hm, j, hslot⟩ := h.held x hold
      exact ⟨m, hm, j, ht.kept hslot⟩
    · exact hslot
  case lids =>
    intro x hx
    by_cases hxp : x = p
    · subst hxp
      exact hlids hx
    · have hold := (hmore x hx).resolve_right fun hnew => hxp hnew.1
      obtain ⟨-, hlid, hlmc⟩ := ht.port x (hb.hashed_lt x hold) hxp
      rw [hlid, hlmc]
      exact h.lids x hold
  case bytes =>
    intro m hm
    rw [ht.nodeCount] at hm
    exact ht.bytes m (h.bytes m hm)

/-- One request answered that was not about a port of the table. -/
theorem Inventory.quiet (h : N.Inventory s pg f (t ::ₘ T)) (ht : f.Touched f' f'.portCount)
    (hb : f.TableBase) (hl : f'.Linked) (hhashed : f'.hashed = f.hashed) (hquiet : QuietRequest t)
    (hreqs : ∀ r ∈ reqs, QuietRequest r) : N.Inventory s pg f' (reqs + T) := by
  have hnone : ∀ {m j}, (f'.node m).ports j ≠ some f'.portCount :=
    fun hslot => Nat.lt_irrefl _ (hl.slots hslot)
  refine h.touch ht hb (fun x hx => hhashed ▸ hx) (fun x hx => .inl (hhashed ▸ hx))
    (fun hin => ?_) (fun _ hslot => absurd hslot hnone)
    (fun r hr => Fabric.asks_of_quiet (hreqs r hr)) fun _ hwhy => ?_
  · rw [hhashed] at hin
    exact absurd (Nat.lt_of_lt_of_le (hb.hashed_lt _ hin) ht.portCount) (Nat.lt_irrefl _)
  · rcases hwhy with ha | ⟨-, hslot⟩
    · exact absurd ha (hquiet.not_awaits _ _)
    · exact absurd hslot hnone

section PortInfo
variable {scan : Scan} {smp : ScanSmp} {mad : Bytes} {out : Outcome}

theorem quiet_exploreLink (scan : Scan) (path : PortId) (n : NodeRef) (p : PortRef) (k : Nat) :
    ∀ r ∈ (scan.exploreLink path n p k).2, QuietRequest r := by
  intro r hr
  obtain ⟨-, hnone | ⟨path', hone⟩⟩ := Scan.exploreLink_cases scan path n p k
  · rw [hnone] at hr
    cases hr
  · rw [hone] at hr
    rw [List.mem_singleton.mp hr]
    exact ⟨fun h => (nomatch h), fun h => (nomatch h)⟩

theorem touched_hops (f : Fabric) (p : PortRef) (m : UInt32) :
    f.Touched { f with maxhopsDiscovered := m } p :=
  .of_node rfl ⟨rfl, rfl, rfl⟩ rfl fun _ _ => ⟨rfl, rfl, rfl⟩

theorem recvPortInfo_entered (hok : scan.recvPortInfo smp mad n = .ok out) :
    ∃ p, Scan.PortEntered scan.fabric out.scan.fabric n p (Scan.attrModPort mad) ∧
      ∀ r ∈ out.requests, QuietRequest r := by
  obtain ⟨p, f, hstored, ⟨-, rfl⟩ | ⟨-, -, rfl⟩⟩ := Scan.recvPortInfo_ok hok
  · refine ⟨p, Scan.portEntered hstored, fun r hr => ?_⟩
    rw [List.mem_singleton.mp hr]
    exact ⟨fun h => (nomatch h), fun h => (nomatch h)⟩
  · refine ⟨p, ?_, quiet_exploreLink _ _ _ _ _⟩
    obtain ⟨⟨m, hm⟩, -⟩ := Scan.exploreLink_cases { scan with fabric := f } smp.path n p
      (Scan.attrModPort mad)
    have h := Scan.portEntered hstored
    rw [hm]
    exact ⟨h.touched.trans (touched_hops f p m), h.hashed, h.slot, h.inArray, h.lids, h.guid⟩

/-- A port entered, for the request that asked for it. -/
theorem Inventory.portEntered (h : N.Inventory s pg f (t ::ₘ T)) (hpg : N.PortGuids pg)
    (hm : N.Mapped s f) (hnt' : f'.NodeTable) (hb : f.TableBase) (hn : N.Knows f n v)
    (hdata : t.cbData = .node n) (hcb : t.cb = .recvPort0Info ∨ t.cb = .recvPortInfo)
    (he : Scan.PortEntered f f' n p t.attrMod) (hreqs : ∀ r ∈ reqs, f'.Asks r)
    (hall : t.cb = .recvPort0Info → ∀ k, k ≠ t.attrMod → f'.Due n k →
      ∃ r ∈ reqs, Awaits r n k) : N.Inventory s pg f' (reqs + T) := by
  have hasked := ((h.asks t (Multiset.mem_cons_self _ _)) n hdata).1 hcb
  have hin : p ∈ f'.hashed := he.hashed ▸ List.mem_cons_self
  have hslotp : ∀ {m j}, (f'.node m).ports j = some p → m = n ∧ j = t.attrMod :=
    fun hslot => hnt'.slot_unique hslot he.slot
  have htype := (hm.knows hn).1
  refine h.touch he.touched hb (fun x hx => he.hashed ▸ List.mem_cons_of_mem _ hx) (fun x hx => ?_)
    (fun _ => he.lids) (fun {m w j} hw hslot => ?_) hreqs fun {m j} hd hwhy => ?_
  · rw [he.hashed] at hx
    rcases List.mem_cons.mp hx with rfl | hx
    · exact .inr ⟨rfl, n, hn.1, _, he.slot⟩
    · exact .inl hx
  · obtain ⟨rfl, rfl⟩ := hslotp hslot
    obtain rfl := hw.unique hn
    rcases he.guid with ⟨hold, hguid⟩ | ⟨hnone, hguid⟩
    · exact ⟨hguid.trans (h.guid hn hold), h.arrives hn hold⟩
    · have hsw : N.type w = ibNodeSwitch := by
        rcases hasked.reason with hsw | ⟨x, hx⟩
        · exact htype.symm.trans hsw
        · rw [hnone] at hx
          cases hx
      exact ⟨(hguid.trans (h.info hn hsw)).trans (hpg.switch w _ _ hsw), .inl hsw⟩
  · rcases hwhy with ⟨hdata', ha⟩ | ⟨-, hslot⟩
    · obtain rfl : n = m := CbData.node.inj (hdata.symm.trans hdata')
      by_cases hj : j = t.attrMod
      · exact .inl ⟨p, hin, hj ▸ he.slot⟩
      · rcases ha with hzero | ⟨-, hmod⟩
        · exact .inr (hall hzero j hj hd)
        · exact absurd hmod.symm hj
    · exact .inl ⟨p, hin, hslot⟩

theorem Inventory.recvPortInfo (h : N.Inventory s pg scan.fabric (smp.request ::ₘ T))
    (hpg : N.PortGuids pg) (hm : N.Mapped s scan.fabric) (hnt' : out.scan.fabric.NodeTable)
    (hb : scan.fabric.TableBase) (hn : N.Knows scan.fabric n v) (hdata : smp.cbData = .node n)
    (hcb : smp.cb = .recvPortInfo) (hk : Scan.attrModPort mad = smp.rpc.attrMod)
    (hok : scan.recvPortInfo smp mad n = .ok out) :
    N.Inventory s pg out.scan.fabric (out.requests + T) := by
  obtain ⟨p, he, hquiet⟩ := recvPortInfo_entered hok
  rw [hk] at he
  exact h.portEntered hpg hm hnt' hb hn hdata (.inr hcb) he
    (fun r hr => Fabric.asks_of_quiet (hquiet r hr)) fun hzero => nomatch hcb.symm.trans hzero

/-- A switch is asked about all its ports once its port 0 is there. -/
theorem Inventory.recvPort0Info (h : N.Inventory s pg scan.fabric (smp.request ::ₘ T))
    (hpg : N.PortGuids pg) (hm : N.Mapped s scan.fabric) (hnt' : out.scan.fabric.NodeTable)
    (hb : scan.fabric.TableBase) (hn : N.Knows scan.fabric n v) (hdata : smp.cbData = .node n)
    (hcb : smp.cb = .recvPort0Info) (hk : Scan.attrModPort mad = smp.rpc.attrMod)
    (hok : scan.recvPort0Info smp mad n = .ok out) :
    N.Inventory s pg out.scan.fabric (out.requests + T) := by
  obtain ⟨out₁, hok₁, rfl⟩ := Scan.recvPort0Info_ok hok
  obtain ⟨p, he, hquiet⟩ := recvPortInfo_entered hok₁
  rw [hk] at he
  obtain ⟨hzero, hsw⟩ := ((h.asks _ (Multiset.mem_cons_self _ _)) n hdata).2 hcb
  have hknown : n < out₁.scan.fabric.nodeCount := he.touched.nodeCount ▸ hn.1
  have hsw' : (out₁.scan.fabric.node n).type = ibNodeSwitch := (he.touched.type n).trans hsw
  refine h.portEntered hpg hm hnt' hb hn hdata (.inl hcb) he (fun r hr => ?_) fun _ k hk0 hd => ?_
  · rcases List.mem_append.mp hr with hr | hr
    · exact Fabric.asks_of_quiet (hquiet r hr)
    · obtain ⟨i, hi, rfl⟩ := List.mem_map.mp hr
      intro m hm'
      obtain rfl : n = m := CbData.node.inj hm'
      exact ⟨fun _ => ⟨hknown, Nat.succ_le_of_lt (List.mem_range.mp hi), .inl hsw'⟩,
        fun hcb' => (nomatch hcb')⟩
  · have hpos : 0 < k := Nat.pos_of_ne_zero fun h0 => hk0 (h0.trans hzero.symm)
    refine ⟨queryPortInfo smp.path n k, List.mem_append_right _ (List.mem_map.mpr ⟨k - 1, ?_, ?_⟩),
      rfl, .inr ⟨if_pos (Nat.ne_of_gt hpos), rfl⟩⟩
    · rw [List.mem_range]
      exact Nat.lt_of_lt_of_le (Nat.sub_lt hpos Nat.one_pos) hd.inArray
    · rw [Nat.sub_add_cancel hpos]

end PortInfo

section NodeInfo
variable {scan : Scan} {smp : ScanSmp} {mad : Bytes} {out : Outcome} {path : PortId}
  {info : SmpData} {b : V × Nat}

/-- What is asked about a node that is new. -/
def newQueries (path : PortId) (n : NodeRef) (isNew : Bool) (type : Nat) : List ScanRequest :=
  if isNew then queryNodeDesc path n ::
    (if type = ibNodeSwitch then [querySwitchInfo path n, queryPortInfo path n 0] else [])
  else []

/-- A node created, with the requests about it counted at once. -/
theorem Inventory.createNode (path : PortId) (h : N.Inventory s pg f T) (hpg : N.PortGuids pg)
    (hinfo : N.NodeInfoOf b info) (hguid : info.field64 .nodePortGuid = pg b) :
    N.Inventory s pg (Scan.createNode f path info).2
      (newQueries path f.nodeCount true (N.type b.1) + T) := by
  obtain ⟨-, hcount, hnode, hport, -⟩ := Fabric.createNode_node f path info
  have hhashed := (Fabric.sameTable_createNode f path info).hashed
  obtain ⟨hnodeguid, htype, hnum, -⟩ := hinfo
  have hknows := fun x u => knows_createNode (n := x) (v := u) f path hnodeguid
  set f₁ := (Scan.createNode f path info).2
  have hold : ∀ m, m < f.nodeCount → f₁.node m = f.node m := by
    intro m hm
    rw [hnode, Function.update_of_ne (Nat.ne_of_lt hm)]
  have hcases : ∀ m, m < f₁.nodeCount → m < f.nodeCount ∨ m = f.nodeCount := by
    intro m hm
    rw [hcount] at hm
    exact Nat.lt_succ_iff_lt_or_eq.mp hm
  have hnew : f₁.node f.nodeCount = { (default : Node) with
      guid := info.field64 .nodeGuid
      type := info.field .nodeType
      numports := info.field .nodeNports
      pathPortid := path
      info := info } := by
    rw [hnode]
    exact Function.update_self _ _ _
  have hempty : ∀ {k p}, (f₁.node f.nodeCount).ports k ≠ some p := by
    intro k p hp
    rw [hnew] at hp
    cases hp
  have hslot : ∀ {m v k p}, N.Knows f₁ m v → (f₁.node m).ports k = some p →
      N.Knows f m v ∧ (f.node m).ports k = some p := by
    intro m v k p hm hp
    rcases (hknows m v).mp hm with hm | ⟨rfl, -⟩
    · exact ⟨hm, hold m hm.1 ▸ hp⟩
    · exact absurd hp hempty
  constructor
  case due =>
    rintro m j ⟨hm, hj, hreason⟩
    rcases hcases m hm with hlt | rfl
    · rw [hold m hlt] at hj hreason
      rcases h.due ⟨hlt, hj, hreason⟩ with ⟨x, hx, hslot⟩ | ⟨r, hr, ha⟩
      · exact .inl ⟨x, hhashed ▸ hx, hold m hlt ▸ hslot⟩
      · exact .inr ⟨r, Multiset.mem_add.mpr (.inr hr), ha⟩
    · have hsw : N.type b.1 = ibNodeSwitch := by
        rcases hreason with hsw | ⟨x, hx⟩
        · rw [hnew] at hsw
          exact htype.symm.trans hsw
        · exact absurd hx hempty
      refine .inr ⟨queryPortInfo path f.nodeCount 0, Multiset.mem_add.mpr (.inl ?_), rfl, .inl rfl⟩
      simp [newQueries, hsw]
  case asks =>
    intro r hr
    rcases Multiset.mem_add.mp hr with hr | hr
    · have hr' := Multiset.mem_coe.mp hr
      unfold newQueries at hr'
      rw [if_pos rfl] at hr'
      rcases List.mem_cons.mp hr' with rfl | hr'
      · exact Fabric.asks_of_quiet ⟨fun hcb => (nomatch hcb), fun hcb => (nomatch hcb)⟩
      · split at hr'
        · next hsw =>
          rcases List.mem_cons.mp hr' with rfl | hr'
          · exact Fabric.asks_of_quiet ⟨fun hcb => (nomatch hcb), fun hcb => (nomatch hcb)⟩
          · rw [List.mem_singleton.mp hr']
            intro m hm
            obtain rfl : f.nodeCount = m := CbData.node.inj hm
            have hsw' : (f₁.node f.nodeCount).type = ibNodeSwitch := by
              rw [hnew]
              exact htype.trans hsw
            exact ⟨fun _ => ⟨hcount ▸ Nat.lt_succ_self _, Nat.zero_le _, .inl hsw'⟩,
              fun _ => ⟨rfl, hsw'⟩⟩
        · cases hr'
    · intro m hm
      have hasks := h.asks r hr m hm
      refine ⟨fun hcb => ?_, fun hcb => ?_⟩
      · obtain ⟨hlt, hj, hreason⟩ := hasks.1 hcb
        rw [← hold m hlt] at hj hreason
        exact ⟨hcount ▸ Nat.lt_succ_of_lt hlt, hj, hreason⟩
      · rw [hold m (hasks.1 (.inl hcb)).known]
        exact hasks.2 hcb
  case guid =>
    intro m v k p hm hp
    obtain ⟨hm, hp⟩ := hslot hm hp
    rw [hport]
    exact h.guid hm hp
  case info =>
    intro m v hm hsw
    rcases (hknows m v).mp hm with hm | ⟨rfl, rfl⟩
    · rw [hold m hm.1]
      exact h.info hm hsw
    · rw [hnew]
      exact hguid.trans (hpg.switch b.1 b.2 0 hsw)
  case arrives =>
    intro m v k p hm hp
    obtain ⟨hm, hp⟩ := hslot hm hp
    exact h.arrives hm hp
  case held =>
    intro x hx
    obtain ⟨m, hm, j, hslot⟩ := h.held x (hhashed ▸ hx)
    exact ⟨m, hcount ▸ Nat.lt_succ_of_lt hm, j, hold m hm ▸ hslot⟩
  case lids =>
    intro x hx
    rw [hport]
    exact h.lids x (hhashed ▸ hx)
  case bytes =>
    intro m hm
    rcases hcases m hm with hlt | rfl
    · rw [hold m hlt]
      exact h.bytes m hlt
    · rw [hnew]
      have hregular : (ibMadF .nodeType).Regular := by decide
      have hlt : info.field .nodeType < 2 ^ 8 := getField_lt_width hregular info.bytes 0
      exact ⟨hlt, Nat.zero_lt_succ 255⟩

/-- The node of a NodeInfo, with the requests about it if it is new. -/
theorem Inventory.findOrCreateNode (path : PortId) (h : N.Inventory s pg f (t ::ₘ T))
    (hpg : N.PortGuids pg)
    (hnt : f.NodeTable) (hinfo : N.NodeInfoOf b info) (hguid : info.field64 .nodePortGuid = pg b) :
    let found := Scan.findOrCreateNode f path info
    N.Knows found.2.2 found.1 b.1 ∧ N.Inventory s pg found.2.2
      (t ::ₘ ((newQueries path found.1 found.2.1 (N.type b.1) : Multiset ScanRequest) + T)) := by
  unfold Scan.findOrCreateNode
  cases hfind : f.ibndFindNodeGuid (info.field64 .nodeGuid) with
  | some n =>
      obtain ⟨hn, hnode⟩ := hnt.find_iff.mp hfind
      refine ⟨⟨hn, hnode.trans hinfo.1⟩, ?_⟩
      change N.Inventory s pg f (t ::ₘ (0 + T))
      rwa [Multiset.zero_add]
  | none =>
      refine ⟨(knows_createNode f path hinfo.1).mpr (.inr ⟨rfl, rfl⟩), ?_⟩
      have hcreated := h.createNode path hpg hinfo hguid
      rwa [Multiset.add_cons] at hcreated

/-- A port that a NodeInfo came through is asked about, unless its node is a switch: then all its
ports have been asked for, or are. -/
theorem Inventory.recvNodeInfo {cbdata : Option (NodeRef × Nat)}
    (h : N.Inventory s pg scan.fabric (smp.request ::ₘ T)) (hpg : N.PortGuids pg)
    (hnt : scan.fabric.NodeTable) (hb : scan.fabric.TableBase) (hnt' : out.scan.fabric.NodeTable)
    (hm' : N.Mapped s out.scan.fabric) (hinfo : N.NodeInfoOf b (smpData mad))
    (hguid : (smpData mad).field64 .nodePortGuid = pg b) (harrives : N.Arrives s b)
    (hpos : N.type b.1 ≠ ibNodeSwitch → 0 < b.2) (hquiet : QuietRequest smp.request)
    (hok : scan.recvNodeInfo smp mad cbdata = .ok out)
    (hrem : ∀ m j, cbdata = some (m, j) → (out.scan.fabric.node m).ports j ≠ none) :
    N.Inventory s pg out.scan.fabric (out.requests + T) ∧
      ∃ p, N.PortAt out.scan.fabric p b := by
  obtain ⟨hn, hfound⟩ := h.findOrCreateNode smp.path hpg hnt hinfo hguid
  have hb₁ := Scan.tableBase_stable.findOrCreateNode hb smp.path (smpData mad)
  obtain ⟨p, he, hreqs⟩ := Scan.recvNodeInfo_entered hok
  have hlocal : (smpData mad).field .nodeLocalPort = b.2 := hinfo.2.2.2
  rw [hlocal, hguid] at he
  rw [hlocal] at hreqs
  generalize Scan.findOrCreateNode scan.fabric smp.path (smpData mad) = found at *
  have hn' : N.Knows out.scan.fabric found.1 b.1 := (knows_touched he.touched).mpr hn
  have htype : (found.2.2.node found.1).type = N.type b.1 :=
    (he.touched.type found.1).symm.trans (hm'.knows hn').1
  have hlist : out.requests = Scan.nodeQueries smp.path found.1 found.2.1 (N.type b.1) b.2 := by
    rcases hreqs with hreqs | ⟨m, j, hdata, hnone⟩
    · rw [hreqs, htype]
    · exact absurd hnone (hrem m j hdata)
  set last : List ScanRequest :=
    if N.type b.1 ≠ ibNodeSwitch then [queryPortInfo smp.path found.1 b.2] else []
  have hsplit : (out.requests : Multiset ScanRequest) + T =
      last + ((newQueries smp.path found.1 found.2.1 (N.type b.1) : Multiset ScanRequest) + T) := by
    have happend : out.requests =
        newQueries smp.path found.1 found.2.1 (N.type b.1) ++ last := hlist
    have hmove : ∀ A B C : Multiset ScanRequest, A + B + C = B + (A + C) := fun A B C => by
      rw [Multiset.add_comm A B, Multiset.add_assoc]
    rw [happend, ← Multiset.coe_add]
    exact hmove _ _ _
  have hslotp : ∀ {m j}, (out.scan.fabric.node m).ports j = some p → m = found.1 ∧ j = b.2 :=
    fun hslot => hnt'.slot_unique hslot he.slot
  refine ⟨?_, p, found.1, hn', he.slot⟩
  rw [hsplit]
  refine hfound.touch he.touched hb₁ (fun x hx => he.hashed ▸ hx)
    (fun x hx => .inl (he.hashed ▸ hx))
    (fun hin => ?_) (fun {m w j} hw hslot => ?_) (fun r hr => ?_) fun {m j} hd hwhy => ?_
  · rw [he.hashed] at hin
    obtain ⟨hlid, hlmc⟩ := he.lids p (hb₁.hashed_lt p hin)
    rw [hlid, hlmc]
    exact hfound.lids p hin
  · obtain ⟨rfl, rfl⟩ := hslotp hslot
    obtain rfl := hw.unique hn
    exact ⟨he.guid, .inr harrives⟩
  · by_cases hsw : N.type b.1 = ibNodeSwitch
    · simp [last, hsw] at hr
    · have hr' : r = queryPortInfo smp.path found.1 b.2 := by simpa [last, hsw] using hr
      subst hr'
      intro m hm
      obtain rfl : found.1 = m := CbData.node.inj hm
      have hcb : (queryPortInfo smp.path found.1 b.2).cb = .recvPortInfo :=
        if_pos (Nat.ne_of_gt (hpos hsw))
      refine ⟨fun _ => ⟨hn'.1, ?_, .inr ⟨p, he.slot⟩⟩, fun hcb' => nomatch hcb.symm.trans hcb'⟩
      rw [he.touched.numports]
      exact he.inArray
  · rcases hwhy with ha | ⟨hnot, hslot⟩
    · exact absurd ha (hquiet.not_awaits _ _)
    · obtain ⟨rfl, rfl⟩ := hslotp hslot
      have hsw : N.type b.1 ≠ ibNodeSwitch := fun hsw =>
        hnot ⟨hn.1, he.inArray, .inl (htype.trans hsw)⟩
      have hlast : last = [queryPortInfo smp.path found.1 b.2] := if_pos hsw
      refine .inr ⟨_, hlast ▸ List.mem_singleton_self _, rfl, .inr ⟨?_, rfl⟩⟩
      exact if_pos (Nat.ne_of_gt (hpos hsw))

end NodeInfo

section Replies
variable {origin : PortId} {scan : Scan} {smp : ScanSmp} {r : Recv} {out : Outcome} {a : V × Nat}

/-- A port in a slot of a known node. -/
def KnownSlot (N : Network V) (f : Fabric) (n : NodeRef) (v : V) (k : Nat) (p : PortRef) : Prop :=
  N.Knows f n v ∧ (f.node n).ports k = some p

theorem KnownSlot.touched {q : PortRef} (h : N.KnownSlot f n v k p) (ht : f.Touched f' q) :
    N.KnownSlot f' n v k p :=
  ⟨(knows_touched ht).mpr h.1, ht.kept h.2⟩

/-- Such a port stays where it is. -/
theorem knownSlot_stable (N : Network V) (n : NodeRef) (v : V) (k : Nat) (p : PortRef) :
    Scan.FabricStable fun f => N.KnownSlot f n v k p where
  node {f m g} h hg := by
    have hfill := Fabric.fills_modifyNode f m hg
    exact ⟨(knows_fills hfill).mpr h.1, hfill.slots h.2⟩
  extInfo _ h := h.touched (Fabric.touched_modifyPort _ _ _)
  nodeInfoPort h hok := h.touched (Fabric.touched_ensurePort hok)
  portInfo info h hok := h.touched
    ((Fabric.touched_ensurePort hok).trans (Fabric.touched_storePortInfo _ _ _ _ info).1)
  hash h _ hok := h.touched (Fabric.touched_addToPortguidHash hok).1
  lids _ h := h
  link {f x y} h _ _ := h.touched (Fabric.touched_linkPorts f x y p)
  create {f path info} h _ := by
    obtain ⟨⟨hlt, hguid⟩, hslot⟩ := h
    obtain ⟨-, hcount, hnode, -, -⟩ := Fabric.createNode_node f path info
    have hold : (Scan.createNode f path info).2.node n = f.node n := by
      rw [hnode, Function.update_of_ne (Nat.ne_of_lt hlt)]
    exact ⟨⟨hcount ▸ Nat.lt_succ_of_lt hlt, hold ▸ hguid⟩, hold ▸ hslot⟩
  origin _ _ h := h
  hops _ h := h

theorem KnownSlot.reply (h : N.KnownSlot scan.fabric n v k p) (hok : scan.reply smp r = .ok out) :
    N.KnownSlot out.scan.fabric n v k p :=
  (knownSlot_stable N n v k p).reply h
    (fun _ _ _ hf _ _ => hf.touched (Fabric.touched_modifyPort _ _ _)) hok

/-- A reply that only fills in data of a node. -/
theorem Inventory.nodeData (h : N.Inventory s pg f (t ::ₘ T)) (hb : f.TableBase) {g : Node → Node}
    (hg : ∀ x, (g x).SameShape x) (hbytes : ∀ x, x.FitsBytes → (g x).FitsBytes)
    (hquiet : QuietRequest t) :
    N.Inventory s pg (f.modifyNode n g) (([] : List ScanRequest) + T) :=
  h.quiet (Fabric.touched_modifyNode f n _ hg hbytes) hb (hb.toLinked.modifyNode fun x => (hg x).1)
    rfl hquiet fun _ hr => absurd hr List.not_mem_nil

/-- A link followed from a port of the table. -/
theorem Inventory.explore (h : N.Inventory s pg scan.fabric (smp.request ::ₘ T))
    (hb : scan.fabric.TableBase) (hquiet : QuietRequest smp.request)
    (hset : ∀ q, scan.fabric.Touched f q) (hl : f.Linked)
    (hhashed : f.hashed = scan.fabric.hashed) :
    let explored := Scan.exploreLink { scan with fabric := f } smp.path n p k
    N.Inventory s pg explored.1.fabric (explored.2 + T) := by
  intro explored
  obtain ⟨⟨m, hm⟩, -⟩ := Scan.exploreLink_cases { scan with fabric := f } smp.path n p k
  have hexp : explored.1.fabric = { f with maxhopsDiscovered := m } :=
    congrArg Scan.fabric hm
  have hreqs : ∀ r ∈ explored.2, QuietRequest r := quiet_exploreLink _ _ _ _ _
  rw [hexp]
  exact h.quiet ((hset _).trans (touched_hops f _ m)) hb (hl.congr rfl rfl fun _ => rfl) hhashed
    hquiet hreqs

theorem Inventory.extPortInfo (h : N.Inventory s pg scan.fabric (smp.request ::ₘ T))
    (hb : scan.fabric.TableBase) (hquiet : QuietRequest smp.request)
    (hok : scan.recvMlnxExtPortInfo smp r.mad n = .ok out) :
    N.Inventory s pg out.scan.fabric (out.requests + T) := by
  obtain ⟨-, ⟨-, rfl⟩ | ⟨p, -, -, rfl⟩⟩ := Scan.recvMlnxExtPortInfo_ok hok
  · exact h.quiet (.refl _ _) hb hb.toLinked rfl hquiet fun _ hr => absurd hr List.not_mem_nil
  · refine h.explore hb hquiet (fun q => ?_) (hb.toLinked.modifyPort fun _ => rfl) rfl
    exact .of_node rfl ⟨rfl, rfl, rfl⟩ rfl fun x _ =>
      Fabric.sameEntry_modifyPort scan.fabric p x fun _ => ⟨rfl, rfl, rfl⟩

theorem Inventory.extPortInfoErr (h : N.Inventory s pg scan.fabric (smp.request ::ₘ T))
    (hb : scan.fabric.TableBase) (hquiet : QuietRequest smp.request)
    (hok : scan.mlnxExtPortInfoErr smp r.mad n = .ok out) :
    out.scan.fabric.nodeCount = scan.fabric.nodeCount ∧
      N.Inventory s pg out.scan.fabric (out.requests + T) := by
  obtain ⟨-, ⟨-, rfl⟩ | ⟨p, -, -, rfl⟩⟩ := Scan.mlnxExtPortInfoErr_ok hok
  · exact ⟨rfl, h.quiet (.refl _ _) hb hb.toLinked rfl hquiet fun _ hr =>
      absurd hr List.not_mem_nil⟩
  · obtain ⟨⟨m, hm⟩, -⟩ := Scan.exploreLink_cases scan smp.path n p (Scan.attrModPort r.mad)
    refine ⟨?_, h.explore hb hquiet (.refl _) hb.toLinked rfl⟩
    exact (congrArg (fun x : Scan => x.fabric.nodeCount) hm).trans rfl

/-- The inventory, with the port hash and the start port. -/
structure Stocked (N : Network V) (s : V × Nat) (pg : V × Nat → UInt64) (scan : Scan)
    (T : Multiset ScanRequest) : Prop where
  inventory : N.Inventory s pg scan.fabric T
  hashed : scan.fabric.Hashed
  home : scan.fabric.nodeCount = 0 ∨ ∃ p, N.PortAt scan.fabric p s

/-- A NodeInfo that comes through a known port reports the GUID that the port has. -/
theorem Inventory.guidOk (h : N.Inventory s pg scan.fabric T) (hnt : scan.fabric.NodeTable)
    (harrival : ∀ cbdata, smp.cbData = .niCbdata cbdata →
      ∃ b, N.NodeInfoOf b (smpData r.mad) ∧ (smpData r.mad).field64 .nodePortGuid = pg b) :
    Scan.GuidOk scan smp r := by
  unfold Scan.GuidOk
  cases hdata : smp.cbData with
  | node n => trivial
  | niCbdata cbdata =>
      intro _ m p hfind hslot _
      obtain ⟨b, hinfo, hguid⟩ := harrival cbdata hdata
      obtain ⟨hm, hnode⟩ := hnt.find_iff.mp hfind
      rw [hinfo.2.2.2] at hslot
      rw [Fabric.bucket, hguid, h.guid ⟨hm, hnode.trans hinfo.1⟩ hslot]

/-- A reply about a node keeps the inventory. -/
theorem Inventory.nodeReply (h : N.Inventory s pg scan.fabric (smp.request ::ₘ T))
    (hpg : N.PortGuids pg) (hm : N.Mapped s scan.fabric) (hb : scan.fabric.TableBase)
    (hnt' : out.scan.fabric.NodeTable) {b : V × Nat}
    (ht : N.NodeTask s origin scan.fabric smp.request n b) (hdata : smp.cbData = .node n)
    (hk : Scan.attrModPort r.mad = smp.rpc.attrMod)
    (hok : scan.callback smp.cb smp r.mad (.node n) = .ok out) :
    N.Inventory s pg out.scan.fabric (out.requests + T) := by
  cases hcb : smp.cb with
  | recvNodeInfo => exact absurd hcb ht.cb
  | recvNodeDesc =>
      rw [hcb] at hok
      obtain rfl := Except.ok.inj hok
      have hquiet : QuietRequest smp.request := quiet_of_cb hcb (by decide) (by decide)
      exact h.nodeData (g := fun node => { node with nodedesc := smpData r.mad }) hb
        (fun _ => ⟨rfl, rfl, rfl, rfl, rfl, rfl⟩) (fun _ hx => hx) hquiet
  | recvSwitchInfo =>
      rw [hcb] at hok
      obtain rfl := Except.ok.inj hok
      have hquiet : QuietRequest smp.request := quiet_of_cb hcb (by decide) (by decide)
      have hregular : (ibMadF .swEnhancedPort0).Regular := by decide
      have hlt : (smpData r.mad).field .swEnhancedPort0 < 2 ^ 1 :=
        getField_lt_width hregular (smpData r.mad).bytes 0
      refine h.nodeData (g := fun node => { node with
        switchinfo := smpData r.mad
        smaenhsp0 := (smpData r.mad).field .swEnhancedPort0 }) hb ?_ ?_ hquiet
      · exact fun _ => ⟨rfl, rfl, rfl, rfl, rfl, rfl⟩
      · exact fun _ hx => ⟨hx.1, hlt.trans (by decide)⟩
  | recvPort0Info =>
      rw [hcb] at hok
      exact h.recvPort0Info hpg hm hnt' hb ht.knows hdata hcb hk hok
  | recvPortInfo =>
      rw [hcb] at hok
      exact h.recvPortInfo hpg hm hnt' hb ht.knows hdata hcb hk hok
  | recvMlnxExtPortInfo =>
      rw [hcb] at hok
      exact h.extPortInfo hb (quiet_of_cb hcb (by decide) (by decide)) hok

/-- A reply without error status keeps it. -/
theorem Stocked.reply {T₀ T₁ : Multiset ScanRequest} (hpg : N.PortGuids pg)
    (hpos : N.type s.1 ≠ ibNodeSwitch → 0 < s.2) (hnt : scan.fabric.NodeTable)
    (hb : scan.fabric.TableBase) (htrail : N.OnTrail s origin scan (smp.request ::ₘ T₀))
    (htrail' : N.OnTrail s origin out.scan T₁) (h : N.Stocked s pg scan (smp.request ::ₘ T))
    (hans : N.Answers s origin smp r) (hguid : N.ReportsGuid s origin pg smp r)
    (hok : scan.reply smp r = .ok out) : N.Stocked s pg out.scan (out.requests + T) := by
  have hnt' : out.scan.fabric.NodeTable :=
    Scan.nodeTable_stable.reply hnt (fun _ _ _ hf _ _ => Scan.nodeTable_withPortGuid _ hf) hok
  obtain ⟨hclean, hmod, hreport⟩ := hans
  have hok' := hok
  rw [Scan.reply_of_clean hclean] at hok'
  -- a NodeInfo arrives through a port of the network
  have hnodeinfo : ∀ cbdata b, smp.cbData = .niCbdata cbdata → smp.cb = .recvNodeInfo →
      smp.rpc.attrId = ibAttrNodeInfo → N.arrival s origin smp.path = some b → N.Arrives s b →
      (N.type b.1 ≠ ibNodeSwitch → 0 < b.2) →
      (∀ m j, cbdata = some (m, j) → (out.scan.fabric.node m).ports j ≠ none) →
      ((out.scan.fabric.nodeCount = 0 ∨ ∃ p, N.PortAt out.scan.fabric p s) →
        N.Stocked s pg out.scan (out.requests + T)) ∧ ∃ p, N.PortAt out.scan.fabric p b := by
    intro cbdata b hdata hcb hid harrival harrives hb0 hrem
    rw [hdata, hcb] at hok'
    have hinfo := (hreport b harrival).1 hid
    have hpguid := hguid hid b harrival
    have hm' : N.Mapped s out.scan.fabric := by
      rcases htrail' with ⟨hinit, -⟩ | hfrontier
      · have hzero : out.scan.fabric.nodeCount = 0 := congrArg Fabric.nodeCount hinit
        obtain ⟨p, he, -⟩ := Scan.recvNodeInfo_entered hok'
        have hlt := (h.inventory.findOrCreateNode smp.path hpg hnt hinfo hpguid).1.1
        rw [← he.touched.nodeCount, hzero] at hlt
        exact absurd hlt (Nat.not_lt_zero _)
      · exact hfrontier.mapped
    have hquiet : QuietRequest smp.request := quiet_of_cb hcb (by decide) (by decide)
    obtain ⟨hinv, hport⟩ := h.inventory.recvNodeInfo hpg hnt hb hnt' hm' hinfo hpguid harrives hb0
      hquiet hok' hrem
    have hguidok : Scan.GuidOk scan smp r :=
      h.inventory.guidOk hnt fun _ _ => ⟨b, hinfo, hpguid⟩
    refine ⟨fun hhome => ?_, hport⟩
    exact ⟨hinv, Scan.hashed_reply ⟨hb, h.hashed⟩ hguidok hok, hhome⟩
  rcases htrail with ⟨-, hle⟩ | hfrontier
  · have hreq : queryNodeInfo origin none = smp.request :=
      (Multiset.mem_singleton.mp (Multiset.mem_of_le hle (Multiset.mem_cons_self _ _))).symm
    have hpath : smp.path = origin := congrArg Request.portid hreq.symm
    have harrival : N.arrival s origin smp.path = some s := by
      rw [hpath, arrival, DrPath.hops_of_le (Nat.le_refl _), walk_nil]
    obtain ⟨hstocked, hport⟩ := hnodeinfo none s (congrArg Request.cbData hreq.symm)
      (congrArg Request.cb hreq.symm) (congrArg Request.attrId hreq.symm) harrival (.inl rfl) hpos
      fun m j hrem => absurd hrem (Option.some_ne_none (m, j)).symm
    exact hstocked (.inr hport)
  · have hhome : out.scan.fabric.nodeCount = 0 ∨ ∃ p, N.PortAt out.scan.fabric p s := by
      rcases h.home with hzero | ⟨p, hp⟩
      · obtain ⟨n, hn, -⟩ := hfrontier.mapped.origin
        exact absurd hn.1 (hzero ▸ Nat.not_lt_zero n)
      · obtain ⟨n, hn, hslot⟩ := hp
        exact .inr ⟨p, n, KnownSlot.reply ⟨hn, hslot⟩ hok⟩
    have htask := hfrontier.tasks smp.request (Multiset.mem_cons_self _ _)
    unfold TaskOk at htask
    cases hdata : smp.request.cbData with
    | niCbdata rem =>
        rw [hdata] at htask
        cases rem with
        | none => exact htask.elim
        | some rem =>
            obtain ⟨n, k⟩ := rem
            obtain ⟨v, b, ht⟩ := htask
            have hreach := (hfrontier.mapped.knows ht.knows).2.2
            refine (hnodeinfo (some (n, k)) b hdata ht.cb ht.attrId ht.routed.arrival
              (.inr ⟨(v, k), hreach, ht.explores, ht.peer⟩)
              (fun _ => (N.peer_port (N.peer_symm ht.peer)).1) fun m j hrem hnone => ?_).1 hhome
            obtain ⟨rfl, rfl⟩ := Prod.mk.inj (Option.some.inj hrem)
            obtain ⟨p, m₀, hm₀, hslot₀⟩ := ht.port
            obtain rfl : m₀ = n := hm₀.inj hnt ht.knows
            have hslot := (KnownSlot.reply ⟨hm₀, hslot₀⟩ hok).2
            rw [hnone] at hslot
            cases hslot
    | node n =>
        rw [hdata] at htask
        obtain ⟨b, ht⟩ := htask
        have hk : Scan.attrModPort r.mad = smp.rpc.attrMod := by
          rw [Scan.attrModPort, hmod]
          exact Nat.mod_eq_of_lt (Nat.lt_of_le_of_lt ht.port (N.numports_lt b.1))
        rw [show smp.cbData = _ from hdata] at hok'
        have hguidok : Scan.GuidOk scan smp r :=
          h.inventory.guidOk hnt fun cbdata hdata' =>
            CbData.noConfusion (hdata.symm.trans hdata')
        exact ⟨h.inventory.nodeReply hpg hfrontier.mapped hb hnt' ht hdata hk hok',
          Scan.hashed_reply ⟨hb, h.hashed⟩ hguidok hok, hhome⟩

theorem cb_of_attrId {cb : ScanCb} (h : cb.attrId = ibAttrMlnxExtPortInfo) :
    cb = .recvMlnxExtPortInfo := by
  cases cb with
  | recvMlnxExtPortInfo => rfl
  | _ => exact absurd h (by decide)

/-- A reply with an error status brings nothing into the table: what was asked for stays due. -/
theorem Stocked.errorReply (hb : scan.fabric.TableBase) (hattr : smp.rpc.attrId = smp.cb.attrId)
    (h : N.Stocked s pg scan (smp.request ::ₘ T)) (hnot : ¬ isClean r)
    (hok : scan.reply smp r = .ok out) :
    (out.requests = [] ∧ N.Stocked s pg out.scan (smp.request ::ₘ T)) ∨
      N.Stocked s pg out.scan (out.requests + T) := by
  have hok' := hok
  rw [Scan.reply_of_not_clean hnot] at hok'
  by_cases hext : smp.rpc.attrId = ibAttrMlnxExtPortInfo
  · rw [if_pos hext] at hok'
    have hcb : smp.cb = .recvMlnxExtPortInfo := cb_of_attrId (hattr.symm.trans hext)
    have hquiet : QuietRequest smp.request := quiet_of_cb hcb (by decide) (by decide)
    have hguidok : Scan.GuidOk scan smp r := by
      unfold Scan.GuidOk
      split
      · exact fun hclean => absurd hclean hnot
      · trivial
    cases hdata : smp.cbData with
    | niCbdata rem =>
        rw [hdata] at hok'
        cases hok'
    | node n =>
        rw [hdata] at hok'
        obtain ⟨hcount, hinv⟩ := h.inventory.extPortInfoErr hb hquiet hok'
        refine .inr ⟨hinv, Scan.hashed_reply ⟨hb, h.hashed⟩ hguidok hok, ?_⟩
        refine h.home.imp hcount.trans fun ⟨p, m, hm, hslot⟩ => ⟨p, m, ?_⟩
        exact KnownSlot.reply ⟨hm, hslot⟩ hok
  · rw [if_neg hext] at hok'
    obtain rfl := Except.ok.inj hok'
    exact .inl ⟨rfl, h⟩

end Replies

end Network
end InfinibandDiags
