import InfinibandDiags.Discover.Expand

/-! How a NodeInfo reply moves the frontier: a node is found or created, the two ports are
linked, and the first time the node is asked about itself. -/
namespace InfinibandDiags
open Engine

namespace Fabric
variable {f : Fabric} {p q : PortRef}

/-- Linking touches nothing but links. -/
theorem linkPorts_info (f : Fabric) (p q x : PortRef) :
    ((f.linkPorts p q).port x).info = (f.port x).info ∧
      (f.linkPorts p q).fromNode = f.fromNode ∧ (f.linkPorts p q).fromPortnum = f.fromPortnum := by
  have hset : ∀ (f : Fabric) r v,
      ((f.modifyPort r fun port => { port with remoteport := v }).port x).info =
        (f.port x).info := by
    intro f r v
    by_cases hx : x = r <;> simp [modifyPort, hx]
  have hrelease : ∀ (f : Fabric) r, ((f.release r).port x).info = (f.port x).info ∧
      (f.release r).fromNode = f.fromNode ∧ (f.release r).fromPortnum = f.fromPortnum := by
    intro f r
    unfold release
    split
    · exact ⟨hset f _ none, rfl, rfl⟩
    · exact ⟨rfl, rfl, rfl⟩
  obtain ⟨hinfo₁, hnode₁, hport₁⟩ := hrelease f p
  obtain ⟨hinfo₂, hnode₂, hport₂⟩ := hrelease (f.release p) q
  exact ⟨(hset _ q _).trans ((hset _ p _).trans (hinfo₂.trans hinfo₁)), hnode₂.trans hnode₁,
    hport₂.trans hport₁⟩

end Fabric

namespace Network
variable {V : Type} {N : Network V} {s : V × Nat} {origin : PortId} {scan : Scan} {f f' : Fabric}
  {n m : NodeRef} {v w : V} {p q : PortRef} {a b : V × Nat} {path : PortId}

section LinkPorts

theorem knows_linkPorts : N.Knows (f.linkPorts p q) n v ↔ N.Knows f n v := by
  have hs := Fabric.sameNodes_linkPorts f p q
  rw [Knows, Knows, hs.nodeCount, hs.guid]

theorem portAt_linkPorts {x : PortRef} : N.PortAt (f.linkPorts p q) x a ↔ N.PortAt f x a := by
  unfold PortAt
  rw [(Fabric.node_linkPorts f p q).1]
  exact exists_congr fun n => and_congr_left fun _ => knows_linkPorts

/-- Linking two ends of a cable undoes no link: whatever was linked to either was the other. -/
theorem remoteport_linkPorts_keep (hnt : f.NodeTable) (hm : N.Mapped s f) (hpeer : N.peer a = some b)
    (hp : N.PortAt f p b) (hq : N.PortAt f q a) {x y : PortRef} (hx : f.remoteport x = some y) :
    (f.linkPorts p q).remoteport x = some y := by
  obtain ⟨c, d, hcd, -, hxc, hyd⟩ := hm.links hx
  rw [Fabric.remoteport_linkPorts, Pairing.relink_apply hnt.symmetric]
  by_cases hxq : x = q
  · subst hxq
    obtain rfl : c = a := hxc.unique hnt hq
    obtain rfl : d = b := Option.some.inj (hcd.symm.trans hpeer)
    rw [if_pos rfl, hp.port_inj hnt hyd]
  · rw [if_neg hxq]
    by_cases hxp : x = p
    · subst hxp
      obtain rfl : c = b := hxc.unique hnt hp
      obtain rfl : d = a := Option.some.inj (hcd.symm.trans (N.peer_symm hpeer))
      rw [if_pos rfl, hq.port_inj hnt hyd]
    · rw [if_neg hxp, hx, if_neg]
      rintro (hy | hy)
      · obtain rfl : y = p := Option.some.inj hy
        obtain rfl : d = b := hyd.unique hnt hp
        obtain rfl : c = a := Option.some.inj ((N.peer_symm hcd).symm.trans (N.peer_symm hpeer))
        exact hxq (hxc.port_inj hnt hq)
      · obtain rfl : y = q := Option.some.inj hy
        obtain rfl : d = a := hyd.unique hnt hq
        obtain rfl : c = b := Option.some.inj ((N.peer_symm hcd).symm.trans hpeer)
        exact hxp (hxc.port_inj hnt hp)

/-- The two ends of a cable, linked. -/
theorem linked_cable (hnt : f.NodeTable) (hm : N.Mapped s f) (hpeer : N.peer a = some b)
    (hexp : N.Explores s a) (hp : N.PortAt f p b) (hq : N.PortAt f q a) :
    Extends N s f (f.linkPorts p q) ∧ N.Mapped s (f.linkPorts p q) ∧
      N.Joined (f.linkPorts p q) a ∧ N.Joined (f.linkPorts p q) b := by
  have hkeep : ∀ {x y}, f.remoteport x = some y → (f.linkPorts p q).remoteport x = some y :=
    remoteport_linkPorts_keep hnt hm hpeer hp hq
  have hjoined : ∀ {c}, N.Joined f c → N.Joined (f.linkPorts p q) c := by
    rintro c ⟨x, y, hx, hy⟩
    exact ⟨x, y, portAt_linkPorts.mpr hx, hkeep hy⟩
  have hrelink := Fabric.remoteport_linkPorts f p q
  have hends : (f.linkPorts p q).remoteport q = some p ∧
      (f.linkPorts p q).remoteport p = some q := by
    rw [hrelink, Pairing.relink_apply hnt.symmetric, Pairing.relink_apply hnt.symmetric]
    refine ⟨if_pos rfl, ?_⟩
    by_cases hpq : p = q
    · rw [if_pos hpq, hpq]
    · rw [if_neg hpq, if_pos rfl]
  refine ⟨⟨knows_linkPorts.mpr, portAt_linkPorts.mpr, hjoined, fun {x c} hx => ?_⟩,
    ⟨fun n hn => ?_, ?_, fun {x y} hxy => ?_, fun hca n v hn hv => ?_⟩,
    ⟨q, p, portAt_linkPorts.mpr hq, hends.1⟩, ⟨p, q, portAt_linkPorts.mpr hp, hends.2⟩⟩
  · obtain ⟨hx, hphys, hlocal⟩ := hx
    have hinfo := (Fabric.linkPorts_info f p q x).1
    refine ⟨portAt_linkPorts.mpr hx, ?_, fun hsw => ?_⟩
    · rw [hinfo]
      exact hphys
    · rw [hinfo]
      exact (hlocal hsw).mono hjoined
  · have hs := Fabric.sameNodes_linkPorts f p q
    rw [hs.nodeCount] at hn
    rw [hs.guid, hs.type, hs.numports]
    exact hm.node n hn
  · obtain ⟨n, hn, hfrom, hport⟩ := hm.origin
    obtain ⟨-, hnode, hnum⟩ := Fabric.linkPorts_info f p q p
    exact ⟨n, knows_linkPorts.mpr hn, hnode.trans hfrom, hnum.trans hport⟩
  · rw [hrelink, Pairing.relink_apply hnt.symmetric] at hxy
    by_cases hxq : x = q
    · rw [if_pos hxq] at hxy
      obtain rfl := Option.some.inj hxy
      exact ⟨a, b, hpeer, .inl hexp, portAt_linkPorts.mpr (hxq ▸ hq), portAt_linkPorts.mpr hp⟩
    · rw [if_neg hxq] at hxy
      by_cases hxp : x = p
      · rw [if_pos hxp] at hxy
        obtain rfl := Option.some.inj hxy
        exact ⟨b, a, N.peer_symm hpeer, .inr hexp, portAt_linkPorts.mpr (hxp ▸ hp),
          portAt_linkPorts.mpr hq⟩
      · rw [if_neg hxp] at hxy
        split at hxy
        · cases hxy
        · obtain ⟨c, d, hcd, hexp', hx, hy⟩ := hm.links hxy
          exact ⟨c, d, hcd, hexp', portAt_linkPorts.mpr hx, portAt_linkPorts.mpr hy⟩
  · obtain ⟨b', m, hb', hm'⟩ := hm.gate hca n v (knows_linkPorts.mp hn) hv
    exact ⟨b', m, hb', knows_linkPorts.mpr hm'⟩

end LinkPorts

section Create
variable {info : SmpData}

theorem knows_createNode (f : Fabric) (path : PortId) (hguid : info.field64 .nodeGuid = N.guid w) :
    N.Knows (Scan.createNode f path info).2 n v ↔
      N.Knows f n v ∨ (n = f.nodeCount ∧ v = w) := by
  obtain ⟨-, hcount, hnode, -, -⟩ := Fabric.createNode_node f path info
  unfold Knows
  rw [hcount]
  by_cases hn : n = f.nodeCount
  · subst hn
    rw [hnode, Function.update_self]
    simp only [hguid, Nat.lt_succ_self, true_and, Nat.lt_irrefl, false_and, false_or]
    exact ⟨fun h => N.guid_injective h.symm, fun h => h ▸ rfl⟩
  · have hlt : n < f.nodeCount + 1 ↔ n < f.nodeCount :=
      Nat.lt_succ_iff_lt_or_eq.trans (or_iff_left hn)
    rw [hlt, hnode, Function.update_of_ne hn]
    simp [hn]

theorem extends_createNode (hguid : info.field64 .nodeGuid = N.guid w) :
    Extends N s f (Scan.createNode f path info).2 := by
  obtain ⟨-, hcount, hnode, hport, -⟩ := Fabric.createNode_node f path info
  have hknows : ∀ {n v}, N.Knows f n v → N.Knows (Scan.createNode f path info).2 n v :=
    fun h => (knows_createNode f path hguid).mpr (.inl h)
  have hat : ∀ {p a}, N.PortAt f p a → N.PortAt (Scan.createNode f path info).2 p a := by
    rintro p a ⟨n, hn, hslot⟩
    refine ⟨n, hknows hn, ?_⟩
    rw [hnode, Function.update_of_ne (Nat.ne_of_lt hn.1)]
    exact hslot
  have hjoined : ∀ {a}, N.Joined f a → N.Joined (Scan.createNode f path info).2 a := by
    rintro a ⟨p, q, hp, hq⟩
    refine ⟨p, q, hat hp, ?_⟩
    rw [Fabric.remoteport, hport]
    exact hq
  refine ⟨hknows, hat, hjoined, fun {p a} hrep => ⟨hat hrep.1, ?_, fun hsw => ?_⟩⟩
  · rw [hport]
    exact hrep.2.1
  · rw [hport]
    exact (hrep.2.2 hsw).mono hjoined

/-- A node met for the first time, at the other end of a cable that is followed. -/
theorem mapped_createNode (hm : N.Mapped s f) (hinfo : N.NodeInfoOf b info)
    (hn : N.Knows f n a.1) (hexp : N.Explores s a) (hpeer : N.peer a = some b) :
    N.Mapped s (Scan.createNode f path info).2 := by
  obtain ⟨hguid, htype, hports, -⟩ := hinfo
  obtain ⟨-, hcount, hnode, hport, -⟩ := Fabric.createNode_node f path info
  have hext : Extends N s f (Scan.createNode f path info).2 := extends_createNode hguid
  have hknows := fun x u => knows_createNode (n := x) (v := u) f path hguid
  have hfrom : (Scan.createNode f path info).2.fromNode = f.fromNode ∧
      (Scan.createNode f path info).2.fromPortnum = f.fromPortnum := by
    unfold Scan.createNode Fabric.addToTypeList Fabric.addToNodeguidHash
    dsimp only
    split_ifs <;> exact ⟨rfl, rfl⟩
  refine ⟨fun x hx => ?_, ?_, fun {x y} hxy => ?_, fun hca x u hx hu => ?_⟩
  · rw [hcount] at hx
    rcases Nat.lt_succ_iff_lt_or_eq.mp hx with hx | rfl
    · rw [hnode, Function.update_of_ne (Nat.ne_of_lt hx)]
      exact hm.node x hx
    · rw [hnode, Function.update_self]
      obtain ⟨d, hd⟩ := (hm.knows hn).2.2
      exact ⟨b.1, hguid, htype, hports, d + 1, .hop hd hexp hpeer⟩
  · obtain ⟨x, hx, hnode', hport'⟩ := hm.origin
    exact ⟨x, hext.knows hx, hfrom.1.trans hnode', hfrom.2.trans hport'⟩
  · rw [Fabric.remoteport, hport] at hxy
    obtain ⟨c, d, hcd, hexp', hxc, hyd⟩ := hm.links hxy
    exact ⟨c, d, hcd, hexp', hext.portAt hxc, hext.portAt hyd⟩
  · rcases (hknows x u).mp hx with hx | ⟨rfl, rfl⟩
    · obtain ⟨b', y, hb', hy⟩ := hm.gate hca x u hx hu
      exact ⟨b', y, hb', hext.knows hy⟩
    · -- the cable that leads to a first node behind an adapter is that of its start port
      by_cases ha : a.1 = s.1
      · have hs : a = s := hexp.resolve_left (ha ▸ hca)
        exact ⟨b, f.nodeCount, hs ▸ hpeer, (hknows _ _).mpr (.inr ⟨rfl, rfl⟩)⟩
      · obtain ⟨b', y, hb', hy⟩ := hm.gate hca n a.1 hn ha
        exact ⟨b', y, hb', hext.knows hy⟩

/-- The node of a NodeInfo, known from before or new. -/
structure Found (N : Network V) (s : V × Nat) (f f' : Fabric) (path : PortId) (m : NodeRef)
    (isNew : Bool) (w : V) : Prop where
  table : f'.NodeTable
  mapped : N.Mapped s f'
  grows : Extends N s f f'
  knows : N.Knows f' m w
  fresh : isNew = true → ∀ x, ¬ N.Knows f x w
  others : ∀ {x u}, N.Knows f' x u → N.Knows f x u ∨ (u = w ∧ isNew = true)
  paths : ∀ x < f'.nodeCount, (x < f.nodeCount ∧ (f'.node x).pathPortid = (f.node x).pathPortid) ∨
    (x = m ∧ (f'.node x).pathPortid = path)

theorem found_findOrCreateNode (path : PortId) (hnt : f.NodeTable) (hm : N.Mapped s f) (hinfo : N.NodeInfoOf b info)
    (hn : N.Knows f n a.1) (hexp : N.Explores s a) (hpeer : N.peer a = some b) :
    let found := Scan.findOrCreateNode f path info
    N.Found s f found.2.2 path found.1 found.2.1 b.1 := by
  unfold Scan.findOrCreateNode
  cases hfind : f.ibndFindNodeGuid (info.field64 .nodeGuid) with
  | some x =>
      obtain ⟨hx, hguid⟩ := hnt.find_iff.mp hfind
      exact ⟨hnt, hm, ⟨id, id, id, id⟩, ⟨hx, hguid.trans hinfo.1⟩, fun h => (nomatch h), .inl,
        fun x hx => .inl ⟨hx, rfl⟩⟩
  | none =>
      have hknows := fun x u => knows_createNode (n := x) (v := u) f path hinfo.1
      refine ⟨hnt.createNode hfind, mapped_createNode hm hinfo hn hexp hpeer,
        extends_createNode hinfo.1, (hknows _ _).mpr (.inr ⟨rfl, rfl⟩), fun _ x hx => ?_,
        fun {x u} hx => ?_, fun x hx => ?_⟩
      · exact hnt.find_none hfind hx.1 (hx.2.trans hinfo.1.symm)
      · exact ((hknows x u).mp hx).imp_right fun h => ⟨h.2, rfl⟩
      · obtain ⟨-, hcount, hnode, -, -⟩ := Fabric.createNode_node f path info
        dsimp only at hx ⊢
        rw [hcount] at hx
        rw [hnode]
        rcases Nat.lt_succ_iff_lt_or_eq.mp hx with hlt | rfl
        · rw [Function.update_of_ne (Nat.ne_of_lt hlt)]
          exact .inl ⟨hlt, rfl⟩
        · rw [Function.update_self]
          exact .inr ⟨rfl, rfl⟩

end Create

/-- The port of a NodeInfo, in its slot and with the GUID reported. -/
theorem fills_nodeInfoPort (scan : Scan) {info : SmpData} (guid : UInt64) {f₂ : Fabric}
    (hl : (Scan.findOrCreateNode scan.fabric path info).2.2.Linked)
    (h : scan.nodeInfoPort path info = .ok (p, f₂)) :
    let found := Scan.findOrCreateNode scan.fabric path info
    Fabric.Fills found.2.2 (Scan.withPortGuid f₂ p guid) ∧
      ((Scan.withPortGuid f₂ p guid).node found.1).ports (info.field .nodeLocalPort) = some p ∧
      (∀ x, found.2.2.IsPort x →
        ((Scan.withPortGuid f₂ p guid).port x).info = (found.2.2.port x).info) ∧
      info.field .nodeLocalPort ≤ (found.2.2.node found.1).numports := by
  have hslot := Scan.ensurePort_slot (h := h)
  have hinfo : ∀ x, ((Scan.withPortGuid f₂ p guid).port x).info = (f₂.port x).info := by
    intro x
    by_cases hx : x = p <;> simp [Scan.withPortGuid, Fabric.modifyPort, hx]
  have hguid : Fabric.Fills f₂ (Scan.withPortGuid f₂ p guid) :=
    Fabric.fills_modifyPort f₂ p fun _ => rfl
  obtain ⟨hk, ⟨-, rfl⟩ | ⟨hnone, -, rfl⟩⟩ := Scan.ensurePort_ok h
  · exact ⟨hguid, hslot, fun x _ => hinfo x, hk⟩
  · refine ⟨(Fabric.fills_newPort hl hnone rfl).trans hguid, hslot, fun x hx => ?_, hk⟩
    rw [hinfo, Fabric.port_newPort, if_neg (Nat.ne_of_lt (hl.isPort hx))]

section Queries

/-- What `recv_node_info` asks about a node it arrived at through `b`. -/
theorem nodeQueries_ok {isNew : Bool} (hn : N.Knows f m b.1) (hroute : N.Routed s origin path b)
    (htrail : N.Trail s f (path.drpath.hops origin.drpath.cnt) b)
    (hport : b.2 ≤ N.numports b.1)
    (hentered : isNew = true → N.type b.1 = ibNodeSwitch → N.Entered s f b)
    (hhome : N.type s.1 ≠ ibNodeSwitch → b.1 = s.1 →
      path.drpath.cnt = origin.drpath.cnt ∨ (isNew = false ∧ b ≠ s ∧ b.2 ≠ 0)) :
    ∀ r ∈ Scan.nodeQueries path m isNew (N.type b.1) b.2, N.TaskOk s origin f r := by
  have hcnt : isNew = true → N.type s.1 ≠ ibNodeSwitch → b.1 = s.1 →
      path.drpath.cnt = origin.drpath.cnt := by
    intro hnew hca hb
    refine (hhome hca hb).resolve_right fun h => ?_
    rw [hnew] at h
    cases h.1
  intro r hr
  rcases Scan.mem_nodeQueries.mp hr with ⟨hnew, rfl | ⟨hsw, rfl | rfl⟩⟩ | ⟨hca, rfl⟩
  · exact ⟨b, fun h => (nomatch h), fun h => h.elim (nomatch ·) (nomatch ·), hn, hroute,
      htrail, Nat.zero_le _, hentered hnew, fun hca hb _ => hcnt hnew hca hb, fun h => (nomatch h)⟩
  · exact ⟨b, fun h => (nomatch h), fun h => h.elim (nomatch ·) (nomatch ·), hn, hroute,
      htrail, Nat.zero_le _, hentered hnew, fun hca hb _ => hcnt hnew hca hb, fun h => (nomatch h)⟩
  · exact ⟨b, fun h => (nomatch h), fun _ => rfl, hn, hroute, htrail, Nat.zero_le _, hentered hnew,
      fun hca hb _ => hcnt hnew hca hb, fun h => (nomatch h)⟩
  · refine ⟨b, ?_, fun _ => rfl, hn, hroute, htrail, hport, fun hsw => absurd hsw hca,
      fun hca hb hs => ?_, fun h => ?_⟩
    · unfold queryPortInfo
      dsimp only
      split <;> exact fun h => (nomatch h)
    · rcases hhome hca hb with h | ⟨-, hne, hpos⟩
      · exact h
      · rcases hs with hs | hs
        · exact absurd hs hne
        · rw [queryPortInfo, if_pos hpos] at hs
          cases hs
    · unfold queryPortInfo at h
      dsimp only at h
      split at h <;> cases h

/-- A new node is asked about all its ports, one that is no switch about the port at hand. -/
theorem nodeQueries_cover (path : PortId) {isNew : Bool} (hn : N.Knows f m b.1) (ha : a.1 = b.1)
    (h : (isNew = true ∧ N.type b.1 = ibNodeSwitch) ∨ (N.type b.1 ≠ ibNodeSwitch ∧ a = b)) :
    ∃ r ∈ Scan.nodeQueries path m isNew (N.type b.1) b.2, N.Covers f r a := by
  rcases h with ⟨hnew, hsw⟩ | ⟨hca, rfl⟩
  · exact ⟨queryPortInfo path m 0, Scan.mem_nodeQueries.mpr (.inl ⟨hnew, .inr ⟨hsw, .inr rfl⟩⟩),
      m, ha ▸ hn, .inr ⟨rfl, .inl rfl⟩⟩
  · refine ⟨queryPortInfo path m a.2, Scan.mem_nodeQueries.mpr (.inr ⟨hca, rfl⟩), m, hn,
      .inr ⟨rfl, ?_⟩⟩
    by_cases hport : a.2 = 0
    · exact .inl (if_neg (not_not_intro hport))
    · exact .inr ⟨.inl (if_pos hport), rfl⟩

theorem fills_finishNodeInfo (scan : Scan) (path : PortId) (m : NodeRef) (isNew : Bool) (k : Nat)
    (f : Fabric) :
    Fabric.Fills f (scan.finishNodeInfo path m isNew k f).scan.fabric ∧
      ∀ x, ((scan.finishNodeInfo path m isNew k f).scan.fabric.port x).info = (f.port x).info := by
  unfold Scan.finishNodeInfo
  dsimp only
  split
  · exact ⟨Fabric.fills_modifyNode f m fun _ => ⟨rfl, rfl, rfl, rfl, rfl, rfl⟩, fun _ => rfl⟩
  · exact ⟨⟨.of_node rfl rfl rfl rfl, id, rfl, rfl, rfl⟩, fun _ => rfl⟩

end Queries

section Replies
variable {smp : ScanSmp} {r : Recv} {out : Outcome} {near : V → Prop} {T : Multiset ScanRequest}
  {k : Nat}

/-- The frontier after the NodeInfo of the node behind a cable. -/
theorem Frontier.linkReply (hnt : scan.fabric.NodeTable)
    (h : N.Frontier s origin scan.fabric near (smp.request ::ₘ T))
    (hdata : smp.cbData = .niCbdata (some (n, k)))
    (ht : N.LinkTask s origin scan.fabric smp.request n (v, k) b)
    (hinfo : N.NodeInfoOf b (smpData r.mad))
    (hok : scan.recvNodeInfo smp r.mad (some (n, k)) = .ok out) :
    N.Frontier s origin out.scan.fabric near (out.requests + T) := by
  obtain ⟨p, f₂, hport, ⟨hnone, -⟩ | ⟨rn, rk, hrem, hcase⟩⟩ := Scan.recvNodeInfo_ok hok
  · cases hnone
  obtain ⟨rfl, rfl⟩ := Prod.mk.inj (Option.some.inj hrem)
  have hfound := found_findOrCreateNode smp.path hnt h.mapped hinfo ht.knows ht.explores
    ht.peer
  obtain ⟨hfill, hslot, hkept, hle⟩ := fills_nodeInfoPort scan
    ((smpData r.mad).field64 .nodePortGuid) hfound.table.toLinked hport
  rw [hinfo.2.2.2] at hslot hcase
  set found := Scan.findOrCreateNode scan.fabric smp.path (smpData r.mad)
  set f₃ := Scan.withPortGuid f₂ p ((smpData r.mad).field64 .nodePortGuid)
  have hnt₃ : f₃.NodeTable := Scan.nodeTable_withPortGuid _
    (Scan.nodeTable_stable.nodeInfoPort hfound.table hport)
  have hm₃ : N.Mapped s f₃ := mapped_fills hfill hfound.mapped
  have hext₃ : Extends N s scan.fabric f₃ := hfound.grows.trans
    (extends_fills hfill fun {x c} hx => reported_fills hfill hx (hkept x hx.1.isPort))
  have hp : N.PortAt f₃ p b := ⟨found.1, (knows_fills hfill).mpr hfound.knows, hslot⟩
  obtain ⟨q, hq⟩ := ht.port
  have hq₃ : N.PortAt f₃ q (v, k) := hext₃.portAt hq
  obtain ⟨x, hx, hslotq⟩ := hq₃
  obtain rfl : x = n := hx.inj hnt₃ (hext₃.knows ht.knows)
  rcases hcase with ⟨hnone, -⟩ | ⟨q', hsome, rfl⟩
  · have hnone' := (Fabric.slot_eq_ok.mp hnone).2
    rw [hslotq] at hnone'
    cases hnone'
  · obtain rfl : q = q' := Option.some.inj (hslotq.symm.trans (Fabric.slot_eq_ok.mp hsome).2)
    obtain ⟨hext₄, hm₄, hja, hjb⟩ := linked_cable hnt₃ hm₃ ht.peer ht.explores hp ⟨x, hx, hslotq⟩
    set f₄ := f₃.linkPorts p q
    obtain ⟨hfin, hfininfo⟩ := fills_finishNodeInfo scan smp.path found.1 found.2.1 b.2 f₄
    set f₅ := (scan.finishNodeInfo smp.path found.1 found.2.1 b.2 f₄).scan.fabric
    have hext₅ : Extends N s f₄ f₅ := extends_fills hfin fun {x c} hx =>
      reported_fills hfin hx (hfininfo x)
    have hext : Extends N s scan.fabric f₅ := hext₃.trans (hext₄.trans hext₅)
    have hknows₄ : N.Knows f₄ found.1 b.1 := hext₄.knows ((knows_fills hfill).mpr hfound.knows)
    have htype : (f₄.node found.1).type = N.type b.1 := (hm₄.knows hknows₄).1
    have hreqs : (scan.finishNodeInfo smp.path found.1 found.2.1 b.2 f₄).requests =
        Scan.nodeQueries smp.path found.1 found.2.1 (N.type b.1) b.2 := by
      rw [← htype]
      rfl
    have hback : N.peer b = some (v, k) := N.peer_symm ht.peer
    obtain ⟨x₀, hx₀, -⟩ := h.mapped.origin
    have hhome : found.2.1 = true → b.1 ≠ s.1 := by
      intro hnew hb
      exact hfound.fresh hnew x₀ (hb ▸ hx₀)
    have htrail : N.Trail s f₅ (smp.path.drpath.hops origin.drpath.cnt) b := by
      obtain ⟨ks, c, hhops, hks, hc⟩ := ht.trail
      rw [show smp.path.drpath.hops origin.drpath.cnt = ks ++ [k] from hhops]
      have hcv : (c.1, k) = (v, k) := congrArg (·, k) hc
      exact .snoc (hks.mono hext.joined) (hcv ▸ ht.peer) (hcv ▸ hext₅.joined hja)
    rw [hreqs]
    refine h.step hext (mapped_fills hfin hm₄) (fun r hr => ?_) (fun n hn => ?_)
      (fun c _ hexp hpeer hcov => ?_) fun c y hy hunknown hexp hpeer => ?_
    · refine nodeQueries_ok (hext₅.knows hknows₄) ht.routed htrail (N.peer_port hback).2
        (fun hnew _ => ⟨.inr (hext₅.joined hjb), fun hca b' hb' hsame => ?_⟩) (fun hca hb => ?_) r
        (Multiset.mem_coe.mp hr)
      · -- a first node behind an adapter is entered by the cable of the start port
        by_cases hv : v = s.1
        · have hs : (v, k) = s := ht.explores.resolve_left (hv ▸ hca)
          exact Option.some.inj (hb'.symm.trans (hs ▸ ht.peer))
        · obtain ⟨b'', y, hb'', hy⟩ := h.mapped.gate hca x v ht.knows hv
          obtain rfl : b'' = b' := Option.some.inj (hb''.symm.trans hb')
          exact absurd (hsame ▸ hy) (hfound.fresh hnew y)
      · refine .inr ⟨?_, ht.onward hca, Nat.ne_of_gt (N.peer_port hback).1⟩
        cases hnew : found.2.1 with
        | false => rfl
        | true => exact absurd hb (hhome hnew)
    · have hsame : Fabric.SameNodes found.2.2 f₅ := hfill.toSameNodes.trans
        ((Fabric.sameNodes_linkPorts f₃ p q).trans hfin.toSameNodes)
      rw [hsame.nodeCount] at hn
      rw [hsame.path]
      rcases hfound.paths n hn with hold | ⟨rfl, hpath⟩
      · exact .inl hold
      · rw [hpath]
        exact .inr ⟨b, hext₅.knows hknows₄, htrail⟩
    · obtain ⟨y, hy, hcov⟩ := hcov
      have hreq : smp.request.cbData = .niCbdata (some (x, k)) := hdata
      rw [hreq] at hcov
      rcases hcov with hsame | ⟨hsame, -⟩
      · have hpair := Option.some.inj (CbData.niCbdata.inj hsame)
        obtain ⟨rfl, hk⟩ := Prod.mk.inj hpair
        have hcv : c = (v, k) := Prod.ext (hy.unique ht.knows) hk.symm
        rw [hcv]
        exact .inl (hext₅.joined hja)
      · cases hsame
    · have hy₃ : N.Knows f₃ y c.1 := knows_linkPorts.mp ((knows_fills hfin).mp hy)
      rcases hfound.others ((knows_fills hfill).mp hy₃) with hold | ⟨hc, hnew⟩
      · exact absurd hold (hunknown y)
      · refine .inr ?_
        have hsw : N.type b.1 = ibNodeSwitch := by
          rw [← hc]
          exact hexp.resolve_right fun hs => hhome hnew (hc.symm.trans (congrArg Prod.fst hs))
        obtain ⟨r, hr, hcov⟩ := nodeQueries_cover smp.path (hext₅.knows hknows₄) hc
          (.inl ⟨hnew, hsw⟩)
        exact ⟨r, Multiset.mem_coe.mpr hr, hcov⟩

/-- The frontier after the first NodeInfo. -/
theorem frontier_start (hinit : scan.fabric = allocateFabricInternal)
    (hroute : N.Routed s origin smp.path s) (hcnt : smp.path.drpath.cnt = origin.drpath.cnt)
    (hinfo : N.NodeInfoOf s (smpData r.mad)) (hok : scan.recvNodeInfo smp r.mad none = .ok out) :
    N.Frontier s origin out.scan.fabric near out.requests := by
  obtain ⟨p, f₂, hport, ⟨-, rfl⟩ | ⟨rn, rk, hrem, -⟩⟩ := Scan.recvNodeInfo_ok hok
  swap
  · cases hrem
  have hfound : Scan.findOrCreateNode scan.fabric smp.path (smpData r.mad) =
      (0, true, (Scan.createNode allocateFabricInternal smp.path (smpData r.mad)).2) := by
    rw [hinit]
    rfl
  set f₁ := (Scan.createNode allocateFabricInternal smp.path (smpData r.mad)).2 with hf₁
  obtain ⟨-, hcount, hnode, hports, -⟩ :=
    Fabric.createNode_node allocateFabricInternal smp.path (smpData r.mad)
  rw [← hf₁] at hcount hnode hports
  have hl₁ : f₁.Linked := Fabric.linked_init.createNode _ _
  obtain ⟨hfill, -, -, hle⟩ := fills_nodeInfoPort scan
    ((smpData r.mad).field64 .nodePortGuid) (by rw [hfound]; exact hl₁) hport
  obtain ⟨hguid, htype, hnum, hlocal⟩ := hinfo
  rw [hfound] at hfill hle ⊢
  rw [hlocal] at hle ⊢
  set f₄ : Fabric := { Scan.withPortGuid f₂ p ((smpData r.mad).field64 .nodePortGuid) with
    fromNode := some 0, fromPortnum := s.2 }
  obtain ⟨hfin, -⟩ := fills_finishNodeInfo scan smp.path 0 true s.2 f₄
  have hfirst : f₁.node 0 = { (default : Node) with
      guid := (smpData r.mad).field64 .nodeGuid
      type := (smpData r.mad).field .nodeType
      numports := (smpData r.mad).field .nodeNports
      pathPortid := smp.path
      info := smpData r.mad } := by
    rw [hnode]
    exact Function.update_self _ _ _
  have hknows : ∀ {x u}, N.Knows f₄ x u ↔ x = 0 ∧ u = s.1 := by
    intro x u
    have hcreate := knows_createNode (n := x) (v := u)
      allocateFabricInternal smp.path hguid
    have hnone : ¬ N.Knows allocateFabricInternal x u := fun h => absurd h.1 (Nat.not_lt_zero _)
    refine ((knows_fills hfill).trans hcreate).trans ?_
    rw [or_iff_right hnone]
    rfl
  have hm : N.Mapped s f₄ := by
    refine ⟨fun x hx => ?_, ⟨0, hknows.mpr ⟨rfl, rfl⟩, rfl, rfl⟩, fun {x y} hxy => ?_,
      fun _ x u hx hu => absurd (hknows.mp hx).2 hu⟩
    · have hx₁ : x < f₁.nodeCount := hfill.nodeCount ▸ hx
      rw [hcount] at hx₁
      obtain rfl : x = 0 := Nat.lt_one_iff.mp hx₁
      refine ⟨s.1, (hfill.guid 0).trans ?_, (hfill.type 0).trans ?_, (hfill.numports 0).trans ?_,
        0, .start⟩
      · rw [hfirst]
        exact hguid
      · rw [hfirst]
        exact htype
      · rw [hfirst]
        exact hnum
    · have hxy₁ : f₁.remoteport x = some y := by
        rw [← hfill.remoteport]
        exact hxy
      rw [Fabric.remoteport, hports] at hxy₁
      cases hxy₁
  have hn : N.Knows (scan.finishNodeInfo smp.path 0 true s.2 f₄).scan.fabric 0 s.1 :=
    (knows_fills hfin).mpr (hknows.mpr ⟨rfl, rfl⟩)
  have hreqs : (scan.finishNodeInfo smp.path 0 true s.2 f₄).requests =
      Scan.nodeQueries smp.path 0 true (N.type s.1) s.2 := by
    rw [← (hm.knows (hknows.mpr ⟨rfl, rfl⟩)).1]
    rfl
  have hsize : s.2 ≤ N.numports s.1 := by
    have hnum₁ : (f₁.node 0).numports = N.numports s.1 := by
      rw [hfirst]
      exact hnum
    exact hnum₁ ▸ hle
  change N.Frontier s origin (scan.finishNodeInfo smp.path 0 true s.2 f₄).scan.fabric near
    (scan.finishNodeInfo smp.path 0 true s.2 f₄).requests
  rw [hreqs]
  have htrail : N.Trail s (scan.finishNodeInfo smp.path 0 true s.2 f₄).scan.fabric
      (smp.path.drpath.hops origin.drpath.cnt) s := by
    rw [DrPath.hops_of_le (Nat.le_of_eq hcnt)]
    exact .nil
  refine ⟨mapped_fills hfin hm, fun r hr => ?_, fun n hn' => ?_,
    fun a _ hknown hexp _ => .inr ?_⟩
  · refine nodeQueries_ok hn hroute htrail hsize (fun _ hsw => ⟨.inl rfl, fun hca => absurd hsw hca⟩)
      (fun _ _ => .inl hcnt) r (Multiset.mem_coe.mp hr)
  · have hcount₁ : f₁.nodeCount = 1 := hcount
    rw [hfin.nodeCount, show f₄.nodeCount = f₁.nodeCount from hfill.nodeCount, hcount₁] at hn'
    obtain rfl : n = 0 := Nat.lt_one_iff.mp hn'
    refine ⟨s, hn, ?_⟩
    rw [hfin.path, show (f₄.node 0).pathPortid = (f₁.node 0).pathPortid from hfill.path 0, hfirst]
    exact htrail
  · obtain ⟨x, hx⟩ := hknown
    have ha : a.1 = s.1 := (hknows.mp ((knows_fills hfin).mp hx)).2
    have hasked : (true = true ∧ N.type s.1 = ibNodeSwitch) ∨
        (N.type s.1 ≠ ibNodeSwitch ∧ a = s) := by
      by_cases hsw : N.type s.1 = ibNodeSwitch
      · exact .inl ⟨rfl, hsw⟩
      · exact .inr ⟨hsw, hexp.resolve_left (ha ▸ hsw)⟩
    obtain ⟨r, hr, hcov⟩ := nodeQueries_cover smp.path hn ha hasked
    exact ⟨r, Multiset.mem_coe.mpr hr, hcov⟩

end Replies
end Network
end InfinibandDiags
