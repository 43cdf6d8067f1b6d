import InfinibandDiags.Discover.Frontier

/-! How a reply moves the frontier: the callbacks about one port. -/
namespace InfinibandDiags
open Engine

namespace Scan
variable {scan : Scan} {path : PortId} {n : NodeRef} {p : PortRef} {skip k : Nat}

theorem extendDpath_spec (scan : Scan) (hskip : skip ≤ path.drpath.cnt) (hk : k < 256) :
    let res := scan.extendDpath path k
    (res.1 ≤ 0 ∧ (scan.hopLimitReached = true ∨ 62 < path.drpath.cnt)) ∨
      (0 < res.1 ∧ res.2.2.lid = path.lid ∧ res.2.2.drpath.cnt = path.drpath.cnt + 1 ∧
        res.2.2.drpath.hops skip = path.drpath.hops skip ++ [k]) := by
  unfold extendDpath
  by_cases hlimit : scan.hopLimitReached = true
  · rw [if_pos hlimit]
    exact .inl ⟨Int.le_refl 0, .inl hlimit⟩
  · rw [if_neg hlimit]
    dsimp only
    set path' : PortId := if path.lid ≠ 0 then { path with drpath := { path.drpath with
        drslid := scan.selfLid % 2 ^ 16, drdlid := 0xffff } } else path with hpath'
    have hsame : path'.lid = path.lid ∧ path'.drpath.cnt = path.drpath.cnt ∧
        path'.drpath.hops skip = path.drpath.hops skip := by
      rw [hpath']
      split <;> exact ⟨rfl, rfl, rfl⟩
    obtain ⟨hlid, hcnt, hhops⟩ := hsame
    cases hadd : addPortToDpath path'.drpath k with
    | none =>
        refine .inl ⟨(by decide : (-1 : Int) ≤ 0), .inr ?_⟩
        unfold addPortToDpath at hadd
        split at hadd
        · next hroom =>
            rw [hcnt] at hroom
            exact hroom
        · cases hadd
    | some drpath =>
        obtain ⟨hcnt', hhops'⟩ := hops_addPortToDpath (hcnt ▸ hskip) hk hadd
        exact .inr ⟨(by decide : (0 : Int) < 1), hlid, hcnt'.trans (by rw [hcnt]), hhops'.trans (by rw [hhops])⟩

/-- A link worth following is followed one hop further, unless a limit stands against it. At a
node that is no switch this supposes a local start port. -/
theorem exploreLink_spec (hskip : skip ≤ path.drpath.cnt) (hk : k < 256)
    (hhome : scan.worthFollowing n p k = true → (scan.fabric.node n).type ≠ ibNodeSwitch →
      path.drpath.cnt ≤ 1 ∧ path.lid = 0) :
    ((scan.exploreLink path n p k).2 = [] ∧ (scan.worthFollowing n p k = true →
        scan.hopLimitReached = true ∨ 62 < path.drpath.cnt)) ∨
      (scan.worthFollowing n p k = true ∧ ∃ path',
        (scan.exploreLink path n p k).2 = [queryNodeInfo path' (some (n, k))] ∧
        path'.lid = path.lid ∧ path'.drpath.cnt = path.drpath.cnt + 1 ∧
        path'.drpath.hops skip = path.drpath.hops skip ++ [k]) := by
  unfold exploreLink
  by_cases hworth : scan.worthFollowing n p k = true
  · rw [if_pos hworth]
    have hno : ¬ ((scan.fabric.node n).type ≠ ibNodeSwitch ∧ some n = scan.fabric.fromNode ∧
        path.drpath.cnt > 1) := by
      rintro ⟨htype, -, hcnt⟩
      exact absurd (hhome hworth htype).1 (Nat.not_le.mpr hcnt)
    have hyes : path.lid = 0 ∨ (scan.fabric.node n).type = ibNodeSwitch := by
      by_cases htype : (scan.fabric.node n).type = ibNodeSwitch
      · exact .inr htype
      · exact .inl (hhome hworth htype).2
    dsimp only
    rw [if_neg hno, if_pos hyes]
    rcases extendDpath_spec scan hskip hk with ⟨hrc, hlimit⟩ | ⟨hrc, hlid, hcnt, hhops⟩
    · exact .inl ⟨if_neg (Int.not_lt.mpr hrc), fun _ => hlimit⟩
    · exact .inr ⟨hworth, _, if_pos hrc, hlid, hcnt, hhops⟩
  · rw [if_neg hworth]
    exact .inl ⟨rfl, fun h => absurd h hworth⟩

end Scan

namespace Network
variable {V : Type} {N : Network V} {s : V × Nat} {origin : PortId} {scan : Scan} {f : Fabric}
  {n : NodeRef} {v : V} {p : PortRef} {b : V × Nat} {k : Nat} {t : ScanRequest} {path : PortId}

theorem Mapped.knows (hm : N.Mapped s f) (hn : N.Knows f n v) :
    (f.node n).type = N.type v ∧ (f.node n).numports = N.numports v ∧ N.Reach s v := by
  obtain ⟨w, hguid, htype, hports, hreach⟩ := hm.node n hn.1
  obtain rfl : v = w := N.guid_injective (hn.2.symm.trans hguid)
  exact ⟨htype, hports, hreach⟩

/-- Which ports the scan follows, in terms of the network. -/
theorem worthFollowing_iff (hnt : scan.fabric.NodeTable) (hm : N.Mapped s scan.fabric)
    (hn : N.Knows scan.fabric n v) (hrep : N.Reported s scan.fabric p (v, k)) :
    scan.worthFollowing n p k = true ↔ k ≠ 0 ∧ (N.peer (v, k)).isSome ∧
      ((N.type v = ibNodeSwitch ∧ k ≠ (scan.fabric.port p).info.field .portLocalPort) ∨
        (v, k) = s) := by
  obtain ⟨n₀, hn₀, hfrom, hport⟩ := hm.origin
  have hstart : (some n = scan.fabric.fromNode ∧ k = scan.fabric.fromPortnum) ↔ (v, k) = s := by
    rw [hfrom, hport]
    constructor
    · rintro ⟨hsame, hk⟩
      obtain rfl := Option.some.inj hsame
      exact Prod.ext (hn.unique hn₀) hk
    · rintro rfl
      exact ⟨congrArg some (hn.inj hnt hn₀), rfl⟩
  have hphys : k ≠ 0 → ((scan.fabric.port p).info.field .portPhysState = ibPortPhysStateLinkup ↔
      (N.peer (v, k)).isSome) := hrep.2.1
  unfold Scan.worthFollowing
  simp only [Bool.and_eq_true, Bool.or_eq_true, decide_eq_true_eq, (hm.knows hn).1, hstart]
  constructor
  · rintro ⟨⟨hk, hup⟩, hwhere⟩
    exact ⟨hk, (hphys hk).mp hup, hwhere⟩
  · rintro ⟨hk, hup, hwhere⟩
    exact ⟨⟨hk, (hphys hk).mpr hup⟩, hwhere⟩

/-- Where a scan may start so that the start port itself is followed. -/
def LocalStart (N : Network V) (s : V × Nat) (origin : PortId) : Prop :=
  N.type s.1 = ibNodeSwitch ∨ (origin.lid = 0 ∧ origin.drpath.cnt = 0)

/-- The NodeInfo asked for behind a port with a known PortInfo. -/
theorem expand_port (hnt : scan.fabric.NodeTable) (hm : N.Mapped s scan.fabric)
    (hstart : N.LocalStart s origin) (hn : N.Knows scan.fabric n b.1)
    (hrep : N.Reported s scan.fabric p (b.1, k)) (hk : k < 256)
    (hroute : N.Routed s origin path b)
    (htrail : N.Trail s scan.fabric (path.drpath.hops origin.drpath.cnt) b)
    (hhome : N.type s.1 ≠ ibNodeSwitch → (b.1, k) = s →
      path.drpath.cnt = origin.drpath.cnt) :
    (∀ r ∈ (scan.exploreLink path n p k).2, N.TaskOk s origin scan.fabric r) ∧
      (N.Explores s (b.1, k) → (N.peer (b.1, k)).isSome → scan.hopLimitReached = false ∧ path.drpath.cnt ≤ 62 →
        N.Joined scan.fabric (b.1, k) ∨
          ∃ r ∈ (scan.exploreLink path n p k).2, N.Covers scan.fabric r (b.1, k)) := by
  have hworth := worthFollowing_iff hnt hm hn hrep
  have hhome' : scan.worthFollowing n p k = true → (scan.fabric.node n).type ≠ ibNodeSwitch →
      path.drpath.cnt ≤ 1 ∧ path.lid = 0 := by
    intro hw htype
    rw [(hm.knows hn).1] at htype
    obtain ⟨-, -, ⟨hsw, -⟩ | hs⟩ := hworth.mp hw
    · exact absurd hsw htype
    · have hca : N.type s.1 ≠ ibNodeSwitch := hs ▸ htype
      obtain ⟨hlid, hzero⟩ := hstart.resolve_left hca
      rw [hhome hca hs, hroute.lid]
      exact ⟨by omega, hlid⟩
  rcases Scan.exploreLink_spec hroute.cnt hk hhome' with
    ⟨hnone, hlimit⟩ | ⟨hw, path', hquery, hlid, hcnt', hhops⟩
  · rw [hnone]
    refine ⟨fun r hr => absurd hr List.not_mem_nil, fun hexp hpeer hfree => ?_⟩
    have hnot : ¬ scan.worthFollowing n p k = true := by
      intro hw
      rcases hlimit hw with h | h
      · rw [hfree.1] at h
        cases h
      · exact absurd hfree.2 (Nat.not_le.mpr h)
    rw [hworth] at hnot
    obtain ⟨b', hb'⟩ := Option.isSome_iff_exists.mp hpeer
    have hk0 : k ≠ 0 := Nat.ne_of_gt (N.peer_port hb').1
    rcases hexp with hsw | hs
    · by_cases hlocal : k = (scan.fabric.port p).info.field .portLocalPort
      · have hent := hrep.2.2 hsw
        rw [← hlocal] at hent
        rcases hent.1 with hs | hjoined
        · exact absurd ⟨hk0, hpeer, .inr hs⟩ hnot
        · exact .inl hjoined
      · exact absurd ⟨hk0, hpeer, .inl ⟨hsw, hlocal⟩⟩ hnot
    · exact absurd ⟨hk0, hpeer, .inr hs⟩ hnot
  · obtain ⟨hk0, hpeer, hwhere⟩ := hworth.mp hw
    obtain ⟨b', hb'⟩ := Option.isSome_iff_exists.mp hpeer
    rw [hquery]
    refine ⟨fun r hr => ?_, fun _ _ _ => .inr ⟨_, List.mem_singleton_self _, n, hn, .inl rfl⟩⟩
    rw [List.mem_singleton.mp hr]
    refine ⟨b.1, b', ⟨rfl, rfl, hn, ⟨p, hrep.1⟩, ?_, hb', ⟨?_, ?_, hlid.trans hroute.lid⟩,
      ⟨_, b, hhops, htrail, rfl⟩, ?_⟩⟩
    · exact hwhere.imp And.left id
    · change N.walk s (path'.drpath.hops origin.drpath.cnt) = some b'
      rw [hhops, walk_concat]
      have harr : N.walk s (path.drpath.hops origin.drpath.cnt) = some b := hroute.arrival
      rw [harr]
      exact hb'
    · change origin.drpath.cnt ≤ path'.drpath.cnt
      rw [hcnt']
      exact Nat.le_succ_of_le hroute.cnt
    · rintro hca rfl
      have hback := N.peer_symm hb'
      rcases hwhere with ⟨hsw, hlocal⟩ | hs
      · have hsame := (hrep.2.2 hsw).2 hca (b.1, k) hback rfl
        exact hlocal (Prod.mk.inj hsame).2
      · rw [hs] at hback
        exact N.peer_ne _ hback

/-- A reply about a node that is known: nothing is forgotten, no node is new, and the port that
was asked about is joined or seen to. -/
structure Expanded (N : Network V) (s : V × Nat) (origin : PortId) (f f' : Fabric)
    (reqs : List ScanRequest) (a : V × Nat) (free : Prop) : Prop where
  grows : Extends N s f f'
  mapped : N.Mapped s f'
  known : ∀ {m w}, N.Knows f' m w → N.Knows f m w
  nodes : Fabric.SameNodes f f'
  tasks : ∀ r ∈ reqs, N.TaskOk s origin f' r
  covered : N.Explores s a → (N.peer a).isSome → free →
    N.Joined f' a ∨ ∃ r ∈ reqs, N.Covers f' r a

theorem Extends.trans {f₁ f₂ f₃ : Fabric} (h₁ : Extends N s f₁ f₂) (h₂ : Extends N s f₂ f₃) :
    Extends N s f₁ f₃ :=
  ⟨fun h => h₂.knows (h₁.knows h), fun h => h₂.portAt (h₁.portAt h),
    fun h => h₂.joined (h₁.joined h), fun h => h₂.reported (h₁.reported h)⟩

/-- The end of the three PortInfo callbacks. -/
theorem expanded_exploreLink (scan : Scan) (hnt : scan.fabric.NodeTable) (hm : N.Mapped s scan.fabric)
    (hstart : N.LocalStart s origin) (hn : N.Knows scan.fabric n b.1)
    (hrep : N.Reported s scan.fabric p (b.1, k)) (hk : k < 256)
    (hroute : N.Routed s origin path b)
    (htrail : N.Trail s scan.fabric (path.drpath.hops origin.drpath.cnt) b)
    (hhome : N.type s.1 ≠ ibNodeSwitch → (b.1, k) = s →
      path.drpath.cnt = origin.drpath.cnt) :
    N.Expanded s origin scan.fabric (scan.exploreLink path n p k).1.fabric
      (scan.exploreLink path n p k).2 (b.1, k)
      (scan.hopLimitReached = false ∧ path.drpath.cnt ≤ 62) := by
  obtain ⟨htasks, hcov⟩ := expand_port hnt hm hstart hn hrep hk hroute htrail hhome
  obtain ⟨⟨m, hm'⟩, -⟩ := Scan.exploreLink_cases scan path n p k
  rw [hm']
  have hfill : Fabric.Fills scan.fabric { scan.fabric with maxhopsDiscovered := m } :=
    Fabric.fills_hops _ m
  have hext : Extends N s scan.fabric { scan.fabric with maxhopsDiscovered := m } :=
    extends_fills hfill fun h => reported_fills hfill h rfl
  refine ⟨hext, mapped_fills hfill hm, (knows_fills hfill).mp, hfill.toSameNodes,
    fun r hr => (htasks r hr).mono hext, fun hexp hpeer hfree => ?_⟩
  rcases hcov hexp hpeer hfree with hjoined | ⟨r, hr, hcovers⟩
  · exact .inl (hext.joined hjoined)
  · exact .inr ⟨r, hr, hcovers.mono hext⟩

theorem portStored_hops {mad : Bytes} (h : Scan.PortStored scan mad n p f) :
    f.maxhopsDiscovered = scan.fabric.maxhopsDiscovered := by
  obtain ⟨f₁, rc, f₂, hensure, hhash, hlid⟩ := h.steps
  obtain ⟨m, rfl⟩ := Fabric.addToPortlidHash_ok hlid
  obtain ⟨dup, -, rfl⟩ := Fabric.addToPortguidHash_ok hhash
  have hensured : f₁.maxhopsDiscovered = scan.fabric.maxhopsDiscovered := by
    obtain ⟨-, ⟨-, rfl⟩ | ⟨-, -, rfl⟩⟩ := Scan.ensurePort_ok hensure <;> rfl
  have hstored : (Scan.storePortInfo f₁ n p (Scan.attrModPort mad) (smpData mad)).maxhopsDiscovered =
      f₁.maxhopsDiscovered := by
    unfold Scan.storePortInfo
    dsimp only
    split
    · rfl
    · split <;> rfl
  cases dup <;> exact hstored.trans hensured

variable {smp : ScanSmp} {r : Recv} {out : Outcome}

/-- The PortInfo of a port of a known node. -/
theorem expanded_recvPortInfo (hnt : scan.fabric.NodeTable) (hm : N.Mapped s scan.fabric)
    (hstart : N.LocalStart s origin) (ht : N.NodeTask s origin scan.fabric smp.request n b)
    (hk : Scan.attrModPort r.mad = smp.rpc.attrMod)
    (hinfo : N.PortInfoOf b smp.rpc.attrMod (smpData r.mad))
    (hok : scan.recvPortInfo smp r.mad n = .ok out) :
    N.Expanded s origin scan.fabric out.scan.fabric out.requests (b.1, smp.rpc.attrMod)
      (scan.hopLimitReached = false ∧ smp.path.drpath.cnt ≤ 62) := by
  obtain ⟨p, f, hstored, hcase⟩ := Scan.recvPortInfo_ok hok
  obtain ⟨hfill, hslot, hdata, hothers⟩ := Fabric.fills_portStored hnt.toLinked hstored
  have hnt' : f.NodeTable := Scan.nodeTable_stable.portStored hnt hstored
  rw [hk] at hslot hcase
  have hn : N.Knows f n b.1 := (knows_fills hfill).mpr ht.knows
  have hp : N.PortAt f p (b.1, smp.rpc.attrMod) := ⟨n, hn, hslot⟩
  have hentered : N.type b.1 = ibNodeSwitch → N.Entered s f b := fun hsw =>
    (ht.entered hsw).mono fun h => joined_fills hfill h
  have hrep : N.Reported s f p (b.1, smp.rpc.attrMod) := by
    refine ⟨hp, ?_, fun hsw => ?_⟩
    · rw [hdata]
      exact hinfo.2
    · rw [hdata, hinfo.1]
      exact hentered hsw
  have hext : Extends N s scan.fabric f := by
    refine extends_fills hfill fun {x a} hx => ?_
    by_cases hxp : x = p
    · subst hxp
      rw [(portAt_fills hfill hx.1).unique hnt' hp]
      exact hrep
    · exact reported_fills hfill hx (hothers x hx.1.isPort hxp)
  have hm' : N.Mapped s f := mapped_fills hfill hm
  have htrail : N.Trail s f (smp.path.drpath.hops origin.drpath.cnt) b :=
    ht.trail.mono fun h => joined_fills hfill h
  have hport : smp.rpc.attrMod ≤ N.numports b.1 := ht.port
  have hhome : N.type s.1 ≠ ibNodeSwitch → (b.1, smp.rpc.attrMod) = s →
      smp.path.drpath.cnt = origin.drpath.cnt := by
    intro hca hs
    exact ht.home hca (by rw [← hs]) (.inl hs)
  rcases hcase with ⟨-, rfl⟩ | ⟨-, -, rfl⟩
  · refine ⟨hext, hm', (knows_fills hfill).mp, hfill.toSameNodes, fun r hr => ?_,
      fun _ _ _ => .inr ⟨_, List.mem_singleton_self _, n, hn, .inr ⟨rfl, .inr ⟨.inr rfl, rfl⟩⟩⟩⟩
    rw [List.mem_singleton.mp hr]
    refine ⟨b, ⟨fun h => (nomatch h), fun h => ?_, hn, ht.routed, htrail, hport, hentered,
      fun hca _ hs => ?_, fun _ => ⟨p, hrep⟩⟩⟩
    · rcases h with h | h <;> cases h
    · rcases hs with hs | hs
      · exact hhome hca hs
      · cases hs
  · have hexplored := expanded_exploreLink { scan with fabric := f } hnt' hm' hstart hn
      hrep (Nat.lt_of_le_of_lt hport (N.numports_lt b.1)) ht.routed htrail hhome
    have hfree : ({ scan with fabric := f } : Scan).hopLimitReached = scan.hopLimitReached := by
      unfold Scan.hopLimitReached
      rw [portStored_hops hstored]
    rw [hfree] at hexplored
    exact ⟨hext.trans hexplored.grows, hexplored.mapped,
      fun h => (knows_fills hfill).mp (hexplored.known h),
      hfill.toSameNodes.trans hexplored.nodes, hexplored.tasks, hexplored.covered⟩

/-- A PortInfo of port 0 leads to those of all other ports. -/
theorem expanded_recvPort0Info (hnt : scan.fabric.NodeTable) (hm : N.Mapped s scan.fabric)
    (hstart : N.LocalStart s origin) (ht : N.NodeTask s origin scan.fabric smp.request n b)
    (hcb : smp.cb = .recvPort0Info) (hk : Scan.attrModPort r.mad = smp.rpc.attrMod)
    (hinfo : N.PortInfoOf b smp.rpc.attrMod (smpData r.mad))
    (hok : scan.recvPort0Info smp r.mad n = .ok out) :
    N.Expanded s origin scan.fabric out.scan.fabric out.requests (b.1, smp.rpc.attrMod)
        (scan.hopLimitReached = false ∧ smp.path.drpath.cnt ≤ 62) ∧
      ∀ k, (N.peer (b.1, k)).isSome → ∃ r ∈ out.requests, N.Covers out.scan.fabric r (b.1, k) := by
  obtain ⟨out₁, hok₁, rfl⟩ := Scan.recvPort0Info_ok hok
  have h := expanded_recvPortInfo hnt hm hstart ht hk hinfo hok₁
  have hn : N.Knows out₁.scan.fabric n b.1 := h.grows.knows ht.knows
  have hports := (h.mapped.knows hn).2.1
  refine ⟨⟨h.grows, h.mapped, h.known, h.nodes, fun r hr => ?_, fun hexp hpeer hfree => ?_⟩, fun k hpeer => ?_⟩
  · rcases List.mem_append.mp hr with hr | hr
    · exact h.tasks r hr
    · obtain ⟨i, hi, rfl⟩ := List.mem_map.mp hr
      rw [hports] at hi
      refine ⟨b, ⟨?_, fun _ => rfl, hn, ht.routed, ht.trail.mono h.grows.joined, List.mem_range.mp hi,
        fun hsw => (ht.entered hsw).mono h.grows.joined, fun hca hb _ => ?_, fun hext => ?_⟩⟩
      · exact fun h => (nomatch h)
      · exact ht.home hca hb (.inr hcb)
      · cases hext
  · rcases h.covered hexp hpeer hfree with hjoined | ⟨r, hr, hcov⟩
    · exact .inl hjoined
    · exact .inr ⟨r, List.mem_append_left _ hr, hcov⟩
  · obtain ⟨b', hb'⟩ := Option.isSome_iff_exists.mp hpeer
    obtain ⟨hpos, hle⟩ := N.peer_port hb'
    refine ⟨queryPortInfo smp.path n k, List.mem_append_right _ ?_, n, hn, ?_⟩
    · refine List.mem_map.mpr ⟨k - 1, ?_, ?_⟩
      · rw [List.mem_range, hports]
        exact Nat.lt_of_lt_of_le (Nat.sub_lt hpos Nat.one_pos) hle
      · rw [Nat.sub_add_cancel hpos]
    · refine .inr ⟨rfl, .inr ⟨.inl ?_, rfl⟩⟩
      exact if_pos (Nat.ne_of_gt hpos)

/-- The extended PortInfo of a port whose PortInfo is there. -/
theorem expanded_recvMlnxExtPortInfo (hnt : scan.fabric.NodeTable) (hm : N.Mapped s scan.fabric)
    (hstart : N.LocalStart s origin) (ht : N.NodeTask s origin scan.fabric smp.request n b)
    (hcb : smp.cb = .recvMlnxExtPortInfo) (hk : Scan.attrModPort r.mad = smp.rpc.attrMod)
    (hok : scan.recvMlnxExtPortInfo smp r.mad n = .ok out) :
    N.Expanded s origin scan.fabric out.scan.fabric out.requests (b.1, smp.rpc.attrMod)
      (scan.hopLimitReached = false ∧ smp.path.drpath.cnt ≤ 62) := by
  obtain ⟨p, hrep⟩ := ht.reported hcb
  obtain ⟨m, hm', hslot⟩ := hrep.1
  obtain rfl : m = n := hm'.inj hnt ht.knows
  obtain ⟨-, hcase⟩ := Scan.recvMlnxExtPortInfo_ok hok
  rw [hk] at hcase
  have hslot' : (scan.fabric.node m).ports smp.rpc.attrMod = some p := hslot
  rcases hcase with ⟨hnone, -⟩ | ⟨p', hsome, -, rfl⟩
  · rw [hslot'] at hnone
    cases hnone
  · obtain rfl : p = p' := Option.some.inj (hslot'.symm.trans hsome)
    set f := scan.fabric.modifyPort p fun port => { port with extInfo := smpData r.mad }
    have hfill : Fabric.Fills scan.fabric f := Fabric.fills_modifyPort _ _ fun _ => rfl
    have hinfo : ∀ x, (f.port x).info = (scan.fabric.port x).info := by
      intro x
      by_cases hx : x = p <;> simp [f, Fabric.modifyPort, hx]
    have hext : Extends N s scan.fabric f :=
      extends_fills hfill fun {x a} hx => reported_fills hfill hx (hinfo x)
    have hexplored := expanded_exploreLink { scan with fabric := f }
      (Scan.nodeTable_stable.extInfo _ hnt) (mapped_fills hfill hm) hstart
      (hext.knows ht.knows) (hext.reported hrep)
      (Nat.lt_of_le_of_lt ht.port (N.numports_lt b.1)) ht.routed (ht.trail.mono hext.joined)
      (fun hca hs => ht.home hca (by rw [← hs]) (.inl hs))
    exact ⟨hext.trans hexplored.grows, hexplored.mapped,
      fun h => (knows_fills hfill).mp (hexplored.known h),
      hfill.toSameNodes.trans hexplored.nodes, hexplored.tasks, hexplored.covered⟩

/-- An extended PortInfo that a port does not answer. -/
theorem expanded_mlnxExtPortInfoErr (hnt : scan.fabric.NodeTable) (hm : N.Mapped s scan.fabric)
    (hstart : N.LocalStart s origin) (ht : N.NodeTask s origin scan.fabric smp.request n b)
    (hcb : smp.cb = .recvMlnxExtPortInfo) (hk : Scan.attrModPort r.mad = smp.rpc.attrMod)
    (hok : scan.mlnxExtPortInfoErr smp r.mad n = .ok out) :
    N.Expanded s origin scan.fabric out.scan.fabric out.requests (b.1, smp.rpc.attrMod)
      (scan.hopLimitReached = false ∧ smp.path.drpath.cnt ≤ 62) := by
  obtain ⟨p, hrep⟩ := ht.reported hcb
  obtain ⟨m, hm', hslot⟩ := hrep.1
  obtain rfl : m = n := hm'.inj hnt ht.knows
  obtain ⟨-, hcase⟩ := Scan.mlnxExtPortInfoErr_ok hok
  rw [hk] at hcase
  have hslot' : (scan.fabric.node m).ports smp.rpc.attrMod = some p := hslot
  rcases hcase with ⟨hnone, -⟩ | ⟨p', hsome, -, rfl⟩
  · rw [hslot'] at hnone
    cases hnone
  · obtain rfl : p = p' := Option.some.inj (hslot'.symm.trans hsome)
    exact expanded_exploreLink scan hnt hm hstart ht.knows hrep
      (Nat.lt_of_le_of_lt ht.port (N.numports_lt b.1)) ht.routed ht.trail
      (fun hca hs => ht.home hca (by rw [← hs]) (.inl hs))

/-- A reply that only fills in data of a node. -/
theorem expanded_modifyNode {g : Node → Node} (hg : ∀ x, (g x).SameShape x)
    (hm : N.Mapped s f) (a : V × Nat) :
    N.Expanded s origin f (f.modifyNode n g) [] a False := by
  have hfill : Fabric.Fills f (f.modifyNode n g) := Fabric.fills_modifyNode f n hg
  exact ⟨extends_fills hfill fun h => reported_fills hfill h rfl, mapped_fills hfill hm,
    (knows_fills hfill).mp, hfill.toSameNodes, fun _ hr => absurd hr List.not_mem_nil,
    fun _ _ h => h.elim⟩

/-- The frontier after a reply about a known node. -/
theorem Frontier.nodeReply {near : V → Prop} {f' : Fabric} {T : Multiset ScanRequest}
    {reqs : List ScanRequest} {free : Prop} (h : N.Frontier s origin f near (t ::ₘ T))
    (hdata : t.cbData = .node n) (hn : N.Knows f n b.1)
    (hexp : N.Expanded s origin f f' reqs (b.1, t.attrMod) free)
    (hport : t.cb = .recvPortInfo ∨ t.cb = .recvMlnxExtPortInfo → near b.1 →
      N.Explores s (b.1, t.attrMod) → (N.peer (b.1, t.attrMod)).isSome → free)
    (hall : t.cb = .recvPort0Info → ∀ k, (N.peer (b.1, k)).isSome →
      ∃ r ∈ reqs, N.Covers f' r (b.1, k)) :
    N.Frontier s origin f' near (reqs + T) := by
  refine h.step hexp.grows hexp.mapped (fun r hr => hexp.tasks r (Multiset.mem_coe.mp hr))
    (fun n hn => .inl ⟨hexp.nodes.nodeCount ▸ hn, hexp.nodes.path n⟩) (fun a hnear ha hpeer hcov => ?_) fun a m hm hnone _ _ => absurd (hexp.known hm) (hnone m)
  obtain ⟨m, hm, hcov⟩ := hcov
  rw [hdata] at hcov
  rcases hcov with hcov | ⟨hsame, hcov⟩
  · cases hcov
  · obtain rfl : n = m := CbData.node.inj hsame
    have hv : a.1 = b.1 := hm.unique hn
    obtain ⟨v, k⟩ := a
    obtain rfl : v = b.1 := hv
    rcases hcov with hcb | ⟨hcb, rfl⟩
    · exact .inr (hall hcb k hpeer)
    · exact hexp.covered ha hpeer (hport hcb hnear ha hpeer)

end Network
end InfinibandDiags
