import InfinibandDiags.Trace.Sound

/-! Completeness of the unicast trace: in a subnet where every query is answered and every port is
active, the trace gets through exactly where the tables, the signed bytes that it reads them with
and its counter let it. -/
namespace InfinibandDiags

/-- A path that SMPs can be sent along. -/
def PortId.Valid (portid : PortId) : Prop :=
  portid.drpath.cnt < 64 ∧ (portid.isDirect = true → ∀ k ∈ portid.drpath.hops 0, k ≠ 0)

instance (portid : PortId) : Decidable portid.Valid := inferInstanceAs (Decidable (_ ∧ (_ → _)))

namespace Subnet
variable {V : Type} (S : Subnet V)

/-- The table of a switch has an entry for a LID. -/
def InTable (v : V) (lid : Nat) : Prop := lid < S.linearCap v ∨ lid ≤ S.linearTop v

/-- Every port within reach answers. -/
def Answering (query : SmpQuery) : Prop :=
  ∀ portid b, portid.Valid → S.arrival portid = some b →
    (query portid ibAttrNodeInfo 0).isSome ∧ (query portid ibAttrNodeDesc 0).isSome ∧
    (query portid ibAttrPortInfo 0).isSome ∧
    (S.IsSwitch b.1 → (query portid ibAttrSwitchInfo 0).isSome ∧
      ∀ lid, S.InTable b.1 lid → (query portid ibAttrLinearforwtbl (lid / 64)).isSome)

/-- All ports are active; the state of a base port 0 does not count. -/
def AllActive : Prop :=
  ∀ a, S.IsPort a → (S.IsSwitch a.1 → a.2 = 0 → S.enhancedPort0 a.1 ≠ 0) → S.portState a = 4

/-- The forwarding tables lead from a port to another in `n` steps, and not in fewer. -/
def Arrives (src dest : V × Nat) (lid n : Nat) : Prop :=
  (∃ hops c, S.Route src lid hops c ∧ hops.length = n ∧ S.portGuid c = S.portGuid dest) ∧
    ∀ hops c, S.Route src lid hops c → hops.length < n → S.portGuid c ≠ S.portGuid dest

/-- A table entry that survives the signed byte it is read into. -/
def LooksUp (v : V) (lid : Nat) : Prop :=
  S.InTable v lid ∧ (S.fdb v lid).toNat < 128 ∧ (S.fdb v lid).toNat ≤ S.numports v

/-- A path short enough for `extend_dpath` to succeed on `n` more steps. From an adapter the first
step takes a hop off the path, if it has one. -/
def RoomFor (a : V × Nat) (path : DrPath) (n : Nat) : Prop :=
  path.cnt < 64 ∧ (0 < n → path.cnt + n ≤ if S.IsSwitch a.1 ∨ path.cnt = 0 then 62 else 64)

instance (a : V × Nat) (path : DrPath) (n : Nat) : Decidable (S.RoomFor a path n) :=
  inferInstanceAs (Decidable (_ ∧ (_ → _)))

variable {S} {src a b : V × Nat} {lid : Nat} {hops hops' : List Hop}

theorem answer_answering : S.Answering S.answer := by
  intro portid b _ harr
  have hattr : ∀ attrid mod, S.answer portid attrid mod = S.smpAttr b attrid mod := by
    intro attrid mod
    rw [answer, harr, Option.bind_some]
  refine ⟨?_, ?_, ?_, fun hsw => ⟨?_, fun lid _ => ?_⟩⟩
  all_goals rw [hattr]
  · rfl
  · rfl
  · rfl
  · rw [smpAttr, if_neg (by decide), if_neg (by decide), if_neg (by decide), if_pos ⟨rfl, hsw⟩]
    rfl
  · rw [smpAttr, if_neg (by decide), if_neg (by decide),
      if_neg fun hport => absurd hport.1 (by decide),
      if_neg fun hswitch => absurd hswitch.1 (by decide), if_pos ⟨rfl, hsw⟩]
    rfl

theorem RoomFor.of_le {path : DrPath} {n : Nat} (hcnt : path.cnt < 64) (h : path.cnt + n ≤ 62) :
    S.RoomFor a path n := by
  refine ⟨hcnt, fun _ => ?_⟩
  by_cases ha : S.IsSwitch a.1 ∨ path.cnt = 0
  · rwa [if_pos ha]
  · rw [if_neg ha]
    omega

theorem Route.unique (h : S.Route src lid hops a) (h' : S.Route src lid hops' b)
    (hlen : hops.length = hops'.length) : a = b := by
  induction h generalizing hops' b with
  | nil =>
      cases h' with
      | nil => rfl
      | hop => simp at hlen
  | hop _ hleaves hpeer ih =>
      cases h' with
      | nil => simp at hlen
      | hop hroute' hleaves' hpeer' =>
          have hlen' := hlen
          rw [List.length_append, List.length_append, List.length_singleton, List.length_singleton,
            Nat.add_right_cancel_iff] at hlen'
          cases ih hroute' hlen'
          cases hleaves.unique hleaves'
          exact Option.some.inj (hpeer.symm.trans hpeer')

/-- A route goes on behind each of its ports but the last. -/
theorem Route.next (h : S.Route src lid hops b) {m : Nat} (hm : m < hops.length) :
    ∃ hops' c o d, S.Route src lid hops' c ∧ hops'.length = m ∧ S.Leaves src lid c o ∧
      S.peer (c.1, o) = some d := by
  induction h with
  | nil => exact absurd hm (Nat.not_lt_zero m)
  | @hop hops c o d hroute hleaves hpeer ih =>
      rw [List.length_append, List.length_singleton] at hm
      rcases Nat.eq_or_lt_of_le (Nat.le_of_lt_succ hm) with rfl | hlt
      · exact ⟨hops, c, o, d, hroute, rfl, hleaves, hpeer⟩
      · exact ih hlt

end Subnet

namespace Ibtracert
open Rounds (Round)
open Subnet (Hop)

variable {V : Type} {S : Subnet V} {T : Tracer} {src dest a b : V × Nat} {lid dump : Nat}
  {st st' : RouteState}

theorem Entry.looksUp {v : V} {o : Int} (h : Entry S v lid o) : S.LooksUp v lid := by
  obtain ⟨hvalue, -, hlt⟩ := h.toNat
  have hports := h.isPort
  rw [hvalue] at hports
  exact ⟨h.inTable, hlt, Int.ofNat_le.mp hports⟩

theorem getNode_answered (hA : S.Answering T.query) {portid : PortId} (hvalid : portid.Valid)
    (harr : S.arrival portid = some b) (node : Node) (port : Port) :
    ∃ node' port', getNode T node port portid = (true, node', port') := by
  obtain ⟨hni, hnd, hpi, -⟩ := hA portid b hvalid harr
  obtain ⟨ni, hni⟩ := Option.isSome_iff_exists.mp hni
  obtain ⟨nd, hnd⟩ := Option.isSome_iff_exists.mp hnd
  obtain ⟨pi, hpi⟩ := Option.isSome_iff_exists.mp hpi
  unfold getNode
  simp only [hni, hnd, hpi]
  exact ⟨_, _, rfl⟩

theorem int8_of_lt {x : UInt8} (h : x.toNat < 128) : int8 x = x.toNat := by
  rw [int8, if_pos h]

/-- A switch whose entry survives answers the lookup with it. -/
theorem switchLookup_answered (hT : S.Truthful T.query) (hA : S.Answering T.query)
    {portid : PortId} (hvalid : portid.Valid) (harr : S.arrival portid = some b)
    (hsw : S.IsSwitch b.1) (hlook : S.LooksUp b.1 lid) (sw : Switch) :
    ∃ sw', switchLookup T sw portid lid = (((S.fdb b.1 lid).toNat : Int), sw') := by
  obtain ⟨-, -, -, hswitch⟩ := hA portid b hvalid harr
  obtain ⟨hsi, hblocks⟩ := hswitch hsw
  obtain ⟨si, hsi⟩ := Option.isSome_iff_exists.mp hsi
  obtain ⟨fdb, hfdb⟩ := Option.isSome_iff_exists.mp (hblocks lid hlook.1)
  obtain ⟨c, hc, hdesc⟩ := hT _ _ _ _ hsi
  obtain rfl : b = c := Option.some.inj (harr.symm.trans hc)
  obtain ⟨d, hd, hdesc'⟩ := hT _ _ _ _ hfdb
  obtain rfl : b = d := Option.some.inj (harr.symm.trans hd)
  obtain ⟨hcap, htop, -⟩ := hdesc.switchInfo rfl
  have hrange : ¬ (lid ≥ si.field .swLinearFdbCap ∧ lid > si.field .swLinearFdbTop) := by
    rw [hcap, htop]
    rcases hlook.1 with hlt | hle
    · exact fun h => absurd hlt (Nat.not_lt.mpr h.1)
    · exact fun h => absurd hle (Nat.not_le.mpr h.2)
  have hbyte := hdesc'.linearForwTbl rfl lid rfl
  unfold switchLookup
  simp only [hsi, if_neg hrange, hfdb, hbyte, int8_of_lt hlook.2.1]
  exact ⟨_, rfl⟩

theorem isPortInactive_eq_false (hactive : S.AllActive) {node : Node} {port : Port}
    (hport : S.IsPort b) (hrec : Records S b node port) {sw : Switch}
    (hsw : S.IsSwitch b.1 → sw.enhsp0 = S.enhancedPort0 b.1) :
    isPortInactive node port sw = false := by
  have hasked : S.IsPort (S.asked b) := by
    unfold Subnet.asked
    split
    · next hs => exact ⟨Nat.zero_le _, fun hend => absurd hs hend⟩
    · exact hport
  unfold isPortInactive
  by_cases hs : S.IsSwitch b.1
  · by_cases henh : S.enhancedPort0 b.1 = 0
    · have htype : node.type = ibNodeSwitch := hrec.isSwitch.mpr hs
      simp [htype, hsw hs, henh]
    · have hnode : (S.asked b).1 = b.1 := by rw [Subnet.asked, if_pos hs]
      have hstate : port.state = 4 :=
        hrec.state.trans (hactive _ hasked fun _ _ => by rwa [hnode])
      simp [hstate]
  · have heq : S.asked b = b := by rw [Subnet.asked, if_neg hs]
    have hstate : port.state = 4 := by
      rw [hrec.state, heq]
      exact hactive b hport fun hs' => absurd hs' hs
    simp [hstate]

theorem lookUp_eq_true {node : Node} (hentry : node.type = ibNodeSwitch →
      ∃ (k : Nat) (sw : Switch), switchLookup T st.sw st.portid lid = ((k : Int), sw) ∧
        k ≤ node.numports) :
    ∃ st', lookUp T lid node st = (true, st') := by
  unfold lookUp
  split
  · next htype =>
      obtain ⟨k, sw, hlook, hports⟩ := hentry htype
      have hrange : ¬ ((k : Int) < 0 ∨ (k : Int) > node.numports) := by omega
      simp only [hlook, if_neg hrange]
      exact ⟨_, rfl⟩
  · exact ⟨st, rfl⟩

/-- The node that answered can be entered, if it is a switch by an entry that survives. -/
theorem enterNext_answered (lid dump : Nat) (hT : S.Truthful T.query)
    (hA : S.Answering T.query) (hactive : S.AllActive) (hvalid : st.portid.Valid)
    (hst : Answered S src dest b st)
    (hlook : S.IsSwitch b.1 → S.LooksUp b.1 lid) : ∃ st', enterNext T lid dump st = .again st' := by
  obtain ⟨c, hc, hnode, -⟩ := hst.arrives
  obtain ⟨st₁, htrue⟩ : ∃ st₁, lookUp T lid st.nextnode st = (true, st₁) := by
    apply lookUp_eq_true
    intro htype
    have hsw : S.IsSwitch b.1 := hst.records.isSwitch.mp htype
    have hsw' : S.IsSwitch c.1 := by rwa [hnode]
    have hlook' : S.LooksUp c.1 lid := by
      rw [hnode]
      exact hlook hsw
    obtain ⟨sw, hl⟩ := switchLookup_answered hT hA hvalid hc hsw' hlook' st.sw
    refine ⟨_, sw, hl, ?_⟩
    rw [hst.records.numports, ← hnode]
    exact hlook'.2.2
  obtain ⟨o, sw, rfl, hentry⟩ := lookUp_true htrue
  have henh : S.IsSwitch b.1 → sw.enhsp0 = S.enhancedPort0 b.1 := by
    intro hsw
    obtain ⟨hl, hnonneg, -⟩ := hentry (hst.records.isSwitch.mpr hsw)
    obtain ⟨c', hc', -, -, h⟩ := lookup_entry hT hl hnonneg
    obtain rfl : c = c' := Option.some.inj (hc.symm.trans hc')
    rw [h, hnode]
  have hact := isPortInactive_eq_false hactive hst.isPort hst.records henh
  unfold enterNext
  simp only [htrue, hact]
  exact ⟨_, rfl⟩

theorem extendDpath_valid {portid : PortId} (hvalid : portid.Valid)
    (hroom : portid.drpath.cnt + 2 < 64) {k : Nat} (hk : k ≠ 0) (hlt : k < 256) :
    ∃ drpath, extendDpath portid.drpath k = some drpath ∧
      PortId.Valid { portid with drpath } ∧ drpath.cnt = portid.drpath.cnt + 1 := by
  obtain ⟨drpath, hpath⟩ : ∃ drpath, extendDpath portid.drpath k = some drpath := by
    rw [extendDpath, if_neg (Nat.not_le.mpr hroom)]
    exact ⟨_, rfl⟩
  obtain ⟨hcnt, hhops⟩ := extendDpath_hops hlt hpath
  obtain ⟨-, hdrslid, hdrdlid⟩ := extendDpath_some hpath
  have hstart : portid.SameStart { portid with drpath } := ⟨rfl, hdrslid, hdrdlid⟩
  refine ⟨drpath, hpath, ⟨?_, fun hdirect i hi => ?_⟩, hcnt⟩
  · dsimp only
    omega
  · rw [Subnet.isDirect_congr hstart] at hdirect
    rw [hhops] at hi
    rcases List.mem_append.mp hi with hold | hnew
    · exact hvalid.2 hdirect i hold
    · rwa [List.mem_singleton.mp hnew]

theorem leaveEnd_valid {portid : PortId} (hvalid : portid.Valid) {k : Nat} (hk : k ≠ 0)
    (hlt : k < 256) :
    ∃ drpath, leaveEnd portid.drpath k = some drpath ∧ PortId.Valid { portid with drpath } ∧
      drpath.cnt = if portid.drpath.cnt = 0 then 1 else portid.drpath.cnt - 1 := by
  unfold leaveEnd
  by_cases hcnt : portid.drpath.cnt > 0
  · rw [if_pos hcnt, if_neg (Nat.ne_of_gt hcnt)]
    refine ⟨_, rfl, ⟨?_, fun hdirect i hi => ?_⟩, rfl⟩
    · have := hvalid.1
      dsimp only
      omega
    · apply hvalid.2 hdirect
      rw [hops_back hcnt]
      exact List.mem_append_left _ hi
  · have hzero : portid.drpath.cnt = 0 := Nat.eq_zero_of_not_pos hcnt
    rw [if_neg hcnt, if_pos hk, if_pos hzero]
    obtain ⟨drpath, hpath, hvalid', hcnt'⟩ := extendDpath_valid hvalid (by omega) hk hlt
    rw [hzero] at hcnt'
    exact ⟨drpath, hpath, hvalid', hcnt'⟩

/-- The shortened or the first path of an adapter leads somewhere. -/
theorem outward_arrives (hst : At S src dest lid a st) (hend : ¬ S.IsSwitch a.1)
    (hpeer : S.peer a = some b) {drpath : DrPath}
    (hpath : leaveEnd st.portid.drpath st.portnum = some drpath) :
    ∃ c, S.arrival { st.portid with drpath } = some c := by
  obtain ⟨c, hc, -, hca⟩ := hst.arrives
  obtain rfl : c = a := hca hend
  obtain ⟨hdrslid, hdrdlid⟩ := leaveEnd_some hpath
  have hstart : st.portid.SameStart { st.portid with drpath } := ⟨rfl, hdrslid, hdrdlid⟩
  have hpos : st.portnum ≠ 0 := by
    rw [hst.portnum]
    exact Nat.ne_of_gt (hst.isPort.2 hend)
  have hlt : st.portnum < 256 := by
    rw [hst.portnum]
    exact Nat.lt_of_le_of_lt hst.isPort.1 (S.numports_lt _)
  unfold leaveEnd at hpath
  by_cases hcnt : st.portid.drpath.cnt > 0
  · rw [if_pos hcnt] at hpath
    cases hpath
    obtain ⟨d, hd, -⟩ := Subnet.arrival_back hstart hst.direct (hops_back hcnt) hc hend
    exact ⟨d, hd⟩
  · rw [if_neg hcnt, if_pos hpos] at hpath
    obtain ⟨-, hhops⟩ := extendDpath_hops hlt hpath
    have hempty : st.portid.drpath.hops 0 = [] := DrPath.hops_of_le (Nat.le_of_not_lt hcnt)
    rw [hempty, List.nil_append, hst.portnum] at hhops
    refine ⟨b, ?_⟩
    rw [Subnet.arrival_depart hstart hst.direct hempty hhops hc, Subnet.depart, if_neg hend,
      if_pos rfl, hpeer]

theorem enterNext_portid (h : enterNext T lid dump st = .again st') : st'.portid = st.portid := by
  obtain ⟨o, sw, -, -, rfl⟩ := enterNext_again h
  rfl

/-- Before its destination, a trace with room on its path follows a step of the tables, if the
entry of the next switch survives. -/
theorem hop_goesOn (dump : Nat) (hforce : T.force = false) (hT : S.Truthful T.query)
    (hA : S.Answering T.query) (hactive : S.AllActive) (hsrc : S.IsPort src)
    (hst : At S src dest lid a st)
    (hfar : S.portGuid a ≠ S.portGuid dest) (hvalid : st.portid.Valid) {n : Nat}
    (hroom : S.RoomFor a st.portid.drpath (n + 1)) {o : Nat} (hleaves : S.Leaves src lid a o)
    (hpeer : S.peer (a.1, o) = some b) (hlook : S.IsSwitch b.1 → S.LooksUp b.1 lid) :
    ∃ st', hop T lid dump st = .again st' ∧ At S src dest lid b st' ∧ st'.portid.Valid ∧
      S.RoomFor b st'.portid.drpath n := by
  have hact := isPortInactive_eq_false hactive hst.isPort hst.records hst.enhsp0
  have hother : sameport T st.port st.toport = false := by
    rw [Bool.eq_false_iff, Ne, sameport_iff hforce, hst.records.portguid, hst.toport]
    exact hfar
  have hcnt := hroom.2 (Nat.succ_pos n)
  by_cases hsw : S.IsSwitch a.1
  · have htype : st.node.type = ibNodeSwitch := hst.records.isSwitch.mpr hsw
    obtain ⟨hvalue, hnat, hlt⟩ := (hst.entry hsw).toNat
    have ho : o = (S.fdb a.1 lid).toNat := by rwa [Subnet.Leaves, if_pos hsw] at hleaves
    have hpos : (S.fdb a.1 lid).toNat ≠ 0 := by
      rw [← ho]
      exact Nat.ne_of_gt (S.peer_port hpeer).1
    have hout : st.nextSwOutport ≠ 0 := by
      rw [hvalue]
      exact Int.natCast_ne_zero.mpr hpos
    rw [if_pos (Or.inl hsw)] at hcnt
    obtain ⟨drpath, hpath, hvalid', hcnt'⟩ := extendDpath_valid hvalid (by omega) hpos (by omega)
    obtain ⟨c, hc, hnode, -⟩ := hst.arrives
    have hsw' : S.IsSwitch c.1 := by rwa [hnode]
    obtain ⟨-, hhops⟩ := extendDpath_hops (by omega) hpath
    obtain ⟨-, hdrslid, hdrdlid⟩ := extendDpath_some hpath
    have hstart : st.portid.SameStart { st.portid with drpath } := ⟨rfl, hdrslid, hdrdlid⟩
    have harr : S.arrival { st.portid with drpath } = some b := by
      rw [Subnet.arrival_extend hstart hst.direct hhops hc hsw', Subnet.transit, if_pos hsw',
        if_neg hpos, hnode, ← ho, hpeer]
    obtain ⟨node, port, hget⟩ := getNode_answered hA hvalid' harr st.nextnode st.nextport
    rw [← hnat] at hpath
    obtain ⟨d, -, hd, hanswered⟩ := answered_onward hT hst hsw hout hpath hget
    rw [← ho, hpeer] at hd
    cases hd
    obtain ⟨st', henter⟩ :=
      enterNext_answered lid dump hT hA hactive hvalid' hanswered hlook
    obtain ⟨hat, -⟩ := at_enter hT hanswered henter
    have hportid := enterNext_portid henter
    refine ⟨st', ?_, hat, ?_, ?_⟩
    · rw [hop, hact, hother, if_pos htype, fromSwitch_eq hpath hget, if_neg hout]
      exact henter
    · rw [hportid]
      exact hvalid'
    · rw [hportid]
      exact Subnet.RoomFor.of_le hvalid'.1 (show drpath.cnt + n ≤ 62 by omega)
  · obtain ⟨hasrc, ho⟩ : a = src ∧ o = a.2 := by rwa [Subnet.Leaves, if_neg hsw] at hleaves
    have hend : ¬ st.node.type = ibNodeSwitch := fun h => hsw (hst.records.isSwitch.mp h)
    have hend' : st.node.type = ibNodeCa ∨ st.node.type = ibNodeRouter := by
      rcases hst.records.kind with hca | hswitch | hrouter
      · exact .inl hca
      · exact absurd hswitch hend
      · exact .inr hrouter
    have hsame : sameport T st.port st.fromport = true := by
      rw [sameport_iff hforce, hst.records.portguid, hst.fromport, hasrc]
    have hpos : st.portnum ≠ 0 := by
      rw [hst.portnum]
      exact Nat.ne_of_gt (hst.isPort.2 hsw)
    have hlt : st.portnum < 256 := by
      rw [hst.portnum]
      exact Nat.lt_of_le_of_lt hst.isPort.1 (S.numports_lt _)
    have hpeer' : S.peer a = some b := by rwa [ho] at hpeer
    obtain ⟨drpath, hpath, hvalid', hcnt'⟩ := leaveEnd_valid hvalid hpos hlt
    obtain ⟨c, harr⟩ := outward_arrives hst hsw hpeer' hpath
    obtain ⟨node, port, hget⟩ := getNode_answered hA hvalid' harr st.nextnode st.nextport
    obtain ⟨d, -, hd, hanswered⟩ := answered_outward hforce hT hsrc hst hsw hsame hpath hget
    rw [hpeer'] at hd
    cases hd
    obtain ⟨st', henter⟩ :=
      enterNext_answered lid dump hT hA hactive hvalid' hanswered hlook
    obtain ⟨hat, -⟩ := at_enter hT hanswered henter
    have hportid := enterNext_portid henter
    refine ⟨st', ?_, hat, ?_, ?_⟩
    · rw [hop, hact, hother, if_neg hend, if_pos hend', fromEnd_eq hsame hpath hget]
      exact henter
    · rw [hportid]
      exact hvalid'
    · rw [hportid]
      have hgoal : drpath.cnt + n ≤ 62 := by
        rw [hcnt']
        by_cases hzero : st.portid.drpath.cnt = 0
        · rw [if_pos (Or.inr hzero)] at hcnt
          rw [if_pos hzero]
          omega
        · rw [if_neg (not_or.mpr ⟨hsw, hzero⟩)] at hcnt
          rw [if_neg hzero]
          omega
      exact Subnet.RoomFor.of_le hvalid'.1 hgoal

section Run
variable {fromId toId : PortId} {n : Nat}

/-- A trace that returns 0 has found its destination in the first round that could, with rounds to
spare, and has used the table of every switch on the way. -/
theorem findRoute_ok_needs (hforce : T.force = false) (hT : S.Truthful T.query)
    (hdirect : fromId.isDirect = true) (hsrc : S.arrival fromId = some src)
    (hdest : S.arrival toId = some dest) (harr : S.Arrives src dest toId.lid n)
    (h : (findRoute T fromId toId dump).error = none) :
    n ≤ 61 ∧ ∀ hops c, S.Route src toId.lid hops c → hops.length ≤ n → S.IsSwitch c.1 →
      S.LooksUp c.1 toId.lid := by
  obtain ⟨fromnode, fromport, tonode, toport, o, sw, k, st, hfrom, hto, hentry, hrun, hk, -⟩ :=
    findRoute_ok hforce h
  obtain ⟨src', hsrc', hrec, hnum⟩ := getNode_records hT hfrom
  obtain rfl : src = src' := Option.some.inj (hsrc.symm.trans hsrc')
  obtain ⟨dest', hdest', hrec', -⟩ := getNode_records hT hto
  obtain rfl : dest = dest' := Option.some.inj (hdest.symm.trans hdest')
  have hstart := at_start dump hT hdirect hsrc hrec hnum hrec'.portguid hentry
  have hlooks : ∀ {c s}, At S src dest toId.lid c s → S.IsSwitch c.1 → S.LooksUp c.1 toId.lid :=
    fun hat hsw => (hat.entry hsw).looksUp
  obtain ⟨m, st', ⟨hops, c, hroute, hlen, hat, hfar, hused⟩, hleave, hcount⟩ := Rounds.run_invariant
    (R := fun i s => ∃ hops c, S.Route src toId.lid hops c ∧ hops.length = i ∧
      At S src dest toId.lid c s ∧
      (∀ hops' c', S.Route src toId.lid hops' c' → hops'.length < i →
        S.portGuid c' ≠ S.portGuid dest) ∧
      ∀ hops' c', S.Route src toId.lid hops' c' → hops'.length ≤ i → S.IsSwitch c'.1 →
        S.LooksUp c'.1 toId.lid)
    (fun i s s' hs hnext => by
      obtain ⟨hops, c, hroute, hlen, hat, hfar, hused⟩ := hs
      obtain ⟨o, b, hleaves, hpeer, hat', -⟩ :=
        at_hop hforce hT (Subnet.arrival_isPort hsrc) hat hnext
      have hroute' := Subnet.Route.hop hroute hleaves hpeer
      refine ⟨_, b, hroute', by simp [hlen], hat', ?_, ?_⟩
      · intro hops' c' hr hlt
        rcases Nat.eq_or_lt_of_le (Nat.le_of_lt_succ hlt) with heq | hlt'
        · cases hr.unique hroute (heq.trans hlen.symm)
          obtain ⟨-, hother, -⟩ := hop_again hat.records.kind hnext
          intro hguid
          rw [← hat.records.portguid, ← hat.toport, ← sameport_iff hforce, hother] at hguid
          cases hguid
        · exact hfar hops' c' hr hlt'
      · intro hops' c' hr hle hsw
        rcases Nat.eq_or_lt_of_le hle with heq | hlt
        · cases hr.unique hroute' (by simp [heq, hlen])
          exact hlooks hat' hsw
        · exact hused hops' c' hr (Nat.le_of_lt_succ hlt) hsw)
    hrun (i := 0) ⟨[], src, .nil, rfl, hstart, fun _ _ _ hlt => absurd hlt (Nat.not_lt_zero _),
      fun hops' c' hr hle hsw => by
        cases hr.unique .nil (Nat.le_zero.mp hle)
        exact hlooks hstart hsw⟩
  obtain ⟨-, hguid⟩ := at_found hforce hT hat hleave
  rw [Nat.zero_add] at hlen hfar hused
  have hmn : m = n := by
    obtain ⟨⟨hopsN, cN, hrouteN, hlenN, hguidN⟩, hfirst⟩ := harr
    apply Nat.le_antisymm
    · exact Nat.le_of_not_lt fun hlt => hfar hopsN cN hrouteN (hlenN ▸ hlt) hguidN
    · exact Nat.le_of_not_lt fun hlt => hfirst hops c hroute (hlen ▸ hlt) hguid
  cases hmn
  have hmax : maxHops = 63 := rfl
  exact ⟨by omega, hused⟩

/-- With entries that survive and rounds to spare, the trace arrives. -/
theorem findRoute_arrives (hforce : T.force = false) (hT : S.Truthful T.query)
    (hA : S.Answering T.query) (hactive : S.AllActive) (hdirect : fromId.isDirect = true)
    (hvalid : fromId.Valid) (hsrc : S.arrival fromId = some src) (htoValid : toId.Valid)
    (hdest : S.arrival toId = some dest) (harr : S.Arrives src dest toId.lid n)
    (hroom : S.RoomFor src fromId.drpath n) (hn : n ≤ 61)
    (hlook : ∀ hops c, S.Route src toId.lid hops c → hops.length ≤ n → S.IsSwitch c.1 →
      S.LooksUp c.1 toId.lid) :
    (findRoute T fromId toId dump).error = none := by
  obtain ⟨fromnode, fromport, hfrom⟩ := getNode_answered hA hvalid hsrc {} {}
  obtain ⟨tonode, toport, hto⟩ := getNode_answered hA htoValid hdest {} {}
  obtain ⟨src', hsrc', hrec, hnum⟩ := getNode_records hT hfrom
  obtain rfl : src = src' := Option.some.inj (hsrc.symm.trans hsrc')
  obtain ⟨dest', hdest', hrec', -⟩ := getNode_records hT hto
  obtain rfl : dest = dest' := Option.some.inj (hdest.symm.trans hdest')
  have hisPort := Subnet.arrival_isPort hsrc
  obtain ⟨st₀, htrue⟩ : ∃ st₀, lookUp T toId.lid fromnode
      (.start T fromId dump fromnode fromport toport) = (true, st₀) := by
    apply lookUp_eq_true
    intro htype
    have hsw : S.IsSwitch src.1 := hrec.isSwitch.mp htype
    have hsrcLook := hlook [] src .nil (Nat.zero_le n) hsw
    obtain ⟨sw, hl⟩ := switchLookup_answered hT hA hvalid hsrc hsw hsrcLook T.stack
    refine ⟨_, sw, hl, ?_⟩
    rw [hrec.numports]
    exact hsrcLook.2.2
  obtain ⟨o, sw, rfl, hentry⟩ := lookUp_true htrue
  have hstart := at_start dump hT hdirect hsrc hrec hnum hrec'.portguid hentry
  obtain ⟨⟨hopsN, cN, hrouteN, hlenN, hguidN⟩, hfirst⟩ := harr
  obtain ⟨st, ⟨hops, c, hroute, hlen, hat, -, -⟩, hreach⟩ := Rounds.run_reaches
    (hop T toId.lid dump) (m := n) (n := maxHops) (i := 0)
    (R := fun i s => ∃ hops c, S.Route src toId.lid hops c ∧ hops.length = i ∧
      At S src dest toId.lid c s ∧ s.portid.Valid ∧ S.RoomFor c s.portid.drpath (n - i))
    (fun i hi s hs => by
      obtain ⟨hops, c, hroute, hlen, hat, hv, hr⟩ := hs
      obtain ⟨hops', c', o, b, hroute', hlen', hleaves, hpeer⟩ :=
        hrouteN.next (m := i) (hlenN ▸ hi)
      cases hroute'.unique hroute (hlen'.trans hlen.symm)
      have hroute'' := Subnet.Route.hop hroute hleaves hpeer
      have hlen'' : (hops ++ [(⟨o, S.portGuid b, b.2⟩ : Hop)]).length = i + 1 := by simp [hlen]
      have hsucc : n - i = n - (i + 1) + 1 := by omega
      rw [hsucc] at hr
      obtain ⟨s', hnext, hat', hv', hr'⟩ := hop_goesOn dump hforce hT hA hactive hisPort
        hat (hfirst hops c hroute (hlen ▸ hi)) hv hr hleaves hpeer
        (hlook _ b hroute'' (hlen'' ▸ hi))
      exact ⟨s', hnext, _, b, hroute'', hlen'', hat', hv', hr'⟩)
    (Nat.zero_le n) (show n - 0 < 63 by omega)
    ⟨[], src, .nil, rfl, hstart, hvalid, hroom⟩
  have hc : c = cN := hroute.unique hrouteN (hlen.trans hlenN.symm)
  have hact := isPortInactive_eq_false hactive hat.isPort hat.records hat.enhsp0
  have hsame : sameport T st.port st.toport = true := by
    rw [sameport_iff hforce, hat.records.portguid, hat.toport, hc, hguidN]
  have hleave : hop T toId.lid dump st = .leave (st, none) := by
    rw [hop, hact, hsame]
    rfl
  have hends : ends T fromId toId = some (fromnode, fromport, toport) := by
    simp [ends, hfrom, hto]
  have hspare : ¬ maxHops - (n - 0) - 1 = 0 := by
    have hmax : maxHops = 63 := rfl
    omega
  simp only [findRoute, hends, htrue, hreach _ hleave, if_neg hspare]

end Run

/-- The trace is complete up to two slips: of the 62 steps that its 63 rounds allow it takes 61,
and an entry of 128 or more, at any switch on the way or at the destination, reads as negative. -/
theorem findRoute_complete_iff (hforce : T.force = false) (hT : S.Truthful T.query)
    (hA : S.Answering T.query) (hactive : S.AllActive) {fromId toId : PortId} {n : Nat}
    (hdirect : fromId.isDirect = true) (hvalid : fromId.Valid) (hsrc : S.arrival fromId = some src)
    (htoValid : toId.Valid) (hdest : S.arrival toId = some dest)
    (harr : S.Arrives src dest toId.lid n) (hroom : S.RoomFor src fromId.drpath n) :
    (findRoute T fromId toId dump).error = none ↔
      n ≤ 61 ∧ ∀ hops c, S.Route src toId.lid hops c → hops.length ≤ n → S.IsSwitch c.1 →
        S.LooksUp c.1 toId.lid := by
  constructor
  · exact findRoute_ok_needs hforce hT hdirect hsrc hdest harr
  · intro h
    exact findRoute_arrives hforce hT hA hactive hdirect hvalid hsrc htoValid hdest harr hroom h.1
      h.2

theorem starTracer_answering : adapterStar.Answering starTracer.query :=
  Subnet.answer_answering

theorem adapterStar_active : adapterStar.AllActive := fun _ _ _ => rfl

/-- From the first adapter to the one on another port of the switch there are two steps. -/
theorem star_arrives {v : Fin 5}
    (hpeer : adapterStar.peer (0, (adapterStar.fdb 0 lid).toNat) = some (v, 1))
    (hsrc : adapterStar.portGuid (1, 1) ≠ adapterStar.portGuid (v, 1))
    (hswitch : adapterStar.portGuid (0, 1) ≠ adapterStar.portGuid (v, 1)) :
    adapterStar.Arrives (1, 1) (v, 1) lid 2 := by
  have hleaves : adapterStar.Leaves (1, 1) lid (1, 1) 1 := by
    rw [Subnet.Leaves, if_neg (by decide)]
    exact ⟨rfl, rfl⟩
  have hleaves' : adapterStar.Leaves (1, 1) lid (0, 1) (adapterStar.fdb 0 lid).toNat := by
    rw [Subnet.Leaves, if_pos (by decide)]
  have hnil : adapterStar.Route (1, 1) lid [] (1, 1) := .nil
  have hroute := Subnet.Route.hop hnil hleaves
    (show adapterStar.peer (1, 1) = some (0, 1) by decide)
  have hroute' := Subnet.Route.hop hroute hleaves' hpeer
  refine ⟨⟨_, _, hroute', rfl, rfl⟩, ?_⟩
  intro hops c hr hlt
  rcases Nat.eq_or_lt_of_le (Nat.le_of_lt_succ hlt) with heq | hlt'
  · rw [hr.unique hroute heq]
    exact hswitch
  · rw [hr.unique .nil (Nat.lt_one_iff.mp hlt')]
    exact hsrc

theorem findRoute_complete_iff_star :
    (findRoute starTracer homeId (lidId 2) 1).error = none ↔
      2 ≤ 61 ∧ ∀ hops c, adapterStar.Route (1, 1) 2 hops c → hops.length ≤ 2 →
        adapterStar.IsSwitch c.1 → adapterStar.LooksUp c.1 2 :=
  have hdest : adapterStar.arrival (lidId 2) = some (2, 1) := by decide +kernel
  findRoute_complete_iff rfl adapterStar_truthful starTracer_answering
    adapterStar_active (by decide) (by decide +kernel) (by decide +kernel) (by decide +kernel) hdest
    (star_arrives (by decide) (by decide +kernel) (by decide +kernel))
    (by decide +kernel)

/-- The adapter on port 200 of the switch is two steps away, but its table entry reads as -56. -/
theorem findRoute_misses_highPort :
    adapterStar.Truthful starTracer.query ∧ adapterStar.Answering starTracer.query ∧
      adapterStar.AllActive ∧ homeId.isDirect = true ∧ homeId.Valid ∧ (lidId 3).Valid ∧
      adapterStar.arrival homeId = some (1, 1) ∧ adapterStar.arrival (lidId 3) = some (3, 1) ∧
      adapterStar.Arrives (1, 1) (3, 1) 3 2 ∧ adapterStar.RoomFor (1, 1) homeId.drpath 2 ∧
      (findRoute starTracer homeId (lidId 3) 1).error =
        some (.badTbl SmpData.zero.bytes 3 (-56) 4) :=
  ⟨adapterStar_truthful, starTracer_answering, adapterStar_active, by decide, by decide +kernel,
    by decide +kernel, by decide +kernel, by decide +kernel,
    star_arrives (by decide) (by decide +kernel) (by decide +kernel),
    by decide +kernel, by decide +kernel⟩

end Ibtracert
end InfinibandDiags
