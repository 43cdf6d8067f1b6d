import InfinibandDiags.Trace.Agent

/-! Soundness of the unicast trace: while it goes on, the directed path ends at the node that the
records describe, and the printed hops lead there by the forwarding tables. -/
namespace InfinibandDiags
namespace Ibtracert
open Rounds (Round)
open Subnet (Hop)

def Line.hop? : Line → Option Hop
  | .hopGuid outport portguid portnum => some ⟨outport, portguid, portnum⟩
  | .hopNode outport _ portguid portnum _ _ _ => some ⟨outport, portguid, portnum⟩
  | .endGuid _ _ _ => none
  | .endNode _ _ _ _ _ _ _ => none

def printedHops (lines : List Line) : List Hop := lines.filterMap Line.hop?

/-- What a trace with this dump level shows of its hops. -/
def Tracer.shown (T : Tracer) (dump : Nat) (hops : List Hop) : List Hop :=
  if dump = 0 ∧ ¬ T.verbose then [] else hops

variable {V : Type} {S : Subnet V} {T : Tracer} {src dest : V × Nat} {lid dump : Nat}

@[simp] theorem printedHops_append (l m : List Line) :
    printedHops (l ++ m) = printedHops l ++ printedHops m := List.filterMap_append

@[simp] theorem printedHops_dumpEndnode (prompt : Prompt) (node : Node) (port : Port) :
    printedHops (dumpEndnode dump prompt node port) = [] := by
  unfold dumpEndnode
  dsimp only
  split
  · rfl
  · split <;> rfl

@[simp] theorem printedHops_dumpRoute (node : Node) (outport : Int) (port : Port) :
    printedHops (dumpRoute T dump node outport port) =
      T.shown dump [⟨outport, port.portguid, port.portnum⟩] := by
  unfold dumpRoute Tracer.shown
  split
  · rfl
  · split <;> rfl

theorem shown_append (hops hops' : List Hop) :
    T.shown dump (hops ++ hops') = T.shown dump hops ++ T.shown dump hops' := by
  unfold Tracer.shown
  split <;> rfl

theorem shown_nil : T.shown dump [] = [] := by
  rw [Tracer.shown, ite_self]

theorem sameport_iff (hforce : T.force = false) (a b : Port) :
    sameport T a b = true ↔ a.portguid = b.portguid := by
  simp [sameport, hforce]

/-- A trace on a directed path that has come to a port. -/
structure At (S : Subnet V) (src dest : V × Nat) (lid : Nat) (a : V × Nat) (st : RouteState) :
    Prop where
  direct : st.portid.isDirect = true
  arrives : ∃ b, S.arrival st.portid = some b ∧ b.1 = a.1 ∧ (¬ S.IsSwitch a.1 → b = a)
  isPort : S.IsPort a
  records : Records S a st.node st.port
  portnum : st.portnum = a.2
  fromport : st.fromport.portguid = S.portGuid src
  toport : st.toport.portguid = S.portGuid dest
  entry : S.IsSwitch a.1 → Entry S a.1 lid st.nextSwOutport
  enhsp0 : S.IsSwitch a.1 → st.sw.enhsp0 = S.enhancedPort0 a.1

/-- A state in which the next node has answered: the directed path ends at the node of `b`. -/
structure Answered (S : Subnet V) (src dest b : V × Nat) (st : RouteState) : Prop where
  direct : st.portid.isDirect = true
  arrives : ∃ c, S.arrival st.portid = some c ∧ c.1 = b.1 ∧ (¬ S.IsSwitch b.1 → c = b)
  isPort : S.IsPort b
  records : Records S b st.nextnode st.nextport
  portnum : st.nextport.portnum = b.2
  fromport : st.fromport.portguid = S.portGuid src
  toport : st.toport.portguid = S.portGuid dest

theorem Records.kind {b : V × Nat} {node : Node} {port : Port} (h : Records S b node port) :
    node.type = ibNodeCa ∨ node.type = ibNodeSwitch ∨ node.type = ibNodeRouter := by
  rw [h.type]
  exact S.type_known b.1

theorem Records.isSwitch {b : V × Nat} {node : Node} {port : Port} (h : Records S b node port) :
    node.type = ibNodeSwitch ↔ S.IsSwitch b.1 := by
  rw [h.type, Subnet.IsSwitch]

/-- The records of a port are those of the port of the same node with another number. -/
theorem Records.congr {a b : V × Nat} {node : Node} {port : Port} (h : Records S b node port)
    (hnode : b.1 = a.1) (hend : ¬ S.IsSwitch a.1 → b = a) (k : Nat) :
    Records S a node { port with portnum := k } := by
  have hasked : S.asked b = S.asked a := by
    unfold Subnet.asked
    rw [hnode]
    split
    · rfl
    · next hsw => exact hend hsw
  exact ⟨by rw [h.nodeguid, hnode], by rw [h.type, hnode], by rw [h.numports, hnode],
    h.portguid.trans (Subnet.portGuid_congr hnode hend), by rw [← hasked]; exact h.state⟩

/-- Entering the node that answered: its table entry is the one to go on with. -/
theorem at_enter (hT : S.Truthful T.query) {b : V × Nat} {st st' : RouteState}
    (hst : Answered S src dest b st) (h : enterNext T lid dump st = .again st') :
    At S src dest lid b st' ∧
      printedHops st'.printed =
        printedHops st.printed ++ T.shown dump [⟨st.outport, S.portGuid b, b.2⟩] := by
  obtain ⟨o, sw, hentry, -, rfl⟩ := enterNext_again h
  obtain ⟨c, hc, hnode, hend⟩ := hst.arrives
  have hswitch : S.IsSwitch b.1 → Entry S b.1 lid o ∧ sw.enhsp0 = S.enhancedPort0 b.1 := by
    intro hsw
    obtain ⟨hl, hnonneg, hports⟩ := hentry (hst.records.isSwitch.mpr hsw)
    obtain ⟨c', hc', hvalue, hrange, henh⟩ := lookup_entry hT hl hnonneg
    obtain rfl : c = c' := Option.some.inj (hc.symm.trans hc')
    rw [hnode] at hvalue hrange henh
    rw [hst.records.numports] at hports
    exact ⟨⟨hvalue, hrange, hnonneg, hports⟩, henh⟩
  constructor
  · exact {
      direct := hst.direct
      arrives := ⟨c, hc, hnode, hend⟩
      isPort := hst.isPort
      records := by
        simp only [RouteState.node, RouteState.port, if_true]
        exact hst.records
      portnum := hst.portnum
      fromport := hst.fromport
      toport := hst.toport
      entry := fun hsw => (hswitch hsw).1
      enhsp0 := fun hsw => (hswitch hsw).2 }
  · rw [printedHops_append, printedHops_dumpRoute, hst.records.portguid, hst.portnum]

/-- A table entry that can be used is a port number. -/
theorem Entry.toNat {v : V} {o : Int} (h : Entry S v lid o) :
    o = (S.fdb v lid).toNat ∧ o.toNat = (S.fdb v lid).toNat ∧ (S.fdb v lid).toNat < 128 := by
  obtain ⟨heq, hlt⟩ := int8_nonneg (h.value ▸ h.nonneg)
  have ho : o = (S.fdb v lid).toNat := h.value.trans heq
  exact ⟨ho, by rw [ho, Int.toNat_natCast], hlt⟩

/-- The node that answers behind a switch. -/
theorem answered_onward (hT : S.Truthful T.query) {a : V × Nat} {st : RouteState}
    (hst : At S src dest lid a st) (hsw : S.IsSwitch a.1) {drpath : DrPath} {node : Node}
    {port : Port} (hout : st.nextSwOutport ≠ 0)
    (hpath : extendDpath st.portid.drpath st.nextSwOutport.toNat = some drpath)
    (hget : getNode T st.nextnode st.nextport { st.portid with drpath } = (true, node, port)) :
    ∃ b, S.Leaves src lid a (S.fdb a.1 lid).toNat ∧
      S.peer (a.1, (S.fdb a.1 lid).toNat) = some b ∧
      Answered S src dest b (st.onward drpath node port) := by
  obtain ⟨hvalue, hnat, hlt⟩ := (hst.entry hsw).toNat
  rw [hnat] at hpath
  obtain ⟨-, hhops⟩ := extendDpath_hops (by omega) hpath
  obtain ⟨-, hdrslid, hdrdlid⟩ := extendDpath_some hpath
  have hstart : st.portid.SameStart { st.portid with drpath } := ⟨rfl, hdrslid, hdrdlid⟩
  obtain ⟨c, hc, hnode, -⟩ := hst.arrives
  have hsw' : S.IsSwitch c.1 := by rwa [hnode]
  obtain ⟨b, hb, hrec, hnum⟩ := getNode_records hT hget
  have hport := Subnet.arrival_isPort hb
  have hzero : (S.fdb a.1 lid).toNat ≠ 0 := by
    intro h0
    rw [h0] at hvalue
    exact hout hvalue
  have hstep := hb
  rw [Subnet.arrival_extend hstart hst.direct hhops hc hsw', Subnet.transit, if_pos hsw',
    if_neg hzero, hnode] at hstep
  refine ⟨b, ?_, hstep, ?_⟩
  · unfold Subnet.Leaves
    rw [if_pos hsw]
  · exact ⟨(Subnet.isDirect_congr hstart).trans hst.direct, ⟨b, hb, rfl, fun _ => rfl⟩, hport, hrec,
      hnum, hst.fromport, hst.toport⟩

/-- The node that answers behind an adapter. -/
theorem answered_outward (hforce : T.force = false) (hT : S.Truthful T.query)
    (hsrc : S.IsPort src) {a : V × Nat} {st : RouteState} (hst : At S src dest lid a st)
    (hend : ¬ S.IsSwitch a.1) {drpath : DrPath} {node : Node} {port : Port}
    (hsame : sameport T st.port st.fromport = true)
    (hpath : leaveEnd st.portid.drpath st.portnum = some drpath)
    (hget : getNode T st.nextnode st.nextport { st.portid with drpath } = (true, node, port)) :
    ∃ b, S.Leaves src lid a a.2 ∧ S.peer a = some b ∧
      Answered S src dest b (st.outward drpath node port) := by
  obtain ⟨c, hc, -, hca⟩ := hst.arrives
  obtain rfl : c = a := hca hend
  have hguid : S.portGuid c = S.portGuid src := by
    rw [← hst.records.portguid, ← hst.fromport]
    exact (sameport_iff hforce _ _).mp hsame
  have hleaves : S.Leaves src lid c c.2 := by
    unfold Subnet.Leaves
    rw [if_neg hend]
    exact ⟨(Subnet.portGuid_eq hst.isPort hsrc hguid).2 hend, rfl⟩
  obtain ⟨b, hb, hrec, hnum⟩ := getNode_records hT hget
  unfold leaveEnd at hpath
  by_cases hcnt : st.portid.drpath.cnt > 0
  · -- one hop back: the port number is the one the path left that node through
    rw [if_pos hcnt] at hpath
    cases hpath
    have hstart : st.portid.SameStart
        { st.portid with drpath := { st.portid.drpath with cnt := st.portid.drpath.cnt - 1 } } :=
      ⟨rfl, rfl, rfl⟩
    obtain ⟨d, hd, hpeer, hdk⟩ :=
      Subnet.arrival_back hstart hst.direct (hops_back hcnt) hc hend
    obtain rfl : b = d := Option.some.inj (hb.symm.trans hd)
    have hback := S.peer_symm hpeer
    have hbd : ¬ S.IsSwitch b.1 →
        b = (b.1, ((st.portid.drpath.p[st.portid.drpath.cnt - 1 + 1]?).getD 0).toNat) :=
      fun hne => Prod.ext rfl (hdk hne)
    refine ⟨_, hleaves, hback, ?_⟩
    exact {
      direct := (Subnet.isDirect_congr hstart).trans hst.direct
      arrives := ⟨b, hb, rfl, hbd⟩
      isPort := Subnet.peer_isPort hback
      records := by
        have hfix : fixPortnum st.portid.drpath
            { st.portid.drpath with cnt := st.portid.drpath.cnt - 1 } port =
            { port with
              portnum := ((st.portid.drpath.p[st.portid.drpath.cnt - 1 + 1]?).getD 0).toNat } := by
          rw [fixPortnum, if_neg (Nat.ne_of_gt hcnt)]
        simp only [RouteState.outward, hfix]
        have hcongr := hrec.congr
          (a := (b.1, ((st.portid.drpath.p[st.portid.drpath.cnt - 1 + 1]?).getD 0).toNat)) rfl hbd
        exact hcongr _
      portnum := by
        simp only [RouteState.outward, fixPortnum, if_neg (Nat.ne_of_gt hcnt)]
      fromport := hst.fromport
      toport := hst.toport }
  · -- the path is empty: it starts with the adapter's own port
    have hzero : st.portid.drpath.cnt = 0 := Nat.eq_zero_of_not_pos hcnt
    have hnum' : st.portnum ≠ 0 := by
      rw [hst.portnum]
      exact Nat.ne_of_gt (hst.isPort.2 hend)
    have hlt : st.portnum < 256 := by
      rw [hst.portnum]
      exact Nat.lt_of_le_of_lt hst.isPort.1 (S.numports_lt _)
    rw [if_neg hcnt, if_pos hnum'] at hpath
    obtain ⟨-, hhops⟩ := extendDpath_hops hlt hpath
    obtain ⟨-, hdrslid, hdrdlid⟩ := extendDpath_some hpath
    have hempty : st.portid.drpath.hops 0 = [] := DrPath.hops_of_le (Nat.le_of_eq hzero)
    rw [hempty, List.nil_append, hst.portnum] at hhops
    have hstart : st.portid.SameStart { st.portid with drpath } := ⟨rfl, hdrslid, hdrdlid⟩
    have hstep := hb
    rw [Subnet.arrival_depart hstart hst.direct hempty hhops hc, Subnet.depart, if_neg hend,
      if_pos rfl] at hstep
    refine ⟨b, hleaves, hstep, ?_⟩
    exact {
      direct := (Subnet.isDirect_congr hstart).trans hst.direct
      arrives := ⟨b, hb, rfl, fun _ => rfl⟩
      isPort := Subnet.peer_isPort hstep
      records := by
        simp only [RouteState.outward, fixPortnum, if_pos hzero]
        exact hrec
      portnum := by
        simp only [RouteState.outward, fixPortnum, if_pos hzero]
        exact hnum
      fromport := hst.fromport
      toport := hst.toport }

/-- A round of a trace is a hop by the forwarding tables. -/
theorem at_hop (hforce : T.force = false) (hT : S.Truthful T.query) (hsrc : S.IsPort src)
    {a : V × Nat} {st st' : RouteState} (hst : At S src dest lid a st)
    (h : hop T lid dump st = .again st') :
    ∃ o b, S.Leaves src lid a o ∧ S.peer (a.1, o) = some b ∧ At S src dest lid b st' ∧
      printedHops st'.printed =
        printedHops st.printed ++ T.shown dump [⟨o, S.portGuid b, b.2⟩] := by
  obtain ⟨-, -, drpath, node, port, hget, hcase⟩ := hop_again hst.records.kind h
  rcases hcase with ⟨htype, hout, hpath, henter⟩ | ⟨htype, hsame, hpath, henter⟩
  · have hsw := hst.records.isSwitch.mp htype
    obtain ⟨b, hleaves, hpeer, hanswered⟩ := answered_onward hT hst hsw hout hpath hget
    obtain ⟨hat, hprinted⟩ := at_enter hT hanswered henter
    refine ⟨_, b, hleaves, hpeer, hat, ?_⟩
    rw [hprinted, ← (hst.entry hsw).toNat.1]
    rfl
  · have hend : ¬ S.IsSwitch a.1 := fun hsw => htype (hst.records.isSwitch.mpr hsw)
    obtain ⟨b, hleaves, hpeer, hanswered⟩ :=
      answered_outward hforce hT hsrc hst hend hsame hpath hget
    obtain ⟨hat, hprinted⟩ := at_enter hT hanswered henter
    refine ⟨_, b, hleaves, hpeer, hat, ?_⟩
    rw [hprinted, ← hst.portnum]
    rfl

/-- A round that finds the port is at it: port 0 of a switch is the port it was entered by. -/
theorem at_found (hforce : T.force = false) (hT : S.Truthful T.query) {a : V × Nat}
    {st st' : RouteState} (hst : At S src dest lid a st)
    (h : hop T lid dump st = .leave (st', none)) :
    st' = st ∧ S.portGuid a = S.portGuid dest := by
  rcases hop_found hst.records.kind h with ⟨hsame, rfl⟩ | ⟨hother, htype, hout, hrest⟩
  · rw [sameport_iff hforce, hst.records.portguid, hst.toport] at hsame
    exact ⟨rfl, hsame⟩
  · obtain ⟨drpath, node, port, hpath, hget, hsame⟩ := hrest
    have hsw := hst.records.isSwitch.mp htype
    obtain ⟨c, hc, hnode, -⟩ := hst.arrives
    have hsw' : S.IsSwitch c.1 := by rwa [hnode]
    rw [hout] at hpath
    obtain ⟨-, hhops⟩ := extendDpath_hops (by decide) hpath
    obtain ⟨-, hdrslid, hdrdlid⟩ := extendDpath_some hpath
    have hstart : st.portid.SameStart { st.portid with drpath } := ⟨rfl, hdrslid, hdrdlid⟩
    obtain ⟨b, hb, hrec, -⟩ := getNode_records hT hget
    have hstep := hb
    have hzero : (0 : Int).toNat = 0 := rfl
    rw [Subnet.arrival_extend hstart hst.direct hhops hc hsw', Subnet.transit, if_pos hsw',
      if_pos hzero, hnode] at hstep
    cases hstep
    rw [sameport_iff hforce, hrec.portguid, hst.toport, ← S.portGuid_switch _ a.2 hsw,
      ← hst.records.portguid, ← hst.toport, ← sameport_iff hforce, hother] at hsame
    cases hsame

/-- A trace whose source is asked by its LID: all queries come back from the source. -/
structure Stays (S : Subnet V) (src dest : V × Nat) (st : RouteState) : Prop where
  routed : st.portid.isDirect = false
  arrives : S.arrival st.portid = some src
  records : Records S src st.node st.port
  toport : st.toport.portguid = S.portGuid dest

theorem stays_answer (hT : S.Truthful T.query) {st : RouteState} (hst : Stays S src dest st)
    {drpath : DrPath} (hdrslid : drpath.drslid = st.portid.drpath.drslid)
    (hdrdlid : drpath.drdlid = st.portid.drpath.drdlid) {node node' : Node} {port port' : Port}
    (hget : getNode T node port { st.portid with drpath } = (true, node', port')) :
    S.arrival { st.portid with drpath } = some src ∧
      PortId.isDirect { st.portid with drpath } = false ∧ Records S src node' port' := by
  have hstart : st.portid.SameStart { st.portid with drpath } := ⟨rfl, hdrslid, hdrdlid⟩
  obtain ⟨b, hb, hrec, -⟩ := getNode_records hT hget
  have harr := (Subnet.arrival_routed hstart hst.routed).trans hst.arrives
  obtain rfl : src = b := Option.some.inj (harr.symm.trans hb)
  exact ⟨harr, (Subnet.isDirect_congr hstart).trans hst.routed, hrec⟩

theorem stays_hop (hforce : T.force = false) (hT : S.Truthful T.query) {st st' : RouteState}
    (hst : Stays S src dest st) (h : hop T lid dump st = .again st') :
    Stays S src dest st' ∧ S.portGuid src ≠ S.portGuid dest := by
  obtain ⟨-, hother, drpath, node, port, hget, hcase⟩ := hop_again hst.records.kind h
  have hne : S.portGuid src ≠ S.portGuid dest := by
    intro heq
    rw [← hst.records.portguid, ← hst.toport, ← sameport_iff hforce, hother] at heq
    cases heq
  refine ⟨?_, hne⟩
  rcases hcase with ⟨-, -, hpath, henter⟩ | ⟨-, -, hpath, henter⟩
  · obtain ⟨-, hdrslid, hdrdlid⟩ := extendDpath_some hpath
    obtain ⟨harr, hrouted, hrec⟩ := stays_answer hT hst hdrslid hdrdlid hget
    obtain ⟨o, sw, -, -, rfl⟩ := enterNext_again henter
    exact ⟨hrouted, harr, hrec, hst.toport⟩
  · obtain ⟨hdrslid, hdrdlid⟩ := leaveEnd_some hpath
    obtain ⟨harr, hrouted, hrec⟩ := stays_answer hT hst hdrslid hdrdlid hget
    obtain ⟨o, sw, -, -, rfl⟩ := enterNext_again henter
    refine ⟨hrouted, harr, ?_, hst.toport⟩
    have hfix : Records S src node (fixPortnum st.portid.drpath drpath port) := by
      unfold fixPortnum
      split
      · exact hrec
      · exact hrec.congr rfl (fun _ => rfl) _
    exact hfix

theorem stays_found (hforce : T.force = false) (hT : S.Truthful T.query) {st st' : RouteState}
    (hst : Stays S src dest st) (h : hop T lid dump st = .leave (st', none)) :
    st' = st ∧ S.portGuid src = S.portGuid dest := by
  rcases hop_found hst.records.kind h with ⟨hsame, rfl⟩ | ⟨hother, -, -, hrest⟩
  · rw [sameport_iff hforce, hst.records.portguid, hst.toport] at hsame
    exact ⟨rfl, hsame⟩
  · obtain ⟨drpath, node, port, hpath, hget, hsame⟩ := hrest
    obtain ⟨-, hdrslid, hdrdlid⟩ := extendDpath_some hpath
    obtain ⟨-, -, hrec⟩ := stays_answer hT hst hdrslid hdrdlid hget
    rw [sameport_iff hforce, hrec.portguid, ← hst.records.portguid, ← sameport_iff hforce,
      hother] at hsame
    cases hsame

section Start
variable {fromId toId : PortId} {fromnode tonode : Node} {fromport toport : Port} {o : Int}
  {sw : Switch}

theorem at_start (dump : Nat) (hT : S.Truthful T.query) (hdirect : fromId.isDirect = true)
    (hsrc : S.arrival fromId = some src) (hrec : Records S src fromnode fromport)
    (hnum : fromport.portnum = src.2) (hto : toport.portguid = S.portGuid dest)
    (hentry : fromnode.type = ibNodeSwitch → switchLookup T T.stack fromId lid = (o, sw) ∧
      0 ≤ o ∧ o ≤ fromnode.numports) :
    At S src dest lid src
      { RouteState.start T fromId dump fromnode fromport toport with nextSwOutport := o, sw := sw }
      := by
  have hswitch : S.IsSwitch src.1 → Entry S src.1 lid o ∧ sw.enhsp0 = S.enhancedPort0 src.1 := by
    intro hsw
    obtain ⟨hl, hnonneg, hports⟩ := hentry (hrec.isSwitch.mpr hsw)
    obtain ⟨c, hc, hvalue, hrange, henh⟩ := lookup_entry hT hl hnonneg
    obtain rfl : src = c := Option.some.inj (hsrc.symm.trans hc)
    rw [hrec.numports] at hports
    exact ⟨⟨hvalue, hrange, hnonneg, hports⟩, henh⟩
  exact ⟨hdirect, ⟨src, hsrc, rfl, fun _ => rfl⟩, Subnet.arrival_isPort hsrc, hrec, hnum,
    hrec.portguid, hto, fun hsw => (hswitch hsw).1, fun hsw => (hswitch hsw).2⟩

end Start

/-- The trace is sound: a trace without `force` that returns 0 has printed the hops by which the
forwarding tables lead from its source to the port of its destination. -/
theorem findRoute_sound (hforce : T.force = false) (hT : S.Truthful T.query) {fromId toId : PortId}
    (h : (findRoute T fromId toId dump).error = none) :
    ∃ src dest hops c, S.arrival fromId = some src ∧ S.arrival toId = some dest ∧
      S.Route src toId.lid hops c ∧ S.portGuid c = S.portGuid dest ∧
      printedHops (findRoute T fromId toId dump).printed = T.shown dump hops := by
  obtain ⟨fromnode, fromport, tonode, toport, o, sw, k, st, hfrom, hto, hentry, hrun, -, hout⟩ :=
    findRoute_ok hforce h
  obtain ⟨src, hsrc, hrec, hnum⟩ := getNode_records hT hfrom
  obtain ⟨dest, hdest, hrec', -⟩ := getNode_records hT hto
  have hprinted : printedHops (findRoute T fromId toId dump).printed = printedHops st.printed := by
    rw [hout, printedHops_append, printedHops_dumpEndnode, List.append_nil]
  have hempty : printedHops (RouteState.start T fromId dump fromnode fromport toport).printed = [] :=
    printedHops_dumpEndnode _ _ _
  rw [hprinted]
  cases hdirect : fromId.isDirect with
  | true =>
      have hstart := at_start dump hT hdirect hsrc hrec hnum hrec'.portguid hentry
      obtain ⟨m, st', ⟨hops, c, hroute, hat, hhops⟩, hleave, -⟩ := Rounds.run_invariant
        (R := fun _ s => ∃ hops c, S.Route src toId.lid hops c ∧ At S src dest toId.lid c s ∧
          printedHops s.printed = T.shown dump hops)
        (fun i s s' hs hnext => by
          obtain ⟨hops, c, hroute, hat, hhops⟩ := hs
          obtain ⟨o, b, hleaves, hpeer, hat', hhops'⟩ :=
            at_hop hforce hT (Subnet.arrival_isPort hsrc) hat hnext
          refine ⟨_, b, .hop hroute hleaves hpeer, hat', ?_⟩
          rw [hhops', hhops, shown_append])
        hrun (i := 0) ⟨[], src, .nil, hstart, hempty.trans shown_nil.symm⟩
      obtain ⟨rfl, hguid⟩ := at_found hforce hT hat hleave
      exact ⟨src, dest, hops, c, hsrc, hdest, hroute, hguid, hhops⟩
  | false =>
      have hstart : Stays S src dest
          { RouteState.start T fromId dump fromnode fromport toport with
            nextSwOutport := o, sw := sw } :=
        ⟨hdirect, hsrc, hrec, hrec'.portguid⟩
      obtain ⟨m, st', ⟨hst, hfar, hhops⟩, hleave, -⟩ := Rounds.run_invariant
        (R := fun i s => Stays S src dest s ∧ (0 < i → S.portGuid src ≠ S.portGuid dest) ∧
          (i = 0 → printedHops s.printed = []))
        (fun i s s' hs hnext => by
          obtain ⟨hst, hne⟩ := stays_hop hforce hT hs.1 hnext
          exact ⟨hst, fun _ => hne, fun h0 => absurd h0 (Nat.succ_ne_zero i)⟩)
        hrun (i := 0) ⟨hstart, fun h0 => absurd h0 (Nat.lt_irrefl 0), fun _ => hempty⟩
      obtain ⟨rfl, hguid⟩ := stays_found hforce hT hst hleave
      have hm : 0 + m = 0 := by
        by_contra hpos
        exact hfar (Nat.pos_of_ne_zero hpos) hguid
      refine ⟨src, dest, [], src, hsrc, hdest, .nil, hguid, ?_⟩
      rw [hhops hm, shown_nil]

/-- Between the adapters on the ports 1 and 2. -/
theorem findRoute_sound_star :
    ∃ src dest hops c, adapterStar.arrival homeId = some src ∧
      adapterStar.arrival (lidId 2) = some dest ∧ adapterStar.Route src 2 hops c ∧
      adapterStar.portGuid c = adapterStar.portGuid dest ∧
      printedHops (findRoute starTracer homeId (lidId 2) 1).printed = starTracer.shown 1 hops :=
  findRoute_sound rfl adapterStar_truthful (by decide +kernel)

end Ibtracert
end InfinibandDiags
