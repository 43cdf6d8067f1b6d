import InfinibandDiags.Trace.FindRoute

/-! What the parts of a trace do when they succeed, and what a round of it can do. -/
namespace InfinibandDiags
namespace Ibtracert
open Rounds (Round)

variable {T : Tracer}

theorem getNode_true {node node' : Node} {port port' : Port} {portid : PortId}
    (h : getNode T node port portid = (true, node', port')) :
    ∃ ni pi, T.query portid ibAttrNodeInfo 0 = some ni ∧
      T.query portid ibAttrPortInfo 0 = some pi ∧
      node'.nodeguid = ni.field64 .nodeGuid ∧ node'.type = ni.field .nodeType ∧
      node'.numports = ni.field .nodeNports ∧ port'.portguid = ni.field64 .nodePortGuid ∧
      port'.portnum = ni.field .nodeLocalPort ∧ port'.state = pi.field .portState := by
  unfold getNode at h
  cases hni : T.query portid ibAttrNodeInfo 0 with
  | none =>
      rw [hni] at h
      cases h
  | some ni =>
      cases hnd : T.query portid ibAttrNodeDesc 0 with
      | none =>
          simp only [hni, hnd] at h
          cases h
      | some nd =>
          cases hpi : T.query portid ibAttrPortInfo 0 with
          | none =>
              simp only [hni, hnd, hpi] at h
              cases h
          | some pi =>
              simp only [hni, hnd, hpi] at h
              cases h
              exact ⟨ni, pi, rfl, rfl, rfl, rfl, rfl, rfl, rfl, rfl⟩

/-- A lookup with a result that is not negative got it from the forwarding table. -/
theorem switchLookup_nonneg {sw sw' : Switch} {portid : PortId} {lid : Nat} {o : Int}
    (h : switchLookup T sw portid lid = (o, sw')) (ho : 0 ≤ o) :
    ∃ si fdb, T.query portid ibAttrSwitchInfo 0 = some si ∧
      T.query portid ibAttrLinearforwtbl (lid / 64) = some fdb ∧
      (lid < si.field .swLinearFdbCap ∨ lid ≤ si.field .swLinearFdbTop) ∧
      o = int8 (byteAt fdb.bytes (lid % 64)) ∧ sw'.enhsp0 = si.field .swEnhancedPort0 := by
  unfold switchLookup at h
  cases hsi : T.query portid ibAttrSwitchInfo 0 with
  | none =>
      rw [hsi] at h
      cases h
      exact absurd ho (by decide)
  | some si =>
      simp only [hsi] at h
      split at h
      · cases h
        exact absurd ho (by decide)
      · next hrange =>
          cases hfdb : T.query portid ibAttrLinearforwtbl (lid / 64) with
          | none =>
              simp only [hfdb] at h
              cases h
              exact absurd ho (by decide)
          | some fdb =>
              simp only [hfdb] at h
              cases h
              refine ⟨si, fdb, rfl, rfl, ?_, rfl, rfl⟩
              rcases not_and_or.mp hrange with hcap | htop
              · exact .inl (Nat.lt_of_not_le hcap)
              · exact .inr (Nat.le_of_not_lt htop)

/-- A lookup writes the outgoing port and the switch record. -/
theorem lookUp_true {lid : Nat} {node : Node} {st st' : RouteState}
    (h : lookUp T lid node st = (true, st')) :
    ∃ o sw, st' = { st with nextSwOutport := o, sw := sw } ∧
      (node.type = ibNodeSwitch → switchLookup T st.sw st.portid lid = (o, sw) ∧
        0 ≤ o ∧ o ≤ node.numports) := by
  unfold lookUp at h
  split at h
  · dsimp only at h
    split at h
    · cases h
    · next hrange =>
        cases h
        refine ⟨_, _, rfl, fun _ => ⟨rfl, ?_, ?_⟩⟩
        · exact Int.not_lt.mp fun hneg => hrange (.inl hneg)
        · exact Int.not_lt.mp fun hbig => hrange (.inr hbig)
  · next htype =>
      cases h
      exact ⟨st.nextSwOutport, st.sw, rfl, fun hsw => absurd hsw htype⟩

theorem extendDpath_eq {path : DrPath} (h : path.cnt + 2 < 64) (nextport : Nat) :
    extendDpath path nextport = Scan.addPortToDpath path nextport := by
  have hroom : ¬ path.cnt + 2 ≥ 64 := Nat.not_le.mpr h
  have hroom' : ¬ path.cnt > 64 - 2 := by omega
  rw [extendDpath, if_neg hroom, Scan.addPortToDpath, if_neg hroom']

theorem extendDpath_some {path path' : DrPath} {k : Nat} (h : extendDpath path k = some path') :
    path.cnt + 2 < 64 ∧ path'.drslid = path.drslid ∧ path'.drdlid = path.drdlid := by
  unfold extendDpath at h
  split at h
  · cases h
  · next hroom =>
      cases h
      exact ⟨Nat.lt_of_not_le hroom, rfl, rfl⟩

/-- One more hop on the path. -/
theorem extendDpath_hops {path path' : DrPath} {k : Nat} (hk : k < 256)
    (h : extendDpath path k = some path') :
    path'.cnt = path.cnt + 1 ∧ path'.hops 0 = path.hops 0 ++ [k] := by
  rw [extendDpath_eq (extendDpath_some h).1] at h
  exact hops_addPortToDpath (Nat.zero_le _) hk h

theorem leaveEnd_some {path path' : DrPath} {k : Nat} (h : leaveEnd path k = some path') :
    path'.drslid = path.drslid ∧ path'.drdlid = path.drdlid := by
  unfold leaveEnd at h
  split at h
  · cases h
    exact ⟨rfl, rfl⟩
  · split at h
    · exact (extendDpath_some h).2
    · cases h
      exact ⟨rfl, rfl⟩

/-- One hop less on the path. -/
theorem hops_back {path : DrPath} (h : 0 < path.cnt) :
    path.hops 0 = DrPath.hops { path with cnt := path.cnt - 1 } 0 ++
      [((path.p[path.cnt - 1 + 1]?).getD 0).toNat] := by
  obtain ⟨n, hn⟩ : ∃ n, path.cnt = n + 1 := Nat.exists_eq_add_one.mpr h
  unfold DrPath.hops
  simp only [hn, Nat.sub_zero, Nat.add_sub_cancel]
  rw [List.range'_concat, List.map_append, List.map_singleton, Nat.one_mul, Nat.zero_add]

section Rounds
variable {lid dump : Nat} {st st' : RouteState}

/-- Entering the next node: its lookup, its state, its line. -/
theorem enterNext_again (h : enterNext T lid dump st = .again st') :
    ∃ o sw, (st.nextnode.type = ibNodeSwitch →
        switchLookup T st.sw st.portid lid = (o, sw) ∧ 0 ≤ o ∧ o ≤ st.nextnode.numports) ∧
      isPortInactive st.nextnode st.nextport sw = false ∧
      st' = { st with
        nextSwOutport := o
        sw := sw
        atNext := true
        portnum := st.nextport.portnum
        printed := st.printed ++ dumpRoute T dump st.nextnode st.outport st.nextport } := by
  unfold enterNext at h
  cases hlook : lookUp T lid st.nextnode st with
  | mk ok st₁ =>
      cases ok with
      | false =>
          simp only [hlook] at h
          cases h
      | true =>
          obtain ⟨o, sw, rfl, hentry⟩ := lookUp_true hlook
          simp only [hlook] at h
          split at h
          · cases h
          · next hactive =>
              cases h
              exact ⟨o, sw, hentry, Bool.eq_false_iff.mpr hactive, rfl⟩

/-- Entering a node either goes on or fails. -/
theorem enterNext_leave {r : RouteState} : enterNext T lid dump st ≠ .leave (r, none) := by
  intro h
  unfold enterNext at h
  split at h
  · cases h
  · split at h
    · cases h
    · cases h

/-- The state in which a round from a switch asks for the next node. -/
def RouteState.onward (st : RouteState) (drpath : DrPath) (node : Node) (port : Port) : RouteState :=
  { st with
    outport := st.nextSwOutport
    portid := { st.portid with drpath }
    nextnode := node
    nextport := port }

/-- The same for a round from an adapter. -/
def RouteState.outward (st : RouteState) (drpath : DrPath) (node : Node) (port : Port) :
    RouteState :=
  { st with
    outport := st.portnum
    portid := { st.portid with drpath }
    nextnode := node
    nextport := fixPortnum st.portid.drpath drpath port }

theorem fromSwitch_eq {drpath : DrPath} {node : Node} {port : Port}
    (hpath : extendDpath st.portid.drpath st.nextSwOutport.toNat = some drpath)
    (hget : getNode T st.nextnode st.nextport { st.portid with drpath } = (true, node, port)) :
    fromSwitch T lid dump st =
      if st.nextSwOutport = 0 then
        if !sameport T port st.toport then
          fail (st.onward drpath node port) ((st.onward drpath node port).badTbl lid)
        else .leave (st.onward drpath node port, none)
      else enterNext T lid dump (st.onward drpath node port) := by
  simp only [fromSwitch, hpath, getNext, hget, RouteState.onward]

theorem fromEnd_eq {drpath : DrPath} {node : Node} {port : Port}
    (hsame : sameport T st.port st.fromport = true)
    (hpath : leaveEnd st.portid.drpath st.portnum = some drpath)
    (hget : getNode T st.nextnode st.nextport { st.portid with drpath } = (true, node, port)) :
    fromEnd T lid dump st = enterNext T lid dump (st.outward drpath node port) := by
  have hsame' : sameport T (RouteState.port { st with outport := st.portnum }) st.fromport = true :=
    hsame
  simp only [fromEnd, hsame', hpath, getNext, hget, RouteState.outward]
  rfl

/-- A round from a switch that goes on or finds the port has the answer of the next node. -/
theorem fromSwitch_cases {r : Round RouteState RouteEnd} (h : fromSwitch T lid dump st = r)
    (hr : ∀ s e, r ≠ .leave (s, some e)) :
    ∃ drpath node port, extendDpath st.portid.drpath st.nextSwOutport.toNat = some drpath ∧
      getNode T st.nextnode st.nextport { st.portid with drpath } = (true, node, port) := by
  unfold fromSwitch at h
  cases hpath : extendDpath st.portid.drpath st.nextSwOutport.toNat with
  | none =>
      simp only [hpath] at h
      exact absurd h.symm (hr _ _)
  | some drpath =>
      cases hget : getNode T st.nextnode st.nextport { st.portid with drpath } with
      | mk ok rest =>
          cases ok with
          | false =>
              simp only [hpath, getNext, hget] at h
              exact absurd h.symm (hr _ _)
          | true => exact ⟨drpath, rest.1, rest.2, rfl, hget⟩

theorem fromEnd_cases {r : Round RouteState RouteEnd} (h : fromEnd T lid dump st = r)
    (hr : ∀ s e, r ≠ .leave (s, some e)) :
    sameport T st.port st.fromport = true ∧
    ∃ drpath node port, leaveEnd st.portid.drpath st.portnum = some drpath ∧
      getNode T st.nextnode st.nextport { st.portid with drpath } = (true, node, port) := by
  unfold fromEnd at h
  cases hsame : sameport T (RouteState.port { st with outport := st.portnum }) st.fromport with
  | false =>
      simp only [hsame] at h
      exact absurd h.symm (hr _ _)
  | true =>
      refine ⟨hsame, ?_⟩
      cases hpath : leaveEnd st.portid.drpath st.portnum with
      | none =>
          simp only [hsame, hpath] at h
          exact absurd h.symm (hr _ _)
      | some drpath =>
          cases hget : getNode T st.nextnode st.nextport { st.portid with drpath } with
          | mk ok rest =>
              cases ok with
              | false =>
                  simp only [hsame, hpath, getNext, hget] at h
                  exact absurd h.symm (hr _ _)
              | true => exact ⟨drpath, rest.1, rest.2, rfl, hget⟩

/-- A round that goes on was at neither end, and entered the node that answered. -/
theorem hop_again
    (hkind : st.node.type = ibNodeCa ∨ st.node.type = ibNodeSwitch ∨ st.node.type = ibNodeRouter)
    (h : hop T lid dump st = .again st') :
    isPortInactive st.node st.port st.sw = false ∧ sameport T st.port st.toport = false ∧
    ∃ drpath node port,
      getNode T st.nextnode st.nextport { st.portid with drpath } = (true, node, port) ∧
      (st.node.type = ibNodeSwitch ∧ st.nextSwOutport ≠ 0 ∧
          extendDpath st.portid.drpath st.nextSwOutport.toNat = some drpath ∧
          enterNext T lid dump (st.onward drpath node port) = .again st' ∨
        st.node.type ≠ ibNodeSwitch ∧ sameport T st.port st.fromport = true ∧
          leaveEnd st.portid.drpath st.portnum = some drpath ∧
          enterNext T lid dump (st.outward drpath node port) = .again st') := by
  unfold hop at h
  split at h
  · cases h
  · next hactive =>
      split at h
      · cases h
      · next hfound =>
          refine ⟨Bool.eq_false_iff.mpr hactive, Bool.eq_false_iff.mpr hfound, ?_⟩
          by_cases hsw : st.node.type = ibNodeSwitch
          · rw [if_pos hsw] at h
            obtain ⟨drpath, node, port, hpath, hget⟩ :=
              fromSwitch_cases h fun s e hr => by cases hr
            rw [fromSwitch_eq hpath hget] at h
            refine ⟨drpath, node, port, hget, .inl ⟨hsw, ?_, hpath, ?_⟩⟩
            · intro h0
              rw [if_pos h0] at h
              split at h <;> cases h
            · split at h
              · split at h <;> cases h
              · exact h
          · have hend : st.node.type = ibNodeCa ∨ st.node.type = ibNodeRouter := by
              rcases hkind with hca | hswitch | hrouter
              · exact .inl hca
              · exact absurd hswitch hsw
              · exact .inr hrouter
            rw [if_neg hsw, if_pos hend] at h
            obtain ⟨hsame, drpath, node, port, hpath, hget⟩ :=
              fromEnd_cases h fun s e hr => by cases hr
            rw [fromEnd_eq hsame hpath hget] at h
            exact ⟨drpath, node, port, hget, .inr ⟨hsw, hsame, hpath, h⟩⟩

/-- A round that finds the port is there already, or the table leads to port 0 of this switch. -/
theorem hop_found
    (hkind : st.node.type = ibNodeCa ∨ st.node.type = ibNodeSwitch ∨ st.node.type = ibNodeRouter)
    (h : hop T lid dump st = .leave (st', none)) :
    sameport T st.port st.toport = true ∧ st' = st ∨
      sameport T st.port st.toport = false ∧ st.node.type = ibNodeSwitch ∧ st.nextSwOutport = 0 ∧
      ∃ drpath node port, extendDpath st.portid.drpath st.nextSwOutport.toNat = some drpath ∧
        getNode T st.nextnode st.nextport { st.portid with drpath } = (true, node, port) ∧
        sameport T port st.toport = true := by
  unfold hop at h
  split at h
  · cases h
  · split at h
    · next hfound =>
        cases h
        exact .inl ⟨hfound, rfl⟩
    · next hfound =>
        by_cases hsw : st.node.type = ibNodeSwitch
        · rw [if_pos hsw] at h
          obtain ⟨drpath, node, port, hpath, hget⟩ :=
            fromSwitch_cases h fun s e hr => by cases hr
          rw [fromSwitch_eq hpath hget] at h
          refine .inr ⟨Bool.eq_false_iff.mpr hfound, hsw, ?_⟩
          split at h
          · next h0 =>
              refine ⟨h0, drpath, node, port, hpath, hget, ?_⟩
              cases hsame : sameport T port st.toport with
              | true => rfl
              | false =>
                  rw [hsame] at h
                  cases h
          · exact absurd h enterNext_leave
        · have hend : st.node.type = ibNodeCa ∨ st.node.type = ibNodeRouter := by
            rcases hkind with hca | hswitch | hrouter
            · exact .inl hca
            · exact absurd hswitch hsw
            · exact .inr hrouter
          rw [if_neg hsw, if_pos hend] at h
          obtain ⟨hsame, drpath, node, port, hpath, hget⟩ :=
            fromEnd_cases h fun s e hr => by cases hr
          rw [fromEnd_eq hsame hpath hget] at h
          exact absurd h enterNext_leave

end Rounds

/-- A trace that returns 0 has records of both ends, and the loop found the port in time. -/
theorem findRoute_ok {fromId toId : PortId} {dump : Nat} (hforce : T.force = false)
    (h : (findRoute T fromId toId dump).error = none) :
    ∃ fromnode fromport tonode toport o sw k st,
      getNode T {} {} fromId = (true, fromnode, fromport) ∧
      getNode T {} {} toId = (true, tonode, toport) ∧
      (fromnode.type = ibNodeSwitch → switchLookup T T.stack fromId toId.lid = (o, sw) ∧
        0 ≤ o ∧ o ≤ fromnode.numports) ∧
      Rounds.run (hop T toId.lid dump) maxHops
        { RouteState.start T fromId dump fromnode fromport toport with nextSwOutport := o, sw := sw } =
          .ok (k, st, none) ∧
      0 < k ∧
      (findRoute T fromId toId dump).printed = st.printed ++ dumpEndnode dump .to st.node st.port := by
  obtain ⟨fromnode, fromport, tonode, toport, hfrom, hto⟩ :
      ∃ fromnode fromport tonode toport, getNode T {} {} fromId = (true, fromnode, fromport) ∧
        getNode T {} {} toId = (true, tonode, toport) := by
    cases hfrom : getNode T {} {} fromId with
    | mk ok src =>
        cases ok with
        | false => simp [findRoute, ends, hfrom, hforce] at h
        | true =>
            cases hto : getNode T {} {} toId with
            | mk ok' dest =>
                cases ok' with
                | false => simp [findRoute, ends, hfrom, hto, hforce] at h
                | true => exact ⟨src.1, src.2, dest.1, dest.2, rfl, rfl⟩
  have hends : ends T fromId toId = some (fromnode, fromport, toport) := by
    simp [ends, hfrom, hto]
  cases hlook : lookUp T toId.lid fromnode (.start T fromId dump fromnode fromport toport) with
  | mk ok st₀ =>
      cases ok with
      | false =>
          simp only [findRoute, hends, hlook] at h
          cases h
      | true =>
          obtain ⟨o, sw, rfl, hentry⟩ := lookUp_true hlook
          refine ⟨fromnode, fromport, tonode, toport, o, sw, ?_⟩
          cases hrun : Rounds.run (hop T toId.lid dump) maxHops
              { RouteState.start T fromId dump fromnode fromport toport with
                nextSwOutport := o, sw := sw } with
          | error st =>
              simp only [findRoute, hends, hlook, hrun] at h
              cases h
          | ok r =>
              obtain ⟨k, st, e⟩ := r
              cases e with
              | some e =>
                  simp only [findRoute, hends, hlook, hrun] at h
                  cases h
              | none =>
                  simp only [findRoute, hends, hlook, hrun] at h ⊢
                  split at h
                  · cases h
                  · next hk =>
                      refine ⟨k, st, hfrom, hto, hentry, rfl, Nat.pos_of_ne_zero hk, ?_⟩
                      rw [if_neg hk]

end Ibtracert
end InfinibandDiags
