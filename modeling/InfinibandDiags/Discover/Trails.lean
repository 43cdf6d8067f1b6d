import InfinibandDiags.Discover.DirectRoute

/-! The directed paths that a scan keeps lead where it says, whatever is left unanswered. -/
namespace InfinibandDiags
open Engine

/-- The attribute that a callback is made for. -/
def ScanCb.attrId : ScanCb → Nat
  | .recvNodeInfo => ibAttrNodeInfo
  | .recvNodeDesc => ibAttrNodeDesc
  | .recvSwitchInfo => ibAttrSwitchInfo
  | .recvPort0Info => ibAttrPortInfo
  | .recvPortInfo => ibAttrPortInfo
  | .recvMlnxExtPortInfo => ibAttrMlnxExtPortInfo

namespace Scan

theorem attrId_queryPortInfo (path : PortId) (n : NodeRef) (k : Nat) :
    (queryPortInfo path n k).attrId = (queryPortInfo path n k).cb.attrId := by
  unfold queryPortInfo
  dsimp only
  split <;> rfl

theorem attrId_exploreLink {scan : Scan} {path : PortId} {n : NodeRef} {p : PortRef} {k : Nat}
    {req : ScanRequest} (h : req ∈ (scan.exploreLink path n p k).2) : req.attrId = req.cb.attrId := by
  obtain ⟨-, hnone | ⟨path', hone⟩⟩ := exploreLink_cases scan path n p k
  · rw [hnone] at h
    cases h
  · rw [hone] at h
    rw [List.mem_singleton.mp h]
    rfl

/-- Every request asks for the attribute of its callback. -/
theorem attrId_invariant :
    ScanInvariant (fun _ => True) fun _ req => req.attrId = req.cb.attrId where
  reply {scan smp r out} _ _ h := by
    refine ⟨trivial, fun _ ht => ht, ?_⟩
    have hport : ∀ {n out}, scan.recvPortInfo smp r.mad n = .ok out →
        ∀ req ∈ out.requests, req.attrId = req.cb.attrId := by
      intro n out h req hreq
      obtain ⟨p, f, -, ⟨-, rfl⟩ | ⟨-, -, rfl⟩⟩ := recvPortInfo_ok h
      · rw [List.mem_singleton.mp hreq]
        rfl
      · exact attrId_exploreLink hreq
    intro req hreq
    cases reply_ok h with
    | ignored h => rw [h] at hreq; cases hreq
    | nodeInfo cbdata _ _ h =>
        have hquery : ∀ path n isNew type k, req ∈ nodeQueries path n isNew type k →
            req.attrId = req.cb.attrId := by
          intro path n isNew type k hreq
          rcases mem_nodeQueries.mp hreq with ⟨-, rfl | ⟨-, rfl | rfl⟩⟩ | ⟨-, rfl⟩
          · rfl
          · rfl
          · exact attrId_queryPortInfo _ _ _
          · exact attrId_queryPortInfo _ _ _
        obtain ⟨p, f, -, ⟨-, rfl⟩ | ⟨_, _, -, ⟨-, rfl⟩ | ⟨q, -, rfl⟩⟩⟩ := recvNodeInfo_ok h
        · exact hquery _ _ _ _ _ hreq
        · cases hreq
        · exact hquery _ _ _ _ _ hreq
    | nodeDesc n _ h => rw [h] at hreq; cases hreq
    | switchInfo n _ h => rw [h] at hreq; cases hreq
    | port0Info n _ h =>
        obtain ⟨out₁, h₁, rfl⟩ := recvPort0Info_ok h
        rcases List.mem_append.mp hreq with hreq | hreq
        · exact hport h₁ req hreq
        · obtain ⟨i, -, rfl⟩ := List.mem_map.mp hreq
          exact attrId_queryPortInfo _ _ _
    | portInfo n _ h => exact hport h req hreq
    | extPortInfo n _ h =>
        obtain ⟨-, ⟨-, rfl⟩ | ⟨p, -, -, rfl⟩⟩ := recvMlnxExtPortInfo_ok h
        · cases hreq
        · exact attrId_exploreLink hreq
    | extPortInfoErr n _ h =>
        obtain ⟨-, ⟨-, rfl⟩ | ⟨p, -, -, rfl⟩⟩ := mlnxExtPortInfoErr_ok h
        · cases hreq
        · exact attrId_exploreLink hreq

end Scan

theorem attrId_of_handled {args : DiscoverArgs} {st : ScanState} {r : Recv} {smp : ScanSmp}
    (h : Reached args.start st) (hsmp : handledSmp st.engine r = some smp) :
    smp.rpc.attrId = smp.cb.attrId := by
  have hinit : ∀ t ∈ args.start.engine.pending, t.attrId = t.cb.attrId := by
    intro t ht
    rw [pending_start args t ht]
    rfl
  obtain ⟨-, ht⟩ := Scan.attrId_invariant.reached trivial hinit h
  obtain ⟨-, e₁, htake, -⟩ := handledSmp_eq_some.mp hsmp
  have hmem : smp.request ∈ st.engine.pending := by
    rw [pending_takeReply htake]
    exact Multiset.mem_cons_self _ _
  exact ht smp.request hmem

/-- What every reply keeps of the scan and of any part of the requests still to be answered, a run
keeps, whatever it loses. -/
theorem bag_of_processMads {I : Scan → Multiset ScanRequest → Prop}
    {C : Scan → ScanSmp → Recv → Prop} {st₀ st : ScanState}
    (hmono : ∀ {scan T T'}, T' ≤ T → I scan T → I scan T')
    (hstep : ∀ {st smp r out T}, Reached st₀ st → handledSmp st.engine r = some smp →
      I st.scan (smp.request ::ₘ T) → C st.scan smp r → st.scan.reply smp r = .ok out →
        I out.scan (out.requests + T))
    {rs : List Recv} {res : Option Int} {e' : Engine ScanCb CbData} {scan' : Scan}
    (h₀ : Reached st₀ st) (hI : I st.scan st.engine.pending) (hC : Along C st.engine st.scan rs)
    (h : processMads scanHandlers st.engine st.scan rs = .ok (res, e', scan')) :
    I scan' e'.pending := by
  induction rs generalizing st with
  | nil =>
      obtain ⟨-, rfl, rfl⟩ := by simpa [processMads] using h
      exact hI
  | cons r rs ih =>
      rw [processMads] at h
      by_cases hwire : clQmapCount st.engine.smpsOnWire = 0
      · rw [if_pos hwire] at h
        obtain ⟨-, rfl, rfl⟩ := by simpa using h
        exact hI
      · rw [if_neg hwire] at h
        obtain ⟨hhandled, hrest⟩ := hC hwire
        cases hone : processOneRecv scanHandlers st.engine st.scan r with
        | error fault => rw [hone] at h; cases h
        | ok one =>
            obtain ⟨rc, e₁, scan₁⟩ := one
            have hkept : I scan₁ e₁.pending := by
              rcases processOneRecv_scan hone with
                ⟨-, -, rfl, rfl | ⟨smp, e₂, htake, hdrain⟩⟩ |
                ⟨smp, e₂, out, hsmp, htake, hout, -, rfl, rfl⟩
              · exact hI
              · have hle := (processSmpQueue_drain e₂).pending.1
                rw [hdrain] at hle
                refine hmono (hle.trans ?_) hI
                rw [pending_takeReply htake]
                exact Multiset.le_cons_self _ _
              · obtain ⟨htaken, hle, -⟩ := pending_recv htake out.requests
                exact hmono hle (hstep h₀ hsmp (htaken ▸ hI) (hhandled smp hsmp) hout)
            rw [hone] at h
            dsimp only at h
            by_cases hrc : rc = 0
            · subst hrc
              rw [if_neg (not_not_intro rfl)] at h
              exact ih (.recv h₀ hone) hkept (hrest e₁ scan₁ hone) h
            · rw [if_pos hrc] at h
              obtain ⟨-, rfl, rfl⟩ := by simpa using h
              exact hkept

namespace Network
variable {V : Type} {N : Network V} {s : V × Nat} {origin : PortId} {scan : Scan} {f : Fabric}
  {smp : ScanSmp} {r : Recv} {out : Outcome} {near : V → Prop} {T T' : Multiset ScanRequest}

/-- A reply that echoes the port it was asked for and, unless it reports an error, says what the
network is like. -/
def Truthful (N : Network V) (s : V × Nat) (origin : PortId) (smp : ScanSmp) (r : Recv) : Prop :=
  madGetField r.mad 0 .madAttrmod = smp.rpc.attrMod ∧ (isClean r → N.Answers s origin smp r)

instance decidableTruthful (smp : ScanSmp) (r : Recv) :
    Decidable (N.Truthful s origin smp r) := inferInstanceAs (Decidable (_ ∧ (_ → _)))

theorem Frontier.shrink (h : N.Frontier s origin f (fun _ => False) T) (hle : T' ≤ T) :
    N.Frontier s origin f (fun _ => False) T' :=
  ⟨h.mapped, fun t ht => h.tasks t (Multiset.mem_of_le hle ht), h.paths, fun _ hnear => hnear.elim⟩

/-- A reply with an error status leads on only where an extended PortInfo was asked for. -/
theorem Frontier.errorReply (hnt : scan.fabric.NodeTable) (hstart : N.LocalStart s origin)
    (hattr : smp.rpc.attrId = smp.cb.attrId)
    (h : N.Frontier s origin scan.fabric (fun _ => False) (smp.request ::ₘ T))
    (hmod : madGetField r.mad 0 .madAttrmod = smp.rpc.attrMod) (hnot : ¬ isClean r)
    (hok : scan.reply smp r = .ok out) :
    N.Frontier s origin out.scan.fabric (fun _ => False) (out.requests + T) := by
  rw [Scan.reply_of_not_clean hnot] at hok
  by_cases hext : smp.rpc.attrId = ibAttrMlnxExtPortInfo
  · rw [if_pos hext] at hok
    have hcb : smp.cb = .recvMlnxExtPortInfo := by
      rw [hattr] at hext
      cases hcb : smp.cb with
      | recvMlnxExtPortInfo => rfl
      | _ => rw [hcb] at hext; exact absurd hext (by decide)
    have htask := h.tasks smp.request (Multiset.mem_cons_self _ _)
    unfold TaskOk at htask
    cases hdata : smp.request.cbData with
    | niCbdata rem =>
        rw [show smp.cbData = _ from hdata] at hok
        cases hok
    | node n =>
        rw [hdata] at htask
        rw [show smp.cbData = _ from hdata] at hok
        obtain ⟨b, ht⟩ := htask
        have hk : Scan.attrModPort r.mad = smp.rpc.attrMod := by
          rw [Scan.attrModPort, hmod]
          exact Nat.mod_eq_of_lt (Nat.lt_of_le_of_lt ht.port (N.numports_lt b.1))
        have hexp := expanded_mlnxExtPortInfoErr hnt h.mapped hstart ht hcb hk hok
        refine h.nodeReply hdata ht.knows hexp (fun _ hnear => hnear.elim) fun hcb' => ?_
        change smp.cb = .recvPort0Info at hcb'
        rw [hcb] at hcb'
        cases hcb'
  · rw [if_neg hext] at hok
    obtain rfl := Except.ok.inj hok
    have hsub : ((([] : List ScanRequest) : Multiset ScanRequest) + T) ≤ smp.request ::ₘ T := by
      rw [Multiset.coe_nil, Multiset.zero_add]
      exact Multiset.le_cons_self _ _
    exact h.shrink hsub

/-- Before the first NodeInfo there is at most its request, from then on a frontier. -/
def OnTrail (N : Network V) (s : V × Nat) (origin : PortId) (scan : Scan)
    (T : Multiset ScanRequest) : Prop :=
  (scan.fabric = allocateFabricInternal ∧ T ≤ {queryNodeInfo origin none}) ∨
    N.Frontier s origin scan.fabric (fun _ => False) T

theorem OnTrail.shrink (hle : T' ≤ T) (h : N.OnTrail s origin scan T) :
    N.OnTrail s origin scan T' :=
  h.imp (fun ⟨hinit, hone⟩ => ⟨hinit, hle.trans hone⟩) fun hfrontier => hfrontier.shrink hle

theorem OnTrail.reply (hnt : scan.fabric.NodeTable) (hstart : N.LocalStart s origin)
    (hattr : smp.rpc.attrId = smp.cb.attrId) (h : N.OnTrail s origin scan (smp.request ::ₘ T))
    (htrue : N.Truthful s origin smp r) (hok : scan.reply smp r = .ok out) :
    N.OnTrail s origin out.scan (out.requests + T) := by
  obtain ⟨hmod, hanswers⟩ := htrue
  have hfree : N.Unhindered s (fun _ => False) scan smp := fun _ _ _ _ _ hnear => hnear.elim
  have hclear : ∀ v : V, False → smp.path.drpath.cnt < 63 := fun _ hnear => hnear.elim
  rcases h with ⟨hinit, hle⟩ | hfrontier
  · have hcard := Multiset.card_le_card hle
    rw [Multiset.card_cons, Multiset.card_singleton] at hcard
    obtain rfl : T = 0 :=
      Multiset.card_eq_zero.mp (Nat.le_zero.mp (Nat.le_of_succ_le_succ hcard))
    have hreq : smp.request = queryNodeInfo origin none :=
      Multiset.mem_singleton.mp (Multiset.mem_of_le hle (Multiset.mem_cons_self _ _))
    by_cases hclean : isClean r
    · have hfirst : N.Underway s origin (fun _ => False) scan (smp.request ::ₘ 0) :=
        .inl ⟨hinit, by rw [hreq]; rfl⟩
      exact (hfirst.reply hnt hstart (hanswers hclean) hclear hfree hok).imp
        (fun ⟨hinit, hone⟩ => ⟨hinit, le_of_eq hone⟩) id
    · have hid : smp.rpc.attrId = ibAttrNodeInfo := congrArg Request.attrId hreq
      rw [Scan.reply_of_not_clean hclean, hid, if_neg (by decide)] at hok
      obtain rfl := Except.ok.inj hok
      exact .inl ⟨hinit, Multiset.zero_le _⟩
  · by_cases hclean : isClean r
    · exact .inr (hfrontier.reply hnt hstart (hanswers hclean) hclear hfree hok)
    · exact .inr (hfrontier.errorReply hnt hstart hattr hmod hclean hok)

/-- Along the links of the fabric a route leads to the same port as along the cables. -/
theorem Trail.routeEnd (hnt : f.NodeTable) (hm : N.Mapped s f) {m : NodeRef}
    (hroot : N.Knows f m s.1) {ks : List Nat} {a : V × Nat} (h : N.Trail s f ks a) :
    0 ∉ ks ∧ ((ks = [] ∧ a = s) ∨ ∃ q, f.routeEnd none m ks = some q ∧ N.PortAt f q a) := by
  induction h with
  | nil => exact ⟨List.not_mem_nil, .inl ⟨rfl, rfl⟩⟩
  | @snoc ks a k b _ hpeer hlinked ih =>
      obtain ⟨hzero, hend⟩ := ih
      obtain ⟨p, q, ⟨n, hn, hslot⟩, hq, hlink⟩ := hm.far_end hnt hlinked hpeer
      obtain ⟨hpos, hle⟩ := N.peer_port hpeer
      have hfar : f.farPort n k = some q := by
        rw [Fabric.farPort, if_pos ((hm.knows hn).2.1.symm ▸ hle), hslot]
        exact hlink
      refine ⟨?_, .inr ⟨q, ?_, hq⟩⟩
      · rw [List.mem_append, not_or]
        exact ⟨hzero, fun h => Nat.ne_of_gt hpos (List.mem_singleton.mp h).symm⟩
      · rcases hend with ⟨rfl, rfl⟩ | ⟨x, hx, y, hy, hyslot⟩
        · obtain rfl := hn.inj hnt hroot
          change (f.farPort n k).bind some = some q
          rw [hfar]
          rfl
        · obtain rfl := hn.inj hnt hy
          rw [Fabric.routeEnd_concat hx, (hnt.owned hyslot).1]
          exact hfar

end Network

/-- The node where the walk of `ibnd_find_port_dr` ends: that of the port it returns, or the one
it began at when there was no step. -/
def Fabric.walkNode (f : Fabric) : Option PortRef → Option NodeRef
  | some rc => some (f.port rc).node
  | none => f.fromNode

namespace Network
variable {V : Type} {N : Network V} {s : V × Nat} {args : DiscoverArgs} {rs : List Recv}
  {res : Option Int} {e : Engine ScanCb CbData} {scan : Scan}

/-- The path of a node leads from the first node to it, by the cables of the network and by the
links of the fabric alike. -/
structure PathSound (N : Network V) (s : V × Nat) (f : Fabric) (n : NodeRef) : Prop where
  start : ∃ m, f.fromNode = some m ∧ N.Knows f m s.1
  cables : ∃ b, N.walk s ((f.node n).pathPortid.drpath.hops 0) = some b ∧ N.Knows f n b.1
  links : ∃ rc, f.findPortDrLoop f.fromNode none ((f.node n).pathPortid.drpath.hops 0) = .ok rc ∧
    f.walkNode rc = some n

theorem Frontier.pathSound {near : V → Prop} {f : Fabric} {T : Multiset ScanRequest}
    {origin : PortId} (h : N.Frontier s origin f near T) (hnt : f.NodeTable)
    (hhome : origin.drpath.cnt = 0) {n : NodeRef} (hn : n < f.nodeCount) : N.PathSound s f n := by
  obtain ⟨m, hroot, hfrom, -⟩ := h.mapped.origin
  obtain ⟨b, hb, htrail⟩ := h.paths n hn
  rw [hhome] at htrail
  refine ⟨⟨m, hfrom, hroot⟩, ⟨b, htrail.walk, hb⟩, ?_⟩
  obtain ⟨hzero, hend⟩ := htrail.routeEnd hnt h.mapped hroot
  rcases hend with ⟨hnil, rfl⟩ | ⟨q, hq, x, hx, hslot⟩
  · rw [hnil]
    exact ⟨none, rfl, hfrom.trans (congrArg some (hroot.inj hnt hb))⟩
  · have hconnected := ((Fabric.routeEnd_isSome none).mp (Option.isSome_of_eq_some hq)).1
    refine ⟨some q, ?_, ?_⟩
    · rw [hfrom, Fabric.findPortDrLoop_of_present hconnected.present hzero, hq]
    · rw [Fabric.walkNode, (hnt.owned hslot).1, hx.inj hnt hb]

/-- In every state of a scan from the local port each node has a sound path, whatever replies are
late, missing or out of order. -/
theorem paths_sound (hhome : args.origin.lid = 0 ∧ args.origin.drpath.cnt = 0)
    (htrue : Along (fun _ smp r => N.Truthful s args.origin smp r) args.start.engine
      args.start.scan rs)
    (h : processMads scanHandlers args.start.engine args.start.scan rs = .ok (res, e, scan)) :
    ∀ n ∈ scan.fabric.nodes, N.PathSound s scan.fabric n := by
  have hinit : N.OnTrail s args.origin args.start.scan args.start.engine.pending := by
    refine .inl ⟨rfl, ?_⟩
    exact (pending_issueSmp args.engineInit (queryNodeInfo args.origin none)).1
  have hlast : N.OnTrail s args.origin scan e.pending :=
    bag_of_processMads (I := N.OnTrail s args.origin) OnTrail.shrink
      (fun hreached hsmp hI hC hout => OnTrail.reply (nodeTable_of_reached hreached) (.inr hhome)
        (attrId_of_handled hreached hsmp) hI hC hout) .start hinit htrue h
  have hnt : scan.fabric.NodeTable := nodeTable_of_reached (processMads_reached .start h)
  intro n hn
  have hlt := (hnt.mem_nodes n).mp hn
  rcases hlast with ⟨hempty, -⟩ | hfrontier
  · rw [hempty] at hlt
    exact absurd hlt (Nat.not_lt_zero n)
  · exact hfrontier.pathSound hnt hhome.2 hlt

/-- The nodes of two adapters behind a switch, when the last one leaves its PortInfo unanswered. -/
theorem paths_sound_twoAdapters : ∃ e scan,
    processMads scanHandlers localScan.start.engine localScan.start.scan
        (twoAdaptersReplies.take 11 ++ [⟨0, 110, responseMad 17 1 []⟩]) = .ok (some 0, e, scan) ∧
      scan.fabric.nodes = [2, 1, 0] ∧
      ∀ n ∈ scan.fabric.nodes, twoAdapters.PathSound (0, 1) scan.fabric n := by
  have hrun : (processMads scanHandlers localScan.start.engine localScan.start.scan
      (twoAdaptersReplies.take 11 ++ [⟨0, 110, responseMad 17 1 []⟩])).toOption.any
        (fun x => x.1 = some 0 ∧ x.2.2.fabric.nodes = [2, 1, 0]) = true := by
    decide +kernel
  obtain ⟨⟨res, e, scan⟩, hres, hend⟩ := (Option.any_eq_true _ _).mp hrun
  obtain ⟨rfl, hnodes⟩ := of_decide_eq_true hend
  have hreturned := toOption_eq_some.mp hres
  exact ⟨e, scan, hreturned, hnodes,
    paths_sound (N := twoAdapters) (s := (0, 1)) ⟨rfl, rfl⟩ (by decide +kernel) hreturned⟩

end Network
end InfinibandDiags
