import InfinibandDiags.Discover.HopCount
import InfinibandDiags.Discover.PortTable

/-! `maxhops_discovered` has 32 bits. Replies that keep a scan going back and forth between its
start adapter and the port next to it count it up until it starts over at 0. -/
namespace InfinibandDiags
open Engine

namespace Engine
section Solo
variable {κ δ σ : Type} {e e' : Engine κ δ} {smp : Smp κ δ} {H : Handlers κ δ σ}

/-- Nothing to send, and sends are accepted. -/
structure Idle (e : Engine κ δ) : Prop where
  queue : e.smpQueue.toList = []
  wire : clQmapCount e.smpsOnWire = 0
  room : 0 < e.cfg.maxSmps
  sends : ∀ k, 0 ≤ e.umadSend k

/-- One SMP on its way, and sends are accepted. -/
structure Solo (e : Engine κ δ) (smp : Smp κ δ) : Prop where
  queue : e.smpQueue.toList = []
  lookup : e.smpsOnWire.lookup (wireKey smp) = some smp
  wire : clQmapCount e.smpsOnWire = 1
  room : 0 < e.cfg.maxSmps
  sends : ∀ k, 0 ≤ e.umadSend k

/-- The one SMP of the queue is sent. -/
theorem solo_of_queue (hqueue : e.smpQueue.toList = [smp]) (hwire : clQmapCount e.smpsOnWire = 0)
    (hmax : 0 < e.cfg.maxSmps) (hsends : ∀ k, 0 ≤ e.umadSend k)
    (haccepted : SendAccepted e.getSmp.2 smp) :
    ∃ smp', Solo e.processSmpQueue.2 smp' ∧ smp'.request = smp.request := by
  have hroom : clQmapCount e.smpsOnWire < e.cfg.maxSmps := hwire.symm ▸ hmax
  have hd := processSmpQueue_drain e
  generalize e.processSmpQueue.1 = rc at hd
  generalize e.processSmpQueue.2 = e' at hd
  cases hd with
  | stop hstop =>
      rcases hstop with hfull | hempty
      · exact absurd hroom (Nat.not_lt.mpr hfull)
      · rw [hqueue] at hempty
        cases hempty
  | fail hready hsend hrc =>
      obtain ⟨rfl, rfl⟩ := List.cons.inj (hqueue.symm.trans hready.queue)
      have hzero := (sendSmp_rc _ _).mpr haccepted
      rw [hsend] at hzero
      exact absurd hzero hrc
  | @send _ e₁ _ smp₁ smp' rest _ hready hsend hdrain =>
      obtain ⟨rfl, rfl⟩ := List.cons.inj (hqueue.symm.trans hready.queue)
      have hleft : e.getSmp.2.smpQueue.toList = [] := (getSmp_of_cons hqueue).2
      obtain ⟨mad, -, hsmp, he₁⟩ := sendSmp_sent hsend
      have hsame : e₁.smpsOnWire = e.smpsOnWire := by
        rw [he₁]
        rfl
      have hfree : wireKey smp' ∉ e₁.smpsOnWire := by
        intro hmem
        obtain ⟨x, hx⟩ := Option.isSome_iff_exists.mp (AList.lookup_isSome.mpr hmem)
        have hitem : x ∈ clQmapItems e₁.smpsOnWire := mem_clQmapItems.mpr ⟨_, hx⟩
        rw [hsame, clQmapCount_eq_zero.mp hwire] at hitem
        cases hitem
      rcases putOnWire_cases e₁ smp' with ⟨hmem, -⟩ | ⟨-, heq⟩
      · exact absurd hmem hfree
      · rw [heq] at hdrain
        have hleft₁ : e₁.smpQueue.toList = [] := by
          rw [he₁]
          exact hleft
        obtain ⟨-, rfl⟩ := Drain.of_fullOrEmpty (by exact .inr hleft₁) hdrain
        refine ⟨smp', ⟨hleft₁, ?_, ?_, he₁ ▸ hmax, he₁ ▸ hsends⟩, ?_⟩
        · exact lookup_clQmapInsert.trans (if_pos ⟨rfl, hfree⟩)
        · refine clQmapCount_insert.trans ?_
          rw [if_neg hfree, hsame, hwire]
        · rw [hsmp]
          rfl

theorem Idle.issueSmp (h : Idle e) {req : Request κ δ} (hlid : req.portid.lid = 0)
    (hcnt : req.portid.drpath.cnt < 64) : ∃ smp, Solo (e.issueSmp req).2 smp ∧ smp.request = req := by
  have hqueue : (e.enqueue req).smpQueue.toList = [e.newSmp req] := by
    rw [toList_enqueue, h.queue, List.nil_append]
  have hclass : (e.newSmp req).rpc.mgtclass = ibSmiDirectClass := if_pos (.inl hlid)
  exact solo_of_queue hqueue h.wire h.room h.sends ⟨.inr hclass, madEncode_isSome hcnt, h.sends _⟩

/-- The reply that is waited for. -/
theorem Solo.takeReply (h : Solo e smp) {r : Recv}
    (hid : madGetField64 r.mad 0 .madTrid = smp.rpc.trid) :
    ∃ e₁, e.takeReply r = some (smp, e₁) ∧ Idle e₁ := by
  have hlookup : e.smpsOnWire.lookup (madGetField64 r.mad 0 .madTrid).toUInt32 = some smp := by
    rw [hid]
    exact h.lookup
  refine ⟨_, takeReply_eq_some.mpr ⟨hlookup, rfl⟩, h.queue, ?_, h.room, h.sends⟩
  have hcount := clQmapCount_erase hlookup
  rw [h.wire] at hcount
  exact (Nat.succ.inj hcount).symm

theorem Idle.beginCallback (h : Idle e) (smp : Smp κ δ) (r : Recv) : Idle (e.beginCallback smp r) := by
  unfold Engine.beginCallback
  split
  · exact ⟨h.queue, h.wire, h.room, h.sends⟩
  · exact h

/-- The configuration and the answers of `umad_send` are those the engine began with. -/
theorem settings_stable (cfg : Config) (umadSend : Nat → Int) :
    Stable fun e : Engine κ δ => e.cfg = cfg ∧ e.umadSend = umadSend where
  enqueue _ h := h
  sendFails h hready hsend hrc := by
    obtain ⟨_, _, -, -, rfl⟩ := sendSmp_failed hsend hrc
    exact h
  send {e e' smp smp' rest} h hready hsend := by
    obtain ⟨mad, -, -, rfl⟩ := sendSmp_sent hsend
    rcases putOnWire_cases (note _ (.sent smp' mad)) smp' with ⟨-, heq⟩ | ⟨-, heq⟩ <;>
      rw [heq] <;> exact h
  takeReply h htake := by
    obtain ⟨-, rfl⟩ := takeReply_eq_some.mp htake
    exact h
  called _ _ h := h

/-- Messages that leave `process_mads` waiting, and what comes after them. -/
theorem processMads_append {s s' : σ} {rs rs' : List Recv}
    (h : processMads H e s rs = .ok (none, e', s')) :
    processMads H e s (rs ++ rs') = processMads H e' s' rs' := by
  induction rs generalizing e s with
  | nil =>
      obtain ⟨-, rfl, rfl⟩ := by simpa [processMads] using h
      rfl
  | cons r rs ih =>
      rw [processMads] at h
      rw [List.cons_append, processMads]
      by_cases hwire : clQmapCount e.smpsOnWire = 0
      · rw [if_pos hwire] at h
        cases h
      · rw [if_neg hwire] at h ⊢
        cases hone : processOneRecv H e s r with
        | error fault => rw [hone] at h; cases h
        | ok one =>
            obtain ⟨rc, e₁, s₁⟩ := one
            rw [hone] at h
            dsimp only at h ⊢
            by_cases hrc : rc = 0
            · subst hrc
              rw [if_neg (not_not_intro rfl)] at h ⊢
              exact ih h
            · rw [if_pos hrc] at h
              cases h

end Solo
end Engine
section Replies

/-- A reply with the given content to the SMP with the given transaction id. -/
def replyTo (content : Bytes) (trid : UInt64) : Recv := ⟨0, 0, madSetField64 content 0 .madTrid trid⟩

/-- The transaction id is in nothing else's way. -/
theorem replyTo_spec (content : Bytes) (trid : UInt64) (hlen : 16 ≤ content.length) :
    let r := replyTo content trid
    madGetField64 r.mad 0 .madTrid = trid ∧
      madGetField r.mad 0 .drsmpStatus = madGetField content 0 .drsmpStatus ∧
      madGetField r.mad 0 .madAttrmod = madGetField content 0 .madAttrmod ∧
      smpData r.mad = smpData content := by
  have hbyte : ∀ j, j < 8 ∨ 16 ≤ j →
      byteAt (madSetField64 content 0 .madTrid trid) j = byteAt content j := by
    intro j hj
    rcases hj with hj | hj
    · exact byteAt_copyInto_of_lt _ hj
    · exact byteAt_copyInto_of_ge _ hj
  refine ⟨madTrid_kept hlen fun k _ => rfl, ?_, ?_, ?_⟩
  · simp [replyTo, madGetField, ibMadF, beOffs, getField, getFieldBytes, hbyte]
  · simp [replyTo, madGetField, ibMadF, getField, getFieldBytes, hbyte]
  · unfold smpData
    congr 1
    refine List.map_congr_left fun k _ => hbyte _ (.inr ?_)
    exact Nat.le_trans (by decide) (Nat.le_add_right ibSmpDataOffs k)

end Replies

namespace Fabric
variable {f f' : Fabric}

/-- Node 0 is the adapter with GUID 1 where the scan starts, its port 1 is hashed, and some node
has a path of three hops. -/
structure AtStart (f : Fabric) : Prop where
  found : f.ibndFindNodeGuid 1 = some 0
  node : (f.node 0).type = ibNodeCa ∧ (f.node 0).numports = 1 ∧ (f.node 0).ports 1 = some 0
  root : f.fromNode = some 0 ∧ f.fromPortnum = 1
  hashed : f.bucket 0 = hashguid 1 ∧ f.portstbl (hashguid 1) = some 0 ∧ 0 < f.portCount
  deep : ∃ n < f.nodeCount, (f.node n).pathPortid.drpath.cnt = 3

theorem SameNodes.find (hs : SameNodes f f') (guid : UInt64) :
    f'.ibndFindNodeGuid guid = f.ibndFindNodeGuid guid := by
  simp only [ibndFindNodeGuid, hs.nodestbl, hs.guid]

theorem AtStart.of_same (h : AtStart f) (hs : SameNodes f f')
    (hports : (f'.node 0).ports = (f.node 0).ports)
    (hroot : f'.fromNode = f.fromNode ∧ f'.fromPortnum = f.fromPortnum)
    (htable : f'.bucket 0 = hashguid 1 ∧ f'.portstbl = f.portstbl ∧ f'.portCount = f.portCount) :
    AtStart f' where
  found := (hs.find 1).trans h.found
  node := by rw [hs.type, hs.numports, hports]; exact h.node
  root := by rw [hroot.1, hroot.2]; exact h.root
  hashed := by rw [htable.2.1, htable.2.2]; exact ⟨htable.1, h.hashed.2⟩
  deep := by
    obtain ⟨n, hn, hcnt⟩ := h.deep
    exact ⟨n, hs.nodeCount ▸ hn, (congrArg (·.drpath.cnt) (hs.path n)).trans hcnt⟩

end Fabric

namespace Scan
variable {scan : Scan}

/-- The scan is unlimited, its path to the start adapter has two hops, and that adapter is known. -/
structure Looping (scan : Scan) : Prop extends Fabric.AtStart scan.fabric where
  config : scan.cfg.maxHops = 0 ∧ scan.cfg.flags = 0 ∧ scan.initialHops = 2

/-- The NodeInfo of the start adapter again, through its own port: ask for the PortInfo. -/
theorem Looping.nodeInfo (h : Looping scan) (smp : ScanSmp) (mad : Bytes)
    (hguid : (smpData mad).field64 .nodeGuid = 1)
    (hport : (smpData mad).field64 .nodePortGuid = 1) (hlocal : (smpData mad).field .nodeLocalPort = 1) :
    ∃ out, scan.recvNodeInfo smp mad (some (0, 1)) = .ok out ∧ out.rc = 0 ∧ Looping out.scan ∧
      out.scan.fabric.maxhopsDiscovered = scan.fabric.maxhopsDiscovered ∧
      out.requests = [queryPortInfo smp.path 0 1] := by
  obtain ⟨htype, hnum, hslot⟩ := h.node
  set f₁ := scan.fabric.modifyPort 0 fun port => { port with guid := 1 }
  have hnode : (f₁.linkPorts 0 0).node = scan.fabric.node := (Fabric.node_linkPorts f₁ 0 0).1
  have hslot₀ : scan.fabric.slot 0 1 = .ok (some 0) :=
    Fabric.slot_eq_ok.mpr ⟨Nat.le_of_eq hnum.symm, hslot⟩
  have hslot₁ : f₁.slot 0 1 = .ok (some 0) := hslot₀
  have hbucket : f₁.bucket 0 = hashguid 1 := by
    rw [Fabric.bucket_modifyPort]
    exact Function.update_self _ _ _
  have htable := Fabric.sameTable_linkPorts f₁ 0 0
  have hguid₁ : Fabric.SameNodes scan.fabric f₁ := .of_node rfl rfl rfl rfl
  have hsame := hguid₁.trans (Fabric.sameNodes_linkPorts f₁ 0 0)
  have hstart : (f₁.linkPorts 0 0).AtStart := by
    refine h.toAtStart.of_same hsame (by rw [hnode]) (Fabric.linkPorts_info f₁ 0 0 0).2 ?_
    exact ⟨(congrFun htable.bucket 0).trans hbucket, htable.portstbl, htable.portCount⟩
  refine ⟨scan.finishNodeInfo smp.path 0 false 1 (f₁.linkPorts 0 0), ?_, rfl, ⟨hstart, h.config⟩,
    (Fabric.samePaths_linkPorts f₁ 0 0).hops, ?_⟩
  · unfold recvNodeInfo
    simp only [findOrCreateNode, hguid, hlocal, hport, h.found, ensurePort, hslot₀, bind, Except.bind]
    simp only [hslot₁, f₁]
  · have htype' : ((f₁.linkPorts 0 0).node 0).type = ibNodeCa := by
      rw [hnode]
      exact htype
    unfold finishNodeInfo
    dsimp only
    rw [htype']
    rfl

/-- From far away the start adapter is left by the hop it was reached with. -/
theorem exploreLink_back {path : PortId} {n : NodeRef} {p : PortRef} {k : Nat}
    (hworth : scan.worthFollowing n p k = true) (hfar : scan.Retracts n path)
    (hfree : scan.hopLimitReached = false) : ∃ path', path'.lid = path.lid ∧
      path'.drpath.cnt = path.drpath.cnt - 1 ∧ scan.exploreLink path n p k =
        (scan.mapFabric fun f => { f with maxhopsDiscovered := f.maxhopsDiscovered + 1 },
          [queryNodeInfo path' (some (n, k))]) := by
  have hretract : scan.retractDpath path = _ := if_neg (hfree ▸ Bool.false_ne_true)
  have hback : (scan.fabric.node n).type ≠ ibNodeSwitch ∧ some n = scan.fabric.fromNode ∧
      path.drpath.cnt > 1 := hfar
  refine ⟨(scan.retractDpath path).2.2, by rw [hretract], by rw [hretract], ?_⟩
  unfold exploreLink
  rw [if_pos hworth]
  dsimp only
  rw [if_pos hback, hretract]
  rfl

/-- From near it is left through the start port. -/
theorem exploreLink_ahead {path : PortId} {n : NodeRef} {p : PortRef} {k : Nat}
    (hworth : scan.worthFollowing n p k = true) (hnear : path.lid = 0 ∧ path.drpath.cnt ≤ 1)
    (hdeep : ¬ UInt32.ofNat (path.drpath.cnt + 1) - scan.initialHops > scan.fabric.maxhopsDiscovered)
    (hfree : scan.hopLimitReached = false) : ∃ path', path'.lid = path.lid ∧
      path'.drpath.cnt = path.drpath.cnt + 1 ∧ scan.exploreLink path n p k =
        (scan, [queryNodeInfo path' (some (n, k))]) := by
  obtain ⟨hlid, hcnt⟩ := hnear
  have hadd : addPortToDpath path.drpath k = some { path.drpath with
      cnt := path.drpath.cnt + 1
      p := path.drpath.p.setIfInBounds (path.drpath.cnt + 1) (UInt8.ofNat k) } :=
    if_neg (by omega)
  have hextend : scan.extendDpath path k = (1, scan, { path with drpath := { path.drpath with
      cnt := path.drpath.cnt + 1
      p := path.drpath.p.setIfInBounds (path.drpath.cnt + 1) (UInt8.ofNat k) } }) := by
    unfold extendDpath
    rw [hfree, if_neg Bool.false_ne_true, if_neg (not_not_intro hlid)]
    dsimp only
    rw [hadd]
    simp only [if_neg hdeep]
    rfl
  have hback : ¬ ((scan.fabric.node n).type ≠ ibNodeSwitch ∧ some n = scan.fabric.fromNode ∧
      path.drpath.cnt > 1) := fun h => Nat.not_lt.mpr hcnt h.2.2
  refine ⟨(scan.extendDpath path k).2.2, by rw [hextend], by rw [hextend], ?_⟩
  unfold exploreLink
  rw [if_pos hworth]
  dsimp only
  rw [if_neg hback, if_pos (.inl hlid), hextend]
  rfl

/-- The PortInfo of the start port, linked up: one hop back from far away, one ahead from near. -/
theorem Looping.portInfo (h : Looping scan) (smp : ScanSmp) (mad : Bytes)
    (hmod : madGetField mad 0 .madAttrmod = 1)
    (hlid : (smpData mad).field .portLid = 0) (hlmc : (smpData mad).field .portLmc = 0)
    (hphys : (smpData mad).field .portPhysState = ibPortPhysStateLinkup)
    (hsmp : smp.path.lid = 0 ∧ (smp.path.drpath.cnt = 1 ∨ smp.path.drpath.cnt = 2)) :
    ∃ out path', scan.recvPortInfo smp mad 0 = .ok out ∧ out.rc = 0 ∧ Looping out.scan ∧
      out.requests = [queryNodeInfo path' (some (0, 1))] ∧ path'.lid = 0 ∧
      (smp.path.drpath.cnt = 1 → path'.drpath.cnt = 2 ∧
        out.scan.fabric.maxhopsDiscovered = scan.fabric.maxhopsDiscovered) ∧
      (smp.path.drpath.cnt = 2 → path'.drpath.cnt = 1 ∧
        out.scan.fabric.maxhopsDiscovered = scan.fabric.maxhopsDiscovered + 1) := by
  obtain ⟨htype, hnum, hslot⟩ := h.node
  obtain ⟨hmax, hflags, hinit⟩ := h.config
  have hk : attrModPort mad = 1 := by rw [attrModPort, hmod]
  have hslot₀ : scan.fabric.slot 0 1 = .ok (some 0) :=
    Fabric.slot_eq_ok.mpr ⟨Nat.le_of_eq hnum.symm, hslot⟩
  have hnotSwitch : (scan.fabric.node 0).type ≠ ibNodeSwitch := by
    rw [htype]
    decide
  set f₁ := scan.fabric.modifyPort 0 fun port => { port with
    info := smpData mad, node := 0, portnum := 1, baseLid := 0, lmc := 0 } with hf₁
  have hstore : storePortInfo scan.fabric 0 0 1 (smpData mad) = f₁ := by
    unfold storePortInfo
    rw [hlid, hlmc]
    dsimp only
    rw [if_neg (by decide)]
    exact if_neg hnotSwitch
  have hbucket : f₁.bucket 0 = hashguid 1 := by
    rw [Fabric.bucket_modifyPort]
    exact (Function.update_self _ _ _).trans h.hashed.1
  have hchain : f₁.onChain 0 f₁.portCount (f₁.portstbl (f₁.bucket 0)) = .ok true := by
    obtain ⟨left, hleft⟩ := Nat.exists_eq_succ_of_ne_zero (Nat.ne_of_gt h.hashed.2.2)
    rw [hbucket, show f₁.portstbl (hashguid 1) = some 0 from h.hashed.2.1,
      show f₁.portCount = left + 1 from hleft]
    exact if_pos rfl
  set f₂ : Fabric := { f₁ with hashed := 0 :: f₁.hashed } with hf₂
  have hhash : f₁.addToPortguidHash 0 = .ok (1, f₂) := by
    unfold Fabric.addToPortguidHash
    dsimp only
    rw [hchain]
    rfl
  have hlids : f₂.addToPortlidHash 0 = .ok f₂ := by
    have hport : (f₂.port 0).baseLid = 0 ∧ (f₂.port 0).lmc = 0 := by
      simp [hf₂, hf₁, Fabric.modifyPort]
    unfold Fabric.addToPortlidHash
    rw [hport.1, hport.2]
    rfl
  have hstart : f₂.AtStart :=
    h.toAtStart.of_same (.of_node rfl rfl rfl rfl) rfl ⟨rfl, rfl⟩ ⟨hbucket, rfl, rfl⟩
  set scan₂ : Scan := { scan with fabric := f₂ } with hscan₂
  have hwants : scan₂.wantsExtPortInfo 0 = .ok false := by
    unfold wantsExtPortInfo
    rw [show scan₂.cfg.flags = 0 from hflags]
    rfl
  have hdebug : scan₂.debugPort 0 = .ok () := by
    have howner : (f₂.port 0).node = 0 := by simp [hf₂, hf₁, Fabric.modifyPort]
    have hcap : scan₂.capInfo 0 = .ok (f₂.port 0).info := by
      unfold capInfo
      dsimp only
      rw [show (scan₂.fabric.port 0).node = 0 from howner]
      exact if_neg hnotSwitch
    unfold debugPort
    rw [hcap]
    rfl
  have hworth : scan₂.worthFollowing 0 0 1 = true := by
    have hinfo : (f₂.port 0).info.field .portPhysState = ibPortPhysStateLinkup := by
      rw [← hphys]
      simp [hf₂, hf₁, Fabric.modifyPort]
    unfold worthFollowing
    simp [hscan₂, hinfo, hstart.root.1, hstart.root.2]
  have hfree : scan₂.hopLimitReached = false := by
    rw [hopLimitReached, show scan₂.cfg.maxHops = 0 from hmax]
    rfl
  have hout : scan.recvPortInfo smp mad 0 = .ok ⟨(scan₂.exploreLink smp.path 0 0 1).1,
      (scan₂.exploreLink smp.path 0 0 1).2, 0⟩ := by
    unfold recvPortInfo
    simp only [hk, ensurePort, hslot₀, hstore, hhash, hlids, hwants, hdebug, bind, Except.bind, ← hscan₂]
    rfl
  have hnode : (scan₂.fabric.node 0).type ≠ ibNodeSwitch := hnotSwitch
  have hroot : some 0 = scan₂.fabric.fromNode := hstart.root.1.symm
  have hlooping : ∀ m : UInt32,
      Looping { scan₂ with fabric := { f₂ with maxhopsDiscovered := m } } := fun m =>
    ⟨hstart.of_same (.of_node rfl rfl rfl rfl) rfl ⟨rfl, rfl⟩ ⟨hbucket, rfl, rfl⟩, hmax, hflags, hinit⟩
  rcases hsmp with ⟨hlocal, hcnt | hcnt⟩
  · have hdeep : ¬ UInt32.ofNat (smp.path.drpath.cnt + 1) - scan₂.initialHops >
        scan₂.fabric.maxhopsDiscovered := by
      rw [hcnt, show scan₂.initialHops = 2 from hinit]
      exact UInt32.not_lt.mpr (UInt32.le_iff_toNat_le.mpr (Nat.zero_le _))
    obtain ⟨path', hlid', hcnt', hexplore⟩ :=
      exploreLink_ahead hworth ⟨hlocal, Nat.le_of_eq hcnt⟩ hdeep hfree
    rw [hexplore] at hout
    refine ⟨_, path', hout, rfl, ⟨hstart, hmax, hflags, hinit⟩, rfl, hlid'.trans hlocal,
      fun _ => ⟨by rw [hcnt', hcnt], rfl⟩, fun htwo => ?_⟩
    exact absurd (hcnt.symm.trans htwo) (by decide)
  · have hfar : scan₂.Retracts 0 smp.path := ⟨hnode, hroot, by rw [hcnt]; decide⟩
    obtain ⟨path', hlid', hcnt', hexplore⟩ := exploreLink_back hworth hfar hfree
    rw [hexplore] at hout
    refine ⟨_, path', hout, rfl, hlooping _, rfl, hlid'.trans hlocal, fun hone => ?_,
      fun _ => ⟨by rw [hcnt', hcnt], rfl⟩⟩
    exact absurd (hcnt.symm.trans hone) (by decide)

end Scan
/-- A reply that leads to one request, on an otherwise quiet wire. -/
theorem processMads_solo {e : Engine ScanCb CbData} {scan : Scan} {smp : ScanSmp} {r : Recv}
    {out : Outcome} {req : ScanRequest} (h : Solo e smp)
    (hr : 0 ≤ r.rc) (hid : madGetField64 r.mad 0 .madTrid = smp.rpc.trid)
    (hreply : scan.reply smp r = .ok out) (hrc : out.rc = 0) (hreqs : out.requests = [req])
    (hlid : req.portid.lid = 0) (hcnt : req.portid.drpath.cnt < 64) :
    ∃ e' smp', processMads scanHandlers e scan [r] = .ok (none, e', out.scan) ∧ Solo e' smp' ∧
      smp'.request = req := by
  obtain ⟨e₁, htake, hidle⟩ := h.takeReply hid
  have hdrain : e₁.processSmpQueue = (0, e₁) := by
    obtain ⟨hzero, hsame⟩ := (processSmpQueue_drain e₁).of_fullOrEmpty (.inr hidle.queue)
    exact Prod.ext hzero hsame
  obtain ⟨smp', hsolo, hreq⟩ := (hidle.beginCallback smp r).issueSmp hlid hcnt
  refine ⟨((e₁.beginCallback smp r).issueSmp req).2, smp', ?_, hsolo, hreq⟩
  have hone : processOneRecv scanHandlers e scan r =
      .ok (0, ((e₁.beginCallback smp r).issueSmp req).2, out.scan) := by
    rw [processOneRecv, if_neg (Int.not_lt.mpr hr), htake]
    dsimp only
    rw [hdrain]
    dsimp only
    rw [if_neg (not_not_intro rfl), Scan.handler_eq_run, hreply, Scan.run, exec_issueAll, hreqs, hrc]
    rfl
  have hwire : clQmapCount e.smpsOnWire ≠ 0 := by
    rw [h.wire]
    decide
  rw [processMads, if_neg hwire, hone]
  dsimp only
  rw [if_neg (not_not_intro rfl), processMads, if_neg]
  rw [hsolo.wire]
  decide

/-- The scan waits for the NodeInfo that it asked for through the start port of its adapter. -/
structure Waiting (st : ScanState) (cnt : Nat) : Prop where
  looping : Scan.Looping st.scan
  solo : ∃ smp path, Solo st.engine smp ∧ smp.request = queryNodeInfo path (some (0, 1)) ∧
    path.lid = 0 ∧ path.drpath.cnt = cnt

def startInfo : Bytes := responseMad 0 0 (nodeInfoData 1 1 ibNodeCa 1 1)
def startPortInfo : Bytes := responseMad 0 1 (portInfoData 1 5 0)

/-- Two replies: the start adapter says who it is and that its port is linked up. -/
theorem Waiting.turn {st : ScanState} {cnt : Nat} (h : Waiting st cnt) (hcnt : cnt = 1 ∨ cnt = 2) :
    ∃ rs st', processMads scanHandlers st.engine st.scan rs = .ok (none, st'.engine, st'.scan) ∧
      Waiting st' (3 - cnt) ∧ st'.scan.fabric.maxhopsDiscovered =
        st.scan.fabric.maxhopsDiscovered + if cnt = 2 then 1 else 0 := by
  obtain ⟨smp, path, hsolo, hreq, hlid, hlen⟩ := h.solo
  obtain ⟨hid, hstatus, -, hdata⟩ := replyTo_spec startInfo smp.rpc.trid (by decide +kernel)
  set r := replyTo startInfo smp.rpc.trid with hr
  have hclean : isClean r = true := by
    rw [isClean, hstatus]
    exact (by decide +kernel : (decide ((0 : Int) = 0) &&
      decide (madGetField startInfo 0 .drsmpStatus = 0)) = true)
  obtain ⟨out, hout, hrc, hloop, hhops, hreqs⟩ :=
    h.looping.nodeInfo smp r.mad (by rw [hdata]; decide +kernel)
      (by rw [hdata]; decide +kernel) (by rw [hdata]; decide +kernel)
  have hpath : smp.path = path := congrArg Request.portid hreq
  have hreply : st.scan.reply smp r = .ok out := by
    rw [Scan.reply_of_clean hclean, show smp.cbData = _ from congrArg Request.cbData hreq,
      show smp.cb = _ from congrArg Request.cb hreq]
    exact hout
  have hshort : smp.path.drpath.cnt < 64 := by
    rw [hpath, hlen]
    omega
  obtain ⟨e₁, smp₁, hrun, hsolo₁, hreq₁⟩ :=
    processMads_solo hsolo (Int.le_refl 0) hid hreply hrc hreqs (hpath ▸ hlid) hshort
  obtain ⟨hid₁, hstatus₁, hmod₁, hdata₁⟩ :=
    replyTo_spec startPortInfo smp₁.rpc.trid (by decide +kernel)
  set r₁ := replyTo startPortInfo smp₁.rpc.trid with hr₁
  have hclean₁ : isClean r₁ = true := by
    rw [isClean, hstatus₁]
    exact (by decide +kernel : (decide ((0 : Int) = 0) &&
      decide (madGetField startPortInfo 0 .drsmpStatus = 0)) = true)
  have hpath₁ : smp₁.path = path := (congrArg Request.portid hreq₁).trans hpath
  obtain ⟨out₁, path', hout₁, hrc₁, hloop₁, hreqs₁, hlid', hnear, hfar⟩ :=
    hloop.portInfo smp₁ r₁.mad (hmod₁.trans (by decide +kernel)) (by rw [hdata₁]; decide +kernel)
      (by rw [hdata₁]; decide +kernel) (by rw [hdata₁]; decide +kernel)
      (by rw [hpath₁, hlen]; exact ⟨hlid, hcnt⟩)
  have hreply₁ : out.scan.reply smp₁ r₁ = .ok out₁ := by
    rw [Scan.reply_of_clean hclean₁, show smp₁.cbData = _ from congrArg Request.cbData hreq₁,
      show smp₁.cb = _ from congrArg Request.cb hreq₁]
    exact hout₁
  rw [hpath₁, hlen] at hnear hfar
  have hcnt' : path'.drpath.cnt = 3 - cnt := by
    rcases hcnt with hone | htwo
    · rw [(hnear hone).1, hone]
    · rw [(hfar htwo).1, htwo]
  obtain ⟨e₂, smp₂, hrun₁, hsolo₂, hreq₂⟩ :=
    processMads_solo hsolo₁ (Int.le_refl 0) hid₁ hreply₁ hrc₁ hreqs₁ hlid'
      (Nat.lt_of_le_of_lt (Nat.le_of_eq hcnt') (by omega))
  refine ⟨[r] ++ [r₁], ⟨e₂, out₁.scan⟩, (processMads_append hrun).trans hrun₁,
    ⟨hloop₁, smp₂, path', hsolo₂, hreq₂, hlid', hcnt'⟩, ?_⟩
  rcases hcnt with rfl | rfl
  · rw [if_neg (by decide), (hnear rfl).2, hhops, UInt32.add_zero]
  · rw [if_pos rfl, (hfar rfl).2, hhops]

/-- There and back, as often as one likes. -/
theorem Waiting.turns {st : ScanState} (h : Waiting st 2) (k : Nat) :
    ∃ rs st', processMads scanHandlers st.engine st.scan rs = .ok (none, st'.engine, st'.scan) ∧
      Waiting st' 2 ∧ st'.scan.fabric.maxhopsDiscovered =
        st.scan.fabric.maxhopsDiscovered + UInt32.ofNat k := by
  induction k with
  | zero =>
      refine ⟨[], st, ?_, h, (UInt32.add_zero _).symm⟩
      obtain ⟨smp, -, hsolo, -⟩ := h.solo
      rw [processMads, if_neg]
      rw [hsolo.wire]
      decide
  | succ k ih =>
      obtain ⟨rs, st₁, hrun, h₁, hhops⟩ := ih
      obtain ⟨rs₁, st₂, hrun₁, h₂, hhops₁⟩ := h₁.turn (.inr rfl)
      obtain ⟨rs₂, st₃, hrun₂, h₃, hhops₂⟩ := h₂.turn (.inl rfl)
      refine ⟨rs ++ (rs₁ ++ rs₂), st₃, ?_, h₃, ?_⟩
      · rw [processMads_append hrun, processMads_append hrun₁, hrun₂]
      · rw [hhops₂, hhops₁, hhops]
        simp [UInt32.ofNat_add, UInt32.add_assoc]

theorem waiting_farReplies : ∃ st, processMads scanHandlers farScan.start.engine farScan.start.scan
    farReplies = .ok (none, st.engine, st.scan) ∧ Waiting st 2 ∧
      st.scan.fabric.maxhopsDiscovered = 2 := by
  have hrun : (processMads scanHandlers farScan.start.engine farScan.start.scan
      farReplies).toOption.any (fun x => x.1 = none ∧
        (let f := x.2.2.fabric
        f.maxhopsDiscovered = 2 ∧ f.ibndFindNodeGuid 1 = some 0 ∧
          ((f.node 0).type = ibNodeCa ∧ (f.node 0).numports = 1 ∧ (f.node 0).ports 1 = some 0) ∧
          (f.fromNode = some 0 ∧ f.fromPortnum = 1) ∧
          (f.bucket 0 = hashguid 1 ∧ f.portstbl (hashguid 1) = some 0 ∧ 0 < f.portCount) ∧
          (2 < f.nodeCount ∧ (f.node 2).pathPortid.drpath.cnt = 3)) ∧
        (x.2.2.cfg.maxHops = 0 ∧ x.2.2.cfg.flags = 0 ∧ x.2.2.initialHops = 2) ∧
        (x.2.1.smpQueue.toList = [] ∧ clQmapCount x.2.1.smpsOnWire = 1) ∧
        ∃ smp ∈ clQmapItems x.2.1.smpsOnWire, x.2.1.smpsOnWire.lookup (wireKey smp) = some smp ∧
          smp.request = queryNodeInfo smp.path (some (0, 1)) ∧ smp.path.lid = 0 ∧
          smp.path.drpath.cnt = 2) = true := by
    decide +kernel
  obtain ⟨⟨res, e, scan⟩, hres, hend⟩ := (Option.any_eq_true _ _).mp hrun
  obtain ⟨rfl, ⟨hhops, hfound, hnode, hroot, hhashed, hdeep⟩, hconfig, ⟨hqueue, hwire⟩, smp, -,
    hlookup, hreq, hlid, hcnt⟩ := of_decide_eq_true hend
  have hreturned := toOption_eq_some.mp hres
  have hset := @settings_stable ScanCb CbData farScan.start.engine.cfg farScan.start.engine.umadSend
  obtain ⟨hcfg, hsend⟩ := hset.processMads ⟨rfl, rfl⟩ hreturned
  refine ⟨⟨e, scan⟩, hreturned, ⟨⟨⟨hfound, hnode, hroot, hhashed, 2, hdeep⟩, hconfig⟩, smp, smp.path,
    ⟨hqueue, hlookup, hwire, ?_, fun k => ?_⟩, hreq, hlid, hcnt⟩, hhops⟩
  · rw [hcfg]
    decide +kernel
  · have hzero : farScan.start.engine.umadSend k = 0 := by
      obtain ⟨-, h⟩ := (settings_stable (setConfig farScan.cfg) farScan.umadSend).issueSmp
        (queryNodeInfo farScan.origin none) (e := farScan.engineInit) ⟨rfl, rfl⟩
      exact congrFun h k
    exact Int.le_of_eq ((congrFun hsend k).trans hzero).symm

/-- The count starts over, and the adapter three hops away is one hop deeper than it says. -/
theorem hop_count_wraps : ∃ rs e scan, processMads scanHandlers farScan.start.engine
      farScan.start.scan rs = .ok (none, e, scan) ∧
    ∃ n < scan.fabric.nodeCount, ¬ ((scan.fabric.node n).pathPortid.drpath.cnt : Int) -
      scan.initialHops.toNat ≤ scan.fabric.maxhopsDiscovered.toNat := by
  obtain ⟨st, hrun, hwaiting, hhops⟩ := waiting_farReplies
  obtain ⟨rs, st', hrun', hlast, hhops'⟩ := hwaiting.turns (2 ^ 32 - 2)
  obtain ⟨n, hn, hcnt⟩ := hlast.looping.deep
  refine ⟨farReplies ++ rs, st'.engine, st'.scan, (processMads_append hrun).trans hrun', n, hn, ?_⟩
  have hzero : st'.scan.fabric.maxhopsDiscovered = 0 := by
    rw [hhops', hhops]
    rfl
  rw [hcnt, hlast.looping.config.2.2, hzero]
  decide

end InfinibandDiags
