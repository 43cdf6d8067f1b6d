import InfinibandDiags.Discover.Complete
import InfinibandDiags.Discover.Paths

/-! How far the scan goes: every path it ever uses has room in its array and is no longer than
`maxhops_discovered` allows. -/
namespace InfinibandDiags
open Engine

namespace Engine
section Issued
variable {κ δ σ : Type} {e e' : Engine κ δ} {req req' : Request κ δ} {smp : Smp κ δ} {rc : Int}

/-- Draining the queue issues nothing. -/
theorem Drain.issued (h : Drain rc e e') (hev : Event.issued req smp ∈ e'.log) :
    Event.issued req smp ∈ e.log := by
  induction h with
  | stop => exact hev
  | fail hready hsend hrc =>
      obtain ⟨_, _, -, -, rfl⟩ := sendSmp_failed hsend hrc
      rcases List.mem_append.mp hev with hev | hev
      · exact hev
      · cases List.mem_singleton.mp hev
  | @send _ _ _ _ smp' _ _ hready hsend _ ih =>
      have hput := ih hev
      obtain ⟨mad, -, -, rfl⟩ := sendSmp_sent hsend
      have hsent : ∀ log, Event.issued req smp ∈ log ++ [Event.sent smp' mad] →
          Event.issued req smp ∈ log := by
        intro log hlog
        rcases List.mem_append.mp hlog with hlog | hlog
        · exact hlog
        · cases List.mem_singleton.mp hlog
      rcases putOnWire_cases (note _ (.sent smp' mad)) smp' with ⟨-, heq⟩ | ⟨-, heq⟩
      · rw [heq] at hput
        rcases List.mem_append.mp hput with hput | hput
        · exact hsent _ hput
        · cases List.mem_singleton.mp hput
      · rw [heq] at hput
        exact hsent _ hput

theorem issued_issueSmp (hev : Event.issued req' smp ∈ (e.issueSmp req).2.log) :
    Event.issued req' smp ∈ e.log ∨ req' = req := by
  have hqueued := (processSmpQueue_drain (e.enqueue req)).issued hev
  rcases List.mem_append.mp hqueued with hold | hnew
  · exact .inl hold
  · refine .inr ?_
    have heq := List.mem_singleton.mp hnew
    exact (Event.issued.inj heq).1

theorem issued_issueAll {reqs : List (Request κ δ)}
    (hev : Event.issued req smp ∈ (e.issueAll reqs).log) :
    Event.issued req smp ∈ e.log ∨ req ∈ reqs := by
  induction reqs generalizing e with
  | nil => exact .inl hev
  | cons first reqs ih =>
      rcases ih hev with hold | hrest
      · rcases issued_issueSmp hold with hold | rfl
        · exact .inl hold
        · exact .inr List.mem_cons_self
      · exact .inr (List.mem_cons_of_mem first hrest)

theorem issued_takeReply {r : Recv} {taken : Smp κ δ} (h : e.takeReply r = some (taken, e'))
    (hev : Event.issued req smp ∈ e'.log) : Event.issued req smp ∈ e.log := by
  obtain ⟨-, rfl⟩ := takeReply_eq_some.mp h
  rcases List.mem_append.mp hev with hev | hev
  · exact hev
  · cases List.mem_singleton.mp hev

theorem issued_beginCallback {taken : Smp κ δ} {r : Recv}
    (hev : Event.issued req smp ∈ (e.beginCallback taken r).log) : Event.issued req smp ∈ e.log := by
  unfold beginCallback at hev
  split at hev
  · rcases List.mem_append.mp hev with hev | hev
    · exact hev
    · cases List.mem_singleton.mp hev
  · exact hev

theorem mem_onWire_of_takeReply {r : Recv} {taken : Smp κ δ} (h : e.takeReply r = some (taken, e')) :
    taken ∈ e.onWire :=
  mem_clQmapItems.mpr ⟨_, (takeReply_eq_some.mp h).1⟩

/-- The path of an SMP that is queued, on the wire, or was ever sent. -/
def UsesPath (e : Engine κ δ) (path : PortId) : Prop :=
  ∃ smp, (smp ∈ e.smpQueue.toList ∨ smp ∈ e.onWire ∨ ∃ mad, Event.sent smp mad ∈ e.log) ∧
    smp.path = path

/-- Every path in use is that of a request. -/
theorem UsesPath.issued {path : PortId} (ht : Traced e) (h : UsesPath e path) :
    ∃ req smp, Event.issued req smp ∈ e.log ∧ req.portid = path := by
  have hissued : ∀ {req smp}, Event.issued req smp ∈ e.log → req.portid = smp.path := by
    intro req smp hev
    obtain ⟨e₀, -, rfl⟩ := ht.issued hev
    rfl
  have hsent : ∀ {smp mad}, Event.sent smp mad ∈ e.log →
      ∃ req smp₀, Event.issued req smp₀ ∈ e.log ∧ req.portid = smp.path := by
    intro smp mad hev
    obtain ⟨-, req, smp₀, hev₀, hsame⟩ := ht.sent hev
    refine ⟨req, smp₀, hev₀, (hissued hev₀).trans ?_⟩
    rw [hsame]
    rfl
  obtain ⟨smp, hqueue | hwire | ⟨mad, hlog⟩, rfl⟩ := h
  · obtain ⟨req, hev⟩ := ht.queued hqueue
    exact ⟨req, smp, hev, hissued hev⟩
  · obtain ⟨mad, hev⟩ := ht.wire hwire
    exact hsent hev
  · exact hsent hlog

end Issued
end Engine

/-- What every reply keeps of the scan and of all requests ever issued, a run keeps. -/
theorem issued_of_processMads {P : Scan → Prop} {T : Scan → PortId → Prop}
    {C : Scan → ScanSmp → Recv → Prop}
    (hstep : ∀ {scan smp r out}, P scan → T scan smp.path → C scan smp r →
      scan.reply smp r = .ok out →
        P out.scan ∧ (∀ path, T scan path → T out.scan path) ∧
          ∀ req ∈ out.requests, T out.scan req.portid)
    {e e' : Engine ScanCb CbData} {scan scan' : Scan} {rs : List Recv} {res : Option Int}
    (ht : Traced e) (hP : P scan) (hT : ∀ req smp, .issued req smp ∈ e.log → T scan req.portid)
    (hC : Along C e scan rs) (h : processMads scanHandlers e scan rs = .ok (res, e', scan')) :
    P scan' ∧ ∀ req smp, .issued req smp ∈ e'.log → T scan' req.portid := by
  induction rs generalizing e scan with
  | nil =>
      obtain ⟨-, rfl, rfl⟩ := by simpa [processMads] using h
      exact ⟨hP, hT⟩
  | cons r rs ih =>
      rw [processMads] at h
      by_cases hwire : clQmapCount e.smpsOnWire = 0
      · rw [if_pos hwire] at h
        obtain ⟨-, rfl, rfl⟩ := by simpa using h
        exact ⟨hP, hT⟩
      · rw [if_neg hwire] at h
        obtain ⟨hhandled, hrest⟩ := hC hwire
        cases hone : processOneRecv scanHandlers e scan r with
        | error fault => rw [hone] at h; cases h
        | ok one =>
            obtain ⟨rc, e₁, scan₁⟩ := one
            have hkept : P scan₁ ∧ ∀ req smp, .issued req smp ∈ e₁.log → T scan₁ req.portid := by
              rcases processOneRecv_scan hone with
                ⟨-, -, rfl, hcase⟩ | ⟨smp, e₂, out, hsmp, htake, hout, -, rfl, rfl⟩
              · refine ⟨hP, fun req smp hev => ?_⟩
                rcases hcase with rfl | ⟨smp', e₂, htake, hdrain⟩
                · exact hT req smp hev
                · have hd := processSmpQueue_drain e₂
                  rw [hdrain] at hd
                  exact hT req smp (issued_takeReply htake (hd.issued hev))
              · obtain ⟨req₀, smp₀, hev₀, hpath⟩ := UsesPath.issued ht
                  ⟨smp, .inr (.inl (mem_onWire_of_takeReply htake)), rfl⟩
                obtain ⟨hP', hkeep, hnew⟩ := hstep hP (hpath ▸ hT req₀ smp₀ hev₀)
                  (hhandled smp hsmp) hout
                refine ⟨hP', fun req smp' hev => ?_⟩
                rcases issued_issueAll hev with hold | hreq
                · refine hkeep _ (hT req smp' (issued_takeReply htake ?_))
                  exact (processSmpQueue_drain e₂).issued (issued_beginCallback hold)
                · exact hnew req hreq
            rw [hone] at h
            dsimp only at h
            have ht₁ : Traced e₁ := traced_stable.processOneRecv ht hone
            by_cases hrc : rc = 0
            · subst hrc
              rw [if_neg (not_not_intro rfl)] at h
              exact ih ht₁ hkept.1 hkept.2 (hrest e₁ scan₁ hone) h
            · rw [if_pos hrc] at h
              obtain ⟨-, rfl, rfl⟩ := by simpa using h
              exact hkept

namespace Scan
variable {scan : Scan} {smp : ScanSmp} {r : Recv} {out : Outcome} {path path' : PortId}

/-- A path with room in its array, no deeper than the hop count. -/
def HopsOk (scan : Scan) (path : PortId) : Prop :=
  path.drpath.cnt ≤ 63 ∧
    (path.drpath.cnt : Int) - scan.initialHops.toNat ≤ scan.fabric.maxhopsDiscovered.toNat

/-- What the paths of the nodes and the hop count are bound to. -/
structure HopBound (scan : Scan) : Prop where
  start : scan.initialHops.toNat ≤ 63
  nodes : ∀ n < scan.fabric.nodeCount, HopsOk scan (scan.fabric.node n).pathPortid
  limit : scan.cfg.maxHops ≠ 0 →
    scan.fabric.maxhopsDiscovered.toNat ≤ scan.cfg.maxHops.toNat + 1

/-- The hop count does not run over when the SMP's path is retracted. -/
def CountsOn (scan : Scan) (smp : ScanSmp) : Prop :=
  ∀ n, smp.cbData = .node n → scan.Retracts n smp.path →
    scan.fabric.maxhopsDiscovered.toNat + 1 < 2 ^ 32

/-- One step: the hop count grows by one at most, and by enough for the new path. -/
theorem Stepped.counts {n : NodeRef} {m : UInt32} (h : Stepped scan n path path' m)
    (hstart : scan.initialHops.toNat ≤ 63) (hok : HopsOk scan path)
    (hback : scan.Retracts n path → scan.fabric.maxhopsDiscovered.toNat + 1 < 2 ^ 32) :
    scan.fabric.maxhopsDiscovered.toNat ≤ m.toNat ∧
      m.toNat ≤ scan.fabric.maxhopsDiscovered.toNat + 1 ∧ path'.drpath.cnt ≤ 63 ∧
      (path'.drpath.cnt : Int) - scan.initialHops.toNat ≤ m.toNat := by
  obtain ⟨hroom, hcount⟩ := hok
  cases h with
  | back hfar hcnt hm =>
      have hm' : m.toNat = scan.fabric.maxhopsDiscovered.toNat + 1 := by
        rw [hm, UInt32.toNat_add]
        exact Nat.mod_eq_of_lt (hback hfar)
      omega
  | ahead hcnt hroom' hm =>
      have hnew : (UInt32.ofNat path'.drpath.cnt).toNat = path'.drpath.cnt := by
        rw [UInt32.toNat_ofNat']
        exact Nat.mod_eq_of_lt (by omega)
      have hsub : (UInt32.ofNat path'.drpath.cnt - scan.initialHops).toNat =
          (2 ^ 32 - scan.initialHops.toNat + path'.drpath.cnt) % 2 ^ 32 := by
        rw [UInt32.toNat_sub, hnew]
      have hlt : (UInt32.ofNat path'.drpath.cnt - scan.initialHops).toNat < 2 ^ 32 :=
        UInt32.toNat_lt _
      by_cases hdeep : UInt32.ofNat path'.drpath.cnt - scan.initialHops >
          scan.fabric.maxhopsDiscovered
      · rw [if_pos hdeep] at hm
        have hdeep' := UInt32.lt_iff_toNat_lt.mp hdeep
        have hm' : m.toNat = scan.fabric.maxhopsDiscovered.toNat + 1 := by
          rw [hm, UInt32.toNat_add]
          exact Nat.mod_eq_of_lt (by simp only [UInt32.reduceToNat]; omega)
        omega
      · rw [if_neg hdeep] at hm
        rw [gt_iff_lt, UInt32.lt_iff_toNat_lt, hsub] at hdeep
        rw [hm]
        omega

/-- One reply, whatever it says. -/
theorem HopBound.reply (h : HopBound scan) (hpath : HopsOk scan smp.path)
    (hcounts : CountsOn scan smp) (hok : scan.reply smp r = .ok out) :
    HopBound out.scan ∧ (∀ path, HopsOk scan path → HopsOk out.scan path) ∧
      ∀ req ∈ out.requests, HopsOk out.scan req.portid := by
  obtain ⟨hcfg, hinit, hnodes, hhops⟩ := reply_moved hok
  have hcase : scan.fabric.maxhopsDiscovered.toNat ≤ out.scan.fabric.maxhopsDiscovered.toNat ∧
      (out.scan.cfg.maxHops ≠ 0 →
        out.scan.fabric.maxhopsDiscovered.toNat ≤ out.scan.cfg.maxHops.toNat + 1) ∧
      ∀ req ∈ out.requests, req.portid = smp.path ∨ HopsOk out.scan req.portid := by
    rw [hcfg]
    rcases hhops with ⟨hsame, hreqs⟩ | ⟨hfree, n, path', hdata, hstep, hreqs⟩
    · rw [hsame]
      exact ⟨Nat.le_refl _, h.limit, fun req hreq => .inl (hreqs req hreq)⟩
    · obtain ⟨hgrow, hone, hroom, hcount⟩ := hstep.counts h.start hpath (hcounts n hdata)
      refine ⟨hgrow, fun hmax => ?_, fun req hreq => (hreqs req hreq).imp_right fun heq => ?_⟩
      · have hbelow : ¬ scan.fabric.maxhopsDiscovered > scan.cfg.maxHops := by
          intro habove
          rw [hopLimitReached, decide_eq_true hmax, decide_eq_true habove] at hfree
          cases hfree
        rw [gt_iff_lt, UInt32.lt_iff_toNat_lt] at hbelow
        omega
      · rw [heq, HopsOk, hinit]
        exact ⟨hroom, hcount⟩
  obtain ⟨hgrow, hlimit, hreqs⟩ := hcase
  have hkeep : ∀ path, HopsOk scan path → HopsOk out.scan path := by
    intro path hp
    rw [HopsOk, hinit]
    exact ⟨hp.1, Int.le_trans hp.2 (Int.ofNat_le.mpr hgrow)⟩
  refine ⟨⟨hinit ▸ h.start, fun n hn => ?_, hlimit⟩, hkeep, fun req hreq => ?_⟩
  · rcases hnodes n hn with ⟨hold, hsame⟩ | hnew
    · rw [hsame]
      exact hkeep _ (h.nodes n hold)
    · rw [hnew]
      exact hkeep _ hpath
  · rcases hreqs req hreq with heq | hok'
    · rw [heq]
      exact hkeep _ hpath
    · exact hok'

end Scan

/-- Whatever is replied: no path in use or of a node is longer than its array allows or deeper
than `maxhops_discovered`, and a hop limit is passed by one hop at most, as long as
`maxhops_discovered` does not run over when a path is retracted. -/
theorem hop_count_bounded {args : DiscoverArgs} (horigin : args.origin.drpath.cnt ≤ 63)
    {rs : List Recv} {res : Option Int} {e : Engine ScanCb CbData} {scan : Scan}
    (hcounts : Along (fun scan smp _ => scan.CountsOn smp) args.start.engine args.start.scan rs)
    (h : processMads scanHandlers args.start.engine args.start.scan rs = .ok (res, e, scan)) :
    scan.HopBound ∧ ∀ path, e.UsesPath path → scan.HopsOk path ∧
      (scan.cfg.maxHops ≠ 0 → (path.drpath.cnt : Int) - scan.initialHops.toNat ≤
        scan.cfg.maxHops.toNat + 1) := by
  have hinit : args.start.scan.initialHops.toNat = args.origin.drpath.cnt := by
    change (UInt32.ofNat args.origin.drpath.cnt).toNat = _
    rw [UInt32.toNat_ofNat']
    exact Nat.mod_eq_of_lt (by omega)
  have hfirst : args.start.scan.HopsOk args.origin := by
    refine ⟨horigin, ?_⟩
    rw [hinit, Int.sub_self]
    exact Int.natCast_nonneg _
  have hbound : args.start.scan.HopBound :=
    ⟨hinit ▸ horigin, fun n hn => absurd hn (Nat.not_lt_zero n), fun _ => Nat.zero_le _⟩
  have htraced : Traced args.start.engine := traced_stable.issueSmp _ (traced_init _ _ _)
  have hissued : ∀ req smp, .issued req smp ∈ args.start.engine.log →
      args.start.scan.HopsOk req.portid := by
    intro req smp hev
    rcases issued_issueSmp hev with hev | rfl
    · cases hev
    · exact hfirst
  obtain ⟨hlast, hpaths⟩ := issued_of_processMads Scan.HopBound.reply htraced hbound hissued
    hcounts h
  refine ⟨hlast, fun path huse => ?_⟩
  obtain ⟨req, smp, hev, rfl⟩ := huse.issued (traced_stable.processMads htraced h)
  have hok := hpaths req smp hev
  exact ⟨hok, fun hmax => Int.le_trans hok.2 (Int.ofNat_le.mpr (hlast.limit hmax))⟩

/-- A scan from an adapter two hops away, without hop limit. -/
def farScan : DiscoverArgs := { localScan with origin := ⟨0, { DrPath.empty with cnt := 2 }⟩ }

/-- Behind the adapter there is a switch, behind one port of that another adapter, three hops
away, and behind the other one, it is said, the first adapter again. -/
def farReplies : List Recv :=
  [⟨0, 0, responseMad 6 0 (nodeInfoData 1 1 ibNodeCa 1 1)⟩,
    ⟨0, 110, responseMad 7 0 []⟩,
    ⟨0, 0, responseMad 8 1 (portInfoData 1 5 0)⟩,
    ⟨0, 0, responseMad 9 0 (nodeInfoData 1 1 ibNodeCa 1 1)⟩,
    ⟨0, 0, responseMad 10 1 (portInfoData 1 5 0)⟩,
    ⟨0, 0, responseMad 11 0 (nodeInfoData 2 2 ibNodeSwitch 2 0)⟩,
    ⟨0, 110, responseMad 12 0 []⟩,
    ⟨0, 110, responseMad 13 0 []⟩,
    ⟨0, 0, responseMad 14 0 (portInfoData 0 0 0)⟩,
    ⟨0, 0, responseMad 15 1 (portInfoData 0 5 0)⟩,
    ⟨0, 0, responseMad 16 2 (portInfoData 0 5 0)⟩,
    ⟨0, 0, responseMad 17 0 (nodeInfoData 3 3 ibNodeCa 1 1)⟩,
    ⟨0, 0, responseMad 18 0 (nodeInfoData 1 1 ibNodeCa 1 1)⟩,
    ⟨0, 110, responseMad 19 0 []⟩,
    ⟨0, 110, responseMad 20 1 []⟩,
    ⟨0, 0, responseMad 21 1 (portInfoData 1 5 0)⟩]

theorem hop_count_bounded_farScan : ∃ e scan, processMads scanHandlers farScan.start.engine
      farScan.start.scan farReplies = .ok (none, e, scan) ∧ scan.HopBound ∧
    ∀ path, e.UsesPath path → scan.HopsOk path := by
  have hrun : (processMads scanHandlers farScan.start.engine farScan.start.scan
      farReplies).toOption.any (fun x => x.1 = none) = true := by
    decide +kernel
  obtain ⟨⟨res, e, scan⟩, hres, hend⟩ := (Option.any_eq_true _ _).mp hrun
  obtain rfl := of_decide_eq_true hend
  have hfew : Along (fun scan _ _ => scan.fabric.maxhopsDiscovered.toNat < 5) farScan.start.engine
      farScan.start.scan farReplies := by
    decide +kernel
  have hcounts := along_mono (fun scan smp _ => scan.CountsOn smp)
    (fun st smp r _ hfew _ _ _ => Nat.lt_trans (Nat.succ_lt_succ hfew) (by decide)) .start hfew
  have hbound := hop_count_bounded (by decide) hcounts (toOption_eq_some.mp hres)
  exact ⟨e, scan, toOption_eq_some.mp hres, hbound.1, fun path huse => (hbound.2 path huse).1⟩

end InfinibandDiags
