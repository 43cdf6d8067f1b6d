import InfinibandDiags.Discover.Run
import InfinibandDiags.Mad.Reply
import InfinibandDiags.Smp.Loss

/-! What a return code of 0 from `process_mads` says about the SMPs of a scan. -/
namespace InfinibandDiags
open Engine

/-- The first SMP is on the wire when `process_mads` is called. -/
theorem start_clean {args : DiscoverArgs} (hstart : args.startRc = 0) :
    FullOrEmpty args.start.engine ∧ noLoss args.start.engine := by
  have hinit : FullOrEmpty args.engineInit := .inr Fifo.toList_empty
  refine ⟨fullOrEmpty_issue hinit _, (noLoss_issueSmp hinit _).mpr ⟨rfl, fun hroom => ⟨?_, ?_⟩⟩⟩
  · have hdrain := processSmpQueue_drain (args.engineInit.enqueue (queryNodeInfo args.origin none))
    have hrc : (args.engineInit.enqueue (queryNodeInfo args.origin none)).processSmpQueue.1 = 0 :=
      hstart
    rw [hrc] at hdrain
    refine hdrain.accepted [] ⟨hroom, ?_⟩
    rw [toList_enqueue]
    exact congrArg (· ++ _) Fifo.toList_empty
  · exact AList.notMem_empty _

/-- `process_mads` returning 0 leaves nothing behind and has every SMP sent and answered
exactly when no send that a callback makes fails, and none goes out under an id in use. -/
theorem processMads_complete_iff {args : DiscoverArgs} {rs : List Recv}
    {e : Engine ScanCb CbData} {scan : Scan} (hstart : args.startRc = 0)
    (h : processMads scanHandlers args.start.engine args.start.scan rs = .ok (some 0, e, scan)) :
    e.Complete ↔ MadsCleanly scanHandlers args.start.engine args.start.scan rs := by
  obtain ⟨hfull₀, hloss₀⟩ := start_clean hstart
  obtain ⟨hfull, hwire, hiff⟩ := noLoss_processMads hfull₀ h
  have ha : Accounted e := accounted_stable.processMads
    (accounted_stable.issueSmp _ (accounted_init _ _ _)) h
  have hcfg : e.cfg = setConfig args.cfg := (cfg_stable _).processMads
    ((cfg_stable (setConfig args.cfg)).issueSmp _ rfl) h
  have hqueue : e.smpQueue.toList = [] := by
    rcases hfull with hfull | hempty
    · rw [hwire, hcfg] at hfull
      exact absurd hfull (Nat.not_le.mpr (setConfig_maxSmps_pos args.cfg))
    · exact hempty
  rw [complete_iff_noLoss ha hqueue hwire, hiff]
  exact and_iff_right hloss₀

/-- A scan of one adapter whose port is down. -/
theorem processMads_complete_iff_adapter :
    let args : DiscoverArgs := ⟨⟨0, .empty⟩, ⟨0, 0, 0, 0, 0, 0⟩, 0, ⟨0, 5⟩, fun _ => 0⟩
    let replies : List Recv := [⟨0, 0, responseMad 6 0 (nodeInfoData 1 1 ibNodeCa 1 1)⟩,
      ⟨0, 0, responseMad 7 0 []⟩, ⟨0, 0, responseMad 8 1 (portInfoData 1 2 3)⟩]
    ∃ e scan, processMads scanHandlers args.start.engine args.start.scan replies =
        .ok (some 0, e, scan) ∧
      (e.Complete ↔ MadsCleanly scanHandlers args.start.engine args.start.scan replies) := by
  intro args replies
  have hrun : (processMads scanHandlers args.start.engine args.start.scan replies).toOption.map
      Prod.fst = some (some 0) := by
    decide +kernel
  obtain ⟨⟨res, e, scan⟩, hres, rfl⟩ := Option.map_eq_some_iff.mp hrun
  have hok := toOption_eq_some.mp hres
  exact ⟨e, scan, hok, processMads_complete_iff (by decide +kernel) hok⟩

/-- The same adapter when `umad_send` refuses the second SMP: the NodeDesc is never asked for,
and the scan reports success. -/
theorem processMads_silent_loss :
    let args : DiscoverArgs := ⟨⟨0, .empty⟩, ⟨0, 0, 0, 0, 0, 0⟩, 0, ⟨0, 5⟩,
      fun k => if k = 1 then -5 else 0⟩
    let replies : List Recv := [⟨0, 0, responseMad 6 0 (nodeInfoData 1 1 ibNodeCa 1 1)⟩,
      ⟨0, 0, responseMad 8 1 (portInfoData 1 2 3)⟩]
    args.startRc = 0 ∧ ∃ e scan,
      processMads scanHandlers args.start.engine args.start.scan replies =
        .ok (some 0, e, scan) ∧ e.issuedRefs = [0, 1, 2] ∧ e.sentRefs = [0, 2] ∧ ¬ e.Complete := by
  intro args replies
  have hrun : (processMads scanHandlers args.start.engine args.start.scan replies).toOption.map
      (fun res => (res.1, res.2.1.issuedRefs, res.2.1.sentRefs)) =
        some (some 0, [0, 1, 2], [0, 2]) := by
    decide +kernel
  obtain ⟨⟨res, e, scan⟩, hres, heq⟩ := Option.map_eq_some_iff.mp hrun
  obtain ⟨rfl, hrefs⟩ := Prod.mk.inj heq
  obtain ⟨hissued, hsent⟩ := Prod.mk.inj hrefs
  refine ⟨by decide +kernel, e, scan, toOption_eq_some.mp hres, hissued, hsent, ?_⟩
  intro hcomplete
  have hmem := (hcomplete.answered 1 (by rw [hissued]; decide)).1
  rw [hsent] at hmem
  exact absurd hmem (by decide)

end InfinibandDiags
