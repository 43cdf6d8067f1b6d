import InfinibandDiags.Discover.Complete

/-! Scans with a hop limit. The limit is tested against `maxhops_discovered`, which belongs to
the whole scan: the path at hand may be short when another one has used the limit up. -/
namespace InfinibandDiags
open Engine

namespace Network
variable {V : Type} (N : Network V) (s : V × Nat)

/-- The nodes whose cables a scan of `n` hops has to follow. -/
def Inside (n : Nat) (v : V) : Prop := ∃ d < n, N.ReachIn s d v

/-- The GUIDs of the nodes at most `n` hops away. -/
def guidsWithin (n : Nat) : Set UInt64 := { g | ∃ d ≤ n, ∃ v, N.ReachIn s d v ∧ N.guid v = g }

end Network

section Scans
variable {V : Type} {N : Network V} {s : V × Nat} {args : DiscoverArgs} {rs : List Recv}
  {e : Engine ScanCb CbData} {scan : Scan}

/-- A scan of `max_hops` hops finds every node at most that far away, and no node that is not
there, if it can follow its start port and `maxhops_discovered` is not above the limit whenever
a PortInfo of a nearer node leads to a cable. -/
theorem hop_limited_scan_finds (hstart : N.LocalStart s args.origin)
    (hanswers : Along (fun scan smp r => N.Answers s args.origin smp r ∧
        smp.path.drpath.cnt < 63 ∧
        N.Unhindered s (N.Inside s args.cfg.maxHops.toNat) scan smp)
      args.start.engine args.start.scan rs)
    (hreturned : processMads scanHandlers args.start.engine args.start.scan rs =
      .ok (some 0, e, scan))
    (hcomplete : e.Complete) :
    N.guidsWithin s args.cfg.maxHops.toNat ⊆ scan.fabric.nodeGuids ∧
      scan.fabric.nodeGuids ⊆ N.nodeGuids s := by
  have h := Network.frontier_of_processMads hstart hanswers hreturned hcomplete
  have hreached : Reached args.start ⟨e, scan⟩ := processMads_reached .start hreturned
  have hnt := nodeTable_of_reached hreached
  constructor
  · rintro g ⟨d, hd, v, hv, rfl⟩
    obtain ⟨n, hn⟩ := h.found hnt hv fun d' hd' w hw => ⟨d', Nat.lt_of_lt_of_le hd' hd, hw⟩
    exact ⟨n, (hnt.mem_nodes n).mpr hn.1, hn.2⟩
  · rintro g ⟨n, hn, rfl⟩
    obtain ⟨v, hguid, -, -, hv⟩ := h.mapped.node n ((hnt.mem_nodes n).mp hn)
    exact ⟨v, hv, hguid.symm⟩

/-- Two hops are enough for two adapters behind a switch. -/
theorem hop_limited_scan_finds_twoAdapters :
    let args := { localScan with cfg := { localScan.cfg with maxHops := 2 } }
    ∃ e scan, processMads scanHandlers args.start.engine args.start.scan twoAdaptersReplies =
        .ok (some 0, e, scan) ∧
      twoAdapters.guidsWithin (0, 1) 2 ⊆ scan.fabric.nodeGuids ∧
      scan.fabric.nodeGuids ⊆ twoAdapters.nodeGuids (0, 1) := by
  intro args
  have hrun : (processMads scanHandlers args.start.engine args.start.scan
      twoAdaptersReplies).toOption.any (fun x => x.1 = some 0 ∧ x.2.1.Complete) = true := by
    decide +kernel
  obtain ⟨⟨res, e, scan⟩, hres, hend⟩ := (Option.any_eq_true _ _).mp hrun
  obtain ⟨rfl, hcomplete⟩ := of_decide_eq_true hend
  have hbelow : Along (fun scan smp r => twoAdapters.Answers (0, 1) args.origin smp r ∧
      smp.path.drpath.cnt < 63 ∧ scan.hopLimitReached = false) args.start.engine args.start.scan
      twoAdaptersReplies := by
    decide +kernel
  have hanswers := along_mono (fun scan smp r =>
    twoAdapters.Answers (0, 1) args.origin smp r ∧ smp.path.drpath.cnt < 63 ∧
      twoAdapters.Unhindered (0, 1) (twoAdapters.Inside (0, 1) args.cfg.maxHops.toNat) scan smp)
    (fun st smp r _ h => ⟨h.1, h.2.1, fun _ _ _ _ _ _ _ _ => h.2.2⟩) .start hbelow
  exact ⟨e, scan, toOption_eq_some.mp hres,
    hop_limited_scan_finds (.inr ⟨rfl, rfl⟩) hanswers (toOption_eq_some.mp hres) hcomplete⟩

end Scans

/-- A switch with an adapter behind its second port and a longer branch behind its first. -/
def shortAndLong : Network (Fin 4) :=
  .ofCables (fun v => v.val.toUInt64 + 1) (fun v => if v = 0 ∨ v = 1 then ibNodeSwitch else ibNodeCa)
    (fun v => if v = 0 ∨ v = 1 then 2 else 1)
    [((0, 1), (1, 1)), ((1, 1), (0, 1)), ((1, 2), (2, 1)), ((2, 1), (1, 2)), ((0, 2), (3, 1)),
      ((3, 1), (0, 2))]
    (by decide) (by decide) (by decide)

/-- The longer branch answers first: two hops are on record when the second port of the start
switch reports, and the adapter one hop away is never asked. -/
theorem hop_limited_scan_misses :
    let args := { localScan with cfg := { localScan.cfg with maxHops := 1 } }
    let replies : List Recv :=
      [⟨0, 0, responseMad 6 0 (nodeInfoData 1 1 ibNodeSwitch 2 0)⟩,
        ⟨0, 0, responseMad 7 0 []⟩,
        ⟨0, 0, responseMad 8 0 []⟩,
        ⟨0, 0, responseMad 9 0 (portInfoData 0 0 1)⟩,
        ⟨0, 0, responseMad 10 1 (portInfoData 0 5 0)⟩,
        ⟨0, 0, responseMad 12 0 (nodeInfoData 2 2 ibNodeSwitch 2 1)⟩,
        ⟨0, 0, responseMad 13 0 []⟩,
        ⟨0, 0, responseMad 14 0 []⟩,
        ⟨0, 0, responseMad 15 0 (portInfoData 1 0 2)⟩,
        ⟨0, 0, responseMad 16 1 (portInfoData 1 5 0)⟩,
        ⟨0, 0, responseMad 17 2 (portInfoData 1 5 0)⟩,
        ⟨0, 0, responseMad 11 2 (portInfoData 0 5 0)⟩,
        ⟨0, 0, responseMad 18 0 (nodeInfoData 3 3 ibNodeCa 1 1)⟩,
        ⟨0, 0, responseMad 19 0 []⟩,
        ⟨0, 0, responseMad 20 1 (portInfoData 1 5 3)⟩]
    Along (fun _ smp r => shortAndLong.Answers (0, 0) args.origin smp r ∧
        smp.path.drpath.cnt < 63) args.start.engine args.start.scan replies ∧
      ∃ e scan, processMads scanHandlers args.start.engine args.start.scan replies =
          .ok (some 0, e, scan) ∧ e.Complete ∧
        shortAndLong.guid 3 ∈ shortAndLong.guidsWithin (0, 0) 1 ∧
        shortAndLong.guid 3 ∉ scan.fabric.nodeGuids := by
  intro args replies
  refine ⟨by decide +kernel, ?_⟩
  have hrun : (processMads scanHandlers args.start.engine args.start.scan replies).toOption.any
      (fun x => x.1 = some 0 ∧ x.2.1.Complete ∧
        ∀ n ∈ x.2.2.fabric.nodes, (x.2.2.fabric.node n).guid ≠ shortAndLong.guid 3) = true := by
    decide +kernel
  obtain ⟨⟨res, e, scan⟩, hres, hend⟩ := (Option.any_eq_true _ _).mp hrun
  obtain ⟨rfl, hcomplete, hmissed⟩ := of_decide_eq_true hend
  refine ⟨e, scan, toOption_eq_some.mp hres, hcomplete, ⟨1, Nat.le_refl 1, 3, ?_, rfl⟩, ?_⟩
  · exact .hop (k := 2) (b := (3, 1)) .start (.inl rfl) rfl
  · rintro ⟨n, hn, hguid⟩
    exact hmissed n hn hguid

end InfinibandDiags
