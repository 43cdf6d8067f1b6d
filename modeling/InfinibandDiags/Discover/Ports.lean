import InfinibandDiags.Discover.Inventory

/-! The port table of a scan that has ended. -/
namespace InfinibandDiags
open Engine

theorem along_and {C C' : Scan → ScanSmp → Recv → Prop} {e : Engine ScanCb CbData} {scan : Scan}
    {rs : List Recv} (h : Along C e scan rs) (h' : Along C' e scan rs) :
    Along (fun scan smp r => C scan smp r ∧ C' scan smp r) e scan rs := by
  induction rs generalizing e scan with
  | nil => trivial
  | cons r rs ih =>
      intro hwire
      obtain ⟨hnow, hrest⟩ := h hwire
      obtain ⟨hnow', hrest'⟩ := h' hwire
      exact ⟨fun smp hsmp => ⟨hnow smp hsmp, hnow' smp hsmp⟩,
        fun e₁ scan₁ hone => ih (hrest e₁ scan₁ hone) (hrest' e₁ scan₁ hone)⟩

/-- A scan that nothing limits and that loses nothing, in a network whose port GUIDs are known.
The ports of an adapter are numbered from 1. -/
structure ScannedPorts {V : Type} (N : Network V) (s : V × Nat) (pg : V × Nat → UInt64)
    (args : DiscoverArgs) (rs : List Recv) (e : Engine ScanCb CbData) (scan : Scan) : Prop
    extends Scanned N s args rs e scan where
  portGuids : N.PortGuids pg
  start : N.type s.1 ≠ ibNodeSwitch → 0 < s.2
  guids : Along (fun _ smp r => N.ReportsGuid s args.origin pg smp r) args.start.engine
    args.start.scan rs

namespace Network
variable {V : Type} {N : Network V} {s : V × Nat} {pg : V × Nat → UInt64} {args : DiscoverArgs}
  {rs : List Recv} {e : Engine ScanCb CbData} {scan : Scan}

theorem hashed_init : allocateFabricInternal.Hashed :=
  ⟨⟨_, (Buckets.empty _ _).congr (fun p => by simp [allocateFabricInternal]) (fun _ _ => rfl)
    fun _ _ => rfl⟩, fun _ hp => (nomatch hp)⟩

theorem Underway.onTrail {origin : PortId} {near : V → Prop} {T : Multiset ScanRequest}
    (h : N.Underway s origin near scan T) : N.OnTrail s origin scan T :=
  h.imp (fun ⟨hinit, hone⟩ => ⟨hinit, le_of_eq hone⟩) fun hfrontier =>
    ⟨hfrontier.mapped, hfrontier.tasks, hfrontier.paths, fun _ hnear => hnear.elim⟩

theorem stocked_start {T : Multiset ScanRequest}
    (hT : ∀ t ∈ T, t = queryNodeInfo args.origin none) : N.Stocked s pg args.start.scan T := by
  refine ⟨inventory_init fun t ht => ?_, hashed_init, .inl rfl⟩
  rw [hT t ht]
  exact ⟨fun hcb => (nomatch hcb), fun hcb => (nomatch hcb)⟩

/-- What is left of the inventory when no request is pending any more. -/
theorem stocked_of_scanned (h : ScannedPorts N s pg args rs e scan) :
    N.Frontier s args.origin scan.fabric (fun _ => True) 0 ∧ N.Stocked s pg scan 0 := by
  have hfree : ∀ st : ScanState, Reached args.start st → st.scan.hopLimitReached = false := by
    intro st hst
    have hmax : st.scan.cfg.maxHops = 0 := by
      rw [cfg_of_reached hst]
      exact h.unlimited
    simp [Scan.hopLimitReached, hmax]
  have hboth := along_mono (fun scan smp r => (N.Answers s args.origin smp r ∧
      N.ReportsGuid s args.origin pg smp r) ∧ smp.path.drpath.cnt < 63 ∧
        N.Unhindered s (fun _ => True) scan smp)
    (fun st smp r hst hC => ⟨⟨hC.1.1, hC.2⟩, hC.1.2, fun _ _ _ _ _ _ _ _ => hfree st hst⟩)
    .start (along_and h.answers h.guids)
  have ha : Accounted e := accounted_stable.processMads
    (accounted_stable.issueSmp _ (accounted_init _ _ _)) h.returned
  have hok : noLoss e :=
    (complete_iff_noLoss ha h.complete.queue h.complete.wire).mp h.complete
  have hfirst : noLoss args.start.engine := noLoss_of_subset hok fun ev hev =>
    (mem_log_stable ev).processMads hev h.returned
  have hlast := tasks_of_processMads
    (I := fun scan T => N.Underway s args.origin (fun _ => True) scan T ∧ N.Stocked s pg scan T)
    (fun hreached hI hC hout => by
      have hnt := nodeTable_of_reached hreached
      have hunder := hI.1.reply hnt (.inr h.home) hC.1.1 (fun _ _ => hC.2.1) hC.2.2 hout
      exact ⟨hunder, hI.2.reply h.portGuids h.start hnt (tableBase_of_reached hreached)
        hI.1.onTrail hunder.onTrail hC.1.1 hC.1.2 hout⟩)
    .start ⟨.inl ⟨rfl, pending_start_eq args hfirst⟩, stocked_start (pending_start args)⟩ hboth
    h.returned hok
  rw [h.complete.pending] at hlast
  refine ⟨?_, hlast.2⟩
  rcases hlast.1 with ⟨-, hnone⟩ | hfrontier
  · exact absurd hnone.symm (Multiset.singleton_ne_zero _)
  · exact hfrontier

end Network

section Ended
variable {V : Type} {N : Network V} {s : V × Nat} {pg : V × Nat → UInt64} {args : DiscoverArgs}
  {rs : List Recv} {e : Engine ScanCb CbData} {scan : Scan} {n : NodeRef} {v : V} {k : Nat}
  {p : PortRef} {a : V × Nat}

/-- With nothing pending, whatever belongs into the table is there. -/
theorem Network.Inventory.inTable (h : N.Inventory s pg scan.fabric 0)
    (hd : scan.fabric.Due n k) : scan.fabric.InTable n k := by
  rcases h.due hd with hin | ⟨t, ht, -⟩
  · exact hin
  · exact absurd ht (Multiset.notMem_zero t)

theorem Network.Inventory.hashed_of_slot (h : N.Inventory s pg scan.fabric 0)
    (hb : scan.fabric.TableBase) (hn : n < scan.fabric.nodeCount)
    (hslot : (scan.fabric.node n).ports k = some p) : p ∈ scan.fabric.hashed := by
  obtain ⟨x, hx, hslot'⟩ := h.inTable ⟨hn, hb.inArray hslot, .inr ⟨p, hslot⟩⟩
  rw [hslot] at hslot'
  rwa [Option.some.inj hslot']

/-- The ports that a scan knows of in the end. -/
def Network.Inventoried (N : Network V) (s a : V × Nat) : Prop :=
  (N.type a.1 = ibNodeSwitch ∧ N.Reach s a.1 ∧ a.2 ≤ N.numports a.1) ∨ N.Arrives s a

theorem ScannedPorts.portAt_iff (h : ScannedPorts N s pg args rs e scan) (a : V × Nat) :
    (∃ p, N.PortAt scan.fabric p a) ↔ N.Inventoried s a := by
  have hreached : Reached args.start ⟨e, scan⟩ := processMads_reached .start h.returned
  have hnt := nodeTable_of_reached hreached
  have hb := tableBase_of_reached hreached
  obtain ⟨hfrontier, hinv, -, hhome⟩ := Network.stocked_of_scanned h
  have hm := hfrontier.mapped
  have hfound : ∀ {v}, N.Reach s v → ∃ n, N.Knows scan.fabric n v :=
    fun ⟨d, hd⟩ => hfrontier.found hnt hd fun _ _ _ _ => trivial
  constructor
  · rintro ⟨p, n, hn, hslot⟩
    obtain ⟨-, hnum, hreach⟩ := hm.knows hn
    refine (hinv.arrives hn hslot).imp_left fun hsw => ⟨hsw, hreach, ?_⟩
    rw [← hnum]
    exact hb.inArray hslot
  · rintro (⟨hsw, hreach, hk⟩ | rfl | ⟨c, hreach, hexp, hpeer⟩)
    · obtain ⟨n, hn⟩ := hfound hreach
      obtain ⟨htype, hnum, -⟩ := hm.knows hn
      obtain ⟨p, -, hslot⟩ := hinv.inTable ⟨hn.1, hnum ▸ hk, .inl (htype.trans hsw)⟩
      exact ⟨p, n, hn, hslot⟩
    · obtain ⟨n, hn, -⟩ := hm.origin
      exact hhome.resolve_left (Nat.ne_of_gt (Nat.zero_lt_of_lt hn.1))
    · obtain ⟨n, hn⟩ := hfound hreach
      have hjoined := hfrontier.joined trivial hn hexp (Option.isSome_of_eq_some hpeer)
      obtain ⟨-, q, -, hq, -⟩ := hm.far_end hnt hjoined hpeer
      exact ⟨q, hq⟩

/-- A scan that has ended knows every port of the switches within reach and, of the other nodes,
the ports it arrived at. Its port table lists exactly these, each once, by number and GUID. -/
theorem ports_of_scan (h : ScannedPorts N s pg args rs e scan) :
    (∀ a, (∃ p, N.PortAt scan.fabric p a) ↔ N.Inventoried s a) ∧
    (∀ p a, N.PortAt scan.fabric p a →
      (scan.fabric.port p).guid = pg a ∧ (scan.fabric.port p).portnum = a.2) ∧
    ∃ ports, scan.fabric.ibndIterPorts = .ok ports ∧ ports.Nodup ∧
      ∀ p, p ∈ ports ↔ ∃ a, N.PortAt scan.fabric p a := by
  have hreached : Reached args.start ⟨e, scan⟩ := processMads_reached .start h.returned
  have hnt := nodeTable_of_reached hreached
  obtain ⟨hfrontier, hinv, hhashed, -⟩ := Network.stocked_of_scanned h
  refine ⟨h.portAt_iff, ?_, ?_⟩
  · rintro p a ⟨n, hn, hslot⟩
    exact ⟨hinv.guid hn hslot, (hnt.owned hslot).2⟩
  · obtain ⟨ports, hports, hnodup, hmem⟩ := (Fabric.portTable_of_hashed hhashed).iterPorts
    refine ⟨ports, hports, hnodup, fun p => (hmem p).trans ⟨fun hp => ?_, ?_⟩⟩
    · obtain ⟨n, hn, k, hslot⟩ := hinv.held p hp
      obtain ⟨v, hguid, -⟩ := hfrontier.mapped.node n hn
      exact ⟨(v, k), n, ⟨hn, hguid⟩, hslot⟩
    · rintro ⟨a, n, hn, hslot⟩
      exact hinv.hashed_of_slot (tableBase_of_reached hreached) hn.1 hslot

/-- The port GUIDs that the replies to the scan of two adapters report: those of the nodes. -/
def twoAdaptersGuids (a : Fin 3 × Nat) : UInt64 := twoAdapters.guid a.1

theorem twoAdaptersGuids_portGuids : twoAdapters.PortGuids twoAdaptersGuids :=
  ⟨fun _ _ _ _ => rfl, fun _ _ hguid => twoAdapters.guid_injective hguid⟩

theorem twoAdapters_scanned : ∃ e scan,
    ScannedPorts twoAdapters (0, 1) twoAdaptersGuids localScan twoAdaptersReplies e scan ∧
      scan.fabric.nodeCount = 3 ∧ scan.fabric.portCount = 5 := by
  have hrun : (processMads scanHandlers localScan.start.engine localScan.start.scan
      twoAdaptersReplies).toOption.any (fun x => x.1 = some 0 ∧ x.2.1.Complete ∧
        x.2.2.fabric.nodeCount = 3 ∧ x.2.2.fabric.portCount = 5) = true := by
    decide +kernel
  have hreplies : Along (fun _ smp r => (twoAdapters.Answers (0, 1) localScan.origin smp r ∧
      smp.path.drpath.cnt < 63) ∧
        twoAdapters.ReportsGuid (0, 1) localScan.origin twoAdaptersGuids smp r)
      localScan.start.engine localScan.start.scan twoAdaptersReplies := by
    decide +kernel
  obtain ⟨⟨res, e, scan⟩, hres, hend⟩ := (Option.any_eq_true _ _).mp hrun
  obtain ⟨rfl, hcomplete, hcounts⟩ := of_decide_eq_true hend
  exact ⟨e, scan, {
    home := ⟨rfl, rfl⟩
    unlimited := rfl
    answers := along_mono _ (fun _ _ _ _ hC => hC.1) .start hreplies
    returned := toOption_eq_some.mp hres
    complete := hcomplete
    portGuids := twoAdaptersGuids_portGuids
    start := fun _ => Nat.one_pos
    guids := along_mono _ (fun _ _ _ _ hC => hC.2) .start hreplies }, hcounts⟩

theorem ports_of_scan_twoAdapters : ∃ e scan,
    ScannedPorts twoAdapters (0, 1) twoAdaptersGuids localScan twoAdaptersReplies e scan ∧
      ∃ ports, scan.fabric.ibndIterPorts = .ok ports ∧ ports.Nodup ∧
        ∀ p, p ∈ ports ↔ ∃ a, twoAdapters.PortAt scan.fabric p a := by
  obtain ⟨e, scan, h, -⟩ := twoAdapters_scanned
  exact ⟨e, scan, h, (ports_of_scan h).2.2⟩

end Ended
end InfinibandDiags
