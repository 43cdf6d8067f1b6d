import InfinibandDiags.Cache.RoundTrip
import InfinibandDiags.Discover.Ports

/-! The fabric of a scan, written to a cache file and loaded from it. -/
namespace InfinibandDiags
open Engine

section Reloading
variable {f f' : Fabric} {g : Grouping} {ports : List PortRef}

theorem Reloaded.nodeGuids (h : Reloaded f ports f') : f'.nodeGuids = f.nodeGuids := by
  ext guid
  constructor
  · rintro ⟨i, hi, rfl⟩
    obtain ⟨n, hn⟩ := h.mem_nodes.mp hi
    exact ⟨n, List.mem_of_getElem? hn, (h.node i n hn).guid.symm⟩
  · rintro ⟨n, hn, rfl⟩
    obtain ⟨i, hi⟩ := List.mem_iff_getElem?.mp hn
    exact ⟨i, h.mem_nodes.mpr ⟨n, hi⟩, (h.node i n hi).guid⟩

theorem Reloaded.nodup (h : Reloaded f ports f')
    (hnodup : (f.nodes.map fun n => (f.node n).guid).Nodup) :
    (f'.nodes.map fun n => (f'.node n).guid).Nodup := by
  rwa [h.map_guid]

/-- Links between listed ports come back as links between the same ports. -/
theorem Reloaded.cabling (hc : f.Cacheable g ports) (h : Reloaded f ports f') :
    f'.cabling = f.cabling := by
  have hslot : ∀ {i n k x}, f.nodes[i]? = some n → (f'.node i).ports k = some x →
      ∃ p, (f.node n).ports k = some p ∧ p ∈ ports ∧ ports.idxOf p = x := by
    intro i n k x hn hx
    rw [h.slots i n k hn] at hx
    obtain ⟨p, hp, rfl⟩ := Option.map_eq_some_iff.mp hx
    exact ⟨p, hp, ((hc.slots n (List.mem_of_getElem? hn) k p).mp hp).1, rfl⟩
  have hinj : ∀ {p q}, p ∈ ports → q ∈ ports → ports.idxOf p = ports.idxOf q → p = q := by
    intro p q hp hq heq
    have hget := getElem?_idxOf hp
    rw [heq, getElem?_idxOf hq] at hget
    exact (Option.some.inj hget).symm
  ext c
  constructor
  · rintro ⟨i, hi, j, hj, k, l, x, y, hx, hy, hxy, rfl⟩
    obtain ⟨m, hm⟩ := h.mem_nodes.mp hi
    obtain ⟨n, hn⟩ := h.mem_nodes.mp hj
    obtain ⟨p, hp, hpin, rfl⟩ := hslot hm hx
    obtain ⟨q, hq, hqin, rfl⟩ := hslot hn hy
    rw [h.remoteport _ p (getElem?_idxOf hpin)] at hxy
    obtain ⟨r, hr, hrq⟩ := Option.map_eq_some_iff.mp hxy
    obtain rfl : r = q := hinj (hc.remotes p hpin r hr) hqin hrq
    refine ⟨m, List.mem_of_getElem? hm, n, List.mem_of_getElem? hn, k, l, p, r, hp, hq, hr, ?_⟩
    rw [(h.node i m hm).guid, (h.node j n hn).guid]
  · rintro ⟨m, hm, n, hn, k, l, p, q, hp, hq, hpq, rfl⟩
    obtain ⟨i, hi⟩ := List.mem_iff_getElem?.mp hm
    obtain ⟨j, hj⟩ := List.mem_iff_getElem?.mp hn
    have hpin := ((hc.slots m hm k p).mp hp).1
    refine ⟨i, h.mem_nodes.mpr ⟨m, hi⟩, j, h.mem_nodes.mpr ⟨n, hj⟩, k, l, ports.idxOf p,
      ports.idxOf q, ?_, ?_, ?_, ?_⟩
    · rw [h.slots i m k hi, hp, Option.map_some]
    · rw [h.slots j n l hj, hq, Option.map_some]
    · rw [h.remoteport _ p (getElem?_idxOf hpin), hpq, Option.map_some]
    · rw [(h.node i m hi).guid, (h.node j n hj).guid]

end Reloading

section Scans
variable {V : Type} {N : Network V} {s : V × Nat} {pg : V × Nat → UInt64} {args : DiscoverArgs}
  {rs : List Recv} {e : Engine ScanCb CbData} {scan : Scan} {g : Grouping} {ports : List PortRef}

/-- What a scan leaves behind, whatever it has lost, in a network of nodes that are not too big
for a cache file. -/
structure Surveyed (N : Network V) (s : V × Nat) (pg : V × Nat → UInt64) (scan : Scan) : Prop where
  nodeTable : scan.fabric.NodeTable
  base : scan.fabric.TableBase
  mapped : N.Mapped s scan.fabric
  portGuids : N.PortGuids pg
  stocked : ∃ T, N.Stocked s pg scan T
  size : ∀ v, N.Reach s v → N.numports v < 255
  counts : scan.fabric.nodeCount < 2 ^ 32 ∧ scan.fabric.portCount < 2 ^ 32

/-- Every port in a slot of a node is in the port table. -/
def Fabric.AllListed (f : Fabric) (ports : List PortRef) : Prop :=
  ∀ n ∈ f.nodes, ∀ p ∈ f.presentPorts n, p ∈ ports

namespace Surveyed
variable (h : Surveyed N s pg scan)
include h

theorem knows {n : NodeRef} (hn : n ∈ scan.fabric.nodes) : ∃ v, N.Knows scan.fabric n v := by
  rw [h.nodeTable.mem_nodes] at hn
  obtain ⟨v, hguid, -⟩ := h.mapped.node n hn
  exact ⟨v, hn, hguid⟩

theorem numports_lt {n : NodeRef} (hn : n ∈ scan.fabric.nodes) :
    (scan.fabric.node n).numports < 255 := by
  obtain ⟨v, hv⟩ := h.knows hn
  obtain ⟨-, hports, hreach⟩ := h.mapped.knows hv
  rw [hports]
  exact h.size v hreach

theorem mem_presentPorts {n : NodeRef} {p : PortRef} :
    p ∈ scan.fabric.presentPorts n ↔ ∃ k, (scan.fabric.node n).ports k = some p := by
  unfold Fabric.presentPorts
  rw [List.mem_filterMap]
  constructor
  · rintro ⟨k, -, hslot⟩
    exact ⟨k, hslot⟩
  · exact fun ⟨k, hslot⟩ =>
      ⟨k, List.mem_range.mpr (Nat.lt_succ_of_le (h.base.inArray hslot)), hslot⟩

/-- A port of the port table, and its place. -/
theorem place (hports : scan.fabric.ibndIterPorts = .ok ports) {p : PortRef} (hp : p ∈ ports) :
    ∃ n ∈ scan.fabric.nodes, ∃ k, (scan.fabric.node n).ports k = some p := by
  obtain ⟨T, hinv, hhashed, -⟩ := h.stocked
  obtain ⟨l, hl, -, hmem⟩ := (Fabric.portTable_of_hashed hhashed).iterPorts
  rw [hports] at hl
  obtain rfl := Except.ok.inj hl
  obtain ⟨n, hn, k, hslot⟩ := hinv.held p ((hmem p).mp hp)
  exact ⟨n, (h.nodeTable.mem_nodes n).mpr hn, k, hslot⟩

/-- The ports in the slots differ by their keys. -/
theorem key_inj {n m : NodeRef} {k j : Nat} {p q : PortRef} (hn : n ∈ scan.fabric.nodes)
    (hm : m ∈ scan.fabric.nodes) (hp : (scan.fabric.node n).ports k = some p)
    (hq : (scan.fabric.node m).ports j = some q)
    (hkey : scan.fabric.cacheKey p = scan.fabric.cacheKey q) : p = q := by
  obtain ⟨T, hinv, -⟩ := h.stocked
  obtain ⟨v, hv⟩ := h.knows hn
  obtain ⟨w, hw⟩ := h.knows hm
  obtain ⟨hguid, hnumber⟩ := PortCacheKey.mk.inj hkey
  rw [hinv.guid hv hp, hinv.guid hw hq] at hguid
  have hvw : v = w := h.portGuids.apart _ _ hguid
  obtain rfl : n = m := hv.inj h.nodeTable (hvw ▸ hw)
  have hlt : ∀ {k p}, (scan.fabric.node n).ports k = some p → k < 256 := fun hslot =>
    (Nat.lt_of_le_of_lt (h.base.inArray hslot) (h.numports_lt hn)).trans (by decide)
  rw [(h.nodeTable.owned hp).2, (h.nodeTable.owned hq).2] at hnumber
  have hkj := congrArg UInt8.toNat hnumber
  rw [UInt8.toNat_ofNat_of_lt' (hlt hp), UInt8.toNat_ofNat_of_lt' (hlt hq)] at hkj
  rw [hkj, hq] at hp
  exact (Option.some.inj hp).symm

theorem writable (hext : ∀ p, g.extPortnum p < 256) : ∃ ports, scan.fabric.Writable g ports := by
  obtain ⟨T, hinv, hhashed, -⟩ := id h.stocked
  obtain ⟨ports, hports, hnodup, hmem⟩ := (Fabric.portTable_of_hashed hhashed).iterPorts
  have hlength : ∀ (l : List Nat) (c : Nat), l.Nodup → (∀ x ∈ l, x < c) → l.length ≤ c := by
    intro l c hl hlt
    have hsub : l ⊆ List.range c := fun x hx => List.mem_range.mpr (hlt x hx)
    have hle := (List.subperm_of_subset hl hsub).length_le
    rwa [List.length_range] at hle
  refine ⟨ports, ?_⟩
  constructor
  case iterPorts => exact hports
  case fromNode =>
    obtain ⟨n, hn, hfrom, -⟩ := h.mapped.origin
    exact ⟨n, (h.nodeTable.mem_nodes n).mpr hn.1, hfrom⟩
  case counts =>
    constructor
    · refine (hlength _ _ h.nodeTable.nodup fun n hn => ?_).trans_lt h.counts.1
      exact (h.nodeTable.mem_nodes n).mp hn
    · refine (hlength _ _ hnodup fun p hp => ?_).trans_lt h.counts.2
      exact hhashed.2 p ((hmem p).mp hp)
  case guids =>
    refine h.nodeTable.nodup.map_on fun m hm n hn heq => ?_
    exact h.nodeTable.distinct ((h.nodeTable.mem_nodes m).mp hm)
      ((h.nodeTable.mem_nodes n).mp hn) heq
  case keys =>
    refine hnodup.map_on fun p hp q hq hkey => ?_
    obtain ⟨n, hn, k, hslot⟩ := h.place hports hp
    obtain ⟨m, hm, j, hslot'⟩ := h.place hports hq
    exact h.key_inj hn hm hslot hslot' hkey
  case numports => exact fun n hn => (h.numports_lt hn).le
  case record =>
    intro n hn
    obtain ⟨htype, hsmaenhsp0⟩ := hinv.bytes n ((h.nodeTable.mem_nodes n).mp hn)
    refine ⟨⟨hsmaenhsp0, htype, fun p hp => ?_⟩, ?_⟩
    · obtain ⟨k, hslot⟩ := h.mem_presentPorts.mp hp
      rw [(h.nodeTable.owned hslot).2]
      exact (Nat.lt_of_le_of_lt (h.base.inArray hslot) (h.numports_lt hn)).trans (by decide)
    · exact (scan.fabric.length_presentPorts_le n).trans_lt (Nat.succ_lt_succ (h.numports_lt hn))
  case extPortnum => exact fun p _ => hext p

/-- When no port is left out of the port table, the file says all. -/
theorem cacheable (hw : scan.fabric.Writable g ports) (hall : scan.fabric.AllListed ports) :
    scan.fabric.Cacheable g ports := by
  obtain ⟨T, hinv, hhashed, -⟩ := id h.stocked
  obtain ⟨l, hl, -, hmem⟩ := (Fabric.portTable_of_hashed hhashed).iterPorts
  rw [hw.iterPorts] at hl
  obtain rfl := Except.ok.inj hl
  have hlisted : ∀ {n k p}, n ∈ scan.fabric.nodes → (scan.fabric.node n).ports k = some p →
      p ∈ ports := fun hn hslot => hall _ hn _ (h.mem_presentPorts.mpr ⟨_, hslot⟩)
  refine ⟨hw, fun n hn k p => ⟨fun hslot => ?_, ?_⟩, fun p hp => ?_, fun p _ q hpq => ?_, ?_⟩
  · exact ⟨hlisted hn hslot, h.nodeTable.owned hslot⟩
  · rintro ⟨hp, rfl, rfl⟩
    obtain ⟨m, -, j, hslot⟩ := h.place hw.iterPorts hp
    obtain ⟨hnode, hnum⟩ := h.nodeTable.owned hslot
    rwa [hnode, hnum]
  · obtain ⟨n, hn, k, hslot⟩ := h.place hw.iterPorts hp
    obtain ⟨hnode, hnum⟩ := h.nodeTable.owned hslot
    rw [hnode, hnum]
    exact ⟨hn, h.base.inArray hslot⟩
  · obtain ⟨-, b, -, -, -, n, hn, hslot⟩ := h.mapped.links hpq
    exact hlisted ((h.nodeTable.mem_nodes n).mpr hn.1) hslot
  · exact fun p hp => hinv.lids p ((hmem p).mp hp)

/-- The file is written, and can be loaded exactly if no port is left out of the port table. -/
theorem loads_iff (hext : ∀ p, g.extPortnum p < 256) :
    ∃ ports file, scan.fabric.ibndIterPorts = .ok ports ∧
      scan.fabric.ibndCacheFabric g = .ok file ∧
      ((∃ fc, FabricCache.load file = .ok fc) ↔ scan.fabric.AllListed ports) ∧
      ∀ fc, FabricCache.load file = .ok fc → Reloaded scan.fabric ports fc.fabric := by
  obtain ⟨ports, hw⟩ := h.writable hext
  obtain ⟨root, -, file, -, hfile, hload⟩ := hw.loads_iff
  have hback : (∃ fc, FabricCache.load file = .ok fc) → scan.fabric.AllListed ports := by
    rw [hload, FabricCache.relink_iff_consistent]
    intro hc n hn p hp
    have hkey : scan.fabric.cacheKey p ∈ (scan.fabric.nodeRecord n).portCacheKeys := by
      rw [Fabric.nodeRecord, Fabric.portCacheKeys_eq_map]
      exact List.mem_map_of_mem hp
    obtain ⟨r, hr, hsame⟩ := hc.found _ (List.mem_map_of_mem hn) _ hkey
    obtain ⟨q, hq, rfl⟩ := List.mem_map.mp hr
    obtain ⟨k, hslot⟩ := h.mem_presentPorts.mp hp
    obtain ⟨m, hm, j, hslot'⟩ := h.place hw.iterPorts hq
    have hqp : q = p := h.key_inj hm hn hslot' hslot hsame
    exact hqp ▸ hq
  have hforth : scan.fabric.AllListed ports → ∃ fc, FabricCache.load file = .ok fc ∧
      Reloaded scan.fabric ports fc.fabric := by
    intro hall
    obtain ⟨file', fc, hfile', hfc, hreloaded, -⟩ := (h.cacheable hw hall).reload
    rw [hfile] at hfile'
    obtain rfl := Except.ok.inj hfile'
    exact ⟨fc, hfc, hreloaded⟩
  refine ⟨ports, file, hw.iterPorts, hfile, ⟨hback, fun hall => ?_⟩, fun fc hfc => ?_⟩
  · obtain ⟨fc, hfc, -⟩ := hforth hall
    exact ⟨fc, hfc⟩
  · obtain ⟨fc', hfc', hreloaded⟩ := hforth (hback ⟨fc, hfc⟩)
    rw [hfc] at hfc'
    obtain rfl := Except.ok.inj hfc'
    exact hreloaded

end Surveyed

/-- What a complete scan found can be written to a file. -/
theorem ScannedPorts.cacheable (h : ScannedPorts N s pg args rs e scan)
    (hsize : ∀ v, N.Reach s v → N.numports v < 255)
    (hcounts : scan.fabric.nodeCount < 2 ^ 32 ∧ scan.fabric.portCount < 2 ^ 32)
    (hext : ∀ p, g.extPortnum p < 256) : ∃ ports, scan.fabric.Cacheable g ports := by
  have hreached : Reached args.start ⟨e, scan⟩ := processMads_reached .start h.returned
  have hnt := nodeTable_of_reached hreached
  obtain ⟨hfrontier, hstocked⟩ := Network.stocked_of_scanned h
  have hsurveyed : Surveyed N s pg scan := ⟨hnt, tableBase_of_reached hreached, hfrontier.mapped,
    h.portGuids, ⟨0, hstocked⟩, hsize, hcounts⟩
  obtain ⟨ports, hw⟩ := hsurveyed.writable hext
  obtain ⟨l, hl, -, hmem⟩ := (Fabric.portTable_of_hashed hstocked.hashed).iterPorts
  rw [hw.iterPorts] at hl
  obtain rfl := Except.ok.inj hl
  refine ⟨ports, hsurveyed.cacheable hw fun n hn p hp => ?_⟩
  obtain ⟨k, hslot⟩ := hsurveyed.mem_presentPorts.mp hp
  exact (hmem p).mpr (hstocked.inventory.hashed_of_slot hsurveyed.base
    ((hnt.mem_nodes n).mp hn) hslot)

end Scans
end InfinibandDiags
