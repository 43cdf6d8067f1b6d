import InfinibandDiags.Cache.Store

/-! What reading a cache file leaves behind, told by the records of the file. -/
namespace InfinibandDiags
namespace FabricCache

/-- A file starts with these records. -/
inductive Reads {ρ : Type} (read : Bytes → Option (ρ × Bytes)) : Bytes → List ρ → Bytes → Prop
  | nil {fd} : Reads read fd [] fd
  | cons {fd fd' rest r rs} : read fd = some (r, fd') → Reads read fd' rs rest →
      Reads read fd (r :: rs) rest

section Reads
variable {ρ : Type} {read : Bytes → Option (ρ × Bytes)} {add : FabricCache → ρ → FabricCache}
  {fc fc' : FabricCache} {fd rest : Bytes}

theorem loadCount_reads {rs : List ρ} (h : Reads read fd rs rest) (fc : FabricCache) :
    loadCount (loadWith read add) rs.length fc fd = .ok (rs.foldl add fc, rest) := by
  induction h generalizing fc with
  | nil => rfl
  | cons hread _ ih =>
      rw [List.length_cons, loadCount, loadWith, hread]
      exact ih _

theorem reads_of_loadCount {count : Nat}
    (h : loadCount (loadWith read add) count fc fd = .ok (fc', rest)) :
    ∃ rs, rs.length = count ∧ Reads read fd rs rest ∧ fc' = rs.foldl add fc := by
  induction count generalizing fc fd with
  | zero =>
      cases h
      exact ⟨[], rfl, .nil, rfl⟩
  | succ count ih =>
      rw [loadCount, loadWith] at h
      cases hread : read fd with
      | none =>
          rw [hread] at h
          cases h
      | some r =>
          rw [hread] at h
          obtain ⟨rs, hlen, hreads, hfc⟩ := ih h
          exact ⟨r.1 :: rs, congrArg (· + 1) hlen, .cons hread hreads, hfc⟩

theorem reads_append {bytes : ρ → Bytes} {rs : List ρ}
    (h : ∀ r ∈ rs, ∀ rest, read (bytes r ++ rest) = some (r, rest)) (rest : Bytes) :
    Reads read (rs.flatMap bytes ++ rest) rs rest := by
  induction rs with
  | nil => exact .nil
  | cons r rs ih =>
      rw [List.flatMap_cons, List.append_assoc]
      exact .cons (h r List.mem_cons_self _) (ih fun x hx => h x (List.mem_cons_of_mem r hx))

end Reads

/-- The cache that reading leaves behind. -/
def ofRecords (h : HeaderRecord) (nrs : List NodeRecord) (prs : List PortRecord) : FabricCache :=
  prs.foldl addPort (nrs.foldl addNode (initial.addHeader h))

/-- A file that is read to its last record. -/
structure HoldsRecords (file : Bytes) (h : HeaderRecord) (nrs : List NodeRecord)
    (prs : List PortRecord) : Prop where
  nodes : nrs.length = h.nodeCount.toNat
  ports : prs.length = h.portCount.toNat
  reads : ∃ fd fd' rest, readHeader file = some (h, fd) ∧ Reads readNode fd nrs fd' ∧
    Reads readPort fd' prs rest

variable {file : Bytes} {h : HeaderRecord} {nrs : List NodeRecord} {prs : List PortRecord}
  {fc : FabricCache}

theorem readFile_of_records (hf : HoldsRecords file h nrs prs) :
    readFile file = .ok (ofRecords h nrs prs) := by
  obtain ⟨fd, fd', rest, hh, hn, hp⟩ := hf.reads
  rw [readFile, loadHeaderInfo, hh]
  simp only [ok_bind, ← hf.nodes, ← hf.ports]
  rw [loadNode, loadCount_reads hn, ok_bind, loadPort, loadCount_reads hp]
  rfl

theorem records_of_readFile (hf : readFile file = .ok fc) :
    ∃ h nrs prs, HoldsRecords file h nrs prs ∧ fc = ofRecords h nrs prs := by
  rw [readFile, loadHeaderInfo] at hf
  cases hh : readHeader file with
  | none =>
      rw [hh] at hf
      cases hf
  | some r =>
      rw [hh] at hf
      simp only [ok_bind] at hf
      obtain ⟨⟨fc₁, fd₁⟩, hn, hf⟩ := bind_eq_ok.mp hf
      obtain ⟨⟨fc₂, fd₂⟩, hp, hf⟩ := bind_eq_ok.mp hf
      obtain ⟨nrs, hnlen, hnreads, rfl⟩ := reads_of_loadCount hn
      obtain ⟨prs, hplen, hpreads, rfl⟩ := reads_of_loadCount hp
      exact ⟨r.1, nrs, prs, ⟨hnlen, hplen, _, _, _, hh, hnreads, hpreads⟩, (Except.ok.inj hf).symm⟩

/-- A file that was written from its records. -/
theorem holdsRecords_bytes (hnodes : nrs.length = h.nodeCount.toNat)
    (hports : prs.length = h.portCount.toNat) (hkeys : ∀ r ∈ nrs, r.portCacheKeys.length < 256) :
    HoldsRecords (h.bytes ++ (nrs.flatMap NodeRecord.bytes ++ prs.flatMap PortRecord.bytes))
      h nrs prs where
  nodes := hnodes
  ports := hports
  reads := by
    refine ⟨_, _, [], readHeader_bytes _ _, reads_append ?_ _, ?_⟩
    · exact fun r hr rest => readNode_bytes rest r (hkeys r hr)
    · have hreads : Reads readPort (prs.flatMap PortRecord.bytes ++ []) prs [] :=
        reads_append (fun r _ rest => readPort_bytes rest r) []
      rwa [List.append_nil] at hreads

/-- The caches and their tables hold the records, the last one first. -/
structure Stored (nrs : List NodeRecord) (prs : List PortRecord) (fc : FabricCache) : Prop where
  nodeCount : fc.fabric.nodeCount = nrs.length
  portCount : fc.fabric.portCount = prs.length
  node : ∀ i r, nrs[i]? = some r →
    fc.fabric.node i = r.node ∧ fc.nodeCache i = ⟨r.portCacheKeys, false⟩
  port : ∀ i r, prs[i]? = some r → fc.fabric.port i = r.port ∧
    fc.portCache i = ⟨r.nodeGuid, r.remoteportFlag, r.remoteportCacheKey, false⟩ ∧
    fc.extPortnum i = r.extPortnum.toNat
  nodesCache : fc.nodesCache = (List.range nrs.length).reverse
  portsCache : fc.portsCache = (List.range prs.length).reverse
  nodescachetbl : ∀ idx, fc.nodescachetbl idx =
    fc.nodesCache.filter fun n => hashguid (fc.fabric.node n).guid = idx
  portscachetbl : ∀ idx, fc.portscachetbl idx =
    fc.portsCache.filter fun p => hashguid (fc.fabric.port p).guid = idx
  unstored : (∀ n, (fc.nodeCache n).nodeStoredToFabric = false) ∧
    ∀ p, (fc.portCache p).portStoredToFabric = false
  noPorts : ∀ n k, (fc.fabric.node n).ports k = none
  bare : fc.fabric = { allocateFabricInternal with
    node := fc.fabric.node
    nodeCount := fc.fabric.nodeCount
    port := fc.fabric.port
    portCount := fc.fabric.portCount
    maxhopsDiscovered := fc.fabric.maxhopsDiscovered }

theorem getElem?_concat {α : Type} {l : List α} {a b : α} {i : Nat}
    (h : (l ++ [a])[i]? = some b) : l[i]? = some b ∧ i ≠ l.length ∨ i = l.length ∧ b = a := by
  rcases Nat.lt_trichotomy i l.length with hlt | rfl | hgt
  · rw [List.getElem?_append_left hlt] at h
    exact .inl ⟨h, Nat.ne_of_lt hlt⟩
  · rw [List.getElem?_concat_length] at h
    exact .inr ⟨rfl, (Option.some.inj h).symm⟩
  · rw [List.getElem?_eq_none (by rw [List.length_append]; exact hgt)] at h
    cases h

theorem stored_initial (h : HeaderRecord) : Stored [] [] (initial.addHeader h) := by
  constructor
  case noPorts => exact fun _ _ => rfl
  all_goals simp [initial, addHeader, allocateFabricInternal]

/-- A table of lists by a key, with one more entry. -/
theorem filter_setAt (key key' : Nat → Nat) (l : List Nat) (n idx : Nat)
    (hkey : ∀ m ∈ l, key' m = key m) :
    setAt (fun i => l.filter fun m => key m = i) (key' n)
        (n :: l.filter fun m => key m = key' n) idx =
      (n :: l).filter fun m => key' m = idx := by
  have hold : (l.filter fun m => key' m = idx) = l.filter fun m => key m = idx :=
    List.filter_congr fun m hm => by rw [hkey m hm]
  rw [List.filter_cons, hold, setAt]
  by_cases hidx : idx = key' n
  · rw [if_pos hidx, if_pos (decide_eq_true hidx.symm), hidx]
  · rw [if_neg hidx, if_neg (by simpa using Ne.symm hidx)]

theorem Stored.addNode (hs : Stored nrs prs fc) (r : NodeRecord) :
    Stored (nrs ++ [r]) prs (fc.addNode r) := by
  have hlt : ∀ m ∈ fc.nodesCache, m ≠ fc.fabric.nodeCount := by
    intro m hm
    rw [hs.nodesCache, List.mem_reverse, List.mem_range, ← hs.nodeCount] at hm
    exact Nat.ne_of_lt hm
  have hother : ∀ m, m ≠ fc.fabric.nodeCount → (fc.addNode r).fabric.node m = fc.fabric.node m ∧
      (fc.addNode r).nodeCache m = fc.nodeCache m := fun m hm => ⟨if_neg hm, if_neg hm⟩
  constructor
  case nodeCount => simp [FabricCache.addNode, storeNodeCache, hs.nodeCount]
  case portCount => exact hs.portCount
  case node =>
    intro i x hx
    rcases getElem?_concat hx with ⟨hold, hne⟩ | ⟨rfl, rfl⟩
    · rw [← hs.nodeCount] at hne
      rw [(hother i hne).1, (hother i hne).2]
      exact hs.node i x hold
    · rw [← hs.nodeCount]
      exact ⟨if_pos rfl, if_pos rfl⟩
  case port => exact hs.port
  case nodesCache =>
    rw [List.length_append, List.length_singleton, List.range_succ, List.reverse_append,
      ← hs.nodesCache, ← hs.nodeCount]
    rfl
  case portsCache => exact hs.portsCache
  case nodescachetbl =>
    intro idx
    have htbl := funext hs.nodescachetbl
    have hset := filter_setAt (fun m => hashguid (fc.fabric.node m).guid)
      (fun m => hashguid ((fc.addNode r).fabric.node m).guid) fc.nodesCache
      fc.fabric.nodeCount idx fun m hm => by rw [(hother m (hlt m hm)).1]
    rw [← htbl, ← hs.nodescachetbl] at hset
    exact hset
  case portscachetbl => exact hs.portscachetbl
  case unstored =>
    refine ⟨fun n => ?_, hs.unstored.2⟩
    by_cases hn : n = fc.fabric.nodeCount
    · rw [hn]
      exact congrArg NodeCache.nodeStoredToFabric (if_pos rfl)
    · rw [(hother n hn).2]
      exact hs.unstored.1 n
  case noPorts =>
    intro n k
    by_cases hn : n = fc.fabric.nodeCount
    · rw [hn]
      exact congrFun (congrArg Node.ports (if_pos rfl)) k
    · rw [(hother n hn).1]
      exact hs.noPorts n k
  case bare =>
    have hbare := hs.bare
    generalize hf : fc.fabric = f at hbare
    simp only [FabricCache.addNode, storeNodeCache, hf]
    rw [hbare]

theorem Stored.addPort (hs : Stored nrs prs fc) (r : PortRecord) :
    Stored nrs (prs ++ [r]) (fc.addPort r) := by
  have hlt : ∀ m ∈ fc.portsCache, m ≠ fc.fabric.portCount := by
    intro m hm
    rw [hs.portsCache, List.mem_reverse, List.mem_range, ← hs.portCount] at hm
    exact Nat.ne_of_lt hm
  have hother : ∀ m, m ≠ fc.fabric.portCount → (fc.addPort r).fabric.port m = fc.fabric.port m ∧
      (fc.addPort r).portCache m = fc.portCache m ∧
      (fc.addPort r).extPortnum m = fc.extPortnum m :=
    fun m hm => ⟨if_neg hm, if_neg hm, if_neg hm⟩
  constructor
  case nodeCount => exact hs.nodeCount
  case portCount => simp [FabricCache.addPort, storePortCache, hs.portCount]
  case node => exact hs.node
  case port =>
    intro i x hx
    rcases getElem?_concat hx with ⟨hold, hne⟩ | ⟨rfl, rfl⟩
    · rw [← hs.portCount] at hne
      obtain ⟨hport, hcache, hext⟩ := hother i hne
      rw [hport, hcache, hext]
      exact hs.port i x hold
    · rw [← hs.portCount]
      exact ⟨if_pos rfl, if_pos rfl, if_pos rfl⟩
  case nodesCache => exact hs.nodesCache
  case portsCache =>
    rw [List.length_append, List.length_singleton, List.range_succ, List.reverse_append,
      ← hs.portsCache, ← hs.portCount]
    rfl
  case nodescachetbl => exact hs.nodescachetbl
  case portscachetbl =>
    intro idx
    have htbl := funext hs.portscachetbl
    have hset := filter_setAt (fun m => hashguid (fc.fabric.port m).guid)
      (fun m => hashguid ((fc.addPort r).fabric.port m).guid) fc.portsCache
      fc.fabric.portCount idx fun m hm => by rw [(hother m (hlt m hm)).1]
    rw [← htbl, ← hs.portscachetbl] at hset
    exact hset
  case unstored =>
    refine ⟨hs.unstored.1, fun p => ?_⟩
    by_cases hp : p = fc.fabric.portCount
    · rw [hp]
      exact congrArg PortCache.portStoredToFabric (if_pos rfl)
    · rw [(hother p hp).2.1]
      exact hs.unstored.2 p
  case noPorts => exact hs.noPorts
  case bare =>
    have hbare := hs.bare
    generalize hf : fc.fabric = f at hbare
    simp only [FabricCache.addPort, storePortCache, hf]
    rw [hbare]

theorem stored_ofRecords (h : HeaderRecord) (nrs : List NodeRecord) (prs : List PortRecord) :
    Stored nrs prs (ofRecords h nrs prs) := by
  have hnodes : ∀ rest seen fc, Stored seen [] fc → Stored (seen ++ rest) [] (rest.foldl
      FabricCache.addNode fc) := by
    intro rest
    induction rest with
    | nil =>
        intro seen fc hs
        rwa [List.append_nil]
    | cons r rest ih =>
        intro seen fc hs
        rw [List.append_cons]
        exact ih _ _ (hs.addNode r)
  have hports : ∀ rest seen fc, Stored nrs seen fc → Stored nrs (seen ++ rest) (rest.foldl
      FabricCache.addPort fc) := by
    intro rest
    induction rest with
    | nil =>
        intro seen fc hs
        rwa [List.append_nil]
    | cons r rest ih =>
        intro seen fc hs
        rw [List.append_cons]
        exact ih _ _ (hs.addPort r)
  exact hports prs [] _ (hnodes nrs [] _ (stored_initial h))

/-- A search in the table of a hash is a search in the whole list. -/
theorem find?_filter_key {l : List Nat} {key : Nat → Nat} {p : Nat → Bool} {idx : Nat}
    (hp : ∀ m, p m = true → key m = idx) :
    (l.filter fun m => key m = idx).find? p = l.find? p := by
  rw [List.find?_filter]
  congr 1
  funext m
  rw [Bool.eq_iff_iff]
  simp only [decide_eq_true_eq]
  exact ⟨fun hm => hm.2, fun hm => ⟨hp m hm, hm⟩⟩

theorem Stored.findNode_eq (hs : Stored nrs prs fc) (guid : UInt64) :
    fc.findNode guid =
      (List.range nrs.length).reverse.find? fun n => (fc.fabric.node n).guid = guid := by
  rw [findNode, hs.nodescachetbl, hs.nodesCache]
  exact find?_filter_key fun m hm => by rw [of_decide_eq_true hm]

theorem Stored.findPort_eq (hs : Stored nrs prs fc) (key : PortCacheKey) :
    fc.findPort key = (List.range prs.length).reverse.find? fun p =>
      (fc.fabric.port p).guid = key.guid && (fc.fabric.port p).portnum = key.portnum.toNat := by
  rw [findPort, hs.portscachetbl, hs.portsCache]
  refine find?_filter_key fun m hm => ?_
  rw [of_decide_eq_true (Bool.and_eq_true_iff.mp hm).1]

end FabricCache
end InfinibandDiags
