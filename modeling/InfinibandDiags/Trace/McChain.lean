import InfinibandDiags.Trace.McBounded

/-! A chain of switches in which the search leaves the lists by distance, from every source that is
one hop away. -/
namespace InfinibandDiags
namespace Ibtracert

/-- Where a path of the chain leads: to the source, behind port `k` of the first switch, or to the
switch as many hops down the chain. -/
def atSource (k : UInt8) (portid : PortId) : Prop :=
  portid.drpath.cnt = 1 ∧ getElem portid.drpath.p 1 one_lt_hops = k

instance (k : UInt8) (portid : PortId) : Decidable (atSource k portid) :=
  inferInstanceAs (Decidable (_ ∧ _))

/-- The port of each switch that leads on down the chain. -/
def downPort (k : UInt8) : Nat := if k = 1 then 2 else 1

def chainGuid (n : Nat) : UInt64 := UInt64.ofNat (n + 1)

/-- The source has the number 999. -/
def sourceInfo : SmpData := .ofBytes (nodeInfoData (chainGuid 999) (chainGuid 999) ibNodeCa 1 1)

def chainInfo (n : Nat) : SmpData :=
  .ofBytes (nodeInfoData (chainGuid n) (chainGuid n) ibNodeSwitch 3 3)

def linkUpInfo : SmpData := .ofBytes (madSetField SmpData.zero.bytes 0 .portPhysState 5)

def oneGroupInfo : SmpData := .ofBytes (madSetField SmpData.zero.bytes 0 .swMcastFdbCap 1)

/-- The group 0xc000 goes out through one port. -/
def oneGroupBlock (port : Nat) : SmpData :=
  ⟨0 :: UInt8.ofNat (2 ^ port) :: List.replicate 62 0, by simp [ibSmpDataSize]⟩

def chainQuery (k : UInt8) : SmpQuery := fun portid attrid _ =>
  if attrid = ibAttrNodeInfo then
    some (if atSource k portid then sourceInfo else chainInfo portid.drpath.cnt)
  else if attrid = ibAttrNodeDesc then some .zero
  else if attrid = ibAttrPortInfo then some linkUpInfo
  else if attrid = ibAttrSwitchInfo then some oneGroupInfo
  else if attrid = ibAttrMulticastforwtbl then some (oneGroupBlock (downPort k))
  else none

def chainTracer (k : UInt8) : Tracer where
  query := chainQuery k
  force := false
  verbose := false
  stack := ⟨0, 0, 0⟩

theorem chainInfo_fields {n : Nat} (hn : n < 63) : (chainInfo n).field64 .nodeGuid = chainGuid n ∧
    (chainInfo n).field64 .nodePortGuid = chainGuid n ∧
    (chainInfo n).field .nodeType = ibNodeSwitch ∧ (chainInfo n).field .nodeNports = 3 ∧
    (chainInfo n).field .nodeLocalPort = 3 := by
  have hall : ∀ n : Fin 63, (chainInfo n).field64 .nodeGuid = chainGuid n ∧
      (chainInfo n).field64 .nodePortGuid = chainGuid n ∧
      (chainInfo n).field .nodeType = ibNodeSwitch ∧ (chainInfo n).field .nodeNports = 3 ∧
      (chainInfo n).field .nodeLocalPort = 3 := by
    decide +kernel
  exact hall ⟨n, hn⟩

theorem linkUpInfo_field : linkUpInfo.field .portPhysState = 5 := by decide +kernel

theorem oneGroupInfo_field : oneGroupInfo.field .swMcastFdbCap = 1 := by decide +kernel

section Answers
variable {k : UInt8} {portid : PortId} {node : Node} {port : Port}

theorem getNode_chain (h : ¬atSource k portid) (hcnt : portid.drpath.cnt < 63) :
    ∃ node port, getNode (chainTracer k) {} {} portid = (true, node, port) ∧
      node.nodeguid = chainGuid portid.drpath.cnt ∧ node.type = ibNodeSwitch ∧
      node.numports = 3 ∧ port.portguid = chainGuid portid.drpath.cnt ∧ port.portnum = 3 := by
  obtain ⟨hguid, hport, htype, hnports, hlocal⟩ := chainInfo_fields hcnt
  have hinfo : (chainTracer k).query portid ibAttrNodeInfo 0 = some (chainInfo portid.drpath.cnt) :=
    congrArg some (if_neg h)
  rw [getNode, hinfo]
  exact ⟨_, _, rfl, hguid, htype, hnports, hport, hlocal⟩

theorem getPort_chain (k : UInt8) (portid : PortId) (i : Nat) :
    ∃ port, getPort (chainTracer k) i portid = some port ∧ port.physstate = 5 :=
  ⟨_, rfl, linkUpInfo_field⟩

theorem downPort_le (k : UInt8) : 1 ≤ downPort k ∧ downPort k ≤ 2 := by
  unfold downPort
  split <;> decide

/-- A switch of the chain forwards the group to the next one. -/
theorem switchMclookup_chain (k : UInt8) (portid : PortId) (hports : node.numports = 3) :
    ∃ map, switchMclookup (chainTracer k) node portid 0xc000 = .ok (some map) ∧
      ∀ i, map i = true ↔ i = downPort k := by
  have hmask : mcMask (oneGroupBlock (downPort k)) 0 = 2 ^ downPort k := by
    unfold downPort
    split <;> rfl
  have hsets : List.range ((node.numports + 15) / 16) = [0] := by
    rw [hports]
    rfl
  refine ⟨fun i => false || (i / 16 = 0 && (2 ^ downPort k).testBit (i % 16)), ?_, fun i => ?_⟩
  · have hcap : ¬(0xc000 - 0xc000 : Int) ≥ ((oneGroupInfo.field .swMcastFdbCap : Nat) : Int) := by
      rw [oneGroupInfo_field]
      decide
    have hinfo : (chainTracer k).query portid ibAttrSwitchInfo 0 = some oneGroupInfo := rfl
    rw [switchMclookup, hinfo]
    dsimp only
    have hblock : ∀ mod, (chainTracer k).query portid ibAttrMulticastforwtbl mod =
        some (oneGroupBlock (downPort k)) := fun _ => rfl
    have hindex : ((0xc000 - 0xc000 : Int).tmod 32).toNat = 0 := rfl
    rw [if_neg hcap, hsets, mcSets, hblock]
    dsimp only
    rw [if_neg (by decide), hindex, hmask]
    rfl
  · obtain ⟨hlow, hhigh⟩ := downPort_le k
    simp only [Bool.false_or, Bool.and_eq_true, decide_eq_true_eq, Nat.testBit_two_pow]
    omega

end Answers

/-- The search at the level of a switch of the chain, with no switch behind it known. -/
structure ChainLevel (k : UInt8) (dist : Nat) (s : Search) (r : NodeRef) (node : McNode) : Prop where
  leafport : s.leafport = k.toNat
  list : s.mc.nodesdist dist = [r]
  behind : ∀ dist', dist < dist' → s.mc.nodesdist dist' = []
  record : s.mc.nodes[r]? = some node
  type : node.type = ibNodeSwitch
  numports : node.numports = 3
  upport : dist ≠ 1 → node.upport = 3
  cnt : node.path.cnt = dist - 1
  way : dist = 2 → getElem node.path.portid.drpath.p 1 one_lt_hops ≠ k
  known : ∀ (r : NodeRef) node, s.mc.nodes[r]? = some node →
    node.nodeguid = chainGuid 999 ∨ ∃ n, n < dist ∧ node.nodeguid = chainGuid n

theorem chainGuid_inj {m n : Nat} (hm : m < 1000) (hn : n < 1000) (h : chainGuid m = chainGuid n) :
    m = n := by
  have hnat := congrArg UInt64.toNat h
  have hsize : UInt64.size = 2 ^ 64 := rfl
  rw [chainGuid, chainGuid, UInt64.toNat_ofNat_of_lt' (by omega),
    UInt64.toNat_ofNat_of_lt' (by omega)] at hnat
  omega

section Visits
variable {k : UInt8} {args : PortArgs} {loop : PortLoop} {n : Nat}

/-- A visit of a switch of the chain that is new. -/
theorem visit_chain (args : PortArgs) (loop : PortLoop) (htarget : args.target = 0) (hcnt : loop.path.cnt = n) (hn : n < 63)
    (hway : n = 1 → getElem loop.path.portid.drpath.p 1 one_lt_hops ≠ k)
    (hnew : loop.mc.isKnown (chainGuid n) = false) :
    ∃ node port, node.nodeguid = chainGuid n ∧ node.type = ibNodeSwitch ∧ node.numports = 3 ∧
      node.upport = 3 ∧
      PortLoop.visitUses (chainTracer k) args loop =
        [⟨args.dist + 1, loop.mc.enter node port loop.path (args.dist + 1)⟩] ∧
      (args.dist + 1 < maxHops → PortLoop.visit (chainTracer k) args loop =
        .ok ({ loop with
          mc := loop.mc.enter node port loop.path (args.dist + 1)
          path := loop.path.back }, none)) := by
  have hpath : loop.path.toPortId.drpath.cnt = n := McPath.toPortId_cnt hcnt (by omega)
  have haway : ¬atSource k loop.path.toPortId := by
    rintro ⟨hone, hlast⟩
    exact hway (hpath.symm.trans hone) hlast
  obtain ⟨node, port, hget, hguid, htype, hports, hportguid, hportnum⟩ :=
    getNode_chain haway (hpath.symm ▸ hn)
  rw [hpath] at hguid hportguid
  have hother : ¬port.portguid = args.target := by
    rw [hportguid, htarget]
    intro hzero
    have hnat := congrArg UInt64.toNat hzero
    have hsize : UInt64.size = 2 ^ 64 := rfl
    rw [chainGuid, UInt64.toNat_ofNat_of_lt' (by omega)] at hnat
    exact absurd hnat (Nat.succ_ne_zero n)
  have hunknown : ¬loop.mc.isKnown node.nodeguid = true := by
    rw [hguid]
    exact Bool.eq_false_iff.mp hnew
  refine ⟨{ node with upnode := some args.node, upport := port.portnum },
    { port with remoteport := loop.port }, hguid, htype, hports, hportnum, ?_, fun hroom => ?_⟩
  · rw [PortLoop.visitUses, hget]
    dsimp only
    rw [newNodeUses, if_neg hother, if_neg hunknown]
  · rw [PortLoop.visit, hget]
    dsimp only
    rw [newNode, if_neg hother, if_neg hunknown, if_neg (Nat.not_le.mpr hroom)]
    rfl

theorem extend_chain {path : McPath} {i : Nat} (hcnt : path.cnt = n) (hn : n < 62) :
    ∃ path', path.extend i = .ok (some path') ∧ path'.cnt = (n + 1 : Nat) ∧
      (n = 0 → getElem path'.portid.drpath.p 1 one_lt_hops = UInt8.ofNat i) := by
  rw [McPath.extend, if_neg (by omega), if_neg (by omega)]
  refine ⟨_, rfl, by simp only; omega, fun hzero => ?_⟩
  have hindex : (path.cnt + 1).toNat = 1 := by omega
  simp only [hindex]
  exact Vector.getElem_setIfInBounds_self _

/-- The ports of a switch of the chain: the search goes on to the next switch. -/
theorem run_chain (k : UInt8) (args : PortArgs) (htarget : args.target = 0) (hpos : args.dist ≠ 0)
    (hmap : ∀ i, args.map i = true ↔ i = downPort k) (hup : args.upport ≠ downPort k)
    (hcnt : loop.path.cnt = n) (hn : n < 62)
    (hnew : loop.mc.isKnown (chainGuid (n + 1)) = false) :
    ∃ (node : McNode) (port : McPort) (path : McPath), node.nodeguid = chainGuid (n + 1) ∧
      node.type = ibNodeSwitch ∧ node.numports = 3 ∧ node.upport = 3 ∧ path.cnt = (n + 1 : Nat) ∧
      (n = 0 → getElem path.portid.drpath.p 1 one_lt_hops ≠ k) ∧
      PortLoop.runUses (chainTracer k) args [1, 2, 3] loop =
        [⟨args.dist + 1, loop.mc.enter node port path (args.dist + 1)⟩] ∧
      (args.dist + 1 < maxHops → ∃ loop',
        PortLoop.run (chainTracer k) args [1, 2, 3] loop = .ok (loop', none) ∧
          loop'.mc = loop.mc.enter node port path (args.dist + 1)) := by
  obtain ⟨hlow, hhigh⟩ := downPort_le k
  have hmem : downPort k ∈ [1, 2, 3] := by
    simp only [List.mem_cons, List.not_mem_nil, or_false]
    omega
  have hopen : (!args.map (downPort k) || decide (downPort k = args.upport)) = false := by
    rw [(hmap _).mpr rfl, decide_eq_false (Ne.symm hup)]
    rfl
  have hleaf : ¬(args.dist = 0 ∧ args.leafport ≠ 0) := fun h => hpos h.1
  obtain ⟨port, hport, hphys⟩ := getPort_chain k loop.path.toPortId (downPort k)
  obtain ⟨path, hext, hpath, hfirst⟩ := extend_chain (i := downPort k) hcnt hn
  have haway : n = 0 → getElem path.portid.drpath.p 1 one_lt_hops ≠ k := by
    intro hzero
    rw [hfirst hzero, downPort]
    split
    · next hone =>
        rw [hone]
        decide
    · next hone => exact Ne.symm hone
  obtain ⟨node, nodePort, hguid, htype, hports, hentered, huses, hvisit⟩ :=
    visit_chain args { loop with port := some port, path } htarget hpath (by omega)
      (fun hone => haway (by omega)) hnew
  refine ⟨node, nodePort, path, hguid, htype, hports, hentered, hpath, haway, ?_, fun hroom => ?_⟩
  · rw [PortLoop.runUses_only (fun i hi => (hmap i).mp hi) (by decide) hmem, PortLoop.stepUses,
      hopen, if_neg (by decide), if_neg hleaf, hport]
    dsimp only
    rw [if_neg (not_not.mpr hphys), hext]
    exact huses
  · refine ⟨{ loop with
      mc := loop.mc.enter node nodePort path (args.dist + 1)
      port := some port
      path := path.back }, ?_, rfl⟩
    rw [PortLoop.run_only (fun i hi => (hmap i).mp hi) (by decide) hmem, PortLoop.step,
      hopen, if_neg (by decide), if_neg hleaf, hport]
    dsimp only
    rw [if_neg (not_not.mpr hphys), hext]
    exact hvisit hroom

end Visits

section Levels
variable {k : UInt8} {dist fromCnt : Nat} {s : Search} {r : NodeRef} {node : McNode}

/-- The next switch is in no record. -/
theorem ChainLevel.unknown (h : ChainLevel k dist s r node) (hdist : dist < 63) {upport : Nat} :
    (Search.startLoop s r { node with upport }).mc.isKnown (chainGuid dist) = false := by
  rw [Bool.eq_false_iff]
  intro hknown
  obtain ⟨q, -, x, hx, hguid⟩ := Statics.isKnown_iff.mp hknown
  obtain ⟨y, hy, hsame⟩ := sameNode_of_modifyNode (g := fun _ => { node with upport })
    (fun z hz => by
      rw [Option.some.inj (hz.symm.trans h.record)]
      exact ⟨rfl, rfl, rfl, rfl, rfl⟩) hx
  rw [hsame.nodeguid] at hguid
  rcases h.known q y hy with hfar | ⟨n, hn, hnear⟩
  · have heq := chainGuid_inj (by omega) (by omega) (hfar.symm.trans hguid)
    omega
  · have heq := chainGuid_inj (by omega) (by omega) (hnear.symm.trans hguid)
    omega

theorem ports_of_run {T : Tracer} {target : UInt64} {map : Nat → Bool} {loop : PortLoop}
    {stop : Option Stop} (h : PortLoop.run T (Search.portArgs target fromCnt s r node dist map)
      (List.range' 1 node.numports) (Search.startLoop s r node) = .ok (loop, stop)) :
    Search.ports T target fromCnt s r node dist map =
      .ok ({ s with
        mc := loop.mc.modifyNode r fun node => { node with path := loop.path }
        port := loop.port
        printed := loop.printed }, stop) := by
  unfold Search.portArgs Search.startLoop at h
  rw [Search.ports, h]
  rfl

/-- The records after a switch of the chain has been entered. -/
theorem ChainLevel.next (h : ChainLevel k dist s r node) {upport : Nat}
    {next : McNode} {port : McPort} {path path' : McPath} {s' : Search}
    (hguid : next.nodeguid = chainGuid dist) (htype : next.type = ibNodeSwitch)
    (hports : next.numports = 3) (hup : next.upport = 3) (hcnt : path.cnt = dist)
    (hway : dist = 1 → getElem path.portid.drpath.p 1 one_lt_hops ≠ k)
    (hleaf : s'.leafport = s.leafport)
    (hmc : s'.mc = ((Search.startLoop s r { node with upport }).mc.enter next port path
      (dist + 1)).modifyNode r fun node => { node with path := path' }) :
    ChainLevel k (dist + 1) s' s.mc.nodes.length
      { next with ports := some port, dist := (dist + 1 : Nat), path } := by
  have hlength : (Search.startLoop s r { node with upport }).mc.nodes.length = s.mc.nodes.length :=
    List.length_modify _ _ _
  have hlt : (r : Nat) < s.mc.nodes.length := (List.getElem?_eq_some_iff.mp h.record).1
  have hlists : ∀ d, s'.mc.nodesdist d =
      setAt s.mc.nodesdist (dist + 1) (s.mc.nodes.length :: s.mc.nodesdist (dist + 1)) d := by
    intro d
    rw [hmc, ← hlength]
    rfl
  constructor
  case leafport => exact hleaf.trans h.leafport
  case list =>
    rw [hlists, setAt, if_pos rfl, h.behind _ (Nat.lt_succ_self dist)]
  case behind =>
    intro d hd
    rw [hlists, setAt, if_neg (by omega), h.behind d (by omega)]
  case record =>
    rw [hmc, Statics.nodes_modifyNode, Statics.enter, ← hlength, List.getElem?_concat_length,
      Option.map_some, if_neg (by rw [hlength]; exact Nat.ne_of_lt hlt)]
  case type => exact htype
  case numports => exact hports
  case upport => exact fun _ => hup
  case cnt =>
    simp only [hcnt]
    omega
  case way => exact fun htwo => hway (by omega)
  case known =>
    intro q x hx
    rw [hmc] at hx
    obtain ⟨y, hy, hsame⟩ := sameNode_of_modifyNode (g := fun node => { node with path := path' })
      (fun z _ => ⟨rfl, rfl, rfl, rfl, rfl⟩) hx
    rw [hsame.nodeguid]
    rcases List.mem_append.mp (List.mem_of_getElem? hy) with hold | hnew
    · obtain ⟨q', hq'⟩ := List.mem_iff_getElem?.mp hold
      obtain ⟨z, hz, hsame'⟩ := sameNode_of_modifyNode (g := fun _ => { node with upport })
        (fun z hz => by
          rw [Option.some.inj (hz.symm.trans h.record)]
          exact ⟨rfl, rfl, rfl, rfl, rfl⟩) hq'
      rw [hsame'.nodeguid]
      refine (h.known q' z hz).imp_right ?_
      rintro ⟨n, hn, hnear⟩
      exact ⟨n, by omega, hnear⟩
    · rw [List.mem_singleton.mp hnew]
      exact .inr ⟨dist, Nat.lt_succ_self dist, hguid⟩

/-- What a level of the chain comes to. -/
theorem ChainLevel.ports (h : ChainLevel k dist s r node) (fromCnt : Nat) (hpos : 0 < dist) (hdist : dist < 63)
    {upport : Nat} (hup : upport ≠ downPort k) {map : Nat → Bool}
    (hmap : ∀ i, map i = true ↔ i = downPort k) :
    (∃ u ∈ Search.portsUses (chainTracer k) 0 fromCnt s r { node with upport } dist map,
        u.index = dist + 1) ∧
      (dist + 1 < maxHops → ∃ s' r' node',
        Search.ports (chainTracer k) 0 fromCnt s r { node with upport } dist map =
            .ok (s', none) ∧ ChainLevel k (dist + 1) s' r' node') := by
  obtain ⟨n, rfl⟩ : ∃ n, dist = n + 1 := ⟨dist - 1, by omega⟩
  have hrange : List.range' 1 node.numports = [1, 2, 3] := by
    rw [h.numports]
    rfl
  have hcnt : (Search.startLoop s r { node with upport }).path.cnt = n := by
    have hlevel := h.cnt
    simp only [Search.startLoop]
    omega
  obtain ⟨next, port, path, hguid, htype, hports, hentered, hpath, haway, huses, hrun⟩ :=
    run_chain k (Search.portArgs 0 fromCnt s r { node with upport } (n + 1) map) rfl hpos.ne' hmap hup hcnt (by omega) (h.unknown hdist)
  constructor
  · have hmem : ∀ u ∈ [Use.mk (n + 1 + 1) _], u ∈ Search.portsUses (chainTracer k) 0 fromCnt s r
        { node with upport } (n + 1) map := fun u hu => by
      rw [Search.portsUses, hrange, huses]
      exact hu
    exact ⟨_, hmem _ List.mem_cons_self, rfl⟩
  · intro hroom
    obtain ⟨loop', hloop, hmc⟩ := hrun hroom
    rw [← hrange] at hloop
    exact ⟨_, s.mc.nodes.length, _, ports_of_run hloop,
      h.next hguid htype hports hentered hpath (fun hone => haway (by omega)) rfl
        (congrArg (fun mc => Statics.modifyNode mc r _) hmc)⟩

theorem toNat_ne_downPort (k : UInt8) : k.toNat ≠ downPort k := by
  intro h
  unfold downPort at h
  split at h
  · next hone =>
      rw [hone] at h
      cases h
  · next hone => exact hone (UInt8.toNat_inj.mp h)

/-- A level of the chain uses the list behind it, and leads there. -/
theorem ChainLevel.level (h : ChainLevel k dist s r node) (fromCnt : Nat) (hk : k ≠ 0) (hpos : 0 < dist)
    (hdist : dist < 63) :
    (∃ u ∈ Search.levelUses (chainTracer k) 0 fromCnt 0xc000 dist (s.mc.nodesdist dist) s,
        u.index = dist + 1) ∧
      (dist + 1 < maxHops → ∃ s' r' node',
        Search.level (chainTracer k) 0 fromCnt 0xc000 dist (s.mc.nodesdist dist) s =
            .ok (s', none) ∧ ChainLevel k (dist + 1) s' r' node') := by
  obtain ⟨upport, hnode, hup⟩ : ∃ upport,
      (if dist = 1 ∧ s.leafport ≠ 0 then { node with upport := s.leafport } else node) =
        { node with upport } ∧ upport ≠ downPort k := by
    by_cases hone : dist = 1
    · have hleaf : s.leafport ≠ 0 := by
        rw [h.leafport]
        exact fun hzero => hk (UInt8.toNat_inj.mp hzero)
      exact ⟨s.leafport, if_pos ⟨hone, hleaf⟩, h.leafport ▸ toNat_ne_downPort k⟩
    · have hbelow := (downPort_le k).2
      refine ⟨node.upport, if_neg fun hno => hone hno.1, ?_⟩
      rw [h.upport hone]
      omega
  obtain ⟨map, hlookup, hmap⟩ := switchMclookup_chain k node.path.toPortId h.numports
  obtain ⟨huses, hnext⟩ := h.ports fromCnt hpos hdist hup hmap
  have hnodeUses : Search.nodeUses (chainTracer k) 0 fromCnt 0xc000 s r dist =
      Search.portsUses (chainTracer k) 0 fromCnt s r { node with upport } dist map := by
    rw [Search.nodeUses, h.record]
    dsimp only
    rw [if_neg (not_not.mpr h.type), hnode]
    dsimp only
    rw [hlookup]
  have hnodeRun : Search.node (chainTracer k) 0 fromCnt 0xc000 s r dist =
      Search.ports (chainTracer k) 0 fromCnt s r { node with upport } dist map := by
    rw [Search.node, h.record]
    dsimp only
    rw [if_neg (not_not.mpr h.type), hnode]
    dsimp only
    rw [hlookup]
    rfl
  rw [h.list, Search.levelUses, Loops.events_singleton, hnodeUses]
  refine ⟨huses, fun hroom => ?_⟩
  obtain ⟨s', r', node', hports, hlevel⟩ := hnext hroom
  refine ⟨s', r', node', ?_, hlevel⟩
  rw [Search.level_eq, Loops.run_cons_of_none (hnodeRun.trans hports)]
  rfl

/-- Down the chain, up to the list that is not there. -/
theorem ChainLevel.levels (h : ChainLevel k dist s r node) (fromCnt left : Nat) (hk : k ≠ 0)
    (hpos : 0 < dist) (hleft : dist + left = 62) :
    ∃ u ∈ Search.levelsUses (chainTracer k) 0 fromCnt 0xc000 (List.range' dist (left + 1)) s,
      u.index = maxHops := by
  induction left generalizing dist s r node with
  | zero =>
      obtain ⟨u, hu, hindex⟩ := (h.level fromCnt hk hpos (by omega)).1
      refine ⟨u, ?_, by rw [hindex, maxHops]; omega⟩
      rw [List.range'_one, Search.levelsUses, Loops.events_singleton]
      exact List.mem_cons_of_mem _ hu
  | succ left ih =>
      obtain ⟨s', r', node', hlevel, hnext⟩ :=
        (h.level fromCnt hk hpos (by omega)).2 (by rw [maxHops]; omega)
      obtain ⟨u, hu, hindex⟩ := ih hnext (by omega) (by omega)
      refine ⟨u, ?_, hindex⟩
      rw [List.range'_succ, Search.levelsUses, Loops.events_cons_of_none hlevel]
      exact List.mem_append_right _ hu

end Levels

section Sources
variable {fromId : PortId} {k : UInt8} {node : Node} {port : Port}

/-- The record of the source, as the loop over its ports has it. -/
def sourceRecord (node : Node) (port : Port) (fromId : PortId) : McNode :=
  { node with ports := some { port with }, dist := 0, path := .ofPortId fromId, upport := 0 }

/-- The search at the source, with the port that it hangs on. -/
def sourceSearch (k : UInt8) (node : Node) (port : Port) (fromId : PortId) : Search where
  mc := sourceStatics node port fromId
  port := some port
  leafport := k.toNat

/-- The first switch joins the source. -/
theorem ChainLevel.first {next : McNode} {nextPort : McPort} {path path' : McPath} {s : Search}
    (hguid : node.nodeguid = chainGuid 999) (hnext : next.nodeguid = chainGuid 0)
    (htype : next.type = ibNodeSwitch) (hports : next.numports = 3) (hcnt : path.cnt = (0 : Nat))
    (hleaf : s.leafport = k.toNat)
    (hmc : s.mc = ((Search.startLoop (sourceSearch k node port fromId) 0
        (sourceRecord node port fromId)).mc.enter next nextPort path 1).modifyNode 0
      fun node => { node with path := path' }) :
    ChainLevel k 1 s 1 { next with ports := some nextPort, dist := (1 : Nat), path } := by
  have hnodes : s.mc.nodes = [{ sourceRecord node port fromId with path := path' },
      { next with ports := some nextPort, dist := (1 : Nat), path }] := by
    rw [hmc]
    rfl
  have hlists : s.mc.nodesdist = setAt (setAt (fun _ => []) 0 [0]) 1 [1] := by
    rw [hmc]
    rfl
  constructor
  case leafport => exact hleaf
  case list =>
    rw [hlists]
    rfl
  case behind =>
    intro d hd
    rw [hlists, setAt, if_neg (by omega), setAt, if_neg (by omega)]
  case record =>
    rw [hnodes]
    rfl
  case type => exact htype
  case numports => exact hports
  case upport => exact fun hone => absurd rfl hone
  case cnt => exact hcnt
  case way => exact fun htwo => by cases htwo
  case known =>
    intro q x hx
    have hmem := List.mem_of_getElem? hx
    rw [hnodes, List.mem_cons, List.mem_singleton] at hmem
    rcases hmem with rfl | rfl
    · exact .inl hguid
    · exact .inr ⟨0, Nat.one_pos, hnext⟩

end Sources

end Ibtracert
end InfinibandDiags
