import InfinibandDiags.Mad.Reply
import InfinibandDiags.Trace.Multicast

/-! Runs of ibtracert over a ports file: which pairs are traced as they would be alone, although
the search finds the table and the lists of the pairs before. -/
namespace InfinibandDiags
namespace Ibtracert

/-- The target as it is seen through a port of the node before it. -/
structure Sight where
  node : Node
  port : Port
  remoteport : Option Port

/-- The record that the search returns for it. -/
def Sight.remote (sight : Sight) (r : NodeRef) : McNode :=
  { sight.node with
    upnode := some r
    upport := sight.port.portnum
    dist := -1
    ports := some { sight.port with remoteport := sight.remoteport } }

/-- The loop over the ports of a node without its table: where its path is, and how it ends if it
does. -/
structure Glance where
  port : Option Port
  path : McPath

variable (T : Tracer)

namespace Glance

def visit (args : PortArgs) (g : Glance) : Glance × Option (Option Sight) :=
  match getNode T {} {} g.path.toPortId with
  | (false, _) => ({ g with path := g.path.back }, none)
  | (true, node, port) =>
      if port.portguid = args.target then (g, some (some ⟨node, port, g.port⟩))
      else ({ g with path := g.path.back }, none)

def step (args : PortArgs) (g : Glance) (i : Nat) :
    Except Fault (Glance × Option (Option Sight)) :=
  if !args.map i || i = args.upport then .ok (g, none)
  else if args.dist = 0 ∧ args.leafport ≠ 0 then
    .ok (visit T args (if args.fromCnt > 0 then { g with path := g.path.back } else g))
  else
    match getPort T i g.path.toPortId with
    | none => .ok ({ g with port := none }, some none)
    | some port =>
        if port.physstate ≠ 5 then .ok ({ g with port := none }, none)
        else
          match g.path.extend i with
          | .error f => .error f
          | .ok none => .ok ({ g with port := none }, some none)
          | .ok (some path) => .ok (visit T args ⟨some port, path⟩)

def run (args : PortArgs) : List Nat → Glance → Except Fault (Glance × Option (Option Sight))
  | [], g => .ok (g, none)
  | i :: is, g =>
      match step T args g i with
      | .error f => .error f
      | .ok (g, none) => run args is g
      | .ok (g, some e) => .ok (g, some e)

/-- The end of a search at the ports of its source. -/
def ports (target : UInt64) (fromId : PortId) (node : Node) (port : Port) (leafport : Nat)
    (map : Nat → Bool) : Option (Option Sight) :=
  match run T ⟨target, fromId.drpath.cnt, 0, 0, 0, leafport, map⟩ (List.range' 1 node.numports)
    ⟨some port, .ofPortId fromId⟩ with
  | .ok (_, e) => e
  | .error _ => none

/-- How a search from a source ends at the source's own ports, if it does. -/
def source (target : UInt64) (fromId : PortId) (mlid : Int) (node : Node) (port : Port) :
    Option (Option Sight) :=
  let path := McPath.ofPortId fromId
  if node.type ≠ ibNodeSwitch then
    match path.last with
    | .ok leafport => ports T target fromId node port leafport fun k => k = port.portnum
    | .error _ => none
  else
    match switchMclookup T node path.toPortId mlid with
    | .ok (some map) => ports T target fromId node port 0 map
    | _ => none

end Glance

variable {T}

theorem newNode_of_ne {target : UInt64} (mc : Statics) (node : McNode) (port : McPort)
    (path : McPath) {dist : Nat} (hne : port.portguid ≠ target) (hdist : dist < maxHops) :
    (mc.isKnown node.nodeguid = true ∧ newNode target mc node port path dist = .ok (.known, mc)) ∨
      ∃ mc', newNode target mc node port path dist = .ok (.inserted, mc') ∧
        mc.nodes <+: mc'.nodes := by
  unfold newNode
  rw [if_neg hne]
  by_cases hknown : mc.isKnown node.nodeguid = true
  · exact .inl ⟨hknown, by rw [if_pos hknown]⟩
  · rw [if_neg hknown, if_neg (Nat.not_le.mpr hdist)]
    exact .inr ⟨_, rfl, List.prefix_append _ _⟩

section Loop
variable {args : PortArgs} {loop : PortLoop} {g' : Glance} {e : Option (Option Sight)}

/-- What the loop does with a glance at the node behind a port. -/
theorem visit_of_glance (loop : PortLoop) (hdist : args.dist = 0)
    (h : Glance.visit T args ⟨loop.port, loop.path⟩ = (g', e)) :
    ∃ mc printed, PortLoop.visit T args loop =
        .ok (⟨mc, g'.port, g'.path, printed⟩, e.map (Option.map (Sight.remote · args.node))) ∧
      loop.mc.nodes <+: mc.nodes := by
  unfold Glance.visit at h
  unfold PortLoop.visit
  cases hget : getNode T {} {} loop.path.toPortId with
  | mk ok rest =>
      obtain ⟨node, port⟩ := rest
      cases ok with
      | false =>
          simp only [hget] at h
          cases h
          exact ⟨loop.mc, loop.printed, rfl, List.prefix_rfl⟩
      | true =>
          simp only [hget] at h
          by_cases htarget : port.portguid = args.target
          · rw [if_pos htarget] at h
            cases h
            refine ⟨loop.mc, loop.printed, ?_, List.prefix_rfl⟩
            simp only [newNode, htarget, if_true, ok_bind]
            rfl
          · rw [if_neg htarget] at h
            cases h
            have hlt : args.dist + 1 < maxHops := by
              rw [hdist]
              decide
            rcases newNode_of_ne loop.mc
              { node with upnode := some args.node, upport := port.portnum }
              { port with remoteport := loop.port } loop.path htarget hlt with
              ⟨-, hnew⟩ | ⟨mc, hnew, hinitial⟩
            · refine ⟨loop.mc, loop.printed ++ (if node.type = ibNodeSwitch then
                dumpEndnode 2 .circle node port else []), ?_, List.prefix_rfl⟩
              simp only [hnew, ok_bind]
              rfl
            · refine ⟨mc, loop.printed, ?_, hinitial⟩
              simp only [hnew, ok_bind]
              rfl

theorem step_of_glance (loop : PortLoop) (hdist : args.dist = 0) {i : Nat}
    (h : Glance.step T args ⟨loop.port, loop.path⟩ i = .ok (g', e)) :
    ∃ mc printed, PortLoop.step T args loop i =
        .ok (⟨mc, g'.port, g'.path, printed⟩, e.map (Option.map (Sight.remote · args.node))) ∧
      loop.mc.nodes <+: mc.nodes := by
  unfold Glance.step at h
  unfold PortLoop.step
  split at h
  · next hskip =>
      cases h
      rw [if_pos hskip]
      exact ⟨loop.mc, loop.printed, rfl, List.prefix_rfl⟩
  · next hskip =>
      rw [if_neg hskip]
      split at h
      · next hleaf =>
          rw [if_pos hleaf]
          split
          · next hcnt =>
              rw [if_pos hcnt] at h
              exact visit_of_glance { loop with path := loop.path.back } hdist (Except.ok.inj h)
          · next hcnt =>
              rw [if_neg hcnt] at h
              exact visit_of_glance loop hdist (Except.ok.inj h)
      · next hleaf =>
          rw [if_neg hleaf]
          cases hport : getPort T i loop.path.toPortId with
          | none =>
              simp only [hport] at h
              cases h
              exact ⟨loop.mc, loop.printed, rfl, List.prefix_rfl⟩
          | some port =>
              simp only [hport] at h ⊢
              split at h
              · next hphys =>
                  cases h
                  rw [if_pos hphys]
                  exact ⟨loop.mc, loop.printed, rfl, List.prefix_rfl⟩
              · next hphys =>
                  rw [if_neg hphys]
                  cases hext : loop.path.extend i with
                  | error f =>
                      simp only [hext] at h
                      cases h
                  | ok path =>
                      cases path with
                      | none =>
                          simp only [hext] at h
                          cases h
                          exact ⟨loop.mc, loop.printed, rfl, List.prefix_rfl⟩
                      | some path =>
                          simp only [hext] at h
                          simp only [ok_bind]
                          exact visit_of_glance { loop with port := some port, path } hdist
                            (Except.ok.inj h)

theorem run_of_glance (loop : PortLoop) (hdist : args.dist = 0) {is : List Nat} {e : Option Sight}
    (h : Glance.run T args is ⟨loop.port, loop.path⟩ = .ok (g', some e)) :
    ∃ mc printed, PortLoop.run T args is loop =
        .ok (⟨mc, g'.port, g'.path, printed⟩, some (e.map (Sight.remote · args.node))) ∧
      loop.mc.nodes <+: mc.nodes := by
  induction is generalizing loop with
  | nil => cases h
  | cons i is ih =>
      unfold Glance.run at h
      cases hstep : Glance.step T args ⟨loop.port, loop.path⟩ i with
      | error f =>
          simp only [hstep] at h
          cases h
      | ok r =>
          obtain ⟨g, stop⟩ := r
          obtain ⟨mc, printed, hloop, hinitial⟩ := step_of_glance loop hdist hstep
          rw [PortLoop.run, hloop, ok_bind]
          cases stop with
          | none =>
              simp only [hstep] at h
              obtain ⟨mc', printed', hrun, hinitial'⟩ := ih ⟨mc, g.port, g.path, printed⟩ h
              exact ⟨mc', printed', hrun, hinitial.trans hinitial'⟩
          | some stop =>
              simp only [hstep] at h
              cases h
              exact ⟨mc, printed, rfl, hinitial⟩

end Loop

/-- The record of a source. -/
def sourceNode (node : Node) (port : Port) (path : McPath) : McNode :=
  { node with ports := some { port with }, path }

theorem getElem?_of_prefix {α : Type} {l m : List α} {i : Nat} {a : α} (h : l <+: m)
    (hl : l[i]? = some a) : m[i]? = some a := by
  obtain ⟨t, rfl⟩ := h
  obtain ⟨hlt, -⟩ := List.getElem?_eq_some_iff.mp hl
  rw [List.getElem?_append_left hlt, hl]

theorem Glance.run_node (args : PortArgs) (r : NodeRef) (is : List Nat) (g : Glance) :
    Glance.run T { args with node := r } is g = Glance.run T args is g := by
  induction is generalizing g with
  | nil => rfl
  | cons i is ih =>
      have hstep : Glance.step T { args with node := r } g i = Glance.step T args g i := rfl
      rw [Glance.run, Glance.run, hstep]
      cases Glance.step T args g i with
      | error f => rfl
      | ok x =>
          obtain ⟨g', stop⟩ := x
          cases stop with
          | none => exact ih g'
          | some e => rfl

section Source
variable {target : UInt64} {fromId : PortId} {mlid : Int} {node : Node} {port : Port}
  {e : Option Sight} {s : Search} {r : NodeRef}

theorem ports_of_glance {leafport : Nat} {map : Nat → Bool}
    (h : Glance.ports T target fromId node port leafport map = some e)
    (hr : s.mc.nodes[r]? = some (sourceNode node port (.ofPortId fromId)))
    (hport : s.port = some port) (hleaf : s.leafport = leafport) :
    ∃ s' path', Search.ports T target fromId.drpath.cnt s r
        (sourceNode node port (.ofPortId fromId)) 0 map =
          .ok (s', some (e.map (Sight.remote · r))) ∧
      s'.mc.nodes[r]? = some (sourceNode node port path') := by
  obtain ⟨g, h⟩ : ∃ g, Glance.run T ⟨target, fromId.drpath.cnt, 0, 0, 0, leafport, map⟩
      (List.range' 1 node.numports) ⟨some port, .ofPortId fromId⟩ = .ok (g, some e) := by
    unfold Glance.ports at h
    split at h
    · next g e' hrun =>
        rw [h] at hrun
        exact ⟨g, hrun⟩
    · cases h
  generalize McPath.ofPortId fromId = path at h hr ⊢
  generalize fromId.drpath.cnt = fromCnt at h ⊢
  have hrun : Glance.run T ⟨target, fromCnt, r, 0, 0, leafport, map⟩ (List.range' 1 node.numports)
      ⟨some port, path⟩ = .ok (g, some e) := (Glance.run_node _ r _ _).trans h
  obtain ⟨mc, printed, hloop, hinitial⟩ := run_of_glance
    ⟨s.mc.modifyNode r fun _ => sourceNode node port path, some port, path, s.printed⟩ rfl hrun
  have hkept : (s.mc.modifyNode r fun _ => sourceNode node port path).nodes[r]? =
      some (sourceNode node port path) := by
    simp [Statics.modifyNode, hr]
  refine ⟨{ s with
    mc := mc.modifyNode r fun node => { node with path := g.path }
    port := g.port
    printed := printed }, g.path, ?_, ?_⟩
  · have hports : Search.ports T target fromCnt s r (sourceNode node port path) 0 map =
        (PortLoop.run T ⟨target, fromCnt, r, 0, 0, leafport, map⟩ (List.range' 1 node.numports)
          ⟨s.mc.modifyNode r fun _ => sourceNode node port path, some port, path, s.printed⟩ >>=
          fun x => .ok ({ s with
            mc := x.1.mc.modifyNode r fun node => { node with path := x.1.path }
            port := x.1.port
            printed := x.1.printed }, x.2)) := by
      rw [Search.ports, hport, hleaf]
      rfl
    rw [hports, hloop]
    rfl
  · simp [Statics.modifyNode, getElem?_of_prefix hinitial hkept, sourceNode]

/-- A search that is over at the ports of its source. -/
theorem node_of_glance (h : Glance.source T target fromId mlid node port = some e)
    (hr : s.mc.nodes[r]? = some (sourceNode node port (.ofPortId fromId)))
    (hport : s.port = some port) (hleaf : s.leafport = 0) :
    ∃ s' path, Search.node T target fromId.drpath.cnt mlid s r 0 =
        .ok (s', some (e.map (Sight.remote · r))) ∧
      s'.mc.nodes[r]? = some (sourceNode node port path) := by
  unfold Glance.source at h
  unfold Search.node
  simp only [hr]
  by_cases htype : node.type = ibNodeSwitch
  · have htype' : ¬ (sourceNode node port (.ofPortId fromId)).type ≠ ibNodeSwitch :=
      not_not.mpr htype
    have hdist : ¬ (0 = 1 ∧ s.leafport ≠ 0) := fun hone => absurd hone.1 (by decide)
    rw [if_neg (not_not.mpr htype)] at h
    rw [if_neg htype', if_neg hdist]
    split at h
    · next map hmap =>
        obtain ⟨s', path, hs', hr'⟩ := ports_of_glance h hr hport hleaf
        refine ⟨s', path, ?_, hr'⟩
        rw [← hs']
        exact congrArg (· >>= _) hmap
    · cases h
  · have htype' : (sourceNode node port (.ofPortId fromId)).type ≠ ibNodeSwitch := htype
    have hdist : ¬ (0 : Nat) ≠ 0 := not_not.mpr rfl
    rw [if_pos htype] at h
    rw [if_pos htype', if_neg hdist]
    split at h
    · next leafport hlast =>
        obtain ⟨s', path, hs', hr'⟩ := ports_of_glance (s := { s with leafport }) h hr hport rfl
        refine ⟨s', path, ?_, hr'⟩
        rw [← hs']
        have hlast' : (sourceNode node port (.ofPortId fromId)).path.last = .ok leafport := hlast
        rw [hlast', ok_bind, hport]
        rfl
    · cases h

/-- What the search returns from a source that is not in the table and whose ports end it. The
table and the lists of earlier searches do not matter. -/
theorem findMcpath_of_glance {mc : Statics} (hget : getNode T {} {} fromId = (true, node, port))
    (hne : port.portguid ≠ target) (hnew : mc.isKnown node.nodeguid = false)
    (h : Glance.source T target fromId mlid node port = some e) :
    ∃ mc' r path printed, findMcpath T target mc fromId mlid =
        .ok ⟨mc', e.map (Sight.remote · r), printed⟩ ∧
      mc'.nodes[r]? = some (sourceNode node port path) := by
  have hknown : ¬ mc.isKnown node.nodeguid = true := by
    rw [hnew]
    exact Bool.false_ne_true
  have hins : newNode target mc { node with } { port with } (.ofPortId fromId) 0 = .ok (.inserted,
      { nodes := mc.nodes ++ [sourceNode node port (.ofPortId fromId)]
        nodestbl := setAt mc.nodestbl (hashguid node.nodeguid)
          (mc.nodes.length :: mc.nodestbl (hashguid node.nodeguid))
        nodesdist := setAt mc.nodesdist 0 (mc.nodes.length :: mc.nodesdist 0) }) := by
    rw [newNode, if_neg hne, if_neg hknown, if_neg (by decide)]
    rfl
  obtain ⟨s', path, hnode, hr⟩ := node_of_glance (s :=
    { mc :=
        { nodes := mc.nodes ++ [sourceNode node port (.ofPortId fromId)]
          nodestbl := setAt mc.nodestbl (hashguid node.nodeguid)
            (mc.nodes.length :: mc.nodestbl (hashguid node.nodeguid))
          nodesdist := setAt mc.nodesdist 0 (mc.nodes.length :: mc.nodesdist 0) }
      port := some port }) (r := mc.nodes.length) h (by simp) rfl rfl
  refine ⟨s'.mc, mc.nodes.length, path, s'.printed, ?_, hr⟩
  have hrange : List.range maxHops = 0 :: (List.range 62).map (· + 1) := by decide
  unfold findMcpath
  simp only [hget, hins, ok_bind, hrange, Search.levels]
  have hlist : setAt mc.nodesdist 0 (mc.nodes.length :: mc.nodesdist 0) 0 =
      mc.nodes.length :: mc.nodesdist 0 := by simp
  rw [hlist, Search.level, hnode]
  rfl

end Source

/-- The path printed when the search is over at its source: two nodes, or a failure. -/
def sightLines (dumplevel : Nat) (node : Node) (port : Port) (sight : Sight) :
    Except Fault (List McLine) := do
  let above ← dumpMcnode (sourceNode node port ⟨⟨0, .empty⟩, 0⟩) dumplevel
  let own ← dumpMcnode (sight.remote 0) dumplevel
  .ok (above ++ own)

theorem dumpMcpath_of_sight {mc : Statics} {r : NodeRef} {node : Node} {port : Port}
    {path : McPath} (hr : mc.nodes[r]? = some (sourceNode node port path)) (dumplevel : Nat)
    (sight : Sight) :
    dumpMcpath mc dumplevel mc.nodes.length (sight.remote r) =
      sightLines dumplevel node port sight := by
  obtain ⟨n, hn⟩ : ∃ n, mc.nodes.length = n + 1 := by
    obtain ⟨hlt, -⟩ := List.getElem?_eq_some_iff.mp hr
    exact Nat.exists_eq_add_one.mpr (Nat.zero_lt_of_lt hlt)
  have hsource : dumpMcpath mc dumplevel n (sourceNode node port path) =
      dumpMcnode (sourceNode node port ⟨⟨0, .empty⟩, 0⟩) dumplevel := by
    unfold dumpMcpath
    cases hown : dumpMcnode (sourceNode node port path) dumplevel with
    | error f => exact hown.symm ▸ rfl
    | ok lines => exact hown.symm ▸ rfl
  rw [hn]
  unfold dumpMcpath
  simp only [Sight.remote, hr, hsource]
  rfl

theorem dumpMcpath_root {node : McNode} (h : node.upnode = none) (mc : Statics)
    (dumplevel fuel : Nat) : dumpMcpath mc dumplevel fuel node = dumpMcnode node dumplevel := by
  unfold dumpMcpath
  rw [h]
  cases dumpMcnode node dumplevel with
  | error f => cases fuel <;> rfl
  | ok lines => cases fuel <;> rfl

/-- The verdict on a pair, and its path. -/
def Route.result (route : Route) : Verdict × List PathLine := (route.verdict, route.path)

/-- What a call of `get_route` comes to, apart from what it leaves in static storage. -/
def outcome (x : Except Fault (Statics × Route)) : Except Fault (Verdict × List PathLine) :=
  x.map fun r => r.2.result

variable (R : TraceRun)

/-- A search from here ends before it takes up a node that an earlier one has left: it fails at
once, the source is the target, or the ports of a source that is not in the table end it. -/
def settledFrom (mc : Statics) (srcPortid destPortid : PortId) : Bool :=
  match R.mlid with
  | none => true
  | some mlid =>
      let target := findTargetPortguid R.toTracer destPortid
      match getNode R.toTracer {} {} srcPortid with
      | (false, _) => true
      | (true, node, port) =>
          target = 0 || port.portguid = target ||
            !mc.isKnown node.nodeguid &&
              (Glance.source R.toTracer target srcPortid mlid node port).isSome

def settled (mc : Statics) (srcid dstid : String) : Bool :=
  match R.resolve srcid, R.resolve dstid with
  | some srcPortid, some destPortid =>
      destPortid.lid = 0 || srcPortid.lid = 0 ||
        settledFrom R mc (findRoute R.toTracer ⟨0, .empty⟩ srcPortid 0).portid destPortid
  | _, _ => true

variable {R}

theorem targetAtStart_same {node n : McNode} {fromId : PortId} {mlid : Int}
    (h : targetAtStart R.toTracer node fromId mlid = .ok (some n)) : n = node := by
  unfold targetAtStart at h
  split at h
  · cases h
  · cases hmap : switchMclookup R.toTracer node.toNode fromId mlid with
    | error f =>
        rw [hmap] at h
        cases h
    | ok map =>
        rw [hmap, ok_bind] at h
        cases map with
        | none => cases h
        | some map =>
            by_cases h0 : map 0 = true
            · simp only [h0, if_true, Except.ok.injEq, Option.some.injEq] at h
              exact h.symm
            · simp only [if_neg h0, Except.ok.injEq] at h
              cases h

theorem isKnown_initial (guid : UInt64) : Statics.initial.isKnown guid = false := rfl

/-- What `get_route` comes to when the ports of its source end the search. -/
def glanceOutcome (R : TraceRun) (node : Node) (port : Port) :
    Option Sight → Except Fault (Verdict × List PathLine)
  | none => .ok (.returned (-1), [])
  | some sight =>
      (sightLines R.dumplevel node port sight).map fun lines =>
        (.returned 0, lines.map .multicast)

/-- The outcome of a search that its source's ports end, whatever has been searched before. -/
theorem traceFrom_of_glance {mc : Statics} {fromId toId : PortId} {mlid : Int} {node : Node}
    {port : Port} {e : Option Sight} (hmlid : R.mlid = some mlid)
    (hget : getNode R.toTracer {} {} fromId = (true, node, port))
    (htarget : findTargetPortguid R.toTracer toId ≠ 0)
    (hne : port.portguid ≠ findTargetPortguid R.toTracer toId)
    (hnew : mc.isKnown node.nodeguid = false)
    (h : Glance.source R.toTracer (findTargetPortguid R.toTracer toId) fromId mlid node port =
      some e) :
    outcome (traceFrom R mc fromId toId) = glanceOutcome R node port e := by
  obtain ⟨mc', r, path, printed, hfind, hr⟩ := findMcpath_of_glance hget hne hnew h
  unfold traceFrom
  simp only [hmlid, if_neg htarget, hfind, ok_bind]
  cases e with
  | none => rfl
  | some sight =>
      simp only [Option.map_some, dumpMcpath_of_sight hr, glanceOutcome]
      cases sightLines R.dumplevel node port sight with
      | error f => rfl
      | ok lines => rfl

/-- The record of a source that is the target. -/
def targetNode (node : Node) (port : Port) : McNode :=
  { { node with } with dist := -1, ports := some { port with } }

/-- What `get_route` comes to when the source is the target. -/
def samePortOutcome (R : TraceRun) (fromId : PortId) (mlid : Int) (node : Node) (port : Port) :
    Except Fault (Verdict × List PathLine) :=
  (targetAtStart R.toTracer (targetNode node port) fromId mlid).bind fun endnode =>
    if endnode.isNone then .ok (.returned (-1), [])
    else
      (dumpMcnode (targetNode node port) R.dumplevel).map fun lines =>
        (.returned 0, lines.map .multicast)

theorem traceFrom_of_same {mc : Statics} {fromId toId : PortId} {mlid : Int} {node : Node}
    {port : Port} (hmlid : R.mlid = some mlid)
    (hget : getNode R.toTracer {} {} fromId = (true, node, port))
    (htarget : findTargetPortguid R.toTracer toId ≠ 0)
    (hsame : port.portguid = findTargetPortguid R.toTracer toId) :
    outcome (traceFrom R mc fromId toId) = samePortOutcome R fromId mlid node port := by
  have hstart : newNode (findTargetPortguid R.toTracer toId) mc { node with } { port with }
      (.ofPortId fromId) 0 = .ok (.target (targetNode node port), mc) := by
    rw [newNode, if_pos hsame]
    rfl
  unfold traceFrom findMcpath samePortOutcome
  simp only [hmlid, if_neg htarget, hget, hstart, ok_bind]
  cases hend : targetAtStart R.toTracer (targetNode node port) fromId mlid with
  | error f => rfl
  | ok endnode =>
      cases endnode with
      | none => rfl
      | some n =>
          cases targetAtStart_same hend
          have hroot : (targetNode node port).upnode = none := rfl
          simp only [ok_bind, dumpMcpath_root hroot]
          cases dumpMcnode (targetNode node port) R.dumplevel with
          | error f => rfl
          | ok lines => rfl

theorem traceFrom_settled {mc : Statics} {fromId toId : PortId}
    (h : settledFrom R mc fromId toId = true) :
    outcome (traceFrom R mc fromId toId) = outcome (traceFrom R .initial fromId toId) := by
  unfold settledFrom at h
  cases hmlid : R.mlid with
  | none =>
      unfold traceFrom
      simp only [hmlid]
      rfl
  | some mlid =>
      simp only [hmlid] at h
      by_cases htarget : findTargetPortguid R.toTracer toId = 0
      · unfold traceFrom
        simp only [hmlid, if_pos htarget]
        rfl
      · cases hget : getNode R.toTracer {} {} fromId with
        | mk ok rest =>
            obtain ⟨node, port⟩ := rest
            cases ok with
            | false =>
                unfold traceFrom findMcpath
                simp only [hmlid, if_neg htarget, hget, ok_bind]
                rfl
            | true =>
                simp only [hget, decide_eq_false htarget, Bool.false_or, Bool.or_eq_true,
                  Bool.and_eq_true, Bool.not_eq_true', decide_eq_true_eq] at h
                by_cases hsame : port.portguid = findTargetPortguid R.toTracer toId
                · rw [traceFrom_of_same hmlid hget htarget hsame,
                    traceFrom_of_same hmlid hget htarget hsame]
                · obtain ⟨hnew, hover⟩ := h.resolve_left hsame
                  obtain ⟨e, he⟩ := Option.isSome_iff_exists.mp hover
                  rw [traceFrom_of_glance hmlid hget htarget hsame hnew he,
                    traceFrom_of_glance hmlid hget htarget hsame (isKnown_initial _) he]

theorem outcome_prepend {x : Except Fault (Statics × Route)} (before : List PathLine) :
    outcome (x >>= fun r => .ok (r.1, { r.2 with path := before ++ r.2.path })) =
      (outcome x).map fun r => (r.1, before ++ r.2) := by
  cases x with
  | error f => rfl
  | ok r => rfl

theorem getRoute_settled {mc : Statics} {srcid dstid : String}
    (h : settled R mc srcid dstid = true) :
    outcome (getRoute R mc srcid dstid) = outcome (getRoute R .initial srcid dstid) := by
  unfold settled at h
  unfold getRoute
  cases hsrc : R.resolve srcid with
  | none => rfl
  | some srcPortid =>
      cases hdst : R.resolve dstid with
      | none => rfl
      | some destPortid =>
          simp only [hsrc, hdst, Bool.or_eq_true, decide_eq_true_eq] at h
          by_cases hlid : destPortid.lid = 0 ∨ srcPortid.lid = 0
          · simp only [if_pos hlid]
            rfl
          · simp only [if_neg hlid]
            by_cases herror :
                (findRoute R.toTracer ⟨0, .empty⟩ srcPortid 0).error.isSome = true
            · simp only [if_pos herror]
              rfl
            · simp only [if_neg herror, outcome_prepend]
              rw [traceFrom_settled (h.resolve_left hlid)]

/-! The run over the pairs. -/

/-- The results of a run. -/
def results (x : Except Fault (List Route)) : Except Fault (List (Verdict × List PathLine)) :=
  x.map (List.map Route.result)

variable (R)

/-- Each pair in a run of its own, up to the first whose route fails. -/
def processAlone : List (String × String) → Except Fault (List (Verdict × List PathLine))
  | [] => .ok []
  | pair :: pairs => do
      let alone ← results (processPairs R .initial [pair])
      if alone.all fun r => r.1 = .returned 0 then
        let rest ← processAlone pairs
        .ok (alone ++ rest)
      else .ok alone

/-- A pair whose search does not take up what earlier searches have left: there is nothing, or the
search is over before. -/
def Unaffected (mc : Statics) (srcid dstid : String) : Prop :=
  mc = .initial ∨ settled R mc srcid dstid = true

/-- Every pair of a run is unaffected in the state that it finds. -/
def EachUnaffected : Statics → List (String × String) → Prop
  | _, [] => True
  | mc, (srcid, dstid) :: pairs =>
      Unaffected R mc srcid dstid ∧
        ∀ mc' route, getRoute R mc srcid dstid = .ok (mc', route) →
          route.verdict = .returned 0 → EachUnaffected mc' pairs

variable {R}

theorem Unaffected.outcome_eq {mc : Statics} {srcid dstid : String}
    (h : Unaffected R mc srcid dstid) :
    outcome (getRoute R mc srcid dstid) = outcome (getRoute R .initial srcid dstid) := by
  rcases h with rfl | h
  · rfl
  · exact getRoute_settled h

theorem processPairs_cons {mc mc' : Statics} {srcid dstid : String} {route : Route}
    (h : getRoute R mc srcid dstid = .ok (mc', route)) (pairs : List (String × String)) :
    processPairs R mc ((srcid, dstid) :: pairs) =
      if route.verdict = .returned 0 then (processPairs R mc' pairs).map (route :: ·)
      else .ok [route] := by
  rw [processPairs, h]
  by_cases hverdict : route.verdict = .returned 0
  · simp only [ok_bind, if_pos hverdict]
    cases processPairs R mc' pairs with
    | error f => rfl
    | ok routes => rfl
  · simp only [ok_bind, if_neg hverdict]

theorem processPairs_cons_error {mc : Statics} {srcid dstid : String} {f : Fault}
    (h : getRoute R mc srcid dstid = .error f) (pairs : List (String × String)) :
    processPairs R mc ((srcid, dstid) :: pairs) = .error f := by
  rw [processPairs, h]
  rfl

theorem results_single (srcid dstid : String) :
    results (processPairs R .initial [(srcid, dstid)]) =
      (outcome (getRoute R .initial srcid dstid)).map fun r => [r] := by
  cases hroute : getRoute R .initial srcid dstid with
  | error f =>
      rw [processPairs_cons_error hroute]
      rfl
  | ok x =>
      obtain ⟨mc, route⟩ := x
      rw [processPairs_cons hroute]
      by_cases hverdict : route.verdict = .returned 0
      · rw [if_pos hverdict]
        rfl
      · rw [if_neg hverdict]
        rfl

/-- A run from any state of the static storage. -/
theorem processPairs_unaffected {pairs : List (String × String)} {mc : Statics}
    (h : EachUnaffected R mc pairs) :
    results (processPairs R mc pairs) = processAlone R pairs := by
  induction pairs generalizing mc with
  | nil => rfl
  | cons pair pairs ih =>
      obtain ⟨srcid, dstid⟩ := pair
      obtain ⟨hpair, hrest⟩ := h
      rw [processAlone, results_single, ← hpair.outcome_eq]
      cases hroute : getRoute R mc srcid dstid with
      | error f =>
          rw [processPairs_cons_error hroute]
          rfl
      | ok x =>
          obtain ⟨mc', route⟩ := x
          have halone : (outcome (.ok (mc', route))).map (fun r => [r]) = .ok [route.result] := rfl
          rw [processPairs_cons hroute, halone, ok_bind]
          by_cases hverdict : route.verdict = .returned 0
          · have hall : ([route.result].all fun r => r.1 = .returned 0) = true := by
              simp [Route.result, hverdict]
            rw [if_pos hverdict, if_pos hall, ← ih (hrest mc' route hroute hverdict)]
            cases processPairs R mc' pairs with
            | error f => rfl
            | ok routes => rfl
          · have hall : ¬ ([route.result].all fun r => r.1 = .returned 0) = true := by
              simp [Route.result, hverdict]
            rw [if_neg hverdict, if_neg hall]
            rfl

theorem processPairs_results {pairs : List (String × String)}
    (h : EachUnaffected R .initial pairs) :
    results (processPairs R .initial pairs) = processAlone R pairs :=
  processPairs_unaffected h

/-! Three adapters behind one switch, which forwards the first MLID to all of them. -/

/-- Out of a port of node 0, the switch, or back to it. -/
def mcastHop (place : Nat × Nat) (k : Nat) : Nat × Nat :=
  if place.1 = 0 then (k, 1) else (0, place.1)

def mcastArrival (portid : PortId) : Nat × Nat :=
  if portid.lid = 4 then (0, 0)
  else if portid.lid ≠ 0 then (portid.lid, 1)
  else (portid.drpath.hops 0).foldl mcastHop (1, 1)

def mcastQuery : SmpQuery := fun portid attrid _ =>
  let b := mcastArrival portid
  let guid := UInt64.ofNat (b.1 + 1)
  if attrid = ibAttrNodeInfo then
    some (.ofBytes (if b.1 = 0 then nodeInfoData guid guid 2 3 b.2 else
      nodeInfoData guid guid 1 1 b.2))
  else if attrid = ibAttrNodeDesc then some .zero
  else if attrid = ibAttrPortInfo then
    some (.ofBytes (madSetField (portInfoData b.2 5 (if b.1 = 0 then 4 else b.1)) 0 .portState 4))
  else if b.1 ≠ 0 then none
  else if attrid = ibAttrSwitchInfo then
    some (.ofBytes (madSetField (madSetField SmpData.zero.bytes 0 .swLinearFdbCap 48) 0
      .swMcastFdbCap 32))
  else if attrid = ibAttrLinearforwtbl then some (.ofBytes [0, 1, 2, 3, 0])
  else if attrid = ibAttrMulticastforwtbl then some (.ofBytes [0, 14])
  else none

def mcastRun : TraceRun where
  query := mcastQuery
  force := false
  verbose := false
  stack := ⟨0, 0, 0⟩
  resolve id :=
    if id = "1" then some ⟨1, .empty⟩
    else if id = "2" then some ⟨2, .empty⟩
    else if id = "3" then some ⟨3, .empty⟩
    else if id = "4" then some ⟨4, .empty⟩
    else none
  dumplevel := 1
  mlid := some 0xc000

theorem mcastRun_settled : ((getRoute mcastRun .initial "4" "2").toOption.map fun r =>
    settled mcastRun r.1 "3" "4") = some true := by decide +kernel

/-- From the switch to adapter 2, then from adapter 3 to the switch. -/
theorem processPairs_results_mcastRun :
    results (processPairs mcastRun .initial [("4", "2"), ("3", "4")]) =
      processAlone mcastRun [("4", "2"), ("3", "4")] :=
  processPairs_results ⟨.inl rfl, fun mc' route h _ => ⟨.inr (by
    have hsettled := mcastRun_settled
    rw [h] at hsettled
    exact Option.some.inj hsettled), fun _ _ _ _ => trivial⟩⟩

/-- The second trace from adapter 1 is lost behind the first, although it is found alone. -/
theorem processPairs_second_lost :
    ((results (processPairs mcastRun .initial [("1", "2"), ("1", "3")])).toOption.map
        fun rs => rs.map Prod.fst) = some [.returned 0, .returned (-1)] ∧
      ((processAlone mcastRun [("1", "2"), ("1", "3")]).toOption.map
        fun rs => rs.map Prod.fst) = some [.returned 0, .returned 0] := by
  decide +kernel

end Ibtracert
end InfinibandDiags
