import InfinibandDiags.Trace.McTree

/-! Soundness of the multicast trace: the way that `upnode` leads back from a node that is found is
one that packets of the group take. -/
namespace InfinibandDiags
namespace Ibtracert
variable {V : Type} {S : McSubnet V} {T : Tracer} {m : Nat} {src : V × Nat} {fromId : PortId}
  {target : UInt64} {leafport : Nat}

section Lookup
open McSubnet (tableModifier)
variable {portid : PortId} {b : V × Nat}

/-- The ports of the sets that are answered are in the table. -/
theorem mcSets_sound (hT : S.McTruthful T.query) (hb : S.arrival portid = some b) (hm : m < 2 ^ 16)
    {ports found : Nat → Bool} {k n : Nat} (hle : k + n ≤ 16)
    (h : mcSets T portid m (List.range' k n) ports = .ok (some found)) {p : Nat}
    (hp : found p = true) : ports p = true ∨ S.forwards b.1 m p = true := by
  induction n generalizing k ports with
  | zero =>
      cases h
      exact .inl hp
  | succ n ih =>
      rw [List.range'_succ, mcSets, mcBlock_toNat hm (by omega)] at h
      dsimp only at h
      cases hmdb : T.query portid ibAttrMulticastforwtbl (tableModifier k m) with
      | none =>
          rw [hmdb] at h
          cases h
      | some mdb =>
          have hmask : mcMask mdb (m % 32) = S.mcastEntry b.1 m k := by
            obtain ⟨b', hb', hknows⟩ := hT portid _ _ mdb hmdb
            rw [hb] at hb'
            cases hb'
            exact hknows.multicastForwTbl rfl k m hm rfl
          have hmod : ((m : Int).tmod 32).toNat = m % 32 := rfl
          have hneg : ¬ (m : Int).tmod 32 < 0 := Int.not_lt.mpr (Int.natCast_nonneg (m % 32))
          rw [hmdb] at h
          dsimp only at h
          rw [if_neg hneg, hmod, hmask] at h
          rcases ih (by omega) h with hset | hbit
          · rcases Bool.or_eq_true_iff.mp hset with hport | hmark
            · exact .inl hport
            · simp only [Bool.and_eq_true, decide_eq_true_eq] at hmark
              obtain ⟨rfl, hbit⟩ := hmark
              exact .inr hbit
          · exact .inr hbit

theorem switchMclookup_sound (hT : S.McTruthful T.query) (hb : S.arrival portid = some b)
    {node : Node} (hports : node.numports ≤ 255) {map : Nat → Bool}
    (h : switchMclookup T node portid (0xc000 + m) = .ok (some map)) {p : Nat}
    (hp : map p = true) : S.forwards b.1 m p = true := by
  have hmlid : (0xc000 + m : Int) - 0xc000 = m := by omega
  unfold switchMclookup at h
  cases hsi : T.query portid ibAttrSwitchInfo 0 with
  | none =>
      rw [hsi] at h
      cases h
  | some si =>
      rw [hsi] at h
      dsimp only at h
      rw [hmlid] at h
      split at h
      · cases h
      · next hbelow =>
          have hregular : (ibMadF .swMcastFdbCap).Regular := by decide
          have hlt : si.field .swMcastFdbCap < 2 ^ 16 := getField_lt_width hregular si.bytes 0
          rw [List.range_eq_range'] at h
          rcases mcSets_sound hT hb (by omega) (by omega) h hp with hnone | hbit
          · cases hnone
          · exact hbit

end Lookup

/-- What `new_node` comes to: the target, a node that is known, or one more record. -/
theorem newNode_ok {mc mc' : Statics} {node : McNode} {port : McPort} {path : McPath} {dist : Nat}
    {v : Visit} (h : newNode target mc node port path dist = .ok (v, mc')) :
    port.portguid = target ∧ mc' = mc ∧ v = .target { node with dist := -1, ports := some port } ∨
      port.portguid ≠ target ∧ mc.isKnown node.nodeguid = true ∧ mc' = mc ∧ v = .known ∨
      port.portguid ≠ target ∧ mc.isKnown node.nodeguid = false ∧ v = .inserted ∧ mc' =
        { nodes := mc.nodes ++ [{ node with ports := some port, dist, path }]
          nodestbl := setAt mc.nodestbl (hashguid node.nodeguid)
            (mc.nodes.length :: mc.nodestbl (hashguid node.nodeguid))
          nodesdist := setAt mc.nodesdist dist (mc.nodes.length :: mc.nodesdist dist) } := by
  unfold newNode at h
  split at h
  · next htarget =>
      cases h
      exact .inl ⟨htarget, rfl, rfl⟩
  · next htarget =>
      split at h
      · next hknown =>
          cases h
          exact .inr (.inl ⟨htarget, hknown, rfl, rfl⟩)
      · next hknown =>
          split at h
          · cases h
          · cases h
            exact .inr (.inr ⟨htarget, Bool.eq_false_iff.mpr hknown, rfl, rfl⟩)

/-- What the search has after some of its steps: the tree, every record as it was, and the way to
the target where it stops there. -/
structure Grown (S : McSubnet V) (m : Nat) (src : V × Nat) (fromId : PortId) (target : UInt64)
    (leafport : Nat) (mc mc' : Statics) (stop : Option Stop) : Prop where
  tree : SearchTree S m src fromId target leafport mc'
  kept : ∀ (r : NodeRef) x, mc.nodes[r]? = some x → mc'.nodes[r]? = some x
  found : ∀ t, stop = some (some t) → ∃ refs b, FoundAt S m src target mc'.nodes t refs b

/-- Where a path out of a node leads: back to the start, or over a cable by which the group's packets
leave the node. Behind an adapter it can end at another port of the switch. -/
def Passes (S : McSubnet V) (m : Nat) (fromId : PortId) (leafport : Nat) (node : McNode)
    (a : V × Nat) (dist : Nat) (path : McPath) : Prop :=
  ∀ c, S.arrival path.toPortId = some c → S.arrival fromId = some c ∨
    ∃ b i, S.peer (a.1, i) = some b ∧ Spreads S m node a i ∧ c.1 = b.1 ∧ (¬ S.IsSwitch b.1 → c = b) ∧
      if dist = 0 ∧ leafport ≠ 0 then b.2 = leafport else c.2 = b.2

theorem Grown.trans {mc mc₁ mc₂ : Statics} {stop : Option Stop}
    (h : Grown S m src fromId target leafport mc mc₁ none)
    (h' : Grown S m src fromId target leafport mc₁ mc₂ stop) :
    Grown S m src fromId target leafport mc mc₂ stop :=
  ⟨h'.tree, fun r x hx => h'.kept r x (h.kept r x hx), h'.found⟩

theorem Grown.way {mc mc' : Statics} {stop : Option Stop} {refs : List NodeRef} {node : McNode}
    {a : V × Nat} (h : Grown S m src fromId target leafport mc mc' stop)
    (hway : (groupLinks S m src).Ascent mc.nodes refs node a) :
    (groupLinks S m src).Ascent mc'.nodes refs node a :=
  hway.mono (fun r y hy => ⟨y, h.kept r y hy, .refl y⟩) (.refl node)

section Visits
variable {args : PortArgs} {loop loop' : PortLoop} {stop : Option Stop} {node : McNode} {a : V × Nat}
  {refs : List NodeRef}

namespace PortLoop

/-- A visit ends with nothing, at the target, or with one record more or none. -/
theorem visit_ok (h : visit T args loop = .ok (loop', stop)) :
    (loop'.mc = loop.mc ∧ stop = none ∧ loop'.path = loop.path.back) ∨
      ∃ node port v, getNode T {} {} loop.path.toPortId = (true, node, port) ∧
        newNode args.target loop.mc { node with upnode := some args.node, upport := port.portnum }
          { port with remoteport := loop.port } loop.path (args.dist + 1) = .ok (v, loop'.mc) ∧
        ((∃ t, v = .target t ∧ stop = some (some t)) ∨
          (v = .known ∨ v = .inserted) ∧ stop = none ∧ loop'.path = loop.path.back) := by
  unfold visit at h
  split at h
  · cases h
    exact .inl ⟨rfl, rfl, rfl⟩
  · next node port hget =>
      refine .inr ⟨node, port, ?_⟩
      cases hnew : newNode args.target loop.mc
          { node with upnode := some args.node, upport := port.portnum }
          { port with remoteport := loop.port } loop.path (args.dist + 1) with
      | error e =>
          simp only [hnew] at h
          cases h
      | ok r =>
          obtain ⟨v, mc⟩ := r
          simp only [hnew] at h
          cases v with
          | target t =>
              cases h
              exact ⟨.target t, hget, rfl, .inl ⟨t, rfl, rfl⟩⟩
          | known =>
              cases h
              exact ⟨.known, hget, rfl, .inr ⟨.inl rfl, rfl, rfl⟩⟩
          | inserted =>
              cases h
              exact ⟨.inserted, hget, rfl, .inr ⟨.inr rfl, rfl, rfl⟩⟩

/-- A visit over a path that passes on with the group leaves the tree a tree. -/
theorem visit_grown (hT : S.McTruthful T.query) (hsrc : S.arrival fromId = some src)
    (hother : S.portGuid src ≠ target) (htarget : args.target = target)
    (h : visit T args loop = .ok (loop', stop))
    (htree : SearchTree S m src fromId target leafport loop.mc)
    (hnode : loop.mc.nodes[args.node]? = some node)
    (hway : (groupLinks S m src).Ascent loop.mc.nodes refs node a)
    (hstart : fromId.SameStart loop.path.toPortId) (hnonneg : 0 ≤ loop.path.cnt)
    (hpasses : Passes S m fromId leafport node a args.dist loop.path) :
    Grown S m src fromId target leafport loop.mc loop'.mc stop ∧
      (stop = none → loop'.path = loop.path.back) := by
  rcases visit_ok h with ⟨hmc, rfl, hback⟩ | ⟨remote, port, v, hget, hnew, hstop⟩
  · rw [hmc]
    exact ⟨⟨htree, fun _ _ hs => hs, fun t ht => by cases ht⟩, fun _ => hback⟩
  · obtain ⟨c, hc, hrec, hportnum⟩ := getNode_records hT.truthful hget
    have hbelow : args.node < loop.mc.nodes.length := (List.getElem?_eq_some_iff.mp hnode).1
    -- A node that is new or the target is not the source.
    have hedge : S.portGuid c = target ∨ loop.mc.isKnown remote.nodeguid = false →
        ∃ b i, S.peer (a.1, i) = some b ∧ Spreads S m node a i ∧ c.1 = b.1 ∧
          (¬ S.IsSwitch b.1 → c = b) ∧
          if args.dist = 0 ∧ leafport ≠ 0 then b.2 = leafport else c.2 = b.2 := by
      intro hcase
      rcases hpasses c hc with hagain | hon
      · obtain rfl : src = c := Option.some.inj (hsrc.symm.trans hagain)
        rcases hcase with heq | hunknown
        · exact absurd heq hother
        · obtain ⟨r, x, hx, hguid⟩ := htree.source
          rw [hrec.nodeguid, htree.isKnown_iff.mpr ⟨r, x, hx, hguid⟩] at hunknown
          cases hunknown
      · exact hon
    rcases newNode_ok hnew with ⟨hport, hmc, rfl⟩ | ⟨-, -, hmc, rfl⟩ | ⟨hport, hunknown, rfl, hmc⟩
    · rw [htarget] at hport
      obtain ⟨b, i, hpeer, hspreads, hcb, hend, -⟩ := hedge (.inl (hrec.portguid.symm.trans hport))
      have hb : S.portGuid b = target := by
        rw [← hport, ← Subnet.portGuid_congr hcb hend]
        exact hrec.portguid.symm
      obtain ⟨t, ht, rfl⟩ | ⟨hv, -, -⟩ := hstop
      · cases ht
        rw [hmc]
        refine ⟨⟨htree, fun _ _ hs => hs, ?_⟩, fun hnone => by cases hnone⟩
        rintro t ht
        cases ht
        refine ⟨args.node :: refs, b, htree.found (.link hway hnode rfl ?_) ?_ ?_ hb⟩
        · exact ⟨by rw [← hcb]; exact hrec.nodeguid, i, hpeer, hspreads⟩
        · rintro p hp
          cases hp
          exact hbelow
        · exact congrArg some hport
      · rcases hv with hv | hv <;> cases hv
    · obtain ⟨t, ht, -⟩ | ⟨-, rfl, hback⟩ := hstop
      · cases ht
      · rw [hmc]
        exact ⟨⟨htree, fun _ _ hs => hs, fun t ht => by cases ht⟩, fun _ => hback⟩
    · obtain ⟨t, ht, -⟩ | ⟨-, rfl, hback⟩ := hstop
      · cases ht
      · obtain ⟨b, i, hpeer, hspreads, hcb, hend, hentered⟩ := hedge (.inr hunknown)
        refine ⟨⟨?_, ?_, fun t ht => by cases ht⟩, fun _ => hback⟩
        · rw [hmc]
          have hnext : (groupLinks S m src).Ascent loop.mc.nodes (args.node :: refs)
              { remote with
                upnode := some args.node
                upport := port.portnum
                ports := some { port with remoteport := loop.port }
                dist := (args.dist + 1 : Nat)
                path := loop.path } b :=
            .link hway hnode rfl ⟨hrec.nodeguid.trans (congrArg _ hcb), i, hpeer, hspreads⟩
          refine htree.insert hunknown rfl hnext ?_ ?_
          · rintro p hp
            cases hp
            exact hbelow
          · constructor
            case nodeguid => exact hrec.nodeguid.trans (congrArg _ hcb)
            case type => exact hrec.type.trans (congrArg _ hcb)
            case numports => exact hrec.numports.trans (congrArg _ hcb)
            case other =>
              rw [← Subnet.portGuid_congr hcb hend, ← hrec.portguid, ← htarget]
              exact hport
            case leads => exact fun _ => ⟨hstart, hnonneg, fun _ => ⟨c, hc, hcb⟩⟩
            case entered =>
              intro _
              have hdist : ((args.dist + 1 : Nat) : Int) = 1 ↔ args.dist = 0 := by omega
              simp only [hdist]
              rw [hportnum]
              exact hentered
        · intro s x hs
          rw [hmc]
          rw [List.getElem?_append_left (List.getElem?_eq_some_iff.mp hs).1, hs]

/-- A round passes a port by, or visits what is behind it: from an adapter with a leaf port over the
path it came by, and else over the path through the port. -/
theorem step_ok {i : Nat} (h : step T args loop i = .ok (loop', stop)) :
    (loop'.mc = loop.mc ∧ loop'.path = loop.path ∧ ∀ t, stop ≠ some (some t)) ∨
      args.map i = true ∧ i ≠ args.upport ∧
        (args.dist = 0 ∧ args.leafport ≠ 0 ∧
            visit T args (if args.fromCnt > 0 then { loop with path := loop.path.back } else loop) =
              .ok (loop', stop) ∨
          ¬ (args.dist = 0 ∧ args.leafport ≠ 0) ∧ ∃ port path, loop.path.extend i = .ok (some path) ∧
            visit T args { loop with port := some port, path } = .ok (loop', stop)) := by
  have hpassed : ∀ {port : Option Port} {e : Option Stop}, (∀ t, e ≠ some (some t)) →
      (Except.ok ({ loop with port }, e) : Except Fault _) = .ok (loop', stop) →
      loop'.mc = loop.mc ∧ loop'.path = loop.path ∧ ∀ t, stop ≠ some (some t) := by
    intro port e he heq
    cases heq
    exact ⟨rfl, rfl, he⟩
  unfold step at h
  split at h
  · exact .inl (hpassed (fun t ht => by cases ht) h)
  · next hguard =>
      simp only [Bool.or_eq_true, decide_eq_true_eq, not_or, Bool.not_eq_true,
        Bool.not_eq_false'] at hguard
      refine (em _).imp_right fun hnot => ⟨hguard.1, hguard.2, ?_⟩
      split at h
      · next hleaf => exact .inl ⟨hleaf.1, hleaf.2, h⟩
      · next hleaf =>
          split at h
          · exact absurd (hpassed (fun t ht => by cases ht) h) hnot
          · next port hport =>
              split at h
              · exact absurd (hpassed (fun t ht => by cases ht) h) hnot
              · cases hext : loop.path.extend i with
                | error e =>
                    rw [hext] at h
                    cases h
                | ok path =>
                    rw [hext] at h
                    cases path with
                    | none => exact absurd (hpassed (fun t ht => by cases ht) h) hnot
                    | some path => exact .inr ⟨hleaf, port, path, rfl, h⟩

/-- A round at a switch: its path leads there again afterwards. -/
theorem step_grown (hT : S.McTruthful T.query) (hsrc : S.arrival fromId = some src)
    (hother : S.portGuid src ≠ target) (htarget : args.target = target) (hsw : S.IsSwitch a.1)
    (hleaf : ¬ (args.dist = 0 ∧ leafport ≠ 0)) (hargs : args.leafport = leafport)
    (hentered : node.upnode ≠ none → args.upport = a.2)
    (hmap : loop.path.cnt < 64 → ∀ k, args.map k = true → S.forwards a.1 m k = true)
    (htree : SearchTree S m src fromId target leafport loop.mc)
    (hnode : loop.mc.nodes[args.node]? = some node)
    (hway : (groupLinks S m src).Ascent loop.mc.nodes refs node a)
    (hlead : Leads S.toSubnet fromId loop.path a.1) {i : Nat} (hpos : 0 < i) (hi : i < 256)
    (h : step T args loop i = .ok (loop', stop)) :
    Grown S m src fromId target leafport loop.mc loop'.mc stop ∧
      (stop = none → Leads S.toSubnet fromId loop'.path a.1 ∧ loop'.path.cnt = loop.path.cnt) := by
  rcases step_ok h with ⟨hmc, hpath, hstop⟩ |
    ⟨hport, hnotback, ⟨hdist, hleaf', -⟩ | ⟨-, port, path, hext, hvisit⟩⟩
  · rw [hmc, hpath]
    exact ⟨⟨htree, fun _ _ hs => hs, fun t ht => absurd ht (hstop t)⟩, fun _ => ⟨hlead, rfl⟩⟩
  · exact absurd ⟨hdist, hargs ▸ hleaf'⟩ hleaf
  · obtain ⟨hroom, hcnt, -, -⟩ := McPath.extend_some hlead.nonneg hext
    have hspreads : Spreads S m node a i := by
      rw [Spreads, if_pos hsw]
      exact ⟨hmap (by omega) i hport, fun hup => hentered hup ▸ hnotback⟩
    have hpasses : Passes S m fromId leafport node a args.dist path := by
      intro c hc
      refine (hlead.extend hsw hpos hi hext hc).imp_right fun hpeer => ?_
      exact ⟨c, i, hpeer, hspreads, rfl, fun _ => rfl, by rw [if_neg hleaf]⟩
    have hnonneg : 0 ≤ path.cnt := by
      have := hlead.nonneg
      omega
    obtain ⟨hgrown, hback⟩ := visit_grown hT hsrc hother htarget hvisit htree hnode hway
      (hlead.extend_start hext) hnonneg hpasses
    refine ⟨hgrown, fun hnone => ?_⟩
    rw [hback hnone]
    exact ⟨hlead.extend_back hi hext, (McPath.extend_back hlead.nonneg hi hext).1⟩

/-- The ports of a switch, one after the other. -/
theorem run_grown (hT : S.McTruthful T.query) (hsrc : S.arrival fromId = some src)
    (hother : S.portGuid src ≠ target) (htarget : args.target = target) (hsw : S.IsSwitch a.1)
    (hleaf : ¬ (args.dist = 0 ∧ leafport ≠ 0)) (hargs : args.leafport = leafport)
    (hentered : node.upnode ≠ none → args.upport = a.2) {is : List Nat}
    (his : ∀ i ∈ is, 0 < i ∧ i < 256) (h : run T args is loop = .ok (loop', stop))
    (hmap : loop.path.cnt < 64 → ∀ k, args.map k = true → S.forwards a.1 m k = true)
    (htree : SearchTree S m src fromId target leafport loop.mc)
    (hnode : loop.mc.nodes[args.node]? = some node)
    (hway : (groupLinks S m src).Ascent loop.mc.nodes refs node a)
    (hlead : Leads S.toSubnet fromId loop.path a.1) :
    Grown S m src fromId target leafport loop.mc loop'.mc stop ∧
      (stop = none → Leads S.toSubnet fromId loop'.path a.1) := by
  induction is generalizing loop with
  | nil =>
      cases h
      exact ⟨⟨htree, fun _ _ hs => hs, fun t ht => by cases ht⟩, fun _ => hlead⟩
  | cons i is ih =>
      obtain ⟨hpos, hi⟩ := his i List.mem_cons_self
      rw [run] at h
      cases hstep : step T args loop i with
      | error e =>
          rw [hstep] at h
          cases h
      | ok r =>
          obtain ⟨loop₁, stop₁⟩ := r
          obtain ⟨hgrown, hagain⟩ := step_grown hT hsrc hother htarget hsw hleaf hargs hentered hmap
            htree hnode hway hlead hpos hi hstep
          rw [hstep] at h
          cases stop₁ with
          | some stop₁ =>
              cases h
              exact ⟨hgrown, fun hnone => by cases hnone⟩
          | none =>
              obtain ⟨hlead₁, hcnt⟩ := hagain rfl
              obtain ⟨hrest, hback⟩ := ih (fun j hj => his j (List.mem_cons_of_mem i hj)) h
                (hcnt ▸ hmap) hgrown.tree (hgrown.kept _ _ hnode) (hgrown.way hway) hlead₁
              exact ⟨hgrown.trans hrest, hback⟩

theorem run_skip {is : List Nat} (h : ∀ i ∈ is, args.map i = false) :
    run T args is loop = .ok (loop, none) := by
  induction is with
  | nil => rfl
  | cons i is ih =>
      have hstep : step T args loop i = .ok (loop, none) := by
        rw [step, h i List.mem_cons_self]
        rfl
      rw [run, hstep]
      exact ih fun j hj => h j (List.mem_cons_of_mem i hj)

/-- With one port to go through, the loop comes to one round. -/
theorem run_only {is : List Nat} {p : Nat} (hport : ∀ i, args.map i = true → i = p)
    (hnodup : is.Nodup) (hp : p ∈ is) : run T args is loop = step T args loop p := by
  have hclosed : ∀ i, i ≠ p → args.map i = false := fun i hi =>
    Bool.eq_false_iff.mpr fun hopen => hi (hport i hopen)
  induction is with
  | nil => cases hp
  | cons i is ih =>
      obtain ⟨hnot, hrest⟩ := List.nodup_cons.mp hnodup
      by_cases hip : i = p
      · subst hip
        have hskip : ∀ loop, run T args is loop = .ok (loop, none) := fun loop =>
          run_skip fun j hj => hclosed j fun hji => hnot (hji ▸ hj)
        rw [run]
        cases hstep : step T args loop i with
        | error e => rfl
        | ok r =>
            obtain ⟨loop₁, stop₁⟩ := r
            cases stop₁ with
            | some stop₁ => rfl
            | none => exact hskip loop₁
      · have hstep : step T args loop i = .ok (loop, none) := by
          rw [step, hclosed i hip]
          rfl
        rw [run, hstep]
        exact ih hrest ((List.mem_cons.mp hp).resolve_left (Ne.symm hip))

/-- The one round at an adapter that the search starts from. -/
theorem source_grown (hT : S.McTruthful T.query) (hsrc : S.arrival fromId = some src)
    (hother : S.portGuid src ≠ target) (htarget : args.target = target)
    (hend : ¬ S.IsSwitch src.1) (hdist : args.dist = 0) (hargs : args.leafport = leafport)
    (hfromCnt : args.fromCnt = fromId.drpath.cnt)
    (hlast : (McPath.ofPortId fromId).last = .ok leafport) (hi : src.2 < 256)
    (htree : SearchTree S m src fromId target leafport loop.mc)
    (hnode : loop.mc.nodes[args.node]? = some node) (hroot : node.upnode = none)
    (hway : (groupLinks S m src).Ascent loop.mc.nodes refs node src)
    (hpath : loop.path = .ofPortId fromId)
    (h : step T args loop src.2 = .ok (loop', stop)) :
    Grown S m src fromId target leafport loop.mc loop'.mc stop := by
  have hlead := leads_ofPortId hsrc
  have hspreads : Spreads S m node src src.2 := by
    rw [Spreads, if_neg hend]
    exact ⟨hroot, rfl⟩
  rcases step_ok h with ⟨hmc, -, hstop⟩ |
    ⟨-, -, ⟨-, hleaf, hvisit⟩ | ⟨hnoleaf, port, path, hext, hvisit⟩⟩
  · rw [hmc]
    exact ⟨htree, fun _ _ hs => hs, fun t ht => absurd ht (hstop t)⟩
  · rw [hargs] at hleaf
    rw [hfromCnt, hpath] at hvisit
    by_cases hpos : 0 < fromId.drpath.cnt
    · have hpasses : Passes S m fromId leafport node src args.dist (McPath.ofPortId fromId).back := by
        intro c hc
        refine (back_source hsrc hend hlast hpos hc).imp_right fun hon => ?_
        exact ⟨(c.1, leafport), src.2, hon.1, hspreads, rfl,
          fun hsw => Prod.ext rfl (hon.2 hsw), by rw [if_pos ⟨hdist, hleaf⟩]⟩
      have hnonneg : 0 ≤ (McPath.ofPortId fromId).back.cnt := by
        simp only [McPath.back, McPath.ofPortId]
        omega
      rw [if_pos hpos] at hvisit
      exact (visit_grown hT hsrc hother htarget hvisit htree hnode hway ⟨rfl, rfl, rfl⟩ hnonneg
        hpasses).1
    · have hpasses : Passes S m fromId leafport node src args.dist loop.path := by
        intro c hc
        rw [hpath, toPortId_ofPortId (by omega)] at hc
        exact .inl hc
      rw [if_neg hpos] at hvisit
      exact (visit_grown hT hsrc hother htarget hvisit htree hnode hway (hpath ▸ hlead.start)
        (hpath ▸ hlead.nonneg) hpasses).1
  · have hzero : leafport = 0 := by
      by_contra hleaf
      exact hnoleaf ⟨hdist, hargs ▸ hleaf⟩
    rw [hpath] at hext
    obtain ⟨-, hcnt, -, -⟩ := McPath.extend_some hlead.nonneg hext
    have hnonneg : 0 ≤ path.cnt := by
      have := hlead.nonneg
      omega
    have hpasses : Passes S m fromId leafport node src args.dist path := by
      intro c hc
      refine (extend_source hsrc hend (hzero ▸ hlast) hi hext hc).imp_right fun hpeer => ?_
      exact ⟨c, src.2, hpeer, hspreads, rfl, fun _ => rfl,
        by rw [if_neg fun hleaf => hleaf.2 hzero]⟩
    exact (visit_grown hT hsrc hother htarget hvisit htree hnode hway (hlead.extend_start hext)
      hnonneg hpasses).1

end PortLoop

end Visits

/-- What the search has after some nodes: the tree as long as it goes on, records of the same nodes,
and the way to the target where it stops there. -/
structure Searched (S : McSubnet V) (m : Nat) (src : V × Nat) (fromId : PortId) (target : UInt64)
    (s s' : Search) (stop : Option Stop) : Prop where
  tree : stop = none → SearchTree S m src fromId target s'.leafport s'.mc
  kept : ∀ (r : NodeRef) x, s.mc.nodes[r]? = some x →
    ∃ x', s'.mc.nodes[r]? = some x' ∧ SameNode x x'
  found : ∀ t, stop = some (some t) → ∃ refs b, FoundAt S m src target s'.mc.nodes t refs b

theorem SameNode.trans {x y z : McNode} (h : SameNode x y) (h' : SameNode y z) : SameNode x z :=
  ⟨h'.nodeguid.trans h.nodeguid, h'.upnode.trans h.upnode, h'.type.trans h.type,
    h'.numports.trans h.numports, h'.dist.trans h.dist⟩

namespace Searched
variable {s s₁ s₂ : Search} {stop : Option Stop}

theorem refl (h : SearchTree S m src fromId target s.leafport s.mc) :
    Searched S m src fromId target s s none :=
  ⟨fun _ => h, fun _ x hx => ⟨x, hx, .refl x⟩, fun t ht => by cases ht⟩

theorem trans (h : Searched S m src fromId target s s₁ none)
    (h' : Searched S m src fromId target s₁ s₂ stop) :
    Searched S m src fromId target s s₂ stop := by
  refine ⟨h'.tree, fun r x hx => ?_, h'.found⟩
  obtain ⟨y, hy, hxy⟩ := h.kept r x hx
  obtain ⟨z, hz, hyz⟩ := h'.kept r y hy
  exact ⟨z, hz, hxy.trans hyz⟩

end Searched

namespace Search
variable {s s' : Search} {stop : Option Stop} {r : NodeRef} {node old : McNode} {dist : Nat}
  {fromCnt : Nat} {map : Nat → Bool}

/-- The loop over the ports of a node as it starts. -/
def startLoop (s : Search) (r : NodeRef) (node : McNode) : PortLoop :=
  ⟨s.mc.modifyNode r fun _ => node, s.port, node.path, s.printed⟩

def portArgs (target : UInt64) (fromCnt : Nat) (s : Search) (r : NodeRef) (node : McNode)
    (dist : Nat) (map : Nat → Bool) : PortArgs :=
  { target, fromCnt, node := r, upport := node.upport, dist, leafport := s.leafport, map }

theorem ports_ok (h : ports T target fromCnt s r node dist map = .ok (s', stop)) :
    ∃ loop, PortLoop.run T (portArgs target fromCnt s r node dist map)
        (List.range' 1 node.numports) (startLoop s r node) = .ok (loop, stop) ∧
      s'.leafport = s.leafport ∧
      s'.mc = loop.mc.modifyNode r fun x => { x with path := loop.path } := by
  unfold ports at h
  dsimp only at h
  cases hrun : PortLoop.run T (portArgs target fromCnt s r node dist map)
      (List.range' 1 node.numports) (startLoop s r node) with
  | error e =>
      unfold portArgs startLoop at hrun
      rw [hrun] at h
      cases h
  | ok result =>
      unfold portArgs startLoop at hrun
      obtain ⟨loop, stop'⟩ := result
      rw [hrun] at h
      cases h
      exact ⟨loop, rfl, rfl, rfl⟩

theorem nodes_startLoop (hold : s.mc.nodes[r]? = some old) :
    (startLoop s r node).mc.nodes[r]? = some node := by
  rw [startLoop, Statics.nodes_modifyNode, hold, Option.map_some, if_pos rfl]

/-- The ports of a node, when its loop goes well. -/
theorem ports_searched (h : ports T target fromCnt s r node dist map = .ok (s', stop))
    (hold : s.mc.nodes[r]? = some old) (hsame : SameNode old node)
    (hrun : ∀ loop, PortLoop.run T (portArgs target fromCnt s r node dist map)
        (List.range' 1 node.numports) (startLoop s r node) = .ok (loop, stop) →
      Grown S m src fromId target s.leafport (startLoop s r node).mc loop.mc stop ∧
        (stop = none → ∀ a : V × Nat, node.nodeguid = S.guid a.1 → node.dist ≠ 0 →
          Leads S.toSubnet fromId loop.path a.1)) :
    Searched S m src fromId target s s' stop := by
  obtain ⟨loop, hloop, hleaf, hmc⟩ := ports_ok h
  obtain ⟨hgrown, hlead⟩ := hrun loop hloop
  have hnode := hgrown.kept r node (nodes_startLoop hold)
  have hpath : ∀ x, loop.mc.nodes[r]? = some x → SameNode x { x with path := loop.path } :=
    fun x _ => ⟨rfl, rfl, rfl, rfl, rfl⟩
  constructor
  case tree =>
    intro hnone
    rw [hmc, hleaf]
    refine hgrown.tree.modifyNode hpath fun x a hx hknows => ?_
    obtain rfl : node = x := Option.some.inj (hnode.symm.trans hx)
    exact { hknows with leads := fun hd => hlead hnone a hknows.nodeguid hd }
  case kept =>
    intro t x hx
    obtain ⟨y, hy, hxy⟩ := sameNode_modifyNode (g := fun _ => node)
      (fun x hx => by rwa [Option.some.inj (hold.symm.trans hx)] at hsame) hx
    obtain ⟨z, hz, hyz⟩ := sameNode_modifyNode hpath (hgrown.kept t y hy)
    exact ⟨z, hmc ▸ hz, hxy.trans hyz⟩
  case found =>
    intro t ht
    obtain ⟨refs, b, hfound⟩ := hgrown.found t ht
    rw [hmc]
    exact ⟨refs, b, hfound.modifyNode hpath⟩

/-- The ports of a switch that the search is at. -/
theorem switch_searched (hT : S.McTruthful T.query) (hsrc : S.arrival fromId = some src)
    (hother : S.portGuid src ≠ target) {refs : List NodeRef} {a : V × Nat}
    (htree : SearchTree S m src fromId target s.leafport s.mc)
    (hold : s.mc.nodes[r]? = some old) (hsame : SameNode old node)
    (hway : (groupLinks S m src).Ascent s.mc.nodes refs old a)
    (hknows : ∀ b, Known S fromId target s.leafport old b →
      Known S fromId target s.leafport node b)
    (hsw : S.IsSwitch a.1) (hnumports : node.numports = S.numports a.1)
    (hlead : Leads S.toSubnet fromId node.path a.1)
    (hentered : node.upnode ≠ none → node.upport = a.2) (hleaf : ¬ (dist = 0 ∧ s.leafport ≠ 0))
    (hlookup : switchMclookup T node.toNode node.path.toPortId (0xc000 + m) = .ok (some map))
    (h : ports T target fromCnt s r node dist map = .ok (s', stop)) :
    Searched S m src fromId target s s' stop := by
  have hports : node.numports < 256 := hnumports ▸ S.numports_lt a.1
  have hput : ∀ x, s.mc.nodes[r]? = some x → SameNode x node := fun x hx => by
    rwa [Option.some.inj (hold.symm.trans hx)] at hsame
  have htree' : SearchTree S m src fromId target s.leafport (startLoop s r node).mc := by
    refine htree.modifyNode hput fun x b hx hxb => ?_
    rw [Option.some.inj (hx.symm.trans hold)] at hxb
    exact hknows b hxb
  have hmap : node.path.cnt < 64 → ∀ k, map k = true → S.forwards a.1 m k = true := by
    intro hlt k hk
    obtain ⟨b, hb, hba⟩ := hlead.arrives hlt
    rw [← hba]
    exact switchMclookup_sound hT hb (Nat.le_of_lt_succ hports) hlookup hk
  refine ports_searched h hold hsame fun loop hloop => ?_
  have his : ∀ i ∈ List.range' 1 node.numports, 0 < i ∧ i < 256 := fun i hi => by
    have := List.mem_range'_1.mp hi
    omega
  obtain ⟨hgrown, hback⟩ := PortLoop.run_grown hT hsrc hother rfl hsw hleaf rfl hentered his hloop
    hmap htree' (nodes_startLoop hold) (way_modifyNode hput hway hsame) hlead
  refine ⟨hgrown, fun hnone b hb _ => ?_⟩
  have hab : a.1 = b.1 :=
    S.guid_injective ((way_guid hway).symm.trans (hsame.nodeguid.symm.trans hb))
  exact hab ▸ hback hnone

/-- A node behind the first level: only switches are searched. -/
theorem node_searched (hT : S.McTruthful T.query) (hsrc : S.arrival fromId = some src)
    (hother : S.portGuid src ≠ target)
    (htree : SearchTree S m src fromId target s.leafport s.mc)
    (hold : ∃ old, s.mc.nodes[r]? = some old ∧ old.dist = dist) (hpos : dist ≠ 0)
    (h : Search.node T target fromCnt (0xc000 + m) s r dist = .ok (s', stop)) :
    Searched S m src fromId target s s' stop := by
  obtain ⟨old, hold, hdist⟩ := hold
  obtain ⟨refs, a, hway, hknown⟩ := htree.known r old hold
  have hfar : old.dist ≠ 0 := by omega
  have hone : old.dist = 1 ↔ dist = 1 := by omega
  unfold Search.node at h
  rw [hold] at h
  dsimp only at h
  split at h
  · cases h
    exact .refl htree
  · next htype =>
      have hsw : S.IsSwitch a.1 := hknown.type.symm.trans (not_not.mp htype)
      have hentered := hknown.entered hfar
      simp only [hone] at hentered
      obtain ⟨node, hnode, hsame, hpath, hup⟩ : ∃ node,
          node = (if dist = 1 ∧ s.leafport ≠ 0 then { old with upport := s.leafport } else old) ∧
            SameNode old node ∧ node.path = old.path ∧ node.upport = a.2 := by
        refine ⟨_, rfl, ?_⟩
        split
        · next hleaf =>
            rw [if_pos hleaf] at hentered
            exact ⟨⟨rfl, rfl, rfl, rfl, rfl⟩, rfl, hentered.symm⟩
        · next hleaf =>
            rw [if_neg hleaf] at hentered
            exact ⟨.refl old, rfl, hentered⟩
      have hknows : ∀ b, Known S fromId target s.leafport old b →
          Known S fromId target s.leafport node b := by
        intro b hb
        rw [hnode]
        split
        · next hleaf =>
            refine { hb with entered := fun hd => ?_ }
            have hwas := hb.entered hd
            simp only [hone, if_pos hleaf] at hwas ⊢
            exact hwas
        · exact hb
      rw [← hnode] at h
      have hput : ∀ x, s.mc.nodes[r]? = some x → SameNode x node := fun x hx => by
        rwa [Option.some.inj (hold.symm.trans hx)] at hsame
      cases hlookup : switchMclookup T node.toNode node.path.toPortId (0xc000 + m) with
      | error e =>
          rw [hlookup] at h
          cases h
      | ok found =>
          rw [hlookup] at h
          cases found with
          | none =>
              cases h
              refine ⟨fun _ => htree.modifyNode hput fun x b hx hxb => ?_, fun t x hx =>
                sameNode_modifyNode hput hx, fun t ht => by cases ht⟩
              rw [Option.some.inj (hx.symm.trans hold)] at hxb
              exact hknows b hxb
          | some map =>
              exact switch_searched hT hsrc hother htree hold hsame hway hknows hsw
                (hsame.numports.trans hknown.numports) (hpath ▸ hknown.leads hfar) (fun _ => hup)
                (fun hleaf => hpos hleaf.1) hlookup h

/-- The nodes of a level behind the first. -/
theorem level_searched (hT : S.McTruthful T.query) (hsrc : S.arrival fromId = some src)
    (hother : S.portGuid src ≠ target) {rs : List NodeRef} (hpos : dist ≠ 0)
    (htree : SearchTree S m src fromId target s.leafport s.mc)
    (hrs : ∀ r ∈ rs, ∃ old, s.mc.nodes[r]? = some old ∧ old.dist = dist)
    (h : level T target fromCnt (0xc000 + m) dist rs s = .ok (s', stop)) :
    Searched S m src fromId target s s' stop := by
  induction rs generalizing s with
  | nil =>
      cases h
      exact .refl htree
  | cons r rs ih =>
      rw [level] at h
      cases hnode : Search.node T target fromCnt (0xc000 + m) s r dist with
      | error e =>
          rw [hnode] at h
          cases h
      | ok result =>
          obtain ⟨s₁, stop₁⟩ := result
          have hsearched := node_searched hT hsrc hother htree (hrs r List.mem_cons_self) hpos hnode
          rw [hnode] at h
          cases stop₁ with
          | some stop₁ =>
              cases h
              exact hsearched
          | none =>
              refine hsearched.trans (ih (hsearched.tree rfl) (fun t ht => ?_) h)
              obtain ⟨old, hold, hdist⟩ := hrs t (List.mem_cons_of_mem r ht)
              obtain ⟨x, hx, hsame⟩ := hsearched.kept t old hold
              exact ⟨x, hx, hsame.dist.trans hdist⟩

theorem levels_searched (hT : S.McTruthful T.query) (hsrc : S.arrival fromId = some src)
    (hother : S.portGuid src ≠ target) {dists : List Nat} (hpos : ∀ dist ∈ dists, dist ≠ 0)
    (htree : SearchTree S m src fromId target s.leafport s.mc)
    (h : levels T target fromCnt (0xc000 + m) dists s = .ok (s', stop)) :
    Searched S m src fromId target s s' stop := by
  induction dists generalizing s with
  | nil =>
      cases h
      exact .refl htree
  | cons dist dists ih =>
      rw [levels] at h
      cases hlevel : level T target fromCnt (0xc000 + m) dist (s.mc.nodesdist dist) s with
      | error e =>
          rw [hlevel] at h
          cases h
      | ok result =>
          obtain ⟨s₁, stop₁⟩ := result
          have hsearched := level_searched hT hsrc hother (hpos dist List.mem_cons_self) htree
            (htree.levels dist) hlevel
          rw [hlevel] at h
          cases stop₁ with
          | some stop₁ =>
              cases h
              exact hsearched
          | none =>
              have hrest : ∀ d ∈ dists, d ≠ 0 := fun d hd => hpos d (List.mem_cons_of_mem dist hd)
              exact hsearched.trans (ih hrest (hsearched.tree rfl) h)

/-- The node that the search starts from. -/
theorem source_searched (hT : S.McTruthful T.query) (hsrc : S.arrival fromId = some src)
    (hother : S.portGuid src ≠ target) {port : Port}
    (htree : ∀ leafport, SearchTree S m src fromId target leafport s.mc)
    (hold : s.mc.nodes[r]? = some old) (hroot : old.upnode = none)
    (hknows : Known S fromId target s.leafport old src)
    (hway : (groupLinks S m src).Ascent s.mc.nodes [] old src)
    (hdist : old.dist = 0) (hpath : old.path = .ofPortId fromId) (hport : s.port = some port)
    (hportnum : port.portnum = src.2) (hleaf : s.leafport = 0)
    (h : Search.node T target fromId.drpath.cnt (0xc000 + m) s r 0 = .ok (s', stop)) :
    Searched S m src fromId target s s' stop := by
  have hlead := leads_ofPortId hsrc
  obtain ⟨hbelow, hendPort⟩ := Subnet.arrival_isPort hsrc
  unfold Search.node at h
  rw [hold] at h
  dsimp only at h
  split at h
  · next htype =>
      have hend : ¬ S.IsSwitch src.1 := fun hsw => htype (hknows.type.trans hsw)
      rw [if_neg (not_not.mpr rfl)] at h
      cases hlast : old.path.last with
      | error e =>
          rw [hlast] at h
          cases h
      | ok leafport =>
          rw [hlast, hport] at h
          rw [hpath] at hlast
          have hports : ports T target fromId.drpath.cnt { s with port := some port, leafport } r
              { old with upport := 0 } 0 (fun k => k = port.portnum) = .ok (s', stop) := h
          have hsame : SameNode old { old with upport := 0 } := ⟨rfl, rfl, rfl, rfl, rfl⟩
          have hput : ∀ x, s.mc.nodes[r]? = some x → SameNode x { old with upport := 0 } := by
            intro x hx
            obtain rfl := Option.some.inj (hold.symm.trans hx)
            exact hsame
          have hsearched : Searched S m src fromId target { s with port := some port, leafport } s'
              stop := by
            refine ports_searched hports hold hsame fun loop hloop => ⟨?_, ?_⟩
            · have hmem : src.2 ∈ List.range' 1 old.numports := by
                have hpos := hendPort hend
                rw [hknows.numports, List.mem_range'_1]
                omega
              have hi : src.2 < 256 := by
                have := S.numports_lt src.1
                omega
              have hstart : (startLoop { s with port := some port, leafport } r
                  { old with upport := 0 }).mc.nodes[r]? = some { old with upport := 0 } :=
                nodes_startLoop hold
              have hroot' : ({ old with upport := 0 } : McNode).upnode = none := hroot
              rw [PortLoop.run_only (fun i hi => (of_decide_eq_true hi).trans hportnum)
                List.nodup_range' hmem] at hloop
              refine PortLoop.source_grown hT hsrc hother rfl hend rfl rfl rfl hlast hi ?_ hstart hroot'
                (way_modifyNode hput hway hsame) hpath hloop
              refine (htree leafport).modifyNode hput fun x b hx hxb => ?_
              rw [Option.some.inj (hx.symm.trans hold)] at hxb
              exact { hxb with
                leads := fun hd => absurd hdist hd
                entered := fun hd => absurd hdist hd }
            · exact fun _ _ _ hd => absurd hdist hd
          exact ⟨hsearched.tree, hsearched.kept, hsearched.found⟩
  · next htype =>
      have hsw : S.IsSwitch src.1 := hknows.type.symm.trans (not_not.mp htype)
      have hput : ∀ x, s.mc.nodes[r]? = some x → SameNode x old := fun x hx => by
        rw [Option.some.inj (hold.symm.trans hx)]
        exact .refl x
      rw [if_neg (fun hone => absurd hone.1 (by decide))] at h
      cases hlookup : switchMclookup T old.toNode old.path.toPortId (0xc000 + m) with
      | error e =>
          rw [hlookup] at h
          cases h
      | ok found =>
          rw [hlookup] at h
          cases found with
          | none =>
              cases h
              refine ⟨fun _ => (htree s.leafport).modifyNode hput fun x b hx hxb => ?_, fun t x hx =>
                sameNode_modifyNode hput hx, fun t ht => by cases ht⟩
              rwa [Option.some.inj (hx.symm.trans hold)] at hxb
          | some map =>
              exact switch_searched hT hsrc hother (htree s.leafport) hold (.refl old) hway
                (fun _ hb => hb) hsw hknows.numports (hpath ▸ hlead) (fun hup => absurd hroot hup)
                (fun hno => hno.2 hleaf) hlookup h

end Search

/-- The static storage with one node in it. -/
def Statics.single (node : McNode) : Statics where
  nodes := [node]
  nodestbl := setAt (fun _ => []) (hashguid node.nodeguid) [0]
  nodesdist := setAt (fun _ => []) 0 [0]

/-- The tree of one node that the search starts with. -/
theorem tree_single {node : McNode} (hroot : node.upnode = none) (hdist : node.dist = 0)
    (hknows : Known S fromId target leafport node src) :
    SearchTree S m src fromId target leafport (.single node) := by
  have honly : ∀ (r : Nat) x, (Statics.single node).nodes[r]? = some x → r = 0 ∧ x = node := by
    intro r x hx
    cases r with
    | zero => exact ⟨rfl, (Option.some.inj hx).symm⟩
    | succ r => cases hx
  constructor
  case known =>
    intro r x hx
    obtain ⟨-, rfl⟩ := honly r x hx
    exact ⟨[], src, .root hroot ⟨hknows.nodeguid, rfl⟩, hknows⟩
  case earlier =>
    intro r x hx p hp
    obtain ⟨-, rfl⟩ := honly r x hx
    cases hroot.symm.trans hp
  case guids => exact List.nodup_singleton _
  case tabled =>
    intro r x hx
    obtain ⟨rfl, rfl⟩ := honly r x hx
    simp [Statics.single]
  case levels =>
    intro dist r hr
    simp only [Statics.single, setAt] at hr
    split at hr
    · next hzero =>
        subst hzero
        obtain rfl := List.mem_singleton.mp hr
        exact ⟨node, rfl, hdist⟩
    · cases hr
  case source => exact ⟨0, node, rfl, hknows.nodeguid⟩

/-- The levels of a search that starts from a node that is not the target. -/
theorem levels_found (hT : S.McTruthful T.query) (hsrc : S.arrival fromId = some src)
    (hother : S.portGuid src ≠ target) {node : McNode} {port : Port} {s' : Search} {t : McNode}
    (hroot : node.upnode = none) (hdist : node.dist = 0) (hpath : node.path = .ofPortId fromId)
    (hportnum : port.portnum = src.2)
    (hknows : ∀ leafport, Known S fromId target leafport node src) {dists : List Nat}
    (hpos : ∀ dist ∈ dists, dist ≠ 0)
    (h : Search.levels T target fromId.drpath.cnt (0xc000 + m) (0 :: dists)
      { mc := .single node, port := some port } = .ok (s', some (some t))) :
    ∃ refs b, FoundAt S m src target s'.mc.nodes t refs b := by
  have htree : ∀ leafport, SearchTree S m src fromId target leafport (.single node) :=
    fun leafport => tree_single hroot hdist (hknows leafport)
  have hfirst : (Statics.single node).nodesdist 0 = [0] := rfl
  rw [Search.levels, hfirst, Search.level] at h
  cases hnode : Search.node T target fromId.drpath.cnt (0xc000 + m)
      { mc := .single node, port := some port } 0 0 with
  | error e =>
      rw [hnode] at h
      cases h
  | ok result =>
      obtain ⟨s₁, stop₁⟩ := result
      have hsearched := Search.source_searched hT hsrc hother htree rfl hroot (hknows 0)
        (.root hroot ⟨(hknows 0).nodeguid, rfl⟩) hdist hpath rfl hportnum rfl hnode
      rw [hnode] at h
      cases stop₁ with
      | some stop₁ =>
          cases h
          exact hsearched.found t rfl
      | none => exact (Search.levels_searched hT hsrc hother hpos (hsearched.tree rfl) h).found t rfl

theorem targetAtStart_some {mlid : Int} {node t : McNode}
    (h : targetAtStart T node fromId mlid = .ok (some t)) : t = node := by
  unfold targetAtStart at h
  split at h
  · cases h
  · cases hlookup : switchMclookup T node.toNode fromId mlid with
    | error e =>
        rw [hlookup] at h
        cases h
    | ok found =>
        rw [hlookup] at h
        cases found with
        | none => cases h
        | some map =>
            replace h : (if map 0 then some node else none) = some t := Except.ok.inj h
            split at h
            · exact (Option.some.inj h).symm
            · cases h

/-- A first search ends where it starts, without the target, or with its levels. -/
theorem findMcpath_ok {mlid : Int} {result : McResult} {t : McNode}
    (h : findMcpath T target .initial fromId mlid = .ok result) (ht : result.endnode = some t) :
    ∃ node port, getNode T {} {} fromId = (true, node, port) ∧
      (port.portguid = target ∧ result.mc = .initial ∧
          t = { node with dist := -1, ports := some { port with } } ∨
        port.portguid ≠ target ∧ ∃ s, result.mc = s.mc ∧
          Search.levels T target fromId.drpath.cnt mlid (List.range maxHops)
            { mc := .single { node with ports := some { port with }, path := .ofPortId fromId }
              port := some port } = .ok (s, some (some t))) := by
  unfold findMcpath at h
  generalize List.range maxHops = dists at h ⊢
  split at h
  · cases h
    cases ht
  · next node port hget =>
      refine ⟨node, port, hget, ?_⟩
      cases hnew : newNode target .initial { node with } { port with } (.ofPortId fromId) 0 with
      | error e =>
          rw [hnew] at h
          cases h
      | ok visited =>
          obtain ⟨v, mc⟩ := visited
          rw [hnew] at h
          rcases newNode_ok hnew with ⟨hport, rfl, rfl⟩ | ⟨-, hknown, -, -⟩ | ⟨hport, -, rfl, hmc⟩
          · dsimp only [bind, Except.bind] at h
            refine .inl ⟨hport, ?_⟩
            cases hstart : targetAtStart T { node with dist := -1, ports := some { port with } } fromId
                mlid with
            | error e =>
                rw [hstart] at h
                cases h
            | ok found =>
                rw [hstart] at h
                cases h
                obtain rfl : found = some t := ht
                exact ⟨rfl, targetAtStart_some hstart⟩
          · cases hknown
          · obtain rfl : mc = .single { node with ports := some { port with }, path := .ofPortId fromId } :=
              hmc
            dsimp only [bind, Except.bind] at h
            refine .inr ⟨hport, ?_⟩
            cases hlevels : Search.levels T target fromId.drpath.cnt mlid dists
                { mc := .single { node with ports := some { port with }, path := .ofPortId fromId }
                  port := some port } with
            | error e =>
                rw [hlevels] at h
                cases h
            | ok found =>
                obtain ⟨s, stop⟩ := found
                rw [hlevels] at h
                cases h
                refine ⟨s, rfl, ?_⟩
                obtain rfl : stop = some (some t) := Option.join_eq_some_iff.mp ht
                rfl

/-- A search that finds a node has found the target, behind links that lead back to the source over
the way that packets of the group take. -/
theorem findMcpath_sound (hT : S.McTruthful T.query) {result : McResult} {t : McNode}
    (h : findMcpath T target .initial fromId (0xc000 + m) = .ok result)
    (ht : result.endnode = some t) :
    ∃ src refs b, S.arrival fromId = some src ∧
      FoundAt S m src target result.mc.nodes t refs b := by
  obtain ⟨node, port, hget, hcase⟩ := findMcpath_ok h ht
  obtain ⟨src, hsrc, hrec, hportnum⟩ := getNode_records hT.truthful hget
  rcases hcase with ⟨hport, hmc, rfl⟩ | ⟨hport, s, hmc, hlevels⟩
  · refine ⟨src, [], src, hsrc, ?_⟩
    rw [hrec.portguid] at hport
    constructor
    case way => exact .root rfl ⟨hrec.nodeguid, rfl⟩
    case nodup => exact .nil
    case guids => exact fun r hr => absurd hr List.not_mem_nil
    case again => exact fun r hr => absurd hr List.not_mem_nil
    case portguid => exact congrArg some (hrec.portguid.trans hport)
    case target => exact hport
  · rw [hrec.portguid] at hport
    have hdists : List.range maxHops = 0 :: List.range' 1 62 := by decide
    have hpos : ∀ dist ∈ List.range' 1 62, dist ≠ 0 := fun dist hmem => by
      have := List.mem_range'_1.mp hmem
      omega
    rw [hdists] at hlevels
    rw [hmc]
    have hknows : ∀ leafport, Known S fromId target leafport
        { node with ports := some { port with }, path := .ofPortId fromId } src := fun _ =>
      { nodeguid := hrec.nodeguid
        type := hrec.type
        numports := hrec.numports
        other := hport
        leads := fun hd => absurd rfl hd
        entered := fun hd => absurd rfl hd }
    obtain ⟨refs, b, hfound⟩ :=
      levels_found hT hsrc hport rfl rfl rfl hportnum hknows hpos hlevels
    exact ⟨src, refs, b, hsrc, hfound⟩

/-- From the adapter at port 1 of the star to the one at port 2, in the first group. -/
theorem findMcpath_sound_group : ∃ result t,
    findMcpath groupTracer 49 .initial homeId (0xc000 + (0 : Nat)) = .ok result ∧
      result.endnode = some t ∧ ∃ src refs b, groupStar.arrival homeId = some src ∧
        FoundAt groupStar 0 src 49 result.mc.nodes t refs b := by
  have hends : ((findMcpath groupTracer 49 .initial homeId (0xc000 + (0 : Nat))).toOption.bind
      fun result => result.endnode).isSome = true := by decide +kernel
  cases hrun : findMcpath groupTracer 49 .initial homeId (0xc000 + (0 : Nat)) with
  | error e =>
      rw [hrun] at hends
      cases hends
  | ok result =>
      rw [hrun] at hends
      obtain ⟨t, ht⟩ := Option.isSome_iff_exists.mp hends
      exact ⟨result, t, rfl, ht, findMcpath_sound groupStar_truthful hrun ht⟩

end Ibtracert
end InfinibandDiags
