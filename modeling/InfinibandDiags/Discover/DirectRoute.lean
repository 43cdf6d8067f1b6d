import InfinibandDiags.Discover.Complete

/-! Looking a port up by a directed route: `str2drpath` reads the route, `ibnd_find_port_dr`
follows it through the ports of the fabric. -/
namespace InfinibandDiags
open Engine

section Strings

def isSpace (c : UInt8) : Bool := c = 32 || (9 ≤ c && c ≤ 13)

def isDigit (c : UInt8) : Bool := 48 ≤ c && c ≤ 57

/-- `strtol(s, NULL, 10)`, which stays within a 64-bit `long`. -/
def strtol (s : Bytes) : Int :=
  let value (s : Bytes) : Int := (s.takeWhile isDigit).foldl (fun v c => 10 * v + (c.toNat - 48)) 0
  let magnitude : Int :=
    match s.dropWhile isSpace with
    | 45 :: s => -value s
    | 43 :: s => value s
    | s => value s
  max (-2 ^ 63) (min magnitude (2 ^ 63 - 1))

/-- `atoi`: the `long` cut down to an `int`. -/
def atoi (s : Bytes) : Int := (strtol s).bmod (2 ^ 32)

def comma : UInt8 := 44

/-- The strings that `str2drpath` hands to `atoi`, of a string given up to its final NUL. Every
round takes a character, so the length bounds the rounds. -/
def routeParts : Nat → Bytes → List Bytes
  | 0, _ => []
  | fuel + 1, str =>
      if str = [] then []
      else
        match str.dropWhile (· ≠ comma) with
        | [] => [str.takeWhile (· ≠ comma)]
        | _ :: rest => str.takeWhile (· ≠ comma) :: routeParts fuel rest

/-- `path->p[++path->cnt] = (uint8_t) atoi(str)` for one part after the other, `next` being
`cnt + 1`. -/
def storeParts (path : DrPath) (next : Nat) : List Bytes → Except Fault DrPath
  | [] => .ok { path with cnt := next - 1 }
  | part :: parts =>
      if next < 64 then
        storeParts { path with p := path.p.setIfInBounds next (UInt8.ofInt (atoi part)) } (next + 1)
          parts
      else .error .outOfBounds

/-- `str2drpath`; `none` stands for the -1 it returns for a string without parts. -/
def str2drpath (path : DrPath) (routepath : Bytes) (drslid drdlid : Nat) :
    Except Fault (Option DrPath) := do
  match routeParts routepath.length routepath with
  | [] => .ok none
  | parts =>
      let path ← storeParts path 0 parts
      .ok (some { path with
        drdlid := if drdlid ≠ 0 then drdlid else 0xffff
        drslid := if drslid ≠ 0 then drslid else 0xffff })

/-- The egress port a part of the route names. -/
def hopOf (part : Bytes) : Nat := (UInt8.ofInt (atoi part)).toNat

/-- The egress ports of a route, zeros left out. A string without parts is no route, and neither
is one with more parts than a path has room for. -/
def routeOf (drStr : Bytes) : Option (List Nat) :=
  let parts := routeParts drStr.length drStr
  if parts = [] ∨ 64 < parts.length then none
  else some ((parts.map hopOf).filter (· ≠ 0))

theorem storeParts_ok (path : DrPath) (next : Nat) (parts : List Bytes)
    (hroom : next + parts.length ≤ 64) : ∃ path', storeParts path next parts = .ok path' ∧
      path'.cnt = next + parts.length - 1 ∧
      (path'.p.toList.take (next + parts.length)).map UInt8.toNat =
        (path.p.toList.take next).map UInt8.toNat ++ parts.map hopOf := by
  induction parts generalizing path next with
  | nil => exact ⟨{ path with cnt := next - 1 }, rfl, rfl, (List.append_nil _).symm⟩
  | cons part parts ih =>
      rw [List.length_cons] at hroom
      have hnext : next < 64 := by omega
      obtain ⟨path', hstore, hcnt, hhops⟩ := ih
        { path with p := path.p.setIfInBounds next (UInt8.ofInt (atoi part)) } (next + 1) (by omega)
      refine ⟨path', ?_, ?_, ?_⟩
      · rw [storeParts, if_pos hnext]
        exact hstore
      · rw [hcnt, List.length_cons]
        omega
      · have hlen : next < path.p.toList.length := by simpa using hnext
        have htake : ((path.p.setIfInBounds next (UInt8.ofInt (atoi part))).toList).take (next + 1) =
            path.p.toList.take next ++ [UInt8.ofInt (atoi part)] := by
          rw [Vector.toList_setIfInBounds, List.take_succ_eq_append_getElem (by simpa using hnext),
            List.take_set_of_le (Nat.le_refl next), List.getElem_set_self]
        have hsum : next + (part :: parts).length = next + 1 + parts.length := by
          rw [List.length_cons]
          omega
        rw [hsum, hhops, htake, List.map_append, List.map_cons, List.append_assoc]
        rfl

theorem storeParts_error {parts : List Bytes} {path : DrPath} {next : Nat}
    (hfull : 64 < next + parts.length) (hnext : next ≤ 64) :
    storeParts path next parts = .error .outOfBounds := by
  induction parts generalizing path next with
  | nil => exact absurd hfull (Nat.not_lt.mpr hnext)
  | cons part parts ih =>
      rw [storeParts]
      by_cases hlt : next < 64
      · rw [if_pos hlt]
        rw [List.length_cons] at hfull
        exact ih (by omega) hlt
      · rw [if_neg hlt]

end Strings

namespace Fabric
variable (f : Fabric)

/-- The loop of `ibnd_find_port_dr` over the entries of the path. -/
def findPortDrLoop : Option NodeRef → Option PortRef → List Nat → Except Fault (Option PortRef)
  | _, rc, [] => .ok rc
  | curNode, rc, k :: ks =>
      if k = 0 then findPortDrLoop curNode rc ks
      else
        match curNode with
        | none => .error .nullDeref
        | some n =>
            match f.slot n k with
            | .error fault => .error fault
            | .ok none => .error .nullDeref
            | .ok (some p) =>
                match f.remoteport p with
                | none => .ok none
                | some remotePort => findPortDrLoop (some (f.port remotePort).node) (some remotePort) ks

/-- `ibnd_find_port_dr`; the path on its stack starts out with any content. -/
def ibndFindPortDr (stack : DrPath) (drStr : Bytes) : Except Fault (Option PortRef) := do
  match ← str2drpath stack drStr 0 0 with
  | none => .ok none
  | some path =>
      f.findPortDrLoop f.fromNode none ((path.p.toList.take (path.cnt + 1)).map UInt8.toNat)

/-- `ibnd_find_node_dr`. -/
def ibndFindNodeDr (stack : DrPath) (drStr : Bytes) : Except Fault (Option NodeRef) := do
  match ← f.ibndFindPortDr stack drStr with
  | none => .error .nullDeref
  | some rc => .ok (some (f.port rc).node)

/-- The port cabled to an egress port of a node, if that is there. -/
def farPort (n : NodeRef) (k : Nat) : Option PortRef :=
  if k ≤ (f.node n).numports then ((f.node n).ports k).bind f.remoteport else none

/-- The port a route ends at, having come in through `at?`. -/
def routeEnd (at? : Option PortRef) (n : NodeRef) : List Nat → Option PortRef
  | [] => at?
  | k :: ks => (f.farPort n k).bind fun q => routeEnd (some q) (f.port q).node ks

/-- The port at the end of the route in a string. -/
def portOfRoute (drStr : Bytes) : Option PortRef := do
  let ks ← routeOf drStr
  let n ← f.fromNode
  f.routeEnd none n ks

/-- Every egress port of the route is there, as far as the cables go. -/
def Present (n : NodeRef) : List Nat → Prop
  | [] => True
  | k :: ks => k ≤ (f.node n).numports ∧ ∃ p, (f.node n).ports k = some p ∧
      ∀ q, f.remoteport p = some q → Present (f.port q).node ks

/-- Every egress port of the route is there and has a cable. -/
def Connected (n : NodeRef) : List Nat → Prop
  | [] => True
  | k :: ks => k ≤ (f.node n).numports ∧ ∃ p q, (f.node n).ports k = some p ∧
      f.remoteport p = some q ∧ Connected (f.port q).node ks

variable {f} {n : NodeRef} {k : Nat} {ks : List Nat} {rc : Option PortRef} {stack : DrPath}
  {drStr : Bytes}

theorem findPortDrLoop_filter (curNode : Option NodeRef) (rc : Option PortRef) (ks : List Nat) :
    f.findPortDrLoop curNode rc ks = f.findPortDrLoop curNode rc (ks.filter (· ≠ 0)) := by
  induction ks generalizing curNode rc with
  | nil => rfl
  | cons k ks ih =>
      by_cases hk : k = 0
      · rw [List.filter_cons_of_neg (by simpa using hk), ← ih]
        conv_lhs => unfold findPortDrLoop
        rw [if_pos hk]
      · rw [List.filter_cons_of_pos (by simpa using hk)]
        unfold findPortDrLoop
        rw [if_neg hk, if_neg hk]
        simp only [ih (some _) (some _)]

/-- The loop returns the end of the route, or the NULL where a cable is missing. -/
theorem findPortDrLoop_of_present (h : f.Present n ks) (hks : 0 ∉ ks) :
    f.findPortDrLoop (some n) rc ks = .ok (f.routeEnd rc n ks) := by
  induction ks generalizing n rc with
  | nil => rfl
  | cons k ks ih =>
      rw [List.mem_cons, not_or] at hks
      obtain ⟨hk, p, hp, hnext⟩ := h
      have hslot : f.slot n k = .ok (some p) := slot_eq_ok.mpr ⟨hk, hp⟩
      have hfar : f.farPort n k = f.remoteport p := by
        rw [farPort, if_pos hk, hp]
        rfl
      rw [findPortDrLoop, if_neg (Ne.symm hks.1), routeEnd, hfar]
      simp only [hslot]
      cases hq : f.remoteport p with
      | none => rfl
      | some q => exact ih (hnext q hq) hks.2

theorem findPortDrLoop_error (rc : Option PortRef) (h : ¬ f.Present n ks) (hks : 0 ∉ ks) :
    ∃ fault, f.findPortDrLoop (some n) rc ks = .error fault := by
  induction ks generalizing n rc with
  | nil => exact absurd trivial h
  | cons k ks ih =>
      rw [List.mem_cons, not_or] at hks
      rw [findPortDrLoop, if_neg (Ne.symm hks.1)]
      cases hslot : f.slot n k with
      | error fault => exact ⟨fault, rfl⟩
      | ok slot =>
          obtain ⟨hk, hp⟩ := slot_eq_ok.mp hslot
          cases slot with
          | none => exact ⟨.nullDeref, rfl⟩
          | some p =>
              dsimp only
              cases hq : f.remoteport p with
              | none =>
                  refine absurd ⟨hk, p, hp, fun q hq' => ?_⟩ h
                  rw [hq] at hq'
                  cases hq'
              | some q =>
                  refine ih (some q) (fun hnext => h ⟨hk, p, hp, fun q' hq' => ?_⟩) hks.2
                  obtain rfl := Option.some.inj (hq.symm.trans hq')
                  exact hnext

theorem Connected.present (h : f.Connected n ks) : f.Present n ks := by
  induction ks generalizing n with
  | nil => trivial
  | cons k ks ih =>
      obtain ⟨hk, p, q, hp, hq, hnext⟩ := h
      refine ⟨hk, p, hp, fun q' hq' => ?_⟩
      obtain rfl := Option.some.inj (hq.symm.trans hq')
      exact ih hnext

/-- A route has an end if it makes a step and all its ports have cables. -/
theorem routeEnd_isSome (rc : Option PortRef) : (f.routeEnd rc n ks).isSome ↔
    f.Connected n ks ∧ (ks = [] → rc.isSome) := by
  induction ks generalizing n rc with
  | nil => exact ⟨fun h => ⟨trivial, fun _ => h⟩, fun h => h.2 rfl⟩
  | cons k ks ih =>
      rw [routeEnd, farPort]
      by_cases hk : k ≤ (f.node n).numports
      · rw [if_pos hk]
        cases hp : (f.node n).ports k with
        | none => simp [Connected, hp]
        | some p =>
            cases hq : f.remoteport p with
            | none => simp [Connected, hp, hq]
            | some q => simp [Connected, hp, hq, hk, ih]
      · rw [if_neg hk]
        simp [Connected, hk]

/-- One step further. -/
theorem routeEnd_concat {q : PortRef} (h : f.routeEnd none n ks = some q) :
    f.routeEnd none n (ks ++ [k]) = f.farPort (f.port q).node k := by
  have hwalk : ∀ rc n, f.routeEnd rc n ks = some q → (ks = [] → rc = some q ∧ n = (f.port q).node) →
      f.routeEnd rc n (ks ++ [k]) = f.farPort (f.port q).node k := by
    clear h
    induction ks with
    | nil =>
        intro rc n _ hat
        rw [(hat rfl).2]
        exact Option.bind_fun_some _
    | cons j ks ih =>
        intro rc n h _
        obtain ⟨x, hx, hrest⟩ := Option.bind_eq_some_iff.mp h
        rw [List.cons_append, routeEnd, hx, Option.bind_some]
        refine ih _ _ hrest fun hlast => ?_
        subst hlast
        obtain rfl := Option.some.inj hrest
        exact ⟨rfl, rfl⟩
  refine hwalk none n h fun hlast => ?_
  subst hlast
  cases h

theorem findPortDr_of_route (hroute : routeOf drStr = some ks) :
    f.ibndFindPortDr stack drStr = f.findPortDrLoop f.fromNode none ks := by
  unfold routeOf at hroute
  dsimp only at hroute
  by_cases hnot : routeParts drStr.length drStr = [] ∨ 64 < (routeParts drStr.length drStr).length
  · rw [if_pos hnot] at hroute
    cases hroute
  · rw [if_neg hnot, Option.some.injEq] at hroute
    rw [not_or, Nat.not_lt] at hnot
    obtain ⟨part, parts, hparts⟩ := List.exists_cons_of_ne_nil hnot.1
    rw [hparts] at hroute hnot
    obtain ⟨path, hstore, hcnt, hhops⟩ := storeParts_ok stack 0 (part :: parts)
      (by simpa using hnot.2)
    have hlast : path.cnt + 1 = 0 + (part :: parts).length := by
      rw [hcnt, List.length_cons]
      omega
    unfold ibndFindPortDr str2drpath
    rw [hparts]
    simp only [hstore, bind, Except.bind]
    rw [hlast, hhops, findPortDrLoop_filter, ← hroute]
    rfl

theorem findPortDr_without_route (hroute : routeOf drStr = none) :
    f.ibndFindPortDr stack drStr =
      if (routeParts drStr.length drStr).length ≤ 64 then .ok none else .error .outOfBounds := by
  unfold routeOf at hroute
  dsimp only at hroute
  by_cases hnot : routeParts drStr.length drStr = [] ∨ 64 < (routeParts drStr.length drStr).length
  · unfold ibndFindPortDr str2drpath
    rcases hnot with hnone | hlong
    · rw [hnone]
      rfl
    · obtain ⟨part, parts, hparts⟩ := List.exists_cons_of_length_pos (Nat.zero_lt_of_lt hlong)
      rw [if_neg (Nat.not_le.mpr hlong)]
      rw [hparts] at hlong ⊢
      have hfull : storeParts stack 0 (part :: parts) = .error .outOfBounds :=
        storeParts_error ((Nat.zero_add _).symm ▸ hlong) (Nat.zero_le 64)
      simp only [hfull, bind, Except.bind]
  · rw [if_neg hnot] at hroute
    cases hroute

theorem zero_notMem_route (hroute : routeOf drStr = some ks) : 0 ∉ ks := by
  unfold routeOf at hroute
  dsimp only at hroute
  split at hroute
  · cases hroute
  · obtain rfl := Option.some.inj hroute
    simp

/-- `ibnd_find_port_dr` alone is right on the routes that a path can hold, as long as no port is
missing on the way. -/
theorem findPortDr_correct_iff : f.ibndFindPortDr stack drStr = .ok (f.portOfRoute drStr) ↔
    (routeParts drStr.length drStr).length ≤ 64 ∧ ∀ ks, routeOf drStr = some ks → ks = [] ∨
      ∃ n, f.fromNode = some n ∧ f.Present n ks := by
  unfold portOfRoute
  cases hroute : routeOf drStr with
  | none =>
      rw [findPortDr_without_route hroute]
      by_cases hshort : (routeParts drStr.length drStr).length ≤ 64
      · rw [if_pos hshort]
        exact iff_of_true rfl ⟨hshort, fun ks h => (nomatch h)⟩
      · rw [if_neg hshort]
        exact iff_of_false (fun h => (nomatch h)) fun h => hshort h.1
  | some ks =>
      have hzero := zero_notMem_route hroute
      have hshort : (routeParts drStr.length drStr).length ≤ 64 := by
        by_contra hlong
        rw [routeOf, if_pos (.inr (Nat.lt_of_not_le hlong))] at hroute
        cases hroute
      have hroutes : (∀ ks', some ks = some ks' → ks' = [] ∨
          ∃ n, f.fromNode = some n ∧ f.Present n ks') ↔
          ks = [] ∨ ∃ n, f.fromNode = some n ∧ f.Present n ks := by
        refine ⟨fun h => h ks rfl, fun h ks' hks => ?_⟩
        obtain rfl := Option.some.inj hks
        exact h
      rw [findPortDr_of_route hroute, hroutes, and_iff_right hshort]
      cases hfrom : f.fromNode with
      | none =>
          cases ks with
          | nil => exact iff_of_true rfl (.inl rfl)
          | cons k ks =>
              rw [List.mem_cons, not_or] at hzero
              rw [findPortDrLoop, if_neg (Ne.symm hzero.1)]
              refine iff_of_false (fun h => (nomatch h)) ?_
              rintro (h | ⟨n, h, -⟩) <;> cases h
      | some n =>
          by_cases hpresent : f.Present n ks
          · exact iff_of_true (findPortDrLoop_of_present hpresent hzero) (.inr ⟨n, rfl, hpresent⟩)
          · obtain ⟨fault, hfault⟩ := findPortDrLoop_error none hpresent hzero
            rw [hfault]
            refine iff_of_false (fun h => (nomatch h)) ?_
            rintro (rfl | ⟨m, hm, h⟩)
            · exact hpresent trivial
            · obtain rfl := Option.some.inj hm
              exact hpresent h

/-- Both lookups are right exactly on the routes that make a step and whose egress ports are all
there and cabled: `ibnd_find_node_dr` reads the node of whatever port it gets, NULL included. -/
theorem findDr_correct_iff : f.ibndFindPortDr stack drStr = .ok (f.portOfRoute drStr) ∧
      f.ibndFindNodeDr stack drStr =
        .ok ((f.portOfRoute drStr).map fun q => (f.port q).node) ↔
    ∃ ks n, routeOf drStr = some ks ∧ f.fromNode = some n ∧ ks ≠ [] ∧ f.Connected n ks := by
  constructor
  · rintro ⟨hport, hnode⟩
    unfold ibndFindNodeDr at hnode
    rw [hport] at hnode
    unfold portOfRoute at hnode
    cases hroute : routeOf drStr with
    | none =>
        rw [hroute] at hnode
        cases hnode
    | some ks =>
        cases hfrom : f.fromNode with
        | none =>
            rw [hroute, hfrom] at hnode
            cases hnode
        | some n =>
            have hsome : (f.routeEnd none n ks).isSome := by
              cases hend : f.routeEnd none n ks with
              | some q => rfl
              | none =>
                  simp only [hroute, hfrom, hend, bind, Option.bind, Except.bind] at hnode
                  cases hnode
            obtain ⟨hconnected, hstep⟩ := (routeEnd_isSome none).mp hsome
            exact ⟨ks, n, rfl, rfl, fun h => Bool.false_ne_true (hstep h), hconnected⟩
  · rintro ⟨ks, n, hroute, hfrom, hstep, hconnected⟩
    have hport : f.ibndFindPortDr stack drStr = .ok (f.portOfRoute drStr) := by
      refine findPortDr_correct_iff.mpr ⟨?_, ?_⟩
      · by_contra hlong
        rw [routeOf, if_pos (.inr (Nat.lt_of_not_le hlong))] at hroute
        cases hroute
      · intro ks' hks
        obtain rfl := Option.some.inj (hroute.symm.trans hks)
        exact .inr ⟨n, hfrom, hconnected.present⟩
    refine ⟨hport, ?_⟩
    have hsome := (routeEnd_isSome none).mpr ⟨hconnected, fun h => absurd h hstep⟩
    obtain ⟨q, hq⟩ := Option.isSome_iff_exists.mp hsome
    have hend : f.portOfRoute drStr = some q := by
      unfold portOfRoute
      rw [hroute, hfrom]
      exact hq
    unfold ibndFindNodeDr
    rw [hport, hend]
    rfl

end Fabric

/-- A scan whose first node answered nothing but its NodeInfo, and two lookups in what it found:
no step, and a port that the node does not have. -/
theorem findDr_faults : ∃ st, localScan.runTo
      [⟨0, 0, responseMad 6 0 (nodeInfoData 1 1 ibNodeCa 1 1)⟩, ⟨0, 110, responseMad 7 0 []⟩,
        ⟨0, 110, responseMad 8 1 []⟩] = some st ∧ clQmapCount st.engine.smpsOnWire = 0 ∧
    st.scan.fabric.ibndFindNodeDr .empty "0".toUTF8.toList = .error .nullDeref ∧
    st.scan.fabric.ibndFindPortDr .empty "2".toUTF8.toList = .error .outOfBounds := by
  have hrun : (localScan.runTo
      [⟨0, 0, responseMad 6 0 (nodeInfoData 1 1 ibNodeCa 1 1)⟩, ⟨0, 110, responseMad 7 0 []⟩,
        ⟨0, 110, responseMad 8 1 []⟩]).any (fun st => clQmapCount st.engine.smpsOnWire = 0 ∧
      faultOf (st.scan.fabric.ibndFindNodeDr .empty "0".toUTF8.toList) = some .nullDeref ∧
      faultOf (st.scan.fabric.ibndFindPortDr .empty "2".toUTF8.toList) = some .outOfBounds) = true := by
    decide +kernel
  obtain ⟨st, hst, hend⟩ := (Option.any_eq_true _ _).mp hrun
  obtain ⟨hwire, hnode, hport⟩ := of_decide_eq_true hend
  exact ⟨st, hst, hwire, faultOf_eq_some.mp hnode, faultOf_eq_some.mp hport⟩

end InfinibandDiags
