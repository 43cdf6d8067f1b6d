import InfinibandDiags.Chassis.Exclusive

/-! When `group_nodes` neither dereferences a null pointer nor reads outside a slot-translation
table. -/
namespace InfinibandDiags
open Folds

/-- The two kinds of faults. -/
def BadRead (fault : Fault) : Prop := fault = .nullDeref ∨ fault = .tableIndex

/-- The same, inside `group_nodes`. -/
def BadReadIn (e : Option Fault) : Prop := ∃ fault, e = some fault ∧ BadRead fault

theorem safe_orFault {α : Type} {x : Except Fault α} :
    Safe BadReadIn (orFault x) ↔ Safe BadRead x := by
  cases x with
  | ok a => exact iff_of_true safe_ok safe_ok
  | error fault =>
      constructor
      · rintro h e hbad he
        cases he
        exact h _ ⟨_, rfl, hbad⟩ rfl
      · rintro h e ⟨fault', rfl, hbad⟩ he
        cases he
        exact h _ hbad rfl

theorem safe_tableAt {α : Type} {n : Nat} {table : Vector α n} {i : Nat} :
    Safe BadRead (tableAt table i) ↔ i < n := by
  constructor
  · intro h
    by_contra hlt
    exact h .tableIndex (.inr rfl) (tableAt_eq_error.mpr ⟨Nat.not_lt.mp hlt, rfl⟩)
  · intro h
    rw [tableAt_of_lt h]
    exact safe_ok

/-- No fault but an access outside a buffer. -/
theorem safe_of_outOfBounds {α : Type} {x : Except Fault α}
    (h : ∀ fault, x = .error fault → fault = .outOfBounds) : Safe BadRead x := by
  rintro fault hbad hx
  rw [h fault hx] at hbad
  rcases hbad with hbad | hbad <;> cases hbad

namespace Fabric
variable {f : Fabric} {g : Grouping} {n : NodeRef} {p : PortRef} {k : Nat}

theorem slot_of_mem (hk : k ∈ f.portNumbers n) : f.slot n k = .ok ((f.node n).ports k) := by
  apply if_pos
  rw [portNumbers, List.mem_range'_1] at hk
  omega

/-- The tables that are read with a port number are 37 entries long. -/
theorem safe_getSfbSlot : Safe BadRead (f.getSfbSlot g n p) ↔
    ((sfbTables (f.node n)).isSome → (f.port p).portnum < 37) := by
  unfold getSfbSlot
  dsimp only
  cases sfbTables (f.node n) with
  | none => simp
  | some tables =>
      obtain ⟨chType, slots, anafas⟩ := tables
      simp only [safe_bind, safe_tableAt, safe_ok, implies_true, and_true, Option.isSome_some,
        true_imp_iff]
      exact ⟨fun h => h.1, fun h => ⟨h, fun _ _ => h⟩⟩

theorem safe_getSlbSlot : Safe BadRead (f.getSlbSlot g n p) ↔
    ((slbTables (f.node (f.port p).node)).isSome → (f.port p).portnum < 37) := by
  unfold getSlbSlot
  dsimp only
  cases slbTables (f.node (f.port p).node) with
  | none => simp
  | some tables =>
      obtain ⟨chType, slots, anafas⟩ := tables
      simp only [safe_bind, safe_tableAt, safe_ok, implies_true, and_true, Option.isSome_some,
        true_imp_iff]
      exact ⟨fun h => h.1, fun h => ⟨h, fun _ _ => h⟩⟩

theorem safe_getRouterSlot : Safe BadRead (f.getRouterSlot g n p) ↔
    ((routerTables (f.node (f.port p).node)).isSome → (f.port p).portnum < 37) := by
  unfold getRouterSlot
  dsimp only
  cases routerTables (f.node (f.port p).node) with
  | none => simp
  | some tables =>
      obtain ⟨chType, slots, anafas⟩ := tables
      simp only [safe_bind, safe_tableAt, safe_ok, implies_true, and_true, Option.isSome_some,
        true_imp_iff]
      refine ⟨fun h => h.1, fun h => ⟨h, fun _ _ => ?_⟩⟩
      cases anafas with
      | none => exact safe_ok
      | some anafas => exact safe_tableAt.mpr h

/-- A router port that is there is cabled, and the spine port at the other end is in the tables. -/
def RouterPortFine (f : Fabric) (n : NodeRef) (_ : Grouping) (k : Nat) : Prop :=
  ∀ p, (f.node n).ports k = some p → ∃ r, f.remoteport p = some r ∧
    ((routerTables (f.node (f.port r).node)).isSome → (f.port r).portnum < 37)

/-- The port that a spine takes its slot from, or gives a router its slot by, is in the tables. -/
structure SpineCableFine (f : Fabric) (n : NodeRef) (g : Grouping) (p r : PortRef) : Prop where
  router : (f.node (f.port r).node).type ≠ ibNodeSwitch → (g.ch (f.port r).node).chFound = false →
    (routerTables (f.node (f.port p).node)).isSome → (f.port p).portnum < 37
  line : (f.node (f.port r).node).type = ibNodeSwitch → (g.ch n).chType = .unresolvedCt →
    (sfbTables (f.node n)).isSome → (f.port r).portnum < 37

def SpinePortFine (f : Fabric) (n : NodeRef) (g : Grouping) (k : Nat) : Prop :=
  ∀ p r, (f.node n).ports k = some p → f.remoteport p = some r → f.externalSpinePort n p = false →
    SpineCableFine f n g p r

/-- The cable of a line board at a port, unless it leads out of the chassis. -/
def lineCable (f : Fabric) (n : NodeRef) (k : Nat) : Option PortRef :=
  ((f.node n).ports k).bind fun p => if f.externalLinePort n p then none else f.remoteport p

/-- The spine port at the other end of the first cable is in the tables. -/
def LinePortsFine (f : Fabric) (n : NodeRef) : Prop :=
  ∀ r, (f.portNumbers n).findSome? (f.lineCable n) = some r →
    (slbTables (f.node (f.port r).node)).isSome → (f.port r).portnum < 37

theorem isSpine_of_routerTables {node : Node} (h : (routerTables node).isSome) :
    node.isSpine = true := by
  unfold routerTables at h
  unfold Node.isSpine
  by_cases h₁ : node.isSpine9096
  · simp [h₁]
  · by_cases h₂ : node.isSpine9288
    · simp [h₂]
    · by_cases h₃ : node.isSpine2012
      · simp [h₃]
      · by_cases h₄ : node.isSpine2004
        · simp [h₄]
        · simp [h₁, h₂, h₃, h₄] at h

theorem safe_routerPort (hk : k ∈ f.portNumbers n) :
    Safe BadRead (f.routerPort n g k) ↔ RouterPortFine f n g k := by
  unfold routerPort RouterPortFine
  rw [slot_of_mem hk, ok_bind]
  cases hp : (f.node n).ports k with
  | none => simp
  | some p =>
      dsimp only
      cases hr : f.remoteport p with
      | none =>
          refine iff_of_false (fun h => h .nullDeref (.inl rfl) rfl) ?_
          intro h
          obtain ⟨r, hr', -⟩ := h p rfl
          rw [hr] at hr'
          cases hr'
      | some r =>
          dsimp only
          have hfine : (∀ p', some p = some p' → ∃ r', f.remoteport p' = some r' ∧
              ((routerTables (f.node (f.port r').node)).isSome → (f.port r').portnum < 37)) ↔
              ((routerTables (f.node (f.port r).node)).isSome → (f.port r).portnum < 37) := by
            constructor
            · intro h
              obtain ⟨r', hr', hin⟩ := h p rfl
              rw [hr] at hr'
              cases hr'
              exact hin
            · intro h p' hp'
              cases hp'
              exact ⟨r, hr, h⟩
          rw [hfine]
          split
          · exact safe_getRouterSlot
          · next hspine =>
              exact iff_of_true safe_ok fun h => absurd (isSpine_of_routerTables h) hspine

theorem safe_spinePort (hk : k ∈ f.portNumbers n) :
    Safe BadRead (f.spinePort n g k) ↔ SpinePortFine f n g k := by
  unfold spinePort SpinePortFine
  rw [slot_of_mem hk, ok_bind]
  cases hp : (f.node n).ports k with
  | none => simp
  | some p =>
      dsimp only
      cases hr : f.remoteport p with
      | none =>
          refine iff_of_true safe_ok ?_
          intro p' r hp' hr'
          cases hp'
          rw [hr] at hr'
          cases hr'
      | some r =>
          have hfine : (∀ p' r', some p = some p' → f.remoteport p' = some r' →
              f.externalSpinePort n p' = false → SpineCableFine f n g p' r') ↔
              (f.externalSpinePort n p = false → SpineCableFine f n g p r) := by
            constructor
            · intro h
              exact h p r rfl hr
            · intro h p' r' hp' hr'
              cases hp'
              rw [hr] at hr'
              cases hr'
              exact h
          rw [hfine]
          dsimp only
          by_cases hext : f.externalSpinePort n p = true
          · rw [if_pos hext]
            refine iff_of_true safe_ok fun h => ?_
            rw [hext] at h
            cases h
          · rw [if_neg hext, forall_prop_of_true (Bool.not_eq_true _ ▸ hext)]
            by_cases htype : (f.node (f.port r).node).type = ibNodeSwitch
            · rw [if_neg (not_not.mpr htype)]
              by_cases hct : (g.ch n).chType = .unresolvedCt
              · rw [if_pos hct, safe_getSfbSlot]
                exact ⟨fun h => ⟨fun hne => absurd htype hne, fun _ _ => h⟩,
                  fun h => h.line htype hct⟩
              · rw [if_neg hct]
                exact iff_of_true safe_ok ⟨fun hne => absurd htype hne, fun _ h => absurd h hct⟩
            · rw [if_pos htype]
              by_cases hfound : (g.ch (f.port r).node).chFound = true
              · rw [if_pos hfound]
                refine iff_of_true safe_ok ⟨fun _ hnot => ?_, fun h => absurd h htype⟩
                rw [hfound] at hnot
                cases hnot
              · rw [if_neg hfound, safe_getRouterSlot]
                rw [Bool.not_eq_true] at hfound
                exact ⟨fun h => ⟨fun _ _ => h, fun h => absurd h htype⟩,
                  fun h => h.router htype hfound⟩

theorem safe_linePorts {ks : List Nat} (hks : ∀ k ∈ ks, k ∈ f.portNumbers n) :
    Safe BadRead (f.linePorts n g ks) ↔ ∀ r, ks.findSome? (f.lineCable n) = some r →
      (slbTables (f.node (f.port r).node)).isSome → (f.port r).portnum < 37 := by
  induction ks with
  | nil => exact iff_of_true safe_ok (by simp)
  | cons k ks ih =>
      have hrest := ih fun j hj => hks j (List.mem_cons_of_mem k hj)
      rw [linePorts, slot_of_mem (hks k List.mem_cons_self), ok_bind, List.findSome?_cons]
      unfold lineCable at *
      cases hp : (f.node n).ports k with
      | none => simpa using hrest
      | some p =>
          dsimp only [Option.bind_some]
          cases hr : f.remoteport p with
          | none => simpa using hrest
          | some r =>
              dsimp only
              by_cases hext : f.externalLinePort n p = true
              · rw [if_pos hext, if_pos hext]
                exact hrest
              · rw [if_neg hext, if_neg hext, safe_getSlbSlot]
                simp

theorem safe_portMapAt {ports chipnum portnum : Nat} {map : PortMap ports} (hchip : chipnum < 2)
    (hport : portnum < ports) : Safe BadRead (portMapAt map chipnum portnum) := by
  unfold portMapAt
  exact safe_bind.mpr ⟨safe_tableAt.mpr hchip, fun _ _ => safe_tableAt.mpr hport⟩

/-- The boards with 24 ports are none of those with 36. -/
theorem small_line {node : Node} (h : node.isLine24 = true ∨ node.isLine2024 = true) :
    node.isLine4700 = false ∧ node.isSpine4700x2 = false := by
  simp only [Node.isLine24, Node.isLine2024, Node.isLine4700, Node.isSpine4700x2, Bool.or_eq_true,
    decide_eq_true_eq, decide_eq_false_iff_not] at h ⊢
  rcases h with ((h | h) | h) | h <;> rw [h] <;> decide

/-- The external port maps are never left. -/
theorem safe_extPortnum : Safe BadRead (f.extPortnum g p) := by
  unfold extPortnum
  dsimp only
  generalize f.node (f.port p).node = node
  generalize g.ch (f.port p).node = info
  generalize (f.port p).portnum = portnum
  split
  · exact safe_ok
  · split
    · exact safe_ok
    · next hport =>
        split
        · exact safe_ok
        · next hchip =>
            have hchips : info.chAnafanum.toNat - 1 < 2 := by
              simp only [Bool.or_eq_true, decide_eq_true_eq, not_or, UInt8.lt_iff_toNat_lt] at hchip
              have htop : ¬ 2 < info.chAnafanum.toNat := hchip.2
              omega
            simp only [Bool.or_eq_true, Bool.and_eq_true, decide_eq_true_eq, Bool.not_eq_true',
              not_or, not_and] at hport
            have hsmall : node.isLine4700 = false ∧ node.isSpine4700x2 = false → portnum < 25 := by
              intro h
              have hle := (hport.2 h).2
              omega
            have hlarge : portnum < 37 := by
              by_cases h : node.isLine4700 = true ∨ node.isSpine4700x2 = true
              · have hle := (hport.1 h).2
                omega
              · rw [not_or, Bool.not_eq_true, Bool.not_eq_true] at h
                exact Nat.lt_of_lt_of_le (hsmall h) (by decide)
            split
            · next h => exact safe_portMapAt hchips (hsmall (small_line (.inl h)))
            · split
              · next h => exact safe_portMapAt hchips (hsmall (small_line (.inr h)))
              · split
                · exact safe_tableAt.mpr hlarge
                · next hline =>
                    split
                    · exact safe_portMapAt hchips hlarge
                    · next hspine =>
                        rw [Bool.not_eq_true] at hline hspine
                        exact safe_portMapAt hchips (hsmall ⟨hline, hspine⟩)

theorem safe_mapPort (hk : k ∈ f.portNumbers n) : Safe BadRead (f.mapPort n g k) := by
  unfold mapPort
  rw [slot_of_mem hk, ok_bind]
  split
  · exact safe_ok
  · exact safe_bind.mpr ⟨safe_extPortnum, fun _ _ => safe_ok⟩

/-- The rounds of the loop over the cables of a board, in the states they are reached in. -/
def SlotFine (f : Fabric) (g : Grouping) (n : NodeRef) : Prop :=
  if (f.node n).isRouter then Folds.Along (f.routerPort n) (RouterPortFine f n) g (f.portNumbers n)
  else if (f.node n).isSpine then Folds.Along (f.spinePort n) (SpinePortFine f n) g (f.portNumbers n)
  else (f.node n).isLine → LinePortsFine f n

theorem safe_fillSlot : Safe BadRead (f.fillSlot g n) ↔ SlotFine f g n := by
  unfold fillSlot SlotFine
  split
  · exact safe_foldlM (fun _ _ hk => safe_routerPort hk) g
  · split
    · exact safe_foldlM (fun _ _ hk => safe_spinePort hk) g
    · split
      · next hline =>
          rw [safe_linePorts fun _ hk => hk, forall_prop_of_true hline]
          rfl
      · next hline => exact iff_of_true safe_ok fun h => absurd h hline

/-- A switch of Voltaire that is not marked as found yet reads only what is there. -/
def RecordFine (f : Fabric) (g : Grouping) (n : NodeRef) : Prop :=
  (f.node n).vendid = vtrVendorId → (g.ch n).chFound = false →
    SlotFine f (g.modifyCh n fun info => { info with chFound := true }) n

theorem safe_voltaire : Safe BadRead (f.fillVoltaireChassisRecord g n) ↔
    ((g.ch n).chFound = false →
      SlotFine f (g.modifyCh n fun info => { info with chFound := true }) n) := by
  unfold fillVoltaireChassisRecord
  by_cases hfound : (g.ch n).chFound = true
  · rw [if_pos hfound]
    refine iff_of_true safe_ok fun h => ?_
    rw [hfound] at h
    cases h
  · rw [if_neg hfound, forall_prop_of_true (Bool.not_eq_true _ ▸ hfound), ← safe_fillSlot, safe_bind]
    exact and_iff_left fun g' _ => safe_foldlM_of_forall (fun _ _ hk => safe_mapPort hk) g'

theorem safe_outOfBounds {α : Type} : Safe BadRead (.error .outOfBounds : Except Fault α) :=
  safe_of_outOfBounds fun _ h => by cases h; rfl

theorem safe_slot : Safe BadRead (f.slot n k) := by
  unfold slot
  split
  · exact safe_ok
  · exact safe_outOfBounds

theorem safe_scanTo (separators text : Bytes) : Safe BadRead (scanTo separators text) := by
  induction text with
  | nil => exact safe_outOfBounds
  | cons c rest ih =>
      rw [scanTo]
      split
      · exact safe_ok
      · exact safe_bind.mpr ⟨ih, fun _ _ => safe_ok⟩

theorem safe_parseNodeIndex (systemType systemSlotName text : Bytes) :
    Safe BadRead (parseNodeIndex systemType systemSlotName text) := by
  unfold parseNodeIndex
  split
  · exact safe_outOfBounds
  · split
    · exact safe_ok
    · refine safe_bind.mpr ⟨?_, fun _ _ => safe_ok⟩
      unfold byteOfString
      exact safe_ite safe_outOfBounds safe_ok

theorem safe_parseNodeDesc (text : Bytes) : Safe BadRead (parseNodeDesc text) := by
  unfold parseNodeDesc
  split
  · exact safe_ok
  · refine safe_bind.mpr ⟨safe_scanTo _ _, fun name _ => ?_⟩
    split
    split
    · exact safe_ok
    · refine safe_bind.mpr ⟨safe_scanTo _ _, fun type _ => ?_⟩
      split
      split
      · exact safe_ok
      · refine safe_bind.mpr ⟨safe_scanTo _ _, fun slotName _ => ?_⟩
        split
        split
        · exact safe_ok
        · unfold parseBoardType
          split
          · refine safe_bind.mpr ⟨safe_scanTo _ _, fun boardType _ => ?_⟩
            split
            split
            · exact safe_ok
            · exact safe_parseNodeIndex _ _ _
          · exact safe_parseNodeIndex _ _ _

theorem safe_mapMellanoxPort : Safe BadRead (f.mapMellanoxPort n g k) := by
  unfold mapMellanoxPort
  refine safe_bind.mpr ⟨safe_slot, fun port _ => ?_⟩
  split
  · exact safe_ok
  · exact safe_ok

theorem safe_mellanox : Safe BadRead (f.fillMellanoxChassisRecord g n) := by
  unfold fillMellanoxChassisRecord
  split
  · exact safe_ok
  · split
    · exact safe_ok
    · refine safe_bind.mpr ⟨safe_parseNodeDesc _, fun desc _ => ?_⟩
      split
      · exact safe_ok
      · dsimp only
        split
        · exact safe_ok
        · unfold setMellanoxSlot
          dsimp only
          split
          · exact safe_ok
          · split
            · exact safe_foldlM_of_forall (fun _ _ _ => safe_mapMellanoxPort) _
            · exact safe_ok

theorem safe_fillRecord : Safe BadRead (f.fillRecord g n) ↔ RecordFine f g n := by
  unfold fillRecord RecordFine
  by_cases hvendor : (f.node n).vendid = vtrVendorId
  · rw [if_pos hvendor, forall_prop_of_true hvendor]
    exact safe_voltaire
  · rw [if_neg hvendor]
    refine iff_of_true ?_ fun h => absurd h hvendor
    split
    · exact safe_mellanox
    · exact safe_ok

theorem safe_getChassisguid : Safe BadRead (f.getChassisguid n) := by
  unfold getChassisguid
  dsimp only
  split
  · exact safe_ok
  · split
    · unfold xsigoChassisguid
      dsimp only
      split
      · exact safe_ok
      · refine safe_bind.mpr ⟨safe_slot, fun port _ => ?_⟩
        split
        · exact safe_ok
        · split
          · exact safe_ok
          · exact safe_ok
    · exact safe_ok

theorem safe_findChassisguid : Safe BadRead (f.findChassisguid g n) :=
  safe_bind.mpr ⟨safe_getChassisguid, fun _ _ => safe_ok⟩

theorem safe_countRound : Safe BadRead (f.countRound g n) := by
  unfold countRound
  split
  · exact safe_ok
  · refine safe_bind.mpr ⟨safe_findChassisguid, fun found _ => ?_⟩
    split
    · exact safe_ok
    · exact safe_bind.mpr ⟨safe_getChassisguid, fun _ _ => safe_ok⟩

theorem safe_slotIndex {size i : Nat} : Safe BadRead (slotIndex size i) :=
  safe_ite safe_ok safe_outOfBounds

theorem safe_insertMellanox {c : ChassisRef} :
    Safe BadRead (insertMellanoxLineAndSpine g n c) := by
  unfold insertMellanoxLineAndSpine
  dsimp only
  split
  · exact safe_bind.mpr ⟨safe_slotIndex, fun _ _ => safe_ok⟩
  · exact safe_bind.mpr ⟨safe_slotIndex, fun _ _ => safe_ok⟩
  · exact safe_ok

theorem safe_groupRound : Safe BadRead (f.groupRound g n) := by
  unfold groupRound
  split
  · exact safe_ok
  · refine safe_bind.mpr ⟨safe_findChassisguid, fun found _ => ?_⟩
    split
    · exact safe_ok
    · split
      · exact safe_ite safe_ok (safe_ite safe_insertMellanox safe_ok)
      · exact safe_ok

section SecondPass
variable {c : ChassisRef}

theorem safe_minusOne {α : Type} : Safe BadReadIn (.error none : GroupM α) := by
  rintro e ⟨fault, rfl, -⟩ h
  cases h

theorem safe_insertSpine : Safe BadReadIn (f.insertSpine g n c) := by
  unfold insertSpine
  split
  · exact safe_minusOne
  · exact safe_ok

theorem safe_insertLineRouter : Safe BadReadIn (f.insertLineRouter g n c) := by
  unfold insertLineRouter
  split
  · exact safe_minusOne
  · exact safe_ok

theorem safe_catchSpine : Safe BadReadIn (f.catchSpine c n g k) := by
  unfold catchSpine
  refine safe_bind.mpr ⟨safe_orFault.mpr safe_slot, fun port _ => ?_⟩
  split
  · exact safe_ok
  · split
    · exact safe_ok
    · exact safe_ite safe_ok safe_insertSpine

theorem safe_catchLine : Safe BadReadIn (f.catchLine c n g k) := by
  unfold catchLine
  refine safe_bind.mpr ⟨safe_orFault.mpr safe_slot, fun port _ => ?_⟩
  split
  · exact safe_ok
  · split
    · exact safe_ok
    · exact safe_ite safe_ok safe_insertLineRouter

theorem safe_firstLine : Safe BadReadIn (f.firstLine c n g k) := by
  unfold firstLine
  refine safe_bind.mpr ⟨safe_orFault.mpr safe_slot, fun port _ => ?_⟩
  split
  · exact safe_ok
  · split
    · exact safe_ok
    · split
      · exact safe_ok
      · split
        · exact safe_ok
        · exact safe_ok

theorem safe_passOnLines : Safe BadReadIn (f.passOnLinesCatchSpines g c) := by
  refine safe_foldlM_of_forall (fun g i _ => ?_) g
  unfold passOnLine
  split
  · exact safe_ok
  · exact safe_ite (safe_foldlM_of_forall (fun _ _ _ => safe_catchSpine) _) safe_ok

theorem safe_passOnSpines : Safe BadReadIn (f.passOnSpinesCatchLines g c) := by
  refine safe_foldlM_of_forall (fun g i _ => ?_) g
  unfold passOnSpine
  split
  · exact safe_ok
  · exact safe_foldlM_of_forall (fun _ _ _ => safe_catchLine) _

theorem safe_buildChassis : Safe BadReadIn (f.buildChassis g n c) := by
  unfold buildChassis
  refine safe_bind.mpr ⟨safe_insertSpine, fun _ _ => ?_⟩
  refine safe_bind.mpr ⟨safe_foldlM_of_forall (fun _ _ _ => safe_firstLine) _, fun _ _ => ?_⟩
  refine safe_bind.mpr ⟨safe_passOnLines, fun _ _ => ?_⟩
  refine safe_bind.mpr ⟨safe_passOnSpines, fun _ _ => ?_⟩
  refine safe_bind.mpr ⟨safe_passOnLines, fun _ _ => ?_⟩
  exact safe_bind.mpr ⟨safe_passOnSpines, fun _ _ => safe_ok⟩

theorem safe_buildRound : Safe BadReadIn (f.buildRound g n) :=
  safe_ite safe_ok (safe_ite safe_ok safe_buildChassis)

end SecondPass

/-- `group_nodes` reads only what is there if and only if the first pass does, board by board, in
the states the boards are reached in. -/
theorem groupNodes_safe_iff (f : Fabric) :
    (∀ fault, fault = .nullDeref ∨ fault = .tableIndex → f.groupNodes ≠ .error (some fault)) ↔
      Folds.Along f.fillRecord (RecordFine f) .blank f.switches := by
  have hfaults : (∀ fault, BadRead fault → f.groupNodes ≠ .error (some fault)) ↔
      Safe BadReadIn f.groupNodes := by
    constructor
    · rintro h e ⟨fault, rfl, hbad⟩
      exact h fault hbad
    · intro h fault hbad
      exact h _ ⟨fault, rfl, hbad⟩
  have hpass : Safe BadRead (f.switches.foldlM f.fillRecord .blank) ↔
      Folds.Along f.fillRecord (RecordFine f) .blank f.switches :=
    safe_foldlM (fun _ _ _ => safe_fillRecord) .blank
  refine hfaults.trans ?_
  rw [← hpass]
  unfold groupNodes
  rw [safe_bind, safe_orFault]
  refine and_iff_left fun g₁ _ => ?_
  refine safe_bind.mpr ⟨safe_foldlM_of_forall (fun _ _ _ => safe_buildRound) _, fun g₂ _ => ?_⟩
  refine safe_bind.mpr
    ⟨safe_orFault.mpr (safe_foldlM_of_forall (fun _ _ _ => safe_countRound) _), fun g₃ _ => ?_⟩
  exact safe_bind.mpr
    ⟨safe_orFault.mpr (safe_foldlM_of_forall (fun _ _ _ => safe_groupRound) _), fun _ _ => safe_ok⟩

end Fabric

/-- A router board whose port is down. -/
def uncabledRouter : Fabric :=
  boardFabric [boardNode 0 1 (boardInfo vtrVendorId vtrDevidIbIpRouter 0) []] []

/-- A spine board cabled to port 40 of another switch. -/
def spineAtPort40 : Fabric :=
  boardFabric [boardNode 0 1 (boardInfo vtrVendorId vtrDevidSfb4 0) [],
    boardNode 1 40 (boardInfo mlxVendorId 0 0) []] [(1, 296)]

theorem groupNodes_faults :
    uncabledRouter.groupNodes = .error (some .nullDeref) ∧
      spineAtPort40.groupNodes = .error (some .tableIndex) := by
  constructor
  · have hrouter : faultOf uncabledRouter.groupNodes = some (some .nullDeref) := by
      decide +kernel
    exact faultOf_eq_some.mp hrouter
  · have hspine : faultOf spineAtPort40.groupNodes = some (some .tableIndex) := by
      decide +kernel
    exact faultOf_eq_some.mp hspine

end InfinibandDiags
