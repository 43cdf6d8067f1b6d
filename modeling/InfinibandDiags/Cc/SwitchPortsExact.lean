import InfinibandDiags.Cc.SwitchPorts
import InfinibandDiags.Mad.SetFields
import InfinibandDiags.Rpc.Result

/-! Which ports ibccconfig sets without harm to another. -/
namespace InfinibandDiags

section Elements
variable {sw : CcSwitch} {s : Ibccconfig.PortSetting}

/-- The parameters are in range. -/
structure Ibccconfig.PortSetting.InWidth (s : Ibccconfig.PortSetting) : Prop where
  valid : s.valid < 2
  controlType : s.controlType < 2
  threshold : s.threshold < 16
  packetSize : s.packetSize < 256
  congParmMarkingRate : s.congParmMarkingRate < 65536

/-- The fields with their new values. -/
def Ibccconfig.PortSetting.writes (s : Ibccconfig.PortSetting) : List (IbField × Nat) :=
  [(bitsOffs 0 1, s.valid), (bitsOffs 1 1, s.controlType), (bitsOffs 4 4, s.threshold),
    (bitsOffs 8 8, s.packetSize), (bitsOffs 16 16, s.congParmMarkingRate)]

def Ibccconfig.PortSetting.fields (s : Ibccconfig.PortSetting) : List Nat :=
  [s.valid, s.controlType, s.threshold, s.packetSize, s.congParmMarkingRate]

theorem tableField_setting :
    tableField ibCcSwitchPortCongestionSettingElementValid = bitsOffs 0 1 ∧
    tableField ibCcSwitchPortCongestionSettingElementControlType = bitsOffs 1 1 ∧
    tableField ibCcSwitchPortCongestionSettingElementThreshold = bitsOffs 4 4 ∧
    tableField ibCcSwitchPortCongestionSettingElementPacketSize = bitsOffs 8 8 ∧
    tableField ibCcSwitchPortCongestionSettingElementCongParmMarkingRate = bitsOffs 16 16 := by
  simp only [tableField_parts]
  decide +kernel

namespace Ibccconfig

theorem encodeUint32_eq {ptr : Bytes} {field value : Nat} (hfield : field ≠ 0)
    (hlen : (tableField field).bitlen ≤ 32) (hvalue : value < 2 ^ 32) :
    encodeUint32 ptr field value = setField ptr 0 (tableField field) value := by
  have hhost : hostInt (LittleEndian.toBytes 4 value) 4 = value := by
    have hbytes := bytesAt_length_self (LittleEndian.toBytes 4 value)
    rw [LittleEndian.length_toBytes] at hbytes
    rw [hostInt, hbytes, LittleEndian.ofBytes_toBytes hvalue]
  rw [encodeUint32, madEncodeField, if_neg hfield, encodeField, if_pos hlen, hhost]

theorem encodeSetting_eq (ptr : Bytes) (h : s.InWidth) :
    encodeSetting ptr s = setFields ptr s.writes := by
  obtain ⟨hvalid, hcontrol, hthreshold, hsize, hrate⟩ := tableField_setting
  have h1 := h.valid
  have h2 := h.controlType
  have h3 := h.threshold
  have h4 := h.packetSize
  have h5 := h.congParmMarkingRate
  rw [encodeSetting, encodeUint32_eq (by decide) (by rw [hrate]; decide) (by omega),
    encodeUint32_eq (by decide) (by rw [hsize]; decide) (by omega),
    encodeUint32_eq (by decide) (by rw [hthreshold]; decide) (by omega),
    encodeUint32_eq (by decide) (by rw [hcontrol]; decide) (by omega),
    encodeUint32_eq (by decide) (by rw [hvalid]; decide) (by omega), hvalid, hcontrol, hthreshold,
    hsize, hrate, setFields, PortSetting.writes]
  simp only [List.foldl_cons, List.foldl_nil]

end Ibccconfig

/-- The field lies in the first four bytes: the rest of the buffer is not touched. -/
def InElement (f : IbField) : Prop :=
  ∀ x rest : Bytes, x.length = 4 → ∀ val,
    setField (x ++ rest) 0 f val = setField x 0 f val ++ rest

theorem writes_inElement (s : Ibccconfig.PortSetting) : ∀ w ∈ s.writes, InElement w.1 := by
  have hall : InElement (bitsOffs 0 1) ∧ InElement (bitsOffs 1 1) ∧ InElement (bitsOffs 4 4) ∧
      InElement (bitsOffs 8 8) ∧ InElement (bitsOffs 16 16) := by
    refine ⟨?_, ?_, ?_, ?_, ?_⟩ <;> intro x rest hx val <;>
      obtain ⟨a, b, c, d, rfl⟩ := List.length_eq_four.mp hx <;> rfl
  simpa [Ibccconfig.PortSetting.writes] using hall

theorem setFields_append {ws : List (IbField × Nat)} (h : ∀ w ∈ ws, InElement w.1) {x : Bytes}
    (hx : x.length = 4) (rest : Bytes) : setFields (x ++ rest) ws = setFields x ws ++ rest := by
  induction ws generalizing x with
  | nil => rfl
  | cons w ws ih =>
      have hfirst := h w List.mem_cons_self x rest hx w.2
      have hlen : (setField x 0 w.1 w.2).length = 4 := by rw [setField_length, hx]
      rw [setFields, List.foldl_cons, hfirst]
      exact ih (fun v hv => h v (List.mem_cons_of_mem w hv)) hlen

theorem elementFields_element (x : PortElement) (rest : Bytes) :
    Ibccquery.elementFields (x.bytes ++ rest) = Ibccquery.elementFields x.bytes := by
  obtain ⟨a, b, c, d, hbytes⟩ := List.length_eq_four.mp x.length_eq
  rw [hbytes]
  rfl

namespace PortElement

def set (x : PortElement) (s : Ibccconfig.PortSetting) : PortElement where
  bytes := setFields x.bytes s.writes
  length_eq := by rw [setFields_length, x.length_eq]

def fields (x : PortElement) : List Nat := Ibccquery.elementFields x.bytes

theorem fieldsFit (x : PortElement) (h : s.InWidth) : FieldsFit x.bytes s.writes where
  regular := by
    simp only [Ibccconfig.PortSetting.writes, List.forall_mem_cons]
    decide
  holds := by
    simp only [Ibccconfig.PortSetting.writes, List.forall_mem_cons, HoldsWords, x.length_eq]
    decide
  inRange := by
    simp only [Ibccconfig.PortSetting.writes, List.forall_mem_cons]
    exact ⟨h.valid, h.controlType, h.threshold, h.packetSize, h.congParmMarkingRate,
      fun w hw => absurd hw List.not_mem_nil⟩
  apart := by
    simp only [Ibccconfig.PortSetting.writes, List.pairwise_cons, List.forall_mem_cons]
    decide

/-- What is set is read. -/
theorem fields_set (x : PortElement) (h : s.InWidth) : (x.set s).fields = s.fields := by
  have hread : s.writes.map (fun w => getField (setFields x.bytes s.writes) 0 w.1) =
      s.writes.map Prod.snd :=
    List.map_congr_left fun w hw => getField_setFields (x.fieldsFit h) hw
  exact hread

end PortElement

/-- What is done from the first byte of an element on, where only this element is changed. -/
theorem atOffset_flatMap {xs : List PortElement} {e : Nat} (he : e < xs.length)
    {f : Bytes → Bytes} {g : PortElement → PortElement}
    (h : ∀ (x : PortElement) (rest : Bytes), f (x.bytes ++ rest) = (g x).bytes ++ rest) :
    Ibccconfig.atOffset (xs.flatMap PortElement.bytes) (e * 4) f =
      (xs.modify e g).flatMap PortElement.bytes := by
  have hdrop : xs.drop e = xs.get ⟨e, he⟩ :: xs.drop (e + 1) := List.drop_eq_getElem_cons he
  rw [Ibccconfig.atOffset, Paged.take_flatMap PortElement.length_eq,
    Paged.drop_flatMap PortElement.length_eq, hdrop, List.flatMap_cons, h,
    List.modify_eq_take_cons_drop he, List.flatMap_append, List.flatMap_cons]
  rfl

/-- The elements of a block are taken off its bytes again. -/
theorem ofBytes_flatMap (xs : List PortElement) :
    (List.range xs.length).map (PortElement.ofBytes (xs.flatMap PortElement.bytes)) = xs := by
  apply List.ext_getElem
  · rw [List.length_map, List.length_range]
  · intro i hi hi'
    rw [List.getElem_map, List.getElem_range]
    have hdrop : (xs.flatMap PortElement.bytes).drop (4 * i) =
        xs[i].bytes ++ (xs.drop (i + 1)).flatMap PortElement.bytes := by
      rw [Nat.mul_comm, Paged.drop_flatMap PortElement.length_eq, List.drop_eq_getElem_cons hi',
        List.flatMap_cons]
    have hlen := congrArg List.length hdrop
    rw [List.length_drop, List.length_append, xs[i].length_eq] at hlen
    have hbytes : bytesAt (xs.flatMap PortElement.bytes) (4 * i) 4 = xs[i].bytes := by
      rw [bytesAt_eq_take_drop (by omega), hdrop, ← xs[i].length_eq, List.take_left]
    exact PortElement.ext hbytes

namespace CcSwitch

/-- What ibccquery reads off a block. -/
theorem elementFields_block (sw : CcSwitch) (b : Nat) {j : Nat} (hj : j < 48) :
    Ibccquery.elementFields ((sw.block b).drop (j * 4)) = (sw.table (48 * b + j)).fields := by
  have hget : (Paged.page 48 sw.table b).drop j =
      sw.table (48 * b + j) :: (Paged.page 48 sw.table b).drop (j + 1) := by
    have hlen : j < (Paged.page 48 sw.table b).length := by rwa [Paged.length_page]
    have hcell : (Paged.page 48 sw.table b)[j]? = some (sw.table (48 * b + j)) :=
      Paged.getElem?_page hj
    rw [List.drop_eq_getElem_cons hlen]
    rw [List.getElem?_eq_getElem hlen, Option.some.injEq] at hcell
    rw [hcell]
  rw [block, Paged.drop_flatMap PortElement.length_eq, hget, List.flatMap_cons,
    elementFields_element, PortElement.fields]

theorem setBlock_table_eq (sw : CcSwitch) (w : Nat) (payload : Bytes) :
    (sw.setBlock w payload).table =
      Paged.store 48 sw.table w ((List.range 48).map (PortElement.ofBytes payload)) := rfl

/-- Element `e` of block `r` is set, and the block stored as block `w`. -/
theorem setBlock_table (sw : CcSwitch) (r w : Nat) {e : Nat} (he : e < 48) (h : s.InWidth)
    (q : Nat) :
    (sw.setBlock w (Ibccconfig.atOffset (sw.block r) (e * 4) fun ptr =>
        Ibccconfig.encodeSetting ptr s)).table q =
      if q / 48 = w then
        if q % 48 = e then (sw.table (48 * r + e)).set s else sw.table (48 * r + q % 48)
      else sw.table q := by
  have hone : ∀ (x : PortElement) (rest : Bytes),
      Ibccconfig.encodeSetting (x.bytes ++ rest) s = (x.set s).bytes ++ rest := by
    intro x rest
    rw [Ibccconfig.encodeSetting_eq _ h, setFields_append (writes_inElement s) x.length_eq]
    rfl
  have hlen : e < (Paged.page 48 sw.table r).length := by rwa [Paged.length_page]
  have hcells : (List.range 48).map (PortElement.ofBytes
      (((Paged.page 48 sw.table r).modify e (PortElement.set · s)).flatMap PortElement.bytes)) =
        (Paged.page 48 sw.table r).modify e (PortElement.set · s) := by
    have hcells := ofBytes_flatMap ((Paged.page 48 sw.table r).modify e (PortElement.set · s))
    rwa [List.length_modify, Paged.length_page] at hcells
  have hpayload : Ibccconfig.atOffset (sw.block r) (e * 4)
      (fun ptr => Ibccconfig.encodeSetting ptr s) =
        ((Paged.page 48 sw.table r).modify e (PortElement.set · s)).flatMap PortElement.bytes :=
    atOffset_flatMap hlen hone
  rw [hpayload, setBlock_table_eq, hcells]
  exact Paged.store_modify_apply (by decide) r w e _ q

end CcSwitch

end Elements

namespace Ibccquery
variable {sw : CcSwitch}

/-- The first `n` ports with their fields. -/
def listing (sw : CcSwitch) (n : Nat) : List (Nat × List Nat) :=
  (List.range n).map fun q => (q, (sw.table q).fields)

theorem length_listing (sw : CcSwitch) (n : Nat) : (listing sw n).length = n := by
  rw [listing, List.length_map, List.length_range]

theorem listing_succ (sw : CcSwitch) (n : Nat) :
    listing sw (n + 1) = listing sw n ++ [(n, (sw.table n).fields)] := by
  rw [listing, List.range_succ, List.map_append, List.map_singleton, listing]

theorem portLoop_eq {i left j : Nat} (hj : j + left = 48) (hports : 48 * i + j ≤ sw.numPorts + 1) :
    portLoop sw.numPorts i (sw.block i) left j (listing sw (48 * i + j)) =
      listing sw (min (48 * i + 48) (sw.numPorts + 1)) := by
  induction left generalizing j with
  | zero =>
      have hend : min (48 * i + 48) (sw.numPorts + 1) = 48 * i + j := by omega
      rw [portLoop, hend]
  | succ left ih =>
      rw [portLoop, length_listing]
      by_cases hmore : 48 * i + j ≤ sw.numPorts
      · have hnext : listing sw (48 * i + j) ++
            [(i * 48 + j, elementFields ((sw.block i).drop (j * 4)))] =
              listing sw (48 * i + (j + 1)) := by
          rw [sw.elementFields_block i (by omega), Nat.mul_comm i 48, ← Nat.add_assoc, listing_succ]
        rw [if_pos hmore, hnext]
        exact ih (by omega) (by omega)
      · have hend : min (48 * i + 48) (sw.numPorts + 1) = 48 * i + j := by omega
        rw [if_neg hmore, hend]

theorem blockLoop_eq {i left : Nat} (hi : i + left = sw.numPorts / 48 + 1) :
    blockLoop sw left i (listing sw (min (48 * i) (sw.numPorts + 1))) =
      .ok (listing sw (sw.numPorts + 1)) := by
  induction left generalizing i with
  | zero =>
      have hend : min (48 * i) (sw.numPorts + 1) = sw.numPorts + 1 := by omega
      rw [blockLoop, hend]
  | succ left ih =>
      have hbelow : 48 * i ≤ sw.numPorts := by omega
      have hstart : min (48 * i) (sw.numPorts + 1) = 48 * i + 0 := by omega
      have hanswer : ¬ sw.answers i = false := by
        rw [sw.answers_own i hbelow]
        exact Bool.noConfusion
      rw [blockLoop, if_neg hanswer, hstart, portLoop_eq (by omega) (by omega)]
      exact ih (by omega)

/-- ibccquery prints the fields of the port's own element. -/
theorem switchPortCongestionSetting_reads (htype : sw.nodeType = ibNodeSwitch) {p : Nat}
    (hp : p ≤ sw.numPorts) :
    ∃ out, switchPortCongestionSetting sw p = .ok out ∧
      out.lookup p = some (sw.table p).fields := by
  rw [switchPortCongestionSetting, if_neg (not_not_intro htype)]
  by_cases hall : p = 0
  · subst hall
    refine ⟨listing sw (sw.numPorts + 1), ?_, ?_⟩
    · rw [if_neg (not_not_intro rfl)]
      exact blockLoop_eq (i := 0) (Nat.zero_add _)
    · rw [listing, List.range_succ_eq_map, List.map_cons, List.lookup_cons_self]
  · have hanswer : ¬ sw.answers (p / 48) = false := by
      rw [sw.answers_own (p / 48) (by omega)]
      exact Bool.noConfusion
    refine ⟨_, by rw [if_pos hall, if_neg (Nat.not_lt.mpr hp), if_neg hanswer], ?_⟩
    rw [List.lookup_cons_self, sw.elementFields_block _ (Nat.mod_lt p (by decide)), Nat.div_add_mod]

end Ibccquery

section Exact
variable {sw : CcSwitch} {argv : List Bytes} {p : Nat} {s : Ibccconfig.PortSetting}

/-- After a successful request port `p` reads back as it was set, and no other port has changed. -/
def UpdatesOnly (sw : CcSwitch) (argv : List Bytes) (p : Nat) (s : Ibccconfig.PortSetting) : Prop :=
  ∀ sw', Ibccconfig.switchPortCongestionSetting sw argv = .ok sw' →
    (∃ out, Ibccquery.switchPortCongestionSetting sw' p = .ok out ∧
      out.lookup p = some s.fields) ∧
    ∀ q ≤ sw.numPorts, q ≠ p → sw'.table q = sw.table q

/-- ibccconfig gives up: the node is no switch, has no such port, or does not answer for the block
that is read. -/
def GivesUp (sw : CcSwitch) (p : Nat) : Prop :=
  sw.nodeType ≠ ibNodeSwitch ∨ sw.numPorts < p ∨ sw.answers (p / 32) = false

/-- What is stored in place of the block of port `p` happens to be there already, with the setting
as that of `p`. -/
def HoldsAnyway (sw : CcSwitch) (p : Nat) (s : Ibccconfig.PortSetting) : Prop :=
  (p % 48 = p % 32 ∨ (sw.table (48 * (p / 32) + p % 48)).fields = s.fields) ∧
    ∀ q ≤ sw.numPorts, q ≠ p → q / 48 = p / 48 →
      sw.table q = if q % 48 = p % 32 then (sw.table (48 * (p / 32) + p % 32)).set s
        else sw.table (48 * (p / 32) + q % 48)

theorem holdsAnyway_of_lt (h : p < 32) : HoldsAnyway sw p s := by
  have hdiv : p / 32 = 0 := by omega
  refine ⟨.inl (by omega), fun q _ hne hpage => ?_⟩
  have hcell : q % 48 ≠ p % 32 := by omega
  have hself : 48 * (p / 32) + q % 48 = q := by omega
  rw [if_neg hcell, hself]

theorem switchPortCongestionSetting_updates
    (hargs : Ibccconfig.portSettingArgs argv = .ok (p, s)) (hwidth : s.InWidth)
    (h : ¬ GivesUp sw p) :
    ∃ sw', Ibccconfig.switchPortCongestionSetting sw argv = .ok sw' ∧
      sw'.nodeType = sw.nodeType ∧ sw'.numPorts = sw.numPorts ∧
      ∀ q, sw'.table q =
        if q / 48 = p / 48 then
          if q % 48 = p % 32 then (sw.table (48 * (p / 32) + p % 32)).set s
          else sw.table (48 * (p / 32) + q % 48)
        else sw.table q := by
  rw [GivesUp, not_or, not_or, not_not] at h
  obtain ⟨htype, hport, hanswer⟩ := h
  have hstored : ¬ sw.answers (p / 48) = false := by
    rw [sw.answers_own (p / 48) (by omega)]
    exact Bool.noConfusion
  rw [Ibccconfig.switchPortCongestionSetting, hargs]
  dsimp only [bind, Except.bind]
  rw [if_neg (not_not_intro htype), if_neg hport, if_neg hanswer, if_neg hstored]
  exact ⟨_, rfl, rfl, rfl, sw.setBlock_table _ _ (by omega) hwidth⟩

theorem switchPortCongestionSetting_error
    (hargs : Ibccconfig.portSettingArgs argv = .ok (p, s)) (h : GivesUp sw p) (sw' : CcSwitch) :
    Ibccconfig.switchPortCongestionSetting sw argv ≠ .ok sw' := by
  rw [Ibccconfig.switchPortCongestionSetting, hargs]
  dsimp only [bind, Except.bind]
  by_cases htype : sw.nodeType = ibNodeSwitch
  · rw [if_neg (not_not_intro htype)]
    by_cases hport : p > sw.numPorts
    · rw [if_pos hport]
      exact nofun
    · have hanswer : sw.answers (p / 32) = false := by
        rcases h with hno | hno | hno
        · exact absurd htype hno
        · exact absurd hno hport
        · exact hno
      rw [if_neg hport, if_pos hanswer]
      exact nofun
  · rw [if_pos htype]
    exact nofun

theorem updatesOnly_iff (hargs : Ibccconfig.portSettingArgs argv = .ok (p, s))
    (hwidth : s.InWidth) :
    UpdatesOnly sw argv p s ↔ GivesUp sw p ∨ p < 32 ∨ HoldsAnyway sw p s := by
  have hanyway : p < 32 ∨ HoldsAnyway sw p s ↔ HoldsAnyway sw p s :=
    or_iff_right_of_imp holdsAnyway_of_lt
  rw [hanyway]
  by_cases hgives : GivesUp sw p
  · exact iff_of_true
      (fun sw' hset => absurd hset (switchPortCongestionSetting_error hargs hgives sw')) (.inl hgives)
  · rw [or_iff_right hgives]
    obtain ⟨sw', hset, htype', hports', htable⟩ :=
      switchPortCongestionSetting_updates hargs hwidth hgives
    rw [GivesUp, not_or, not_or, not_not] at hgives
    obtain ⟨htype, hport, -⟩ := hgives
    have hown : (sw'.table p).fields = s.fields ↔
        p % 48 = p % 32 ∨ (sw.table (48 * (p / 32) + p % 48)).fields = s.fields := by
      rw [htable, if_pos rfl]
      by_cases hcell : p % 48 = p % 32
      · rw [if_pos hcell]
        exact iff_of_true (PortElement.fields_set _ hwidth) (.inl hcell)
      · rw [if_neg hcell, or_iff_right hcell]
    have hread : (∃ out, Ibccquery.switchPortCongestionSetting sw' p = .ok out ∧
        out.lookup p = some s.fields) ↔ (sw'.table p).fields = s.fields := by
      obtain ⟨out, hout, hlookup⟩ := Ibccquery.switchPortCongestionSetting_reads
        (htype'.trans htype) (hports'.symm ▸ Nat.not_lt.mp hport)
      rw [hout]
      simp only [Except.ok.injEq, exists_eq_left', hlookup, Option.some.injEq]
    have hothers : (∀ q ≤ sw.numPorts, q ≠ p → sw'.table q = sw.table q) ↔
        ∀ q ≤ sw.numPorts, q ≠ p → q / 48 = p / 48 →
          sw.table q = if q % 48 = p % 32 then (sw.table (48 * (p / 32) + p % 32)).set s
            else sw.table (48 * (p / 32) + q % 48) := by
      refine forall_congr' fun q => imp_congr_right fun _ => imp_congr_right fun _ => ?_
      rw [htable]
      by_cases hpage : q / 48 = p / 48
      · rw [if_pos hpage, eq_comm]
        exact ⟨fun h _ => h, fun h => h hpage⟩
      · rw [if_neg hpage]
        exact iff_of_true rfl fun h => absurd h hpage
    have hall : UpdatesOnly sw argv p s ↔ (sw'.table p).fields = s.fields ∧
        ∀ q ≤ sw.numPorts, q ≠ p → sw'.table q = sw.table q := by
      rw [UpdatesOnly, hset, ← hread]
      simp only [Except.ok.injEq, forall_eq']
    rw [hall, hown, hothers, HoldsAnyway]

/-- A switch with 36 ports and elements that are all zero. -/
def zeroSwitch : CcSwitch where
  nodeType := ibNodeSwitch
  numPorts := 36
  table _ := ⟨[0, 0, 0, 0], rfl⟩
  answers _ := true
  numPorts_le := by decide
  answers_own _ _ := rfl

/-- `5 1 0 15 2 3`. -/
theorem updatesOnly_port5 :
    UpdatesOnly zeroSwitch [[53], [49], [48], [49, 53], [50], [51]] 5 ⟨1, 0, 15, 2, 3⟩ :=
  (updatesOnly_iff (by decide +kernel) (by constructor <;> decide)).mpr (.inr (.inl (by decide)))

/-- `33 1 0 15 2 3`: the element of port 1 is set. -/
theorem not_updatesOnly_port33 :
    ¬ UpdatesOnly zeroSwitch [[51, 51], [49], [48], [49, 53], [50], [51]] 33 ⟨1, 0, 15, 2, 3⟩ := by
  intro h
  have hargs : Ibccconfig.portSettingArgs [[51, 51], [49], [48], [49, 53], [50], [51]] =
      .ok (33, ⟨1, 0, 15, 2, 3⟩) := by decide +kernel
  have hgives : ¬ GivesUp zeroSwitch 33 := by
    rintro (htype | hport | hanswer)
    · exact htype rfl
    · exact absurd hport (by decide)
    · cases hanswer
  obtain ⟨sw', hset, -, -, htable⟩ := switchPortCongestionSetting_updates hargs
    (by constructor <;> decide) hgives
  have hother := (h sw' hset).2 1 (by decide) (by decide)
  rw [htable 1] at hother
  exact absurd hother (by decide +kernel)

end Exact
end InfinibandDiags
