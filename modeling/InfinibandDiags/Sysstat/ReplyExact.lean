import InfinibandDiags.Sysstat.Reply

/-! Which replies of ibsysstat are whole. -/
namespace InfinibandDiags
namespace Ibsysstat

section Writes
variable {front rest text bytes mem : Bytes} {i : Nat}

/-- What is written takes the place of as many bytes. -/
theorem put_front (hroom : bytes.length ≤ rest.length) (hi : front.length = i) :
    put (front ++ rest) i bytes = .ok (front ++ (bytes ++ rest.drop bytes.length)) := by
  have hold : (rest.take bytes.length).length = bytes.length := by
    rw [List.length_take, Nat.min_eq_left hroom]
  have hwrite : Overwrite.write (front ++ rest.take bytes.length ++ rest.drop bytes.length)
      front.length bytes = _ := Overwrite.write_append hold
  rw [List.append_assoc, List.take_append_drop] at hwrite
  rw [put, ← hi, hwrite, List.append_assoc]

theorem strlen_text (htext : 0 ∉ text) (hi : front.length = i) :
    strlen (front ++ (text ++ 0 :: rest)) i = .ok text.length := by
  have hall : ∀ c ∈ text, decide (c ≠ 0) = true := fun c hc =>
    decide_eq_true fun h => htext (h ▸ hc)
  rw [strlen, List.drop_left' hi, if_pos (by simp), List.takeWhile_append_of_pos hall,
    List.takeWhile_cons_of_neg (by simp), List.append_nil]

theorem strlen_past (hrest : 0 ∉ rest) (hi : front.length = i) :
    strlen (front ++ rest) i = .error .outOfBounds := by
  rw [strlen, List.drop_left' hi, if_neg hrest]

theorem snprintf_front {sz : Nat} (hsz : rest.length = sz) (hpos : 0 < sz)
    (hi : front.length = i) :
    ∃ rest', snprintf (front ++ rest) i sz text =
        .ok (front ++ (text.take (sz - 1) ++ 0 :: rest')) ∧
      (text.take (sz - 1) ++ 0 :: rest').length = sz := by
  have hroom : (text.take (sz - 1) ++ [(0 : UInt8)]).length ≤ rest.length := by
    rw [List.length_append, List.length_take, List.length_singleton]
    omega
  refine ⟨rest.drop (text.take (sz - 1) ++ [(0 : UInt8)]).length, ?_, ?_⟩
  · rw [snprintf, if_neg hpos.ne', put_front hroom hi, List.append_assoc, List.singleton_append]
  · rw [List.append_cons, List.length_append, List.length_drop]
    omega

/-- A NUL in the last byte leaves the text in front of another one. -/
theorem put_last {sz : Nat} (hlen : (text ++ 0 :: rest).length = sz) :
    ∃ rest', put (text ++ 0 :: rest) (sz - 1) [0] = .ok (text ++ 0 :: rest') ∧
      (text ++ 0 :: rest').length = sz := by
  rcases List.eq_nil_or_concat rest with rfl | ⟨init, b, rfl⟩
  · have hlast : text.length = sz - 1 := by
      rw [← hlen, List.length_append, List.length_singleton, Nat.add_sub_cancel]
    exact ⟨[], put_front (le_refl 1) hlast, hlen⟩
  · have hlast : (text ++ 0 :: init).length = sz - 1 := by
      simp only [List.concat_eq_append, List.length_append, List.length_cons,
        List.length_nil] at hlen ⊢
      omega
    have hput : put (text ++ 0 :: init ++ [b]) (sz - 1) [0] = _ := put_front (le_refl 1) hlast
    refine ⟨init ++ [0], ?_, ?_⟩
    · simpa using hput
    · simpa using hlen

end Writes

section Host
variable {host : Host} {mem : Bytes}

theorem noNul_hostPart (host : Host) (sz : Nat) : 0 ∉ hostPart host sz := by
  have hnone : 0 ∉ noHostname.take (sz - 1) := fun h =>
    absurd (List.mem_of_mem_take h) (by decide)
  unfold hostPart
  split
  · exact hnone
  · next name _ =>
      split
      · exact name.noNul
      · exact hnone

theorem noNul_domainPart (host : Host) (sz : Nat) : 0 ∉ domainPart host sz := fun h => by
  have h := List.mem_of_mem_take h
  cases hname : host.domainname with
  | none =>
      rw [hname] at h
      exact absurd h (by decide)
  | some name =>
      rw [hname] at h
      exact name.noNul h

variable {sz : Nat}

theorem length_hostPart (hpos : 0 < sz) : (hostPart host sz).length < sz := by
  have hnone : (noHostname.take (sz - 1)).length < sz := by
    rw [List.length_take]
    omega
  unfold hostPart
  split
  · exact hnone
  · split
    · assumption
    · exact hnone

/-- Without a name, and for one that is too long. -/
theorem noHostname_written (hsz : mem.length = sz) (hpos : 0 < sz) : ∃ rest,
    (snprintf mem 0 sz noHostname >>= fun mem => put mem (sz - 1) [0]) =
        .ok (noHostname.take (sz - 1) ++ 0 :: rest) ∧
      (noHostname.take (sz - 1) ++ 0 :: rest).length = sz := by
  have hprint : ∃ rest, snprintf ([] ++ mem) 0 sz noHostname = .ok ([] ++ (_ ++ 0 :: rest)) ∧ _ :=
    snprintf_front hsz hpos rfl
  obtain ⟨rest, hprint, hlen⟩ := hprint
  obtain ⟨rest', hput, hlen'⟩ := put_last hlen
  rw [List.nil_append, List.nil_append] at hprint
  refine ⟨rest', ?_, hlen'⟩
  rw [hprint, ok_bind, hput]

theorem mkHostname_eq (host : Host) (hsz : mem.length = sz) (hpos : 0 < sz) : ∃ rest,
    mkHostname host mem sz = .ok (hostPart host sz ++ 0 :: rest) ∧
      (hostPart host sz ++ 0 :: rest).length = sz := by
  unfold mkHostname gethostname hostPart
  cases host.hostname with
  | none => exact noHostname_written hsz hpos
  | some name =>
      have hroom : ((name.text ++ [(0 : UInt8)]).take sz).length ≤ mem.length := by
        rw [hsz]
        exact List.length_take_le _ _
      have hlen : ((name.text ++ [(0 : UInt8)]).take sz ++
          mem.drop ((name.text ++ [(0 : UInt8)]).take sz).length).length = sz := by
        rw [List.length_append, List.length_drop]
        omega
      have hput : put ([] ++ mem) 0 ((name.text ++ [0]).take sz) = _ := put_front hroom rfl
      rw [List.nil_append, List.nil_append] at hput
      dsimp only
      rw [hput, ok_bind, ok_bind]
      dsimp only
      by_cases hfits : name.text.length < sz
      · have hwhole : (name.text ++ [(0 : UInt8)]).take sz = name.text ++ [0] := by
          apply List.take_of_length_le
          rw [List.length_append, List.length_singleton]
          exact hfits
        rw [hwhole, List.append_assoc, List.singleton_append] at hlen ⊢
        rw [decide_eq_true hfits, if_pos rfl, ok_bind, if_pos hfits]
        exact put_last hlen
      · rw [decide_eq_false hfits, if_neg Bool.false_ne_true, if_neg hfits]
        exact noHostname_written hlen hpos

variable {front rest : Bytes} {i : Nat}

/-- What is written of the domain's name, where it has room. -/
theorem copyDomainname_ok (hsz : rest.length = sz) (hpos : 0 < sz) (hi : front.length = i)
    (hname : ∀ name ∈ host.domainname, name.text.length < sz) : ∃ tail,
    copyDomainname host (front ++ rest) i sz = .ok (front ++
        ((host.domainname.elim noDomainname CString.text).take (sz - 1) ++ 0 :: tail)) ∧
      ((host.domainname.elim noDomainname CString.text).take (sz - 1) ++ 0 :: tail).length = sz := by
  unfold copyDomainname getdomainname
  cases hdomain : host.domainname with
  | none => exact snprintf_front hsz hpos hi
  | some name =>
      have hfits : name.text.length < sz := hname name hdomain
      have hwhole : (name.text ++ [(0 : UInt8)]).take sz = name.text ++ [0] := by
        apply List.take_of_length_le
        rw [List.length_append, List.length_singleton]
        exact hfits
      have hpart : name.text.take (sz - 1) = name.text := List.take_of_length_le (by omega)
      have hlen : (name.text ++ [(0 : UInt8)]).length = name.text.length + 1 := by
        rw [List.length_append, List.length_singleton]
      refine ⟨rest.drop (name.text.length + 1), ?_, ?_⟩
      · dsimp only [Option.elim_some]
        rw [hwhole, put_front (by omega) hi, ok_bind, ok_bind, hpart, hlen, List.append_assoc,
          List.singleton_append]
        rfl
      · rw [Option.elim_some, hpart, List.length_append, List.length_cons, List.length_drop]
        omega

theorem mkDomainname_ok (pre : Bytes) (b : UInt8) (hsz : rest.length = sz) (hpos : 0 < sz)
    (hname : ∀ name ∈ host.domainname, name.text.length < sz)
    (hpart : 0 ∉ host.domainname.elim noDomainname CString.text) : ∃ mem',
    mkDomainname host (pre ++ [b] ++ rest) (pre.length + 1) sz =
        .ok (((host.domainname.elim noDomainname CString.text).take (sz - 1)).length, mem') ∧
      mem'.length = (pre ++ [b] ++ rest).length ∧
      ((host.domainname.elim noDomainname CString.text).take (sz - 1) = [] →
        (pre ++ [0]) <+: mem') := by
  have hi : (pre ++ [b]).length = pre.length + 1 := by
    rw [List.length_append, List.length_singleton]
  obtain ⟨tail, hcopy, hlen⟩ := copyDomainname_ok hsz hpos hi hname
  have hnul : 0 ∉ (host.domainname.elim noDomainname CString.text).take (sz - 1) :=
    fun h => hpart (List.mem_of_mem_take h)
  rw [mkDomainname, hcopy, ok_bind, strlen_text hnul hi, ok_bind]
  generalize (host.domainname.elim noDomainname CString.text).take (sz - 1) = part at hlen ⊢
  by_cases hempty : part = []
  · subst hempty
    have hput : put (pre ++ ([b] ++ ([] ++ 0 :: tail))) pre.length [0] = _ :=
      put_front (by simp) rfl
    rw [← List.append_assoc] at hput
    refine ⟨pre ++ ([0] ++ ([b] ++ ([] ++ 0 :: tail)).drop 1), ?_, ?_, fun _ => ?_⟩
    · rw [if_pos List.length_nil, Nat.add_sub_cancel, hput]
      rfl
    · simp at hlen ⊢
      omega
    · rw [← List.append_assoc]
      exact List.prefix_append _ _
  · refine ⟨_, if_neg (fun h => hempty (List.length_eq_zero_iff.mp h)), ?_, fun h => absurd h hempty⟩
    rw [List.length_append, hlen, List.length_append, List.length_append, List.length_append, hsz]

/-- A name that has no room for its NUL is read on behind the buffer. -/
theorem mkDomainname_past {name : CString} (hdomain : host.domainname = some name)
    (hsz : rest.length = sz) (hlong : sz ≤ name.text.length) (hi : front.length = i) :
    mkDomainname host (front ++ rest) i sz = .error .outOfBounds := by
  have hcut : (name.text ++ [(0 : UInt8)]).take sz = name.text.take sz :=
    List.take_append_of_le_length hlong
  have hlen : (name.text.take sz).length = rest.length := by
    rw [List.length_take, hsz, Nat.min_eq_left hlong]
  have hnul : 0 ∉ name.text.take sz := fun h => name.noNul (List.mem_of_mem_take h)
  unfold mkDomainname copyDomainname getdomainname
  rw [hdomain]
  dsimp only
  rw [hcut, put_front hlen.le hi, ok_bind, hlen, List.drop_length, List.append_nil]
  rw [ok_bind]
  dsimp only
  rw [if_pos rfl, ok_bind, strlen_past hnul hi]
  rfl

/-- A reply whose host text does not fill the buffer, up to the domain. -/
theorem hostinfo_domain (hpos : 0 < mem.length)
    (hroom : (hostPart host mem.length).length + 1 < mem.length) : ∃ rest,
    rest.length = mem.length - ((hostPart host mem.length).length + 1) ∧
      hostinfo host mem = (do
        let (k, mem') ← mkDomainname host (hostPart host mem.length ++ [period] ++ rest)
          ((hostPart host mem.length).length + 1)
          (mem.length - ((hostPart host mem.length).length + 1))
        .ok ((hostPart host mem.length).length + 1 + k, mem')) := by
  obtain ⟨rest, hname, hlen⟩ := mkHostname_eq host rfl hpos
  have hput : put (hostPart host mem.length ++ 0 :: rest) (hostPart host mem.length).length
      [period] = _ := put_front (by simp) rfl
  have hstrlen : strlen ([] ++ (hostPart host mem.length ++ 0 :: rest)) 0 = _ :=
    strlen_text (noNul_hostPart host mem.length) rfl
  rw [List.nil_append] at hstrlen
  refine ⟨rest, ?_, ?_⟩
  · rw [List.length_append, List.length_cons] at hlen
    omega
  · unfold hostinfo
    dsimp only
    rw [hname, ok_bind, hstrlen, ok_bind, if_neg (by omega), hput, ok_bind, ← List.append_assoc]
    rfl

/-- A host text that fills the buffer. -/
theorem hostinfo_full (hpos : 0 < mem.length)
    (hfull : mem.length ≤ (hostPart host mem.length).length + 1) : ∃ mem',
    hostinfo host mem = .ok (mem.length, mem') ∧ mem'.length = mem.length ∧
      (hostPart host mem.length ++ [0]) <+: mem' := by
  obtain ⟨rest, hname, hlen⟩ := mkHostname_eq host rfl hpos
  have hstrlen : strlen ([] ++ (hostPart host mem.length ++ 0 :: rest)) 0 = _ :=
    strlen_text (noNul_hostPart host mem.length) rfl
  rw [List.nil_append] at hstrlen
  refine ⟨_, ?_, hlen, ?_⟩
  · unfold hostinfo
    dsimp only
    rw [hname, ok_bind, hstrlen, ok_bind, if_pos (by omega)]
  · exact ⟨rest, List.append_assoc _ _ _⟩

end Host

section Cpus
variable {cpus : List CpuInfo} {front rest : Bytes} {i s sz : Nat}

/-- A line is longer than one byte, whatever the CPU is called. -/
theorem two_le_cpuLine (i : Nat) (cpu : CpuInfo) : 2 ≤ (cpuLine i cpu).length := by
  have hword : (nameBytes "cpu ").length = 4 := by decide
  simp only [cpuLine, List.length_append, hword]
  omega

/-- One turn of the loop, for a line that fits. -/
theorem cpuLoop_cons {cpu : CpuInfo} (cpus : List CpuInfo) (ret : Nat) (hs : front.length = s) (hsz : rest.length = sz)
    (hfits : (cpuLine i cpu).length < sz) : ∃ rest',
    cpuLoop (cpu :: cpus) i s sz ret (front ++ rest) =
        cpuLoop cpus (i + 1) (s + (cpuLine i cpu).length) (sz - (cpuLine i cpu).length)
          (ret + (cpuLine i cpu).length) (front ++ cpuLine i cpu ++ 0 :: rest') ∧
      (0 :: rest').length = sz - (cpuLine i cpu).length := by
  have hpos : 0 < sz := Nat.zero_lt_of_lt hfits
  have hprint : ∃ rest', snprintf (front ++ rest) s sz (cpuLine i cpu) = .ok (front ++ _) ∧ _ :=
    snprintf_front hsz hpos hs
  have hwhole : (cpuLine i cpu).take (sz - 1) = cpuLine i cpu :=
    List.take_of_length_le (by omega)
  obtain ⟨rest', hprint, hlen⟩ := hprint
  rw [hwhole] at hprint hlen
  rw [List.length_append] at hlen
  refine ⟨rest', ?_, by omega⟩
  rw [cpuLoop, if_neg hpos.ne']
  dsimp only
  rw [hprint, ok_bind, if_neg (Nat.not_le.mpr hfits), ← List.append_assoc]

/-- Lines that all fit, with a NUL behind them. -/
theorem cpuLoop_fits (ret : Nat) (hs : front.length = s) (hsz : (0 :: rest).length = sz)
    (hfits : (cpuText cpus i).length < sz) : ∃ rest',
    cpuLoop cpus i s sz ret (front ++ 0 :: rest) =
        .ok (ret + (cpuText cpus i).length, front ++ (cpuText cpus i ++ 0 :: rest')) ∧
      (cpuText cpus i ++ 0 :: rest').length = sz := by
  induction cpus generalizing front rest i s sz ret with
  | nil => exact ⟨rest, rfl, hsz⟩
  | cons cpu cpus ih =>
      rw [cpuText, List.length_append] at hfits
      have hline : (cpuLine i cpu).length < sz := by omega
      obtain ⟨rest', hturn, hlen⟩ := cpuLoop_cons cpus ret hs hsz hline
      have hfront : (front ++ cpuLine i cpu).length = s + (cpuLine i cpu).length := by
        rw [List.length_append, hs]
      have hfits' : (cpuText cpus (i + 1)).length < sz - (cpuLine i cpu).length := by omega
      obtain ⟨rest'', hloop, hend⟩ := ih (ret + (cpuLine i cpu).length) hfront hlen hfits'
      refine ⟨rest'', ?_, ?_⟩
      · rw [hturn, hloop, cpuText, List.length_append, Nat.add_assoc, List.append_assoc,
          List.append_assoc]
      · rw [cpuText, List.append_assoc, List.length_append, hend]
        omega

/-- The room that is left when a line is cut is all of it, or less by the lines before. -/
theorem cpuLoop_cut (ret : Nat) (hs : front.length = s) (hsz : rest.length = sz) (hpos : 0 < sz)
    (hlong : sz ≤ (cpuText cpus i).length) : ∃ r mem',
    cpuLoop cpus i s sz ret (front ++ rest) = .ok (r, mem') ∧ (r = sz ∨ r + 2 ≤ sz) := by
  induction cpus generalizing front rest i s sz ret with
  | nil => exact absurd hlong (Nat.not_le.mpr hpos)
  | cons cpu cpus ih =>
      rw [cpuText, List.length_append] at hlong
      by_cases hline : (cpuLine i cpu).length < sz
      · obtain ⟨rest', hturn, hlen⟩ := cpuLoop_cons cpus ret hs hsz hline
        have hfront : (front ++ cpuLine i cpu).length = s + (cpuLine i cpu).length := by
          rw [List.length_append, hs]
        have hlong' : sz - (cpuLine i cpu).length ≤ (cpuText cpus (i + 1)).length := by omega
        obtain ⟨r, mem', hloop, hr⟩ := ih (ret + (cpuLine i cpu).length) hfront hlen
          (Nat.sub_pos_of_lt hline) hlong'
        have hshort := two_le_cpuLine i cpu
        exact ⟨r, mem', hturn.trans hloop, by omega⟩
      · have hprint : ∃ rest', snprintf (front ++ rest) s sz (cpuLine i cpu) = .ok (front ++ _) ∧ _ :=
          snprintf_front hsz hpos hs
        obtain ⟨rest', hprint, -⟩ := hprint
        refine ⟨sz, front ++ ((cpuLine i cpu).take (sz - 1) ++ 0 :: rest'), ?_, .inl rfl⟩
        rw [cpuLoop, if_neg hpos.ne']
        dsimp only
        rw [hprint, ok_bind, if_pos (Nat.not_lt.mp hline)]

end Cpus

section Whole
variable {host : Host} {mem : Bytes}

theorem cpuinfo_eq (hpos : 0 < mem.length) : cpuinfo host mem = (do
    let (ret, mem) ← cpuLoop host.cpus 0 0 mem.length 0 ([] ++ 0 :: mem.drop 1)
    .ok (ret + 1, mem)) := by
  have hput : put ([] ++ mem) 0 [0] = .ok ([] ++ ([0] ++ mem.drop 1)) := put_front hpos rfl
  rw [List.nil_append] at hput
  unfold cpuinfo
  dsimp only
  rw [hput, ok_bind]
  rfl

theorem length_cons_drop (hpos : 0 < mem.length) :
    ((0 : UInt8) :: mem.drop 1).length = mem.length := by
  rw [List.length_cons, List.length_drop]
  omega

/-- A text that is cut has its NUL in the last byte of the buffer. -/
theorem length_cut {text : Bytes} {n : Nat} (hpos : 0 < n) (hlong : n - 1 ≤ text.length) :
    (text.take (n - 1) ++ [(0 : UInt8)]).length = n := by
  rw [List.length_append, List.length_take, List.length_singleton]
  omega

/-- The returned length is too long by one where the first line is cut, and too short where a later
one is. -/
theorem cpuWhole_iff (hpos : 0 < mem.length) :
    ReplyWhole host ibCpuinfoAttr mem ↔ (cpuText host.cpus 0).length < mem.length := by
  have hne : ibCpuinfoAttr ≠ ibHostinfoAttr := by decide
  have htext : replyText host ibCpuinfoAttr mem.length = some (cpuText host.cpus 0) := by
    rw [replyText, if_neg hne, if_pos rfl]
  rw [ReplyWhole, mkReply, if_neg hne, if_pos rfl, htext, cpuinfo_eq hpos]
  have hlen := length_cons_drop hpos
  have hnil : ([] : Bytes).length = 0 := rfl
  constructor
  · rintro ⟨ret, mem', hreply, -, hle, hwhole⟩
    by_contra hlong
    rw [Nat.not_lt] at hlong
    obtain ⟨r, cut, hloop, hr⟩ := cpuLoop_cut 0 hnil hlen hpos hlong
    rw [hloop] at hreply
    cases hreply
    have hprefix := (hwhole _ rfl).length_le
    rw [length_cut hpos (by omega), List.length_take] at hprefix
    omega
  · intro hfits
    obtain ⟨rest, hloop, hend⟩ := cpuLoop_fits 0 hnil hlen hfits
    rw [hloop]
    refine ⟨_, _, rfl, hend, by omega, fun text h => ?_⟩
    cases h
    have hall : (cpuText host.cpus 0).take (mem.length - 1) = cpuText host.cpus 0 :=
      List.take_of_length_le (by omega)
    have hsent : (cpuText host.cpus 0 ++ [(0 : UInt8)]).length =
        0 + (cpuText host.cpus 0).length + 1 := by
      rw [List.length_append, List.length_singleton, Nat.zero_add]
    have htake : ([] ++ (cpuText host.cpus 0 ++ 0 :: rest)).take (0 + (cpuText host.cpus 0).length +
        1) = cpuText host.cpus 0 ++ [0] := by
      rw [← hsent, List.nil_append, List.append_cons _ 0 rest, List.take_left]
    rw [hall]
    exact htake ▸ List.prefix_rfl

theorem noNul_domainText (host : Host) : 0 ∉ host.domainname.elim noDomainname CString.text := by
  cases host.domainname with
  | none => exact (by decide : (0 : UInt8) ∉ noDomainname)
  | some name => exact name.noNul

/-- A host text that fills the buffer is cut to it. -/
theorem hostWhole_full (hpos : 0 < mem.length)
    (hfull : mem.length ≤ (hostPart host mem.length).length + 1) :
    ReplyWhole host ibHostinfoAttr mem := by
  have hless : (hostPart host mem.length).length < mem.length := length_hostPart hpos
  obtain ⟨mem', hreply, hkeep, hshown⟩ := hostinfo_full hpos hfull
  have hpart : domainPart host mem.length = [] := by
    rw [domainPart, Nat.sub_sub, Nat.sub_eq_zero_of_le (by omega), List.take_zero]
  refine ⟨mem.length, mem', ?_, hkeep, le_refl _, fun text h => ?_⟩
  · rw [mkReply, if_pos rfl, hreply]
  · rw [replyText, if_pos rfl, hostText, if_pos hpart] at h
    cases h
    rw [List.take_of_length_le hkeep.le, List.take_of_length_le (by omega)]
    exact hshown

/-- With room for a domain, the reply is whole just without one. -/
theorem hostWhole_domain (hpos : 0 < mem.length)
    (hroom : (hostPart host mem.length).length + 1 < mem.length)
    (hname : ∀ name ∈ host.domainname,
      name.text.length < mem.length - ((hostPart host mem.length).length + 1)) :
    ReplyWhole host ibHostinfoAttr mem ↔ domainPart host mem.length = [] := by
  obtain ⟨rest, hrest, hreply⟩ := hostinfo_domain hpos hroom
  obtain ⟨mem', hdomain, hkeep, hshown⟩ := mkDomainname_ok (hostPart host mem.length) period
    hrest (by omega) hname (noNul_domainText host)
  have hpart : (host.domainname.elim noDomainname CString.text).take
      (mem.length - ((hostPart host mem.length).length + 1) - 1) = domainPart host mem.length := by
    rw [domainPart]
    congr 1
  rw [hpart] at hdomain hshown
  have hlen : mem'.length = mem.length := by
    rw [hkeep, List.length_append, List.length_append, List.length_singleton, hrest]
    omega
  have hshort : (domainPart host mem.length).length ≤
      mem.length - (hostPart host mem.length).length - 2 := List.length_take_le _ _
  rw [ReplyWhole, mkReply, if_pos rfl, hreply, hdomain, ok_bind, replyText, if_pos rfl, hostText]
  constructor
  · rintro ⟨ret, cut, hret, -, hle, hwhole⟩
    by_contra hne
    rw [if_neg hne] at hwhole
    cases hret
    have hprefix := (hwhole _ rfl).length_le
    simp only [List.length_append, List.length_take, List.length_singleton] at hprefix
    omega
  · intro hempty
    rw [if_pos hempty]
    refine ⟨_, _, rfl, hlen, ?_, fun text h => ?_⟩
    · rw [hempty, List.length_nil]
      omega
    · cases h
      rw [List.take_of_length_le (by omega), hempty]
      refine List.prefix_take_iff.mpr ⟨hshown hempty, ?_⟩
      rw [List.length_append, List.length_singleton, List.length_nil, Nat.add_zero]

theorem hostWhole_iff (hpos : 0 < mem.length) :
    ReplyWhole host ibHostinfoAttr mem ↔ ReplyFits host ibHostinfoAttr mem.length := by
  have hcpu : ibHostinfoAttr ≠ ibCpuinfoAttr := by decide
  have hnocpu : ibHostinfoAttr = ibCpuinfoAttr → (cpuText host.cpus 0).length < mem.length :=
    fun h => absurd h hcpu
  rw [ReplyFits, and_iff_left hnocpu, imp_iff_right rfl]
  by_cases hfull : mem.length ≤ (hostPart host mem.length).length + 1
  · exact iff_of_true (hostWhole_full hpos hfull) (.inl hfull)
  rw [or_iff_right hfull]
  have hroom := Nat.not_le.mp hfull
  cases hdomain : host.domainname with
  | none =>
      have hname : ∀ name ∈ host.domainname,
          name.text.length < mem.length - ((hostPart host mem.length).length + 1) := by
        rw [hdomain]
        exact fun name h => by cases h
      rw [hostWhole_domain hpos hroom hname, domainPart, hdomain, List.take_eq_nil_iff]
      have hne : noDomainname ≠ [] := by decide
      rw [Option.elim_none, or_iff_left hne]
      omega
  | some name =>
      by_cases hfits : name.text.length < mem.length - ((hostPart host mem.length).length + 1)
      · have hname : ∀ name ∈ host.domainname,
            name.text.length < mem.length - ((hostPart host mem.length).length + 1) := by
          rw [hdomain]
          exact fun name' h => by cases h; exact hfits
        rw [hostWhole_domain hpos hroom hname, domainPart, hdomain, Option.elim_some,
          List.take_of_length_le (by omega)]
      · obtain ⟨rest, hrest, hreply⟩ := hostinfo_domain hpos hroom
        refine iff_of_false (fun ⟨ret, mem', h, _⟩ => ?_) fun hnil => ?_
        · rw [mkReply, if_pos rfl, hreply, mkDomainname_past hdomain hrest (Nat.not_lt.mp hfits)
            (by simp)] at h
          cases h
        · rw [hnil, List.length_nil] at hfits
          omega

theorem replyWhole_iff {attr : Nat} (hpos : 0 < mem.length) :
    ReplyWhole host attr mem ↔ ReplyFits host attr mem.length := by
  by_cases hhost : attr = ibHostinfoAttr
  · subst hhost
    exact hostWhole_iff hpos
  by_cases hcpu : attr = ibCpuinfoAttr
  · subst hcpu
    rw [cpuWhole_iff hpos, ReplyFits, imp_iff_right rfl]
    exact ⟨fun h => ⟨fun hno => absurd hno hhost, h⟩, fun h => h.2⟩
  · refine iff_of_true ⟨0, mem, ?_, rfl, Nat.zero_le _, ?_⟩
      ⟨fun h => absurd h hhost, fun h => absurd h hcpu⟩
    · rw [mkReply, if_neg hhost, if_neg hcpu]
    · rw [replyText, if_neg hhost, if_neg hcpu]
      exact fun text h => by cases h

/-- A host called "h" of the domain "d", without CPUs. -/
def hostInDomain : Host where
  hostname := some ⟨[104], by decide⟩
  domainname := some ⟨[100], by decide⟩
  cpus := []
  cpus_le := by decide

theorem replyWhole_iff_cpus : ReplyWhole hostInDomain ibCpuinfoAttr (List.replicate 8 0) :=
  (replyWhole_iff (by decide)).mpr ⟨fun h => absurd h (by decide), fun _ => by decide⟩

/-- Three bytes are sent of the text "h.d". -/
theorem hostInDomain_cut : ¬ ∀ (host : Host) (attr : Nat) (mem : Bytes), 0 < mem.length →
    ReplyWhole host attr mem := fun hall => by
  obtain ⟨ret, mem', hreply, -, -, hwhole⟩ :=
    hall hostInDomain ibHostinfoAttr (List.replicate 8 0) (by decide)
  have hsent : mkReply hostInDomain ibHostinfoAttr (List.replicate 8 0) =
      .ok (3, [104, 46, 100, 0, 0, 0, 0, 0]) := by
    decide +kernel
  have htext : replyText hostInDomain ibHostinfoAttr 8 = some [104, 46, 100] := by decide +kernel
  rw [hsent] at hreply
  cases hreply
  exact absurd (hwhole _ htext).length_le (by decide)

end Whole

end Ibsysstat
end InfinibandDiags
