import InfinibandDiags.Smp.Invariant

/-! Transaction ids. The counter counts up from its seed and an id is its low 32 bits, so
the ids of a run of fewer than 2^32 SMPs are a window of consecutive numbers; an SMP that
drew 0 is given the next number when it is sent, which happens at most once. -/
namespace InfinibandDiags

/-- Numbers less than a full turn apart differ in their low 32 bits. -/
theorem window_inj {base i j : Nat} (hi : 1 ≤ i ∧ i ≤ 2 ^ 32) (hj : 1 ≤ j ∧ j ≤ 2 ^ 32)
    (h : (base + i) % 2 ^ 32 = (base + j) % 2 ^ 32) : i = j := by
  omega

theorem eq_of_nodup_filterMap {α β : Type} {f : α → Option β} {l : List α}
    (h : (l.filterMap f).Nodup) {a b : α} {c : β} (ha : a ∈ l) (hb : b ∈ l)
    (hfa : f a = some c) (hfb : f b = some c) : a = b := by
  have hp := List.pairwise_filterMap.mp h
  by_contra hne
  have hsymm : Std.Symm fun x y => ∀ c, f x = some c → ∀ d, f y = some d → c ≠ d :=
    ⟨fun x y hxy c hc d hd heq => hxy d hd c hc heq.symm⟩
  exact hp.forall ha hb hne c hfa c hfb rfl

namespace Engine
variable {κ δ σ : Type}

def idOf (smp : Smp κ δ) : Nat := smp.rpc.trid.toNat % 2 ^ 32

def sentId : Event κ δ → Option Nat
  | .sent smp _ => some (idOf smp)
  | _ => none

/-- The ids on the MADs sent so far, then those of the SMPs still queued. -/
def ids (e : Engine κ δ) : List Nat := e.log.filterMap sentId ++ e.smpQueue.toList.map idOf

/-- After `draws` numbers drawn from `base` on, `redraws` of them in place of a 0. -/
structure Drawn (base draws redraws : Nat) (e : Engine κ δ) : Prop where
  seeded : e.trids.seeded.toNat = base + draws
  count : draws = e.nextRef + redraws
  once : redraws ≤ 1
  fresh : e.ids.Nodup
  window : ∀ k ∈ e.ids, ∃ i, 1 ≤ i ∧ i ≤ draws ∧ k = (base + i) % 2 ^ 32
  zero : redraws = 1 → 0 ∉ e.ids ∧ ∃ i, 1 ≤ i ∧ i ≤ draws ∧ (base + i) % 2 ^ 32 = 0
  kept : ∀ smp, Event.dropped smp ∉ e.log

variable {base draws redraws : Nat} {e e' : Engine κ δ} {smp smp' : Smp κ δ}
  {rest : List (Smp κ δ)} {rc : Int}

theorem drawn_init (cfg : Config) (trids : TridState) (umadSend : Nat → Int) :
    Drawn trids.seeded.toNat 0 0 (smpEngineInit κ δ cfg trids umadSend) := by
  constructor <;> simp [smpEngineInit, ids]

/-- The next number is none of the ids in use. -/
theorem Drawn.next_fresh (h : Drawn base draws redraws e) (hd : draws < 2 ^ 32) :
    (base + (draws + 1)) % 2 ^ 32 ∉ e.ids := by
  intro hmem
  obtain ⟨i, h1, hi, heq⟩ := h.window _ hmem
  have := window_inj ⟨Nat.succ_le_succ (Nat.zero_le draws), hd⟩ ⟨h1, by omega⟩ heq
  omega

theorem Drawn.window_succ (h : Drawn base draws redraws e) {k : Nat} (hk : k ∈ e.ids) :
    ∃ i, 1 ≤ i ∧ i ≤ draws + 1 ∧ k = (base + i) % 2 ^ 32 := by
  obtain ⟨i, h1, hi, heq⟩ := h.window k hk
  exact ⟨i, h1, Nat.le_succ_of_le hi, heq⟩

theorem Drawn.enqueue (h : Drawn base draws redraws e) (hbase : base + 2 ^ 32 < 2 ^ 64)
    (hd : draws < 2 ^ 32) (req : Request κ δ) :
    Drawn base (draws + 1) redraws (e.enqueue req) := by
  have hlt : e.trids.seeded.toNat + 1 < 2 ^ 64 := by rw [h.seeded]; omega
  obtain ⟨hseed, htrid⟩ := madTrid_spec hlt
  rw [h.seeded] at hseed htrid
  have hid : idOf (e.newSmp req) = (base + (draws + 1)) % 2 ^ 32 := by
    change (madTrid e.trids).1.toNat % 2 ^ 32 = _
    rw [htrid, Nat.mod_mod, Nat.add_assoc]
  have hids : (e.enqueue req).ids = e.ids ++ [(base + (draws + 1)) % 2 ^ 32] := by
    have hsent : (e.enqueue req).log.filterMap sentId = e.log.filterMap sentId :=
      (refs_append _ _ (log_enqueue e req) _).trans (List.append_nil _)
    rw [ids, hsent, toList_enqueue, List.map_append, ← List.append_assoc, List.map_singleton, hid]
    rfl
  refine ⟨hseed, ?_, h.once, ?_, ?_, ?_, ?_⟩
  · change draws + 1 = e.nextRef + 1 + redraws
    rw [h.count]
    omega
  · rw [hids]
    exact List.nodup_append.mpr ⟨h.fresh, by simp, by
      rintro a ha b hb rfl
      exact h.next_fresh hd (List.mem_singleton.mp hb ▸ ha)⟩
  · intro k hk
    rcases List.mem_append.mp (hids ▸ hk) with hold | hnew
    · exact h.window_succ hold
    · exact ⟨draws + 1, Nat.le_add_left .., Nat.le_refl _, List.mem_singleton.mp hnew⟩
  · intro h1
    obtain ⟨hnot, i, hi1, hi, hzero⟩ := h.zero h1
    refine ⟨?_, i, hi1, Nat.le_succ_of_le hi, hzero⟩
    rw [hids]
    intro hmem
    rcases List.mem_append.mp hmem with hold | hnew
    · exact hnot hold
    · have hnew' := hzero.trans (List.mem_singleton.mp hnew)
      have := window_inj ⟨hi1, by omega⟩ ⟨Nat.le_add_left .., hd⟩ hnew'
      omega
  · intro smp hmem
    rcases List.mem_append.mp hmem with hold | hnew
    · exact h.kept smp hold
    · cases List.mem_singleton.mp hnew

section Send
variable (hready : Ready e smp rest)
include hready

theorem Ready.ids : e.ids = e.log.filterMap sentId ++ idOf smp :: rest.map idOf := by
  rw [Engine.ids, hready.queue]
  rfl

/-- What the number given to the SMP that is sent does to the window. -/
theorem Drawn.encode (h : Drawn base draws redraws e) (hbase : base + 2 ^ 32 < 2 ^ 64)
    (hnext : e.nextRef < 2 ^ 32) :
    ∃ draws' redraws', (drawTrid smp e.trids).2.seeded.toNat = base + draws' ∧
      draws' = e.nextRef + redraws' ∧ redraws' ≤ 1 ∧
      (let l := e.log.filterMap sentId ++ (drawTrid smp e.trids).1.toNat % 2 ^ 32 :: rest.map idOf
       l.Nodup ∧ (∀ k ∈ l, ∃ i, 1 ≤ i ∧ i ≤ draws' ∧ k = (base + i) % 2 ^ 32) ∧
        (redraws' = 1 → 0 ∉ l ∧ ∃ i, 1 ≤ i ∧ i ≤ draws' ∧ (base + i) % 2 ^ 32 = 0)) := by
  have hids := hready.ids
  by_cases hzero : smp.rpc.trid = 0
  · have hid : idOf smp = 0 := by simp [idOf, hzero]
    have hin : 0 ∈ e.ids := by rw [hids, hid]; simp
    have hred : redraws = 0 := by
      have := h.once
      by_contra hne
      exact (h.zero (by omega)).1 hin
    subst hred
    have hd : draws < 2 ^ 32 := by rw [h.count]; exact hnext
    have hlt : e.trids.seeded.toNat + 1 < 2 ^ 64 := by rw [h.seeded]; omega
    obtain ⟨hseed, htrid⟩ := madTrid_spec hlt
    rw [h.seeded] at hseed htrid
    have hnew : (drawTrid smp e.trids).1.toNat % 2 ^ 32 = (base + (draws + 1)) % 2 ^ 32 := by
      rw [drawTrid, if_pos hzero, htrid, Nat.mod_mod, Nat.add_assoc]
    have hfresh := h.next_fresh hd
    have hnodup := h.fresh
    obtain ⟨i, hi1, hi, hi0⟩ := h.window 0 hin
    have hne : (base + (draws + 1)) % 2 ^ 32 ≠ 0 := fun h0 => hfresh (h0 ▸ hin)
    rw [hids, hid] at hfresh hnodup
    refine ⟨draws + 1, 1, ?_, ?_, Nat.le_refl _, ?_⟩
    · rw [drawTrid, if_pos hzero, hseed, Nat.add_assoc]
    · rw [h.count]
    · rw [hnew]
      refine ⟨?_, ?_, fun _ => ⟨?_, i, hi1, Nat.le_succ_of_le hi, hi0.symm⟩⟩
      · grind
      · intro k hk
        by_cases hold : k ∈ e.ids
        · exact h.window_succ hold
        · refine ⟨draws + 1, Nat.le_add_left .., Nat.le_refl _, ?_⟩
          rw [hids] at hold
          grind
      · grind
  · have hdraw : drawTrid smp e.trids = (smp.rpc.trid, e.trids) := if_neg hzero
    have hl : e.ids = e.log.filterMap sentId ++
        (drawTrid smp e.trids).1.toNat % 2 ^ 32 :: rest.map idOf := by
      rw [hids, hdraw]
      rfl
    rw [hdraw] at hl ⊢
    refine ⟨draws, redraws, h.seeded, h.count, h.once, ?_⟩
    dsimp only at hl ⊢
    rw [← hl]
    exact ⟨h.fresh, h.window, h.zero⟩

theorem Drawn.sendFails (h : Drawn base draws redraws e) (hbase : base + 2 ^ 32 < 2 ^ 64)
    (hnext : e.nextRef < 2 ^ 32) (hsend : e.getSmp.2.sendSmp smp = (rc, smp', e')) (hrc : rc ≠ 0) :
    ∃ draws' redraws', Drawn base draws' redraws' e' := by
  obtain ⟨trids, sends, htrids, -, rfl⟩ := sendSmp_failed hsend hrc
  set e₁ : Engine κ δ := { e.getSmp.2 with trids, sends }
  have hids : (e₁.note (.sendFailed smp' rc)).ids = e.log.filterMap sentId ++ rest.map idOf := by
    have hsent : (e₁.note (.sendFailed smp' rc)).log.filterMap sentId = e.log.filterMap sentId :=
      (refs_append (e := e) _ (.sendFailed smp' rc) rfl _).trans (List.append_nil _)
    have hqueue : (e₁.note (.sendFailed smp' rc)).smpQueue.toList = rest := hready.toList
    rw [ids, hsent, hqueue]
  have hkept : ∀ x, Event.dropped x ∉ (e₁.note (.sendFailed smp' rc)).log := by
    intro x hmem
    rcases List.mem_append.mp hmem with hold | hnew
    · exact h.kept x hold
    · cases List.mem_singleton.mp hnew
  have hsub : ∀ a : Nat, (e.log.filterMap sentId ++ rest.map idOf).Sublist
      (e.log.filterMap sentId ++ a :: rest.map idOf) := fun a =>
    List.Sublist.append_left (List.sublist_cons_self _ _) _
  rcases htrids with rfl | rfl
  · have hs := hsub (idOf smp)
    rw [← hready.ids] at hs
    refine ⟨draws, redraws, h.seeded, h.count, h.once, ?_, ?_, ?_, hkept⟩
    · rw [hids]
      exact h.fresh.sublist hs
    · rw [hids]
      exact fun k hk => h.window k (hs.subset hk)
    · rw [hids]
      exact fun h1 => ⟨fun hmem => (h.zero h1).1 (hs.subset hmem), (h.zero h1).2⟩
  · obtain ⟨draws', redraws', hseed, hcount, honce, hfresh, hwin, hzero⟩ :=
      h.encode hready hbase hnext
    have hs := hsub ((drawTrid smp e.trids).1.toNat % 2 ^ 32)
    refine ⟨draws', redraws', hseed, hcount, honce, ?_, ?_, ?_, hkept⟩
    · rw [hids]
      exact hfresh.sublist hs
    · rw [hids]
      exact fun k hk => hwin k (hs.subset hk)
    · rw [hids]
      exact fun h1 => ⟨fun hmem => (hzero h1).1 (hs.subset hmem), (hzero h1).2⟩

/-- The id of the SMP that is sent is on no MAD sent before, so its key is free. -/
theorem Drawn.send (h : Drawn base draws redraws e) (ht : Traced e)
    (hbase : base + 2 ^ 32 < 2 ^ 64) (hnext : e.nextRef < 2 ^ 32)
    (hsend : e.getSmp.2.sendSmp smp = (0, smp', e')) :
    ∃ draws' redraws', Drawn base draws' redraws' (e'.putOnWire smp') := by
  obtain ⟨mad, -, hsmp, rfl⟩ := sendSmp_sent hsend
  obtain ⟨draws', redraws', hseed, hcount, honce, hfresh, hwin, hzero⟩ :=
    h.encode hready hbase hnext
  set e₁ : Engine κ δ := { e.getSmp.2 with
    trids := (drawTrid smp e.getSmp.2.trids).2, sends := e.getSmp.2.sends + 1 }
  have hid : idOf smp' = (drawTrid smp e.trids).1.toNat % 2 ^ 32 := by rw [hsmp]; rfl
  have hids : (e₁.note (.sent smp' mad)).ids = e.log.filterMap sentId ++
      (drawTrid smp e.trids).1.toNat % 2 ^ 32 :: rest.map idOf := by
    have hsent : (e₁.note (.sent smp' mad)).log.filterMap sentId =
        e.log.filterMap sentId ++ [idOf smp'] :=
      refs_append (e := e) (e₁.note (.sent smp' mad)) (.sent smp' mad) rfl sentId
    have hqueue : (e₁.note (.sent smp' mad)).smpQueue.toList = rest := hready.toList
    rw [ids, hsent, hqueue, List.append_assoc, List.singleton_append, hid]
  have hkey : wireKey smp' ∉ e.smpsOnWire := by
    intro hmem
    obtain ⟨old, hold⟩ := Option.isSome_iff_exists.mp (AList.lookup_isSome.mpr hmem)
    obtain ⟨mad', hsent⟩ := ht.wire (mem_clQmapItems.mpr ⟨_, hold⟩)
    have hsame : idOf old = idOf smp' := by
      have := congrArg UInt32.toNat (ht.keyed hold)
      simpa [wireKey, idOf] using this
    have hin : idOf smp' ∈ e.log.filterMap sentId :=
      List.mem_filterMap.mpr ⟨_, hsent, congrArg some hsame⟩
    rw [hid] at hin
    exact (List.nodup_append.mp hfresh).2.2 _ hin _ List.mem_cons_self rfl
  rcases putOnWire_cases (e₁.note (.sent smp' mad)) smp' with ⟨hmem, -⟩ | ⟨-, heq⟩
  · exact absurd hmem hkey
  · rw [heq]
    refine ⟨draws', redraws', hseed, hcount, honce, ?_, ?_, ?_, ?_⟩
    · exact hids ▸ hfresh
    · exact fun k hk => hwin k (hids ▸ hk)
    · exact fun h1 => ⟨fun hmem => (hzero h1).1 (hids ▸ hmem), (hzero h1).2⟩
    · intro x hmem
      rcases List.mem_append.mp hmem with hold | hnew
      · exact h.kept x hold
      · cases List.mem_singleton.mp hnew

end Send

theorem Drawn.note (h : Drawn base draws redraws e) (ev : Event κ δ) (hlog : e'.log = e.log ++ [ev])
    (hsent : sentId ev = none) (hdrop : ∀ smp, ev ≠ .dropped smp)
    (hsame : e'.trids = e.trids ∧ e'.nextRef = e.nextRef ∧ e'.smpQueue = e.smpQueue) :
    Drawn base draws redraws e' := by
  obtain ⟨htrids, hnext, hqueue⟩ := hsame
  have hids : e'.ids = e.ids := by
    rw [ids, refs_append _ _ hlog, hsent, hqueue]
    exact congrArg (· ++ e.smpQueue.toList.map idOf) (List.append_nil _)
  refine ⟨by rw [htrids]; exact h.seeded, by rw [hnext]; exact h.count, h.once,
    hids ▸ h.fresh, hids ▸ h.window, hids ▸ h.zero, ?_⟩
  intro smp hmem
  rcases List.mem_append.mp (hlog ▸ hmem) with hold | hnew
  · exact h.kept smp hold
  · exact hdrop smp (List.mem_singleton.mp hnew).symm

theorem drawn_stable (base : Nat) (hbase : base + 2 ^ 32 < 2 ^ 64) :
    Stable fun e : Engine κ δ => Traced e ∧
      (e.nextRef < 2 ^ 32 → ∃ draws redraws, Drawn base draws redraws e) where
  enqueue {e} req h := by
    refine ⟨h.1.enqueue req, fun hnext => ?_⟩
    have hnext' : e.nextRef + 1 < 2 ^ 32 := hnext
    obtain ⟨draws, redraws, hd⟩ := h.2 (by omega)
    have hlt : draws < 2 ^ 32 := by
      have := hd.count
      have := hd.once
      omega
    exact ⟨_, _, hd.enqueue hbase hlt req⟩
  sendFails {e e' smp smp' rest rc} h hready hsend hrc := by
    refine ⟨h.1.sendFails hready hsend hrc, fun hnext => ?_⟩
    have hnext' : e.nextRef < 2 ^ 32 := by
      obtain ⟨_, _, -, -, rfl⟩ := sendSmp_failed hsend hrc
      exact hnext
    obtain ⟨draws, redraws, hd⟩ := h.2 hnext'
    exact hd.sendFails hready hbase hnext' hsend hrc
  send {e e' smp smp' rest} h hready hsend := by
    refine ⟨h.1.send hready hsend, fun hnext => ?_⟩
    have hnext' : e.nextRef < 2 ^ 32 := by
      obtain ⟨mad, -, -, rfl⟩ := sendSmp_sent hsend
      rcases putOnWire_cases (note _ (.sent smp' mad)) smp' with ⟨-, heq⟩ | ⟨-, heq⟩ <;>
        rw [heq] at hnext <;> exact hnext
    obtain ⟨draws, redraws, hd⟩ := h.2 hnext'
    exact hd.send hready h.1 hbase hnext' hsend
  takeReply {e e' smp r} h htake := by
    refine ⟨h.1.takeReply htake, fun hnext => ?_⟩
    obtain ⟨-, rfl⟩ := takeReply_eq_some.mp htake
    obtain ⟨draws, redraws, hd⟩ := h.2 hnext
    exact ⟨_, _, hd.note (.answered smp) rfl rfl (by simp) ⟨rfl, rfl, rfl⟩⟩
  called {e} smp mad h := by
    refine ⟨traced_stable.called smp mad h.1, fun hnext => ?_⟩
    obtain ⟨draws, redraws, hd⟩ := h.2 hnext
    exact ⟨_, _, hd.note (.called smp mad) rfl rfl (by simp) ⟨rfl, rfl, rfl⟩⟩

end Engine
end InfinibandDiags
