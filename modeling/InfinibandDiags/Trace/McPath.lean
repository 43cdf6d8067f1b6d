import InfinibandDiags.Trace.Lookup

/-! Where the paths of the multicast search lead, as it extends and restores them. -/
namespace InfinibandDiags
namespace Ibtracert

namespace McPath
variable {path path' : McPath}

def hops (path : McPath) : List Nat := path.toPortId.drpath.hops 0

theorem toPortId_cnt {n : Nat} (hn : path.cnt = n) (hlt : n < 256) : path.toPortId.drpath.cnt = n := by
  have hmod : (path.cnt % 256).toNat = n := by omega
  exact hmod

theorem extend_some {i : Nat} (hnonneg : 0 ≤ path.cnt) (h : path.extend i = .ok (some path')) :
    path.cnt + 2 < 64 ∧ path'.cnt = path.cnt + 1 ∧ path.portid.SameStart path'.portid ∧
      extendDpath path.toPortId.drpath i = some path'.toPortId.drpath := by
  unfold extend at h
  split at h
  · cases h
  · next hroom =>
      split at h
      · cases h
      · cases h
        have hlt : path.cnt + 2 < 64 := by omega
        obtain ⟨n, hn⟩ := Int.eq_ofNat_of_zero_le hnonneg
        have hcnt : path.toPortId.drpath.cnt = n := toPortId_cnt hn (by omega)
        have hnext : ((path.cnt + 1) % 256).toNat = n + 1 := by omega
        have hindex : (path.cnt + 1).toNat = n + 1 := by omega
        refine ⟨hlt, rfl, ⟨rfl, rfl, rfl⟩, ?_⟩
        rw [extendDpath, if_neg (by omega), hcnt]
        simp only [toPortId, hnext, hindex]

/-- One more hop, as long as it is a port number. -/
theorem extend_hops {i : Nat} (hnonneg : 0 ≤ path.cnt) (hi : i < 256)
    (h : path.extend i = .ok (some path')) : path'.hops = path.hops ++ [i] :=
  (extendDpath_hops hi (extend_some hnonneg h).2.2.2).2

/-- One hop less: the one in the last byte. -/
theorem hops_eq_back (hpos : 0 < path.cnt) (hlt : path.cnt < 64) :
    path.hops = path.back.hops ++ [((path.portid.drpath.p[path.cnt.toNat]?).getD 0).toNat] := by
  obtain ⟨n, hn⟩ := Int.eq_ofNat_of_zero_le (Int.le_of_lt hpos)
  have hcnt : path.toPortId.drpath.cnt = n := toPortId_cnt hn (by omega)
  have hback : path.back.toPortId.drpath.cnt = n - 1 :=
    toPortId_cnt (by simp only [back]; omega) (by omega)
  have hdrpath : path.back.toPortId.drpath =
      { path.toPortId.drpath with cnt := path.toPortId.drpath.cnt - 1 } := by
    rw [hcnt, ← hback]
    rfl
  have hindex : path.toPortId.drpath.cnt - 1 + 1 = path.cnt.toNat := by omega
  have hsplit : path.toPortId.drpath.hops 0 = _ := hops_back (by omega)
  rw [hindex, ← hdrpath] at hsplit
  exact hsplit

/-- Restoring an extended path takes its last hop away. -/
theorem extend_back {i : Nat} (hnonneg : 0 ≤ path.cnt) (hi : i < 256)
    (h : path.extend i = .ok (some path')) :
    path'.back.cnt = path.cnt ∧ path'.back.hops = path.hops := by
  obtain ⟨hroom, hcnt, -, -⟩ := extend_some hnonneg h
  have hsplit : path'.hops = _ := hops_eq_back (by omega) (by omega)
  rw [extend_hops hnonneg hi h] at hsplit
  refine ⟨?_, (List.append_inj' hsplit rfl).1.symm⟩
  simp only [back]
  omega

theorem last_ok {k : Nat} (h : path.last = .ok k) :
    0 ≤ path.cnt ∧ path.cnt < 64 ∧ ((path.portid.drpath.p[path.cnt.toNat]?).getD 0).toNat = k := by
  unfold last at h
  split at h
  · cases h
  · next hnonneg =>
      cases hget : path.portid.drpath.p[path.cnt.toNat]? with
      | none => simp [hget] at h
      | some b =>
          simp only [hget] at h
          cases h
          have hlt : path.cnt.toNat < 64 := by
            by_contra hge
            rw [Vector.getElem?_eq_none (by omega)] at hget
            cases hget
          exact ⟨by omega, by omega, rfl⟩

end McPath

/-- A path of the search leads to a node, as long as its count is that of a path. -/
structure Leads {V : Type} (S : Subnet V) (fromId : PortId) (path : McPath) (v : V) : Prop where
  start : fromId.SameStart path.toPortId
  nonneg : 0 ≤ path.cnt
  arrives : path.cnt < 64 → ∃ a, S.arrival path.toPortId = some a ∧ a.1 = v

section Arrivals
variable {V : Type} {S : Subnet V} {fromId : PortId} {path path' : McPath} {v : V}
  {src c : V × Nat} {i k : Nat}

theorem toPortId_ofPortId (h : fromId.drpath.cnt < 256) : (McPath.ofPortId fromId).toPortId = fromId := by
  have hcnt : (McPath.ofPortId fromId).toPortId.drpath.cnt = fromId.drpath.cnt :=
    McPath.toPortId_cnt rfl h
  calc (McPath.ofPortId fromId).toPortId
      = { fromId with drpath :=
          { fromId.drpath with cnt := (McPath.ofPortId fromId).toPortId.drpath.cnt } } := rfl
    _ = fromId := by rw [hcnt]

theorem leads_ofPortId (h : S.arrival fromId = some src) :
    Leads S fromId (.ofPortId fromId) src.1 where
  start := ⟨rfl, rfl, rfl⟩
  nonneg := Int.natCast_nonneg _
  arrives hlt := by
    have hcnt : fromId.drpath.cnt < 64 := Int.ofNat_lt.mp hlt
    exact ⟨src, by rw [toPortId_ofPortId (by omega), h], rfl⟩

theorem Leads.extend_start (h : Leads S fromId path v) (hext : path.extend i = .ok (some path')) :
    fromId.SameStart path'.toPortId := by
  obtain ⟨-, -, hsame, -⟩ := McPath.extend_some h.nonneg hext
  exact ⟨hsame.lid.trans h.start.lid, hsame.drslid.trans h.start.drslid,
    hsame.drdlid.trans h.start.drdlid⟩

/-- An extended path leads on through the port, or back to the start where the path goes for
nothing. -/
theorem Leads.extend (h : Leads S fromId path v) (hsw : S.IsSwitch v) (hpos : 0 < i) (hi : i < 256)
    (hext : path.extend i = .ok (some path')) (hc : S.arrival path'.toPortId = some c) :
    S.arrival fromId = some c ∨ S.peer (v, i) = some c := by
  obtain ⟨hroom, -, hsame, -⟩ := McPath.extend_some h.nonneg hext
  have hstart := h.extend_start hext
  cases hdirect : fromId.isDirect with
  | false =>
      rw [Subnet.arrival_routed hstart hdirect] at hc
      exact .inl hc
  | true =>
      obtain ⟨a, ha, rfl⟩ := h.arrives (by omega)
      have hahead : path.toPortId.SameStart path'.toPortId := ⟨hsame.lid, hsame.drslid, hsame.drdlid⟩
      have hdirect' : path.toPortId.isDirect = true :=
        (Subnet.isDirect_congr h.start).trans hdirect
      have hhops := McPath.extend_hops h.nonneg hi hext
      rw [Subnet.arrival_extend hahead hdirect' hhops ha hsw, Subnet.transit, if_pos hsw,
        if_neg hpos.ne'] at hc
      exact .inr hc

theorem Leads.extend_back (h : Leads S fromId path v) (hi : i < 256)
    (hext : path.extend i = .ok (some path')) : Leads S fromId path'.back v := by
  obtain ⟨-, -, hsame, -⟩ := McPath.extend_some h.nonneg hext
  obtain ⟨hcnt, hhops⟩ := McPath.extend_back h.nonneg hi hext
  have hstart := h.extend_start hext
  refine ⟨⟨hstart.lid, hstart.drslid, hstart.drdlid⟩, hcnt ▸ h.nonneg, fun hlt => ?_⟩
  obtain ⟨a, ha, hv⟩ := h.arrives (hcnt ▸ hlt)
  have hagain : path.toPortId.SameStart path'.back.toPortId :=
    ⟨hsame.lid, hsame.drslid, hsame.drdlid⟩
  exact ⟨a, (Subnet.arrival_congr hagain hhops).trans ha, hv⟩

/-- A search from an adapter where its path has no hop leaves through the port it is at. -/
theorem extend_source (hsrc : S.arrival fromId = some src) (hend : ¬ S.IsSwitch src.1)
    (hlast : (McPath.ofPortId fromId).last = .ok 0) (hi : src.2 < 256)
    (hext : (McPath.ofPortId fromId).extend src.2 = .ok (some path'))
    (hc : S.arrival path'.toPortId = some c) : S.arrival fromId = some c ∨ S.peer src = some c := by
  have hlead := leads_ofPortId hsrc
  obtain ⟨-, hlt, hbyte⟩ := McPath.last_ok hlast
  have hcnt : fromId.drpath.cnt < 64 := Int.ofNat_lt.mp hlt
  have hown : (McPath.ofPortId fromId).toPortId = fromId := toPortId_ofPortId (by omega)
  have hstart := hlead.extend_start hext
  cases hdirect : fromId.isDirect with
  | false =>
      rw [Subnet.arrival_routed hstart hdirect] at hc
      exact .inl hc
  | true =>
      have hhops := McPath.extend_hops hlead.nonneg hi hext
      unfold McPath.hops at hhops
      rw [hown] at hhops
      by_cases hempty : fromId.drpath.cnt = 0
      · have hnil : fromId.drpath.hops 0 = [] := DrPath.hops_of_le hempty.le
        rw [hnil] at hhops
        rw [Subnet.arrival_depart hstart hdirect hnil hhops hsrc, Subnet.depart, if_neg hend,
          if_pos rfl] at hc
        exact .inr hc
      · -- The last hop would go through port 0 to an adapter.
        have hback : (McPath.ofPortId fromId).hops = _ :=
          McPath.hops_eq_back (Int.natCast_pos.mpr (Nat.pos_of_ne_zero hempty)) hlt
        rw [hbyte, McPath.hops, hown] at hback
        have hsame : fromId.SameStart (McPath.ofPortId fromId).back.toPortId := ⟨rfl, rfl, rfl⟩
        obtain ⟨d, -, hpeer, -⟩ := Subnet.arrival_back hsame hdirect hback hsrc hend
        exact absurd (S.peer_port hpeer).1 (Nat.lt_irrefl 0)

/-- A search from an adapter that was reached through a switch leaves by the last hop, the other
way round. -/
theorem back_source (hsrc : S.arrival fromId = some src) (hend : ¬ S.IsSwitch src.1)
    (hlast : (McPath.ofPortId fromId).last = .ok k) (hpos : 0 < fromId.drpath.cnt)
    (hc : S.arrival (McPath.ofPortId fromId).back.toPortId = some c) :
    S.arrival fromId = some c ∨ S.peer src = some (c.1, k) ∧ (¬ S.IsSwitch c.1 → c.2 = k) := by
  obtain ⟨-, hlt, hbyte⟩ := McPath.last_ok hlast
  have hcnt : fromId.drpath.cnt < 64 := Int.ofNat_lt.mp hlt
  have hstart : fromId.SameStart (McPath.ofPortId fromId).back.toPortId := ⟨rfl, rfl, rfl⟩
  cases hdirect : fromId.isDirect with
  | false =>
      rw [Subnet.arrival_routed hstart hdirect] at hc
      exact .inl hc
  | true =>
      have hback : (McPath.ofPortId fromId).hops = _ :=
        McPath.hops_eq_back (Int.natCast_pos.mpr hpos) hlt
      rw [hbyte, McPath.hops, toPortId_ofPortId (by omega)] at hback
      obtain ⟨d, hd, hpeer, hport⟩ := Subnet.arrival_back hstart hdirect hback hsrc hend
      obtain rfl : d = c := Option.some.inj (hd.symm.trans hc)
      exact .inr ⟨S.peer_symm hpeer, hport⟩

end Arrivals

end Ibtracert
end InfinibandDiags
