import Mathlib.Data.List.Basic
import Mathlib.Tactic.TypeStar

/-! Records in a list that are linked to others, as a search leaves them: the way up over the
links, and the places that the records stand for. -/

/-- A record names the one above it by its index, or stands for the root. -/
structure Links (ρ π : Type*) where
  up : ρ → Option Nat
  root : ρ → π → Prop
  edge : ρ → π → ρ → π → Prop

namespace Links
variable {ρ π : Type*} (L : Links ρ π)

/-- The way up from a record to the root: the records above it, from the nearest one on. -/
inductive Ascent (records : List ρ) : List Nat → ρ → π → Prop
  | root {x a} : L.up x = none → L.root x a → Ascent records [] x a
  | link {refs r y a x b} : Ascent records refs y a → records[r]? = some y → L.up x = some r →
      L.edge y a x b → Ascent records (r :: refs) x b

/-- For the links, one record does as well as the other. -/
structure Alike (x x' : ρ) : Prop where
  up : L.up x' = L.up x
  root : ∀ a, L.root x a → L.root x' a
  edge : ∀ a y b, L.edge x a y b → L.edge x' a y b
  enters : ∀ y a b, L.edge y a x b → L.edge y a x' b

/-- Each record is linked to one in front of it. -/
def Earlier (records : List ρ) : Prop :=
  ∀ (r : Nat) x, records[r]? = some x → ∀ p, L.up x = some p → p < r

variable {L} {records records' : List ρ} {refs : List Nat} {x x' : ρ} {a : π}

theorem Alike.refl (x : ρ) : L.Alike x x := ⟨rfl, fun _ h => h, fun _ _ _ h => h, fun _ _ _ h => h⟩

/-- The way up stays when records are added, or changed beside their links. -/
theorem Ascent.mono
    (hkeep : ∀ (r : Nat) y, records[r]? = some y → ∃ y', records'[r]? = some y' ∧ L.Alike y y')
    (h : L.Ascent records refs x a) (hx : L.Alike x x') : L.Ascent records' refs x' a := by
  induction h generalizing x' with
  | root hup hroot => exact .root (hx.up.trans hup) (hx.root _ hroot)
  | link _ hget hup hedge ih =>
      obtain ⟨y', hget', hy⟩ := hkeep _ _ hget
      exact .link (ih hy) hget' (hx.up.trans hup) (hx.enters _ _ _ (hy.edge _ _ _ hedge))

/-- A record on the way has a way up of its own, and an edge down. -/
theorem Ascent.mem (h : L.Ascent records refs x a) {r : Nat} (hr : r ∈ refs) :
    ∃ y c refs' z d, records[r]? = some y ∧ L.Ascent records refs' y c ∧ L.edge y c z d := by
  induction h with
  | root => cases hr
  | link habove hget hup hedge ih =>
      cases hr with
      | head => exact ⟨_, _, _, _, _, hget, habove, hedge⟩
      | tail _ hr => exact ih hr

/-- The way up passes ever earlier records. -/
theorem Ascent.descending (hearlier : L.Earlier records) (h : L.Ascent records refs x a)
    {n : Nat} (hn : ∀ p, L.up x = some p → p < n) :
    refs.Pairwise (· > ·) ∧ ∀ r ∈ refs, r < n := by
  induction h generalizing n with
  | root => exact ⟨.nil, fun _ hr => absurd hr List.not_mem_nil⟩
  | @link refs r y a x b habove hget hup hedge ih =>
      obtain ⟨hpairwise, hbelow⟩ := ih fun p hp => hearlier r y hget p hp
      refine ⟨.cons hbelow hpairwise, ?_⟩
      rintro s (_ | ⟨_, hs⟩)
      · exact hn r hup
      · exact Nat.lt_trans (hbelow s hs) (hn r hup)

/-- It passes none of them twice. -/
theorem Ascent.nodup (hearlier : L.Earlier records) (h : L.Ascent records refs x a)
    {n : Nat} (hn : ∀ p, L.up x = some p → p < n) : refs.Nodup :=
  (h.descending hearlier hn).1.imp fun hgt => Nat.ne_of_gt hgt

end Links
