import InfinibandDiags.Library.Chain

/-! An intrusive first-in first-out queue: a head pointer, a tail pointer and a link
in every queued cell. `Fifo` carries the proof that the links spell out a list. -/
namespace InfinibandDiags

/-- The memory of a queue. Cells are addressed by the order they were allocated in. -/
structure FifoCells (α : Type*) where
  cell : Nat → Option α
  next : Nat → Option Nat
  used : Nat
  head : Option Nat
  tail : Option Nat

namespace FifoCells
variable {α : Type*}

def empty : FifoCells α := ⟨fun _ => none, fun _ => none, 0, none, none⟩

/-- Allocates a cell and links it behind the tail. -/
def push (q : FifoCells α) (a : α) : FifoCells α :=
  let cell := Function.update q.cell q.used (some a)
  let next := Function.update q.next q.used none
  match q.head with
  | none => ⟨cell, next, q.used + 1, some q.used, some q.used⟩
  | some _ =>
      match q.tail with
      | none => ⟨cell, next, q.used + 1, q.head, some q.used⟩
      | some t => ⟨cell, Function.update next t (some q.used), q.used + 1, q.head, some q.used⟩

/-- Unlinks the head cell; the tail is reset only when it was the head. -/
def pop (q : FifoCells α) : Option α × FifoCells α :=
  match q.head with
  | none => (none, q)
  | some h =>
      let tail := if q.tail = some h then none else q.tail
      (q.cell h, { q with head := q.next h, tail })

/-- The queue holds the list: the chain from the head runs through cells with these
values, all of them allocated, and the tail points at the last one. -/
structure Holds (q : FifoCells α) (addrs : List Nat) (l : List α) : Prop where
  chain : Chain.IsChain q.next q.head addrs
  values : addrs.map q.cell = l.map some
  bound : ∀ r ∈ addrs, r < q.used
  last : addrs ≠ [] → q.tail = addrs.getLast?

theorem Holds.empty : Holds (FifoCells.empty : FifoCells α) [] [] :=
  ⟨.nil, rfl, by simp, by simp⟩

variable {q : FifoCells α} {addrs : List Nat} {l : List α}

theorem Holds.push_chain (h : Holds q addrs l) (hne : addrs ≠ []) :
    Chain.IsChain (Function.update (Function.update q.next q.used none)
      (addrs.getLast hne) (some q.used)) q.head (addrs ++ [q.used]) := by
  have bound := h.bound
  have chain := h.chain
  clear h
  generalize q.head = hd at chain ⊢
  induction chain with
  | nil => exact absurd rfl hne
  | @cons r t ht ih =>
      have hr : r ≠ q.used := Nat.ne_of_lt (bound r List.mem_cons_self)
      cases t with
      | nil =>
          have hlast : q.used ≠ r := Ne.symm hr
          simp only [List.getLast_singleton, List.cons_append, List.nil_append]
          refine .cons ?_
          rw [Function.update_self]
          refine .cons ?_
          rw [Function.update_of_ne hlast, Function.update_self]
          exact .nil
      | cons s t =>
          have hnodup := (Chain.IsChain.cons ht).nodup
          have hlast : r ≠ (s :: t).getLast (by simp) := by
            intro heq
            exact (List.nodup_cons.mp hnodup).1 (heq ▸ List.getLast_mem _)
          simp only [List.getLast_cons (List.cons_ne_nil s t), List.cons_append]
          refine .cons ?_
          rw [Function.update_of_ne hlast, Function.update_of_ne hr]
          exact ih (by simp) (fun x hx => bound x (List.mem_cons_of_mem r hx))

theorem Holds.push (h : Holds q addrs l) (a : α) :
    Holds (q.push a) (addrs ++ [q.used]) (l ++ [a]) := by
  have hvals : (addrs ++ [q.used]).map (Function.update q.cell q.used (some a)) =
      (l ++ [a]).map some := by
    rw [List.map_append, List.map_append, ← h.values]
    congr 1
    · refine List.map_congr_left fun r hr => ?_
      exact Function.update_of_ne (Nat.ne_of_lt (h.bound r hr)) _ _
    · simp
  have hbound : ∀ r ∈ addrs ++ [q.used], r < q.used + 1 := by
    intro r hr
    rcases List.mem_append.mp hr with hr | hr
    · exact Nat.lt_succ_of_lt (h.bound r hr)
    · exact List.mem_singleton.mp hr ▸ Nat.lt_succ_self _
  unfold FifoCells.push
  cases hd : q.head with
  | none =>
      have hnil : addrs = [] := Chain.isChain_none.mp (hd ▸ h.chain)
      subst hnil
      refine ⟨?_, hvals, hbound, by simp⟩
      dsimp only
      refine .cons ?_
      rw [Function.update_self]
      exact .nil
  | some r =>
      have hne : addrs ≠ [] := by
        rintro rfl
        have := h.chain
        rw [hd] at this
        cases this
      have ht : q.tail = some (addrs.getLast hne) := by
        rw [h.last hne, List.getLast?_eq_some_getLast hne]
      rw [ht]
      refine ⟨?_, hvals, hbound, by simp⟩
      have := h.push_chain hne
      rwa [hd] at this

theorem Holds.pop_nil (h : Holds q [] l) : q.pop = (none, q) ∧ l = [] := by
  have hd : q.head = none := by
    have := h.chain
    generalize q.head = hd at this
    cases this; rfl
  refine ⟨by simp [pop, hd], ?_⟩
  have hv := h.values
  simpa using hv.symm

theorem Holds.pop_cons {r : Nat} (h : Holds q (r :: addrs) l) :
    ∃ a t, l = a :: t ∧ q.pop.1 = some a ∧ Holds q.pop.2 addrs t := by
  have hv := h.values
  cases l with
  | nil => simp at hv
  | cons a t =>
      simp only [List.map_cons, List.cons.injEq] at hv
      have hc := h.chain
      generalize hd : q.head = hd' at hc
      cases hc with
      | cons ht =>
          refine ⟨a, t, rfl, by simp [pop, hd, hv.1], ?_⟩
          simp only [pop, hd]
          refine ⟨ht, hv.2, fun x hx => h.bound x (List.mem_cons_of_mem r hx), ?_⟩
          intro hne
          have hlast : q.tail = addrs.getLast? := by
            rw [h.last (List.cons_ne_nil _ _), List.getLast?_cons]
            simp [List.getLast?_eq_some_getLast hne]
          have hnot : q.tail ≠ some r := by
            rw [hlast, List.getLast?_eq_some_getLast hne]
            intro heq
            have hmem := List.getLast_mem hne
            rw [Option.some.inj heq] at hmem
            exact (List.nodup_cons.mp h.chain.nodup).1 hmem
          simp only [if_neg hnot]
          exact hlast

theorem Holds.toList (h : Holds q addrs l) :
    ((Chain.walk q.next q.used q.head).getD []).filterMap q.cell = l := by
  rw [Chain.walk_of_isChain h.chain h.bound, Option.getD_some]
  have : addrs.filterMap q.cell = (addrs.map q.cell).filterMap id := by
    rw [List.filterMap_map]; rfl
  rw [this, h.values, List.filterMap_map]
  simp

end FifoCells

/-- A queue whose links are known to spell out a list. -/
def Fifo (α : Type*) := { q : FifoCells α // ∃ addrs l, q.Holds addrs l }

namespace Fifo
variable {α : Type*}

def empty : Fifo α := ⟨.empty, [], [], .empty⟩

def push (q : Fifo α) (a : α) : Fifo α :=
  ⟨q.val.push a, q.property.elim fun _ h => h.elim fun _ h => ⟨_, _, h.push a⟩⟩

theorem pop_holds (q : Fifo α) : ∃ addrs l, q.val.pop.2.Holds addrs l := by
  obtain ⟨addrs, l, h⟩ := q.property
  cases addrs with
  | nil => exact ⟨[], l, by rw [h.pop_nil.1]; exact h⟩
  | cons r addrs =>
      obtain ⟨_, t, _, _, ht⟩ := h.pop_cons
      exact ⟨addrs, t, ht⟩

def pop (q : Fifo α) : Option α × Fifo α := (q.val.pop.1, ⟨q.val.pop.2, q.pop_holds⟩)

/-- The queued values from the head to the tail, read off by following the links. -/
def toList (q : Fifo α) : List α :=
  ((Chain.walk q.val.next q.val.used q.val.head).getD []).filterMap q.val.cell

@[simp] theorem toList_empty : (empty : Fifo α).toList = [] := rfl

@[simp] theorem toList_push (q : Fifo α) (a : α) : (q.push a).toList = q.toList ++ [a] := by
  obtain ⟨q, addrs, l, h⟩ := q
  exact (h.push a).toList.trans (congrArg (· ++ [a]) h.toList.symm)

theorem pop_of_nil {q : Fifo α} (h : q.toList = []) : q.pop = (none, q) := by
  obtain ⟨q, addrs, l, hq⟩ := q
  cases addrs with
  | nil =>
      have hpop := hq.pop_nil.1
      refine Prod.ext ?_ (Subtype.ext ?_)
      · change q.pop.1 = none
        rw [hpop]
      · change q.pop.2 = q
        rw [hpop]
  | cons r addrs =>
      obtain ⟨a, t, hl, _, _⟩ := hq.pop_cons
      exact absurd ((hl.symm.trans hq.toList.symm).trans h) (List.cons_ne_nil _ _)

theorem pop_of_cons {q : Fifo α} {a : α} {l : List α} (h : q.toList = a :: l) :
    q.pop.1 = some a ∧ q.pop.2.toList = l := by
  obtain ⟨q, addrs, m, hq⟩ := q
  have hm : m = a :: l := hq.toList.symm.trans h
  cases addrs with
  | nil => exact absurd (hm.symm.trans hq.pop_nil.2) (List.cons_ne_nil _ _)
  | cons r addrs =>
      obtain ⟨b, t, hbt, hb, ht⟩ := hq.pop_cons
      obtain ⟨rfl, rfl⟩ := List.cons.inj (hm.symm.trans hbt)
      exact ⟨hb, ht.toList⟩

end Fifo
end InfinibandDiags
