import Mathlib.Data.List.AList

/-! What is assumed of complib's `cl_qmap`: a finite map whose insertion keeps an item
that is already there. -/
namespace InfinibandDiags

/-- `cl_qmap_t` as it is used here, keyed by `uint32_t`. -/
abbrev Qmap (β : Type) := AList fun _ : UInt32 => β

variable {β : Type}

def clQmapInsert (m : Qmap β) (key : UInt32) (item : β) : Qmap β :=
  if key ∈ m then m else m.insert key item

def clQmapCount (m : Qmap β) : Nat := m.entries.length

/-- The items of the map. -/
def clQmapItems (m : Qmap β) : List β := m.entries.map Sigma.snd

@[simp] theorem clQmapItems_empty : clQmapItems (∅ : Qmap β) = [] := rfl

@[simp] theorem clQmapCount_empty : clQmapCount (∅ : Qmap β) = 0 := rfl

theorem length_clQmapItems (m : Qmap β) : (clQmapItems m).length = clQmapCount m := by
  simp [clQmapItems, clQmapCount]

theorem clQmapItems_insert {m : Qmap β} {key : UInt32} {item : β} (h : key ∉ m) :
    clQmapItems (clQmapInsert m key item) = item :: clQmapItems m := by
  rw [clQmapInsert, if_neg h, AList.insert_of_notMem h]
  rfl

theorem clQmapCount_insert {m : Qmap β} {key : UInt32} {item : β} :
    clQmapCount (clQmapInsert m key item) = if key ∈ m then clQmapCount m else clQmapCount m + 1 := by
  split
  · next h => rw [clQmapInsert, if_pos h]
  · next h => rw [← length_clQmapItems, clQmapItems_insert h, List.length_cons, length_clQmapItems]

theorem lookup_clQmapInsert {m : Qmap β} {key k : UInt32} {item : β} :
    (clQmapInsert m key item).lookup k =
      if k = key ∧ key ∉ m then some item else m.lookup k := by
  unfold clQmapInsert
  by_cases h : key ∈ m
  · simp [h]
  · by_cases hk : k = key
    · subst hk; simp [h]
    · simp [h, hk, AList.lookup_insert_ne hk]

theorem mem_clQmapItems {m : Qmap β} {item : β} :
    item ∈ clQmapItems m ↔ ∃ key, m.lookup key = some item := by
  simp only [clQmapItems, List.mem_map, Sigma.exists]
  constructor
  · rintro ⟨key, _, hmem, rfl⟩
    exact ⟨key, AList.mem_lookup_iff.mpr hmem⟩
  · rintro ⟨key, h⟩
    exact ⟨key, item, AList.mem_lookup_iff.mp h, rfl⟩

/-- Removing an item takes exactly that item off the map. -/
theorem clQmapItems_erase {m : Qmap β} {key : UInt32} {item : β} (h : m.lookup key = some item) :
    (clQmapItems m).Perm (item :: clQmapItems (m.erase key)) := by
  have hmem : key ∈ m := AList.lookup_isSome.mp (by rw [h]; rfl)
  obtain ⟨b, l₁, l₂, hnot, hl, herase⟩ := List.exists_of_kerase (AList.mem_keys.mp hmem)
  have hb : b = item := by
    have hin : (⟨key, b⟩ : Sigma fun _ : UInt32 => β) ∈ m.entries := by simp [hl]
    exact Option.some.inj ((AList.mem_lookup_iff.mpr hin).symm.trans h)
  subst hb
  have he : (m.erase key).entries = l₁ ++ l₂ := herase
  unfold clQmapItems
  rw [hl, he, List.map_append, List.map_append, List.map_cons]
  exact List.perm_middle

theorem clQmapCount_erase {m : Qmap β} {key : UInt32} {item : β} (h : m.lookup key = some item) :
    clQmapCount m = clQmapCount (m.erase key) + 1 := by
  simpa [length_clQmapItems] using (clQmapItems_erase h).length_eq

theorem lookup_erase_of_eq_some {m : Qmap β} {key k : UInt32} {item : β}
    (h : (m.erase key).lookup k = some item) : m.lookup k = some item := by
  by_cases hk : k = key
  · subst hk; simp at h
  · rwa [AList.lookup_erase_ne hk] at h

theorem clQmapCount_eq_zero {m : Qmap β} : clQmapCount m = 0 ↔ clQmapItems m = [] := by
  rw [← length_clQmapItems, List.length_eq_zero_iff]

end InfinibandDiags
