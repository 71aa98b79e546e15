import Mathlib.Data.List.Basic
import Mathlib.Data.List.Nodup

/-!
# Dictionaries in order of insertion

A dictionary is the list of its items. Setting a key that is present replaces its value in place,
and setting a new key appends an item. The keys are distinct.
-/

/-- A dictionary with distinct keys, in order of insertion. -/
structure Dict (κ α : Type) where
  items : List (κ × α) := []
  nodup : (items.map Prod.fst).Nodup := by exact List.nodup_nil

namespace Dict

variable {κ α : Type}

/-- The keys, in order of insertion. -/
def keys (d : Dict κ α) : List κ :=
  d.items.map Prod.fst

/-- The values, in order of insertion. -/
def values (d : Dict κ α) : List α :=
  d.items.map Prod.snd

theorem nodup_keys (d : Dict κ α) :
  d.keys.Nodup
  := d.nodup

variable [DecidableEq κ]

/-- The value under a key. -/
def get? (d : Dict κ α) (k : κ) : Option α :=
  (d.items.find? fun item => item.1 = k).map Prod.snd

variable {d : Dict κ α} {k : κ} {v : α}

theorem get?_eq_some_iff :
  d.get? k = some v ↔ (k, v) ∈ d.items
  := by
  obtain ⟨items, hnodup⟩ := d
  unfold get?
  dsimp only
  induction items with
  | nil => simp
  | cons item items ih =>
      rw [List.map_cons, List.nodup_cons] at hnodup
      obtain ⟨k', v'⟩ := item
      rw [List.find?_cons]
      by_cases hk : k' = k
      · subst hk
        simp only [decide_true, Option.map_some, Option.some.injEq, List.mem_cons, Prod.mk.injEq,
          true_and]
        constructor
        · rintro rfl
          exact .inl rfl
        · rintro (rfl | hmem)
          · rfl
          · exact absurd (List.mem_map_of_mem hmem) hnodup.1
      · have hne : k ≠ k' := fun h => hk h.symm
        simp only [decide_eq_false hk, List.mem_cons, Prod.mk.injEq, hne, false_and, false_or]
        exact ih hnodup.2

theorem mem_keys_iff :
  k ∈ d.keys ↔ (d.get? k).isSome = true
  := by
  rw [Option.isSome_iff_exists, keys, List.mem_map]
  simp only [get?_eq_some_iff]
  constructor
  · rintro ⟨⟨k, v⟩, hmem, rfl⟩
    exact ⟨v, hmem⟩
  · rintro ⟨v, hmem⟩
    exact ⟨(k, v), hmem, rfl⟩

/-- Replace the value of a key, or append the key with its value. -/
def setItems (items : List (κ × α)) (k : κ) (v : α) : List (κ × α) :=
  match items with
  | [] => [(k, v)]
  | item :: items => if item.1 = k then (k, v) :: items else item :: setItems items k v

theorem map_fst_setItems (items : List (κ × α)) (k : κ) (v : α) :
  (setItems items k v).map Prod.fst =
    if k ∈ items.map Prod.fst then items.map Prod.fst else items.map Prod.fst ++ [k]
  := by
  induction items with
  | nil => rfl
  | cons item items ih =>
      unfold setItems
      by_cases hk : item.1 = k
      · rw [if_pos hk]
        simp [hk]
      · have hne : k ≠ item.1 := fun h => hk h.symm
        rw [if_neg hk, List.map_cons, ih]
        simp only [List.map_cons, List.mem_cons, hne, false_or]
        split
        · rfl
        · rfl

/-- The dictionary with a value set under a key. -/
def set (d : Dict κ α) (k : κ) (v : α) : Dict κ α where
  items := setItems d.items k v
  nodup := by
    rw [map_fst_setItems]
    split
    · exact d.nodup
    · rename_i h
      exact List.nodup_append'.mpr ⟨d.nodup, List.nodup_singleton k,
        List.disjoint_singleton.mpr h⟩

theorem keys_set (d : Dict κ α) (k : κ) (v : α) :
  (d.set k v).keys = if k ∈ d.keys then d.keys else d.keys ++ [k]
  := map_fst_setItems d.items k v

theorem mem_keys_set {k k' : κ} :
  k' ∈ (d.set k v).keys ↔ k' = k ∨ k' ∈ d.keys
  := by
  rw [keys_set]
  split
  · rename_i h
    constructor
    · exact .inr
    · rintro (rfl | h')
      · exact h
      · exact h'
  · rw [List.mem_append, List.mem_singleton, or_comm]

theorem mem_items_set {k k' : κ} {v v' : α} :
  (k', v') ∈ (d.set k v).items ↔ k' = k ∧ v' = v ∨ k' ≠ k ∧ (k', v') ∈ d.items
  := by
  obtain ⟨items, hnodup⟩ := d
  change (k', v') ∈ setItems items k v ↔ _ ∨ _ ∧ (k', v') ∈ items
  induction items with
  | nil => simp [setItems]
  | cons item items ih =>
      obtain ⟨j, w⟩ := item
      rw [List.map_cons, List.nodup_cons] at hnodup
      unfold setItems
      by_cases hj : j = k
      · subst hj
        rw [if_pos rfl]
        simp only [List.mem_cons, Prod.mk.injEq]
        constructor
        · rintro (h | hmem)
          · exact .inl h
          · refine .inr ⟨?_, .inr hmem⟩
            rintro rfl
            exact hnodup.1 (List.mem_map.mpr ⟨_, hmem, rfl⟩)
        · rintro (h | ⟨hne, h | hmem⟩)
          · exact .inl h
          · exact absurd h.1 hne
          · exact .inr hmem
      · rw [if_neg hj]
        simp only [List.mem_cons, Prod.mk.injEq, ih hnodup.2]
        constructor
        · rintro (⟨rfl, rfl⟩ | h | ⟨hne, hmem⟩)
          · exact .inr ⟨hj, .inl ⟨rfl, rfl⟩⟩
          · exact .inl h
          · exact .inr ⟨hne, .inr hmem⟩
        · rintro (h | ⟨hne, h | hmem⟩)
          · exact .inr (.inl h)
          · exact .inl h
          · exact .inr (.inr ⟨hne, hmem⟩)

theorem get?_set {k k' : κ} :
  (d.set k v).get? k' = if k' = k then some v else d.get? k'
  := by
  ext w
  rw [get?_eq_some_iff, mem_items_set]
  split
  · rename_i h
    simp [h, eq_comm]
  · rename_i h
    simp [h, get?_eq_some_iff]

/-- The dictionary without a key. -/
def erase (d : Dict κ α) (k : κ) : Dict κ α where
  items := d.items.filter fun item => item.1 ≠ k
  nodup := d.nodup.sublist (List.filter_sublist.map Prod.fst)

theorem mem_items_erase {k k' : κ} :
  (k', v) ∈ (d.erase k).items ↔ k' ≠ k ∧ (k', v) ∈ d.items
  := by
  unfold erase
  rw [List.mem_filter, decide_eq_true_eq, and_comm]

theorem mem_keys_erase {k k' : κ} :
  k' ∈ (d.erase k).keys ↔ k' ≠ k ∧ k' ∈ d.keys
  := by
  simp only [keys, List.mem_map, Prod.exists, mem_items_erase]
  constructor
  · rintro ⟨j, v, ⟨hne, hmem⟩, rfl⟩
    exact ⟨hne, j, v, hmem, rfl⟩
  · rintro ⟨hne, j, v, hmem, rfl⟩
    exact ⟨j, v, ⟨hne, hmem⟩, rfl⟩

/-! ### Values -/

theorem get?_eq_none_iff :
  d.get? k = none ↔ k ∉ d.keys
  := by
  rw [mem_keys_iff, Bool.not_eq_true, Option.isSome_eq_false_iff, Option.isNone_iff_eq_none]

theorem isNone_get?_congr {β : Type} {d' : Dict κ β} (h : k ∈ d.keys ↔ k ∈ d'.keys) :
  (d.get? k).isNone = (d'.get? k).isNone
  := by
  rw [Bool.eq_iff_iff, Option.isNone_iff_eq_none, Option.isNone_iff_eq_none, get?_eq_none_iff,
    get?_eq_none_iff, h]

/-- A new key has its value at the end. -/
theorem values_set_of_none (h : d.get? k = none) :
  (d.set k v).values = d.values ++ [v]
  := by
  rw [get?_eq_none_iff] at h
  obtain ⟨items, hnodup⟩ := d
  change (setItems items k v).map Prod.snd = items.map Prod.snd ++ [v]
  change k ∉ items.map Prod.fst at h
  clear hnodup
  induction items with
  | nil => rfl
  | cons item items ih =>
      rw [List.map_cons, List.mem_cons, not_or] at h
      unfold setItems
      rw [if_neg fun heq => h.1 heq.symm, List.map_cons, ih h.2]
      rfl

/-- A value that is replaced by one with the same image. -/
theorem map_values_set_of_some {β : Type} {v old : α} {f : α → β}
    (h : d.get? k = some old) (hf : f v = f old) :
  (d.set k v).values.map f = d.values.map f
  := by
  rw [get?_eq_some_iff] at h
  obtain ⟨items, hnodup⟩ := d
  change ((setItems items k v).map Prod.snd).map f = (items.map Prod.snd).map f
  change (k, old) ∈ items at h
  induction items with
  | nil => cases h
  | cons item items ih =>
      rw [List.map_cons, List.nodup_cons] at hnodup
      unfold setItems
      rcases List.mem_cons.mp h with rfl | h
      · rw [if_pos rfl]
        simp [hf]
      · rw [if_neg]
        · rw [List.map_cons, List.map_cons, ih hnodup.2 h]
          rfl
        · rintro rfl
          exact hnodup.1 (List.mem_map.mpr ⟨_, h, rfl⟩)

/-- Erasing a key takes its value out. -/
theorem values_perm_erase (h : d.get? k = some v) :
  d.values.Perm (v :: (d.erase k).values)
  := by
  rw [get?_eq_some_iff] at h
  obtain ⟨items, hnodup⟩ := d
  change (items.map Prod.snd).Perm
    (v :: (items.filter fun item => item.1 ≠ k).map Prod.snd)
  change (k, v) ∈ items at h
  induction items with
  | nil => cases h
  | cons item items ih =>
      rw [List.map_cons, List.nodup_cons] at hnodup
      rcases List.mem_cons.mp h with rfl | h
      · have hkeep : items.filter (fun item => item.1 ≠ k) = items := by
          rw [List.filter_eq_self]
          intro item hitem
          rw [decide_eq_true_eq]
          rintro rfl
          exact hnodup.1 (List.mem_map.mpr ⟨_, hitem, rfl⟩)
        rw [List.filter_cons_of_neg (by simp), hkeep]
        exact .refl _
      · have hne : item.1 ≠ k := by
          rintro rfl
          exact hnodup.1 (List.mem_map.mpr ⟨_, h, rfl⟩)
        rw [List.filter_cons_of_pos (by simpa using hne), List.map_cons, List.map_cons]
        exact ((ih hnodup.2 h).cons _).trans (.swap _ _ _)

end Dict
