import Std.Data.ExtTreeMap.Lemmas
import Mathlib.Algebra.Order.BigOperators.Group.List
import Mathlib.Algebra.Order.Ring.Canonical
import Mathlib.Algebra.Order.Ring.Nat
import Mathlib.Data.List.Dedup
import Mathlib.Tactic.Common

/-!
# Sorted maps

A map that iterates over its entries in the order of their keys is an `ExtTreeMap`. Here are the
facts about iterating over one: the entries of one map assigned to another, the total of a measure
of the entries, and the iteration as a list of keys.
-/

universe u v w

namespace SortedMap

open Std

variable {κ : Type u} {α : Type v} {β : Type w} {cmp : κ → κ → Ordering}

/-! ### Entries -/

section Entries

variable [TransCmp cmp] [LawfulEqCmp cmp]

theorem nodup_toList (m : ExtTreeMap κ α cmp) :
  m.toList.Nodup
  := by
  apply ExtTreeMap.distinct_keys_toList.imp
  rintro a b h rfl
  apply h
  exact ReflCmp.compare_self

theorem nodup_keys (m : ExtTreeMap κ α cmp) :
  (m.toList.map Prod.fst).Nodup
  := by
  rw [List.Nodup, List.pairwise_map]
  apply ExtTreeMap.distinct_keys_toList.imp
  rintro a b h hkey
  apply h
  rw [hkey]
  exact ReflCmp.compare_self

variable {m : ExtTreeMap κ α cmp}

theorem mem_keys {k : κ} :
  k ∈ m.toList.map Prod.fst ↔ m[k]?.isSome
  := by
  rw [List.mem_map, Option.isSome_iff_exists]
  constructor
  · rintro ⟨⟨k, v⟩, hmem, rfl⟩
    exact ⟨v, ExtTreeMap.mem_toList_iff_getElem?_eq_some.mp hmem⟩
  · rintro ⟨v, hv⟩
    exact ⟨(k, v), ExtTreeMap.mem_toList_iff_getElem?_eq_some.mpr hv, rfl⟩

theorem getElem?_insert_eq [DecidableEq κ] {k k' : κ} {v : α} :
  (m.insert k v)[k']? = if k = k' then some v else m[k']?
  := by
  rw [ExtTreeMap.getElem?_insert]
  simp only [LawfulEqCmp.compare_eq_iff_eq]

/-- Iterating over the entries is iterating over the keys. -/
theorem flatMap_toList {f : κ × α → List β} {g : κ → List β}
    (h : ∀ k v, m[k]? = some v → f (k, v) = g k) :
  m.toList.flatMap f = (m.toList.map Prod.fst).flatMap g
  := by
  rw [List.flatMap_map]
  apply List.flatMap_congr
  rintro ⟨k, v⟩ hmem
  exact h k v (ExtTreeMap.mem_toList_iff_getElem?_eq_some.mp hmem)

end Entries

/-! ### Assigning entries -/

/-- Assign every entry of the list, in order. -/
def assignAll [TransCmp cmp] (m : ExtTreeMap κ α cmp) (entries : List (κ × α)) :
    ExtTreeMap κ α cmp :=
  entries.foldl (fun m entry => m.insert entry.1 entry.2) m

section Assign

variable [TransCmp cmp] [LawfulEqCmp cmp]

theorem getElem?_assignAll_of_notMem {m : ExtTreeMap κ α cmp} {entries : List (κ × α)} {k : κ}
    (h : k ∉ entries.map Prod.fst) :
  (assignAll m entries)[k]? = m[k]?
  := by
  classical
  induction entries generalizing m with
  | nil => rfl
  | cons entry entries ih =>
      rw [List.map_cons, List.mem_cons, not_or] at h
      change (assignAll (m.insert entry.1 entry.2) entries)[k]? = m[k]?
      rw [ih h.2, getElem?_insert_eq, if_neg (Ne.symm h.1)]

/-- With distinct keys, every entry ends up in the map. -/
theorem getElem?_assignAll_of_mem {m : ExtTreeMap κ α cmp} {entries : List (κ × α)} {k : κ} {v : α}
    (hnodup : (entries.map Prod.fst).Nodup) (h : (k, v) ∈ entries) :
  (assignAll m entries)[k]? = some v
  := by
  classical
  induction entries generalizing m with
  | nil => cases h
  | cons entry entries ih =>
      rw [List.map_cons, List.nodup_cons] at hnodup
      change (assignAll (m.insert entry.1 entry.2) entries)[k]? = some v
      rcases List.mem_cons.mp h with rfl | hmem
      · rw [getElem?_assignAll_of_notMem hnodup.1, getElem?_insert_eq, if_pos rfl]
      · exact ih hnodup.2 hmem

/-- The entries of the second map replace those of the first. -/
theorem getElem?_assignAll_toList {m m' : ExtTreeMap κ α cmp} {k : κ} :
  (assignAll m m'.toList)[k]? = m'[k]?.or m[k]?
  := by
  cases hk : m'[k]? with
  | none =>
      rw [Option.none_or]
      apply getElem?_assignAll_of_notMem
      rw [mem_keys, hk]
      exact Bool.false_ne_true
  | some v =>
      rw [Option.some_or]
      apply getElem?_assignAll_of_mem (nodup_keys m')
      exact ExtTreeMap.mem_toList_iff_getElem?_eq_some.mpr hk

end Assign

/-! ### Totals -/

/-- The total of a measure over the entries. -/
def total [TransCmp cmp] (f : κ × α → Nat) (m : ExtTreeMap κ α cmp) : Nat :=
  (m.toList.map f).sum

section Totals

variable [TransCmp cmp] {f : κ × α → Nat}

@[simp]
theorem total_empty :
  total f (∅ : ExtTreeMap κ α cmp) = 0
  := by
  unfold total
  rw [ExtTreeMap.toList_eq_nil_iff.mpr rfl]
  rfl

variable [LawfulEqCmp cmp]

theorem toList_insert_perm (m : ExtTreeMap κ α cmp) (k : κ) (v : α) :
  (m.insert k v).toList.Perm ((k, v) :: (m.erase k).toList)
  := by
  classical
  apply (List.perm_ext_iff_of_nodup (nodup_toList _) _).mpr
  · rintro ⟨k', v'⟩
    rw [List.mem_cons, ExtTreeMap.mem_toList_iff_getElem?_eq_some,
      ExtTreeMap.mem_toList_iff_getElem?_eq_some, getElem?_insert_eq, ExtTreeMap.getElem?_erase]
    simp only [LawfulEqCmp.compare_eq_iff_eq, Prod.mk.injEq]
    grind
  · rw [List.nodup_cons]
    refine ⟨?_, nodup_toList _⟩
    rw [ExtTreeMap.mem_toList_iff_getElem?_eq_some, ExtTreeMap.getElem?_erase_self]
    simp

variable {m : ExtTreeMap κ α cmp}

theorem toList_perm_erase {k : κ} {v : α} (h : m[k]? = some v) :
  m.toList.Perm ((k, v) :: (m.erase k).toList)
  := by
  classical
  have hinsert : m.insert k v = m := by
    apply ExtTreeMap.ext_getElem?
    intro k'
    rw [getElem?_insert_eq]
    split
    · subst k'
      rw [h]
    · rfl
  have hperm := toList_insert_perm m k v
  rwa [hinsert] at hperm

theorem erase_of_none {k : κ} (h : m[k]? = none) :
  m.erase k = m
  := by
  classical
  apply ExtTreeMap.ext_getElem?
  intro k'
  rw [ExtTreeMap.getElem?_erase]
  simp only [LawfulEqCmp.compare_eq_iff_eq]
  split
  · subst k'
    rw [h]
  · rfl

/-- The entries of a map with one entry. -/
theorem toList_insert_empty (k : κ) (v : α) :
  ((∅ : ExtTreeMap κ α cmp).insert k v).toList = [(k, v)]
  := by
  have hperm := toList_insert_perm (∅ : ExtTreeMap κ α cmp) k v
  rw [erase_of_none ExtTreeMap.getElem?_empty] at hperm
  apply List.perm_singleton.mp hperm

/-- Assigning an entry replaces its share of the total. -/
theorem total_insert (m : ExtTreeMap κ α cmp) (k : κ) (v : α) :
  total f (m.insert k v) + m[k]?.elim 0 (fun v => f (k, v)) = total f m + f (k, v)
  := by
  have hinsert : total f (m.insert k v) = f (k, v) + total f (m.erase k) := by
    unfold total
    rw [((toList_insert_perm m k v).map f).sum_eq, List.map_cons, List.sum_cons]
  rw [hinsert]
  cases hk : m[k]? with
  | none =>
      rw [erase_of_none hk, Option.elim_none, Nat.add_zero, Nat.add_comm]
  | some v' =>
      have hold : total f m = f (k, v') + total f (m.erase k) := by
        unfold total
        rw [((toList_perm_erase hk).map f).sum_eq, List.map_cons, List.sum_cons]
      rw [hold]
      simp only [Option.elim_some]
      omega

/-- An entry has no more than the total. -/
theorem le_total {k : κ} {v : α} (h : m[k]? = some v) :
  f (k, v) ≤ total f m
  := by
  unfold total
  apply List.le_sum_of_mem
  rw [List.mem_map]
  exact ⟨(k, v), ExtTreeMap.mem_toList_iff_getElem?_eq_some.mpr h, rfl⟩

/-- A measure that is no greater on the entries has no greater total. -/
theorem total_le_total {g : κ × α → Nat} (h : ∀ k v, m[k]? = some v → f (k, v) ≤ g (k, v)) :
  total f m ≤ total g m
  := by
  unfold total
  apply List.sum_le_sum
  rintro ⟨k, v⟩ hmem
  exact h k v (ExtTreeMap.mem_toList_iff_getElem?_eq_some.mp hmem)

/-- The total is a sum over any list of the keys. -/
theorem total_eq_sum {keys : List κ} {g : κ → Nat} (hnodup : keys.Nodup)
    (hkeys : ∀ k, k ∈ keys ↔ m[k]?.isSome) (h : ∀ k v, m[k]? = some v → f (k, v) = g k) :
  total f m = (keys.map g).sum
  := by
  have hperm : (m.toList.map Prod.fst).Perm keys := by
    apply (List.perm_ext_iff_of_nodup (nodup_keys m) hnodup).mpr
    intro k
    rw [mem_keys, hkeys]
  rw [← (hperm.map g).sum_eq, List.map_map]
  unfold total
  congr 1
  apply List.map_congr_left
  rintro ⟨k, v⟩ hmem
  exact h k v (ExtTreeMap.mem_toList_iff_getElem?_eq_some.mp hmem)

end Totals

end SortedMap
