import Mathlib.Data.List.Perm.Basic
import RobotestLab.Library.Dict

/-!
# Grouping

Values that are appended to the lists of a dictionary. A list that is grouped by a key has under
each key the values with the key, in their order. A list whose keys are among distinct ones is, up
to its order, the values with the first key, those with the second key, and so on. A set is a list
without duplicates.
-/

/-- The set with more values. -/
def List.update {α : Type} [DecidableEq α] (set values : List α) : List α :=
  values.foldl (fun set value => if value ∈ set then set else set ++ [value]) set

namespace Dict

variable {κ α : Type} [DecidableEq κ]

/-- The list under a key, which is empty when the key is missing. -/
def listOf (d : Dict κ (List α)) (k : κ) : List α := (d.get? k).getD []

/-- `d.setdefault(k, []).append(v)`. -/
def append (d : Dict κ (List α)) (k : κ) (v : α) : Dict κ (List α) :=
  d.set k (d.listOf k ++ [v])

variable {d : Dict κ (List α)}

theorem listOf_append {k k' : κ} {v : α} :
  (d.append k v).listOf k' = if k' = k then d.listOf k ++ [v] else d.listOf k'
  := by
  rw [append, listOf, get?_set]
  split
  case isTrue => rfl
  case isFalse => rfl

/-- Every key has a value. -/
def Inhabited (d : Dict κ (List α)) : Prop := ∀ k ∈ d.keys, d.listOf k ≠ []

theorem Inhabited.append (h : d.Inhabited) (k : κ) (v : α) :
  (d.append k v).Inhabited
  := by
  intro k' hk'
  rw [listOf_append]
  split
  case isTrue => exact List.append_ne_nil_of_right_ne_nil _ (List.cons_ne_nil v [])
  case isFalse hne =>
    apply h
    exact (mem_keys_set.mp hk').resolve_left hne

theorem Inhabited.mem_keys_iff (h : d.Inhabited) {k : κ} :
  k ∈ d.keys ↔ d.listOf k ≠ []
  := by
  refine ⟨h k, ?_⟩
  intro hne
  rw [Dict.mem_keys_iff]
  unfold listOf at hne
  cases hget : d.get? k with
  | none =>
      rw [hget] at hne
      exact absurd rfl hne
  | some values => rfl

theorem Inhabited.get?_eq (h : d.Inhabited) (k : κ) :
  d.get? k = if d.listOf k = [] then none else some (d.listOf k)
  := by
  split
  case isTrue hnil =>
    rw [get?_eq_none_iff, h.mem_keys_iff]
    exact not_not_intro hnil
  case isFalse hne =>
    have hmem := h.mem_keys_iff.mpr hne
    rw [Dict.mem_keys_iff, Option.isSome_iff_exists] at hmem
    obtain ⟨values, hvalues⟩ := hmem
    rw [listOf, hvalues, Option.getD_some]

/-- The values by their keys. -/
def groupBy (f : α → κ) (values : List α) : Dict κ (List α) :=
  values.foldl (fun d v => d.append (f v) v) {}

theorem foldl_append {f : α → κ} {values : List α} (h : d.Inhabited) (k : κ) :
  (values.foldl (fun d v => d.append (f v) v) d).Inhabited
    ∧ (values.foldl (fun d v => d.append (f v) v) d).listOf k
      = d.listOf k ++ values.filter fun v => f v = k
  := by
  induction values generalizing d with
  | nil => exact ⟨h, (List.append_nil _).symm⟩
  | cons v values ih =>
      obtain ⟨hinhabited, hlist⟩ := ih (h.append (f v) v)
      refine ⟨hinhabited, ?_⟩
      rw [List.foldl_cons, hlist, listOf_append]
      by_cases hk : k = f v
      · rw [if_pos hk, List.filter_cons_of_pos (by simpa using hk.symm), hk, List.append_assoc,
          List.singleton_append]
      · rw [if_neg hk, List.filter_cons_of_neg (by simpa using Ne.symm hk)]

theorem inhabited_empty : ({} : Dict κ (List α)).Inhabited := nofun

theorem inhabited_groupBy (f : α → κ) (values : List α) (k : κ) :
  (groupBy f values).Inhabited ∧ (groupBy f values).listOf k = values.filter fun v => f v = k
  := foldl_append inhabited_empty k

end Dict

/-- A list is, up to its order, the values with each of the keys. -/
theorem List.perm_flatMap_filter {κ α : Type} [DecidableEq κ] {f : α → κ} {keys : List κ}
    {values : List α}
    (hnodup : keys.Nodup) (h : ∀ v ∈ values, f v ∈ keys) :
  (keys.flatMap fun k => values.filter fun v => f v = k).Perm values
  := by
  induction keys generalizing values with
  | nil =>
      rw [List.eq_nil_iff_forall_not_mem.mpr fun v hv => List.not_mem_nil (h v hv)]
      exact .refl []
  | cons k keys ih =>
      rw [List.nodup_cons] at hnodup
      rw [List.flatMap_cons]
      have hrest : (keys.flatMap fun k' => values.filter fun v => f v = k')
          = keys.flatMap fun k' => (values.filter fun v => !decide (f v = k)).filter fun v =>
            f v = k' := by
        apply List.flatMap_congr
        intro k' hk'
        rw [List.filter_filter]
        apply List.filter_congr
        intro v _
        by_cases hv : f v = k'
        · have hne : k' ≠ k := fun heq => hnodup.1 (heq ▸ hk')
          simp [hv, hne]
        · simp [hv]
      rw [hrest]
      refine (List.Perm.append_left _ (ih hnodup.2 ?_)).trans (List.filter_append_perm _ values)
      intro v hv
      obtain ⟨hv, hne⟩ := List.mem_filter.mp hv
      exact (List.mem_cons.mp (h v hv)).resolve_left (by simpa using hne)
