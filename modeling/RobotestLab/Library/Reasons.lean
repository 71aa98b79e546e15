import RobotestLab.Library.Dict

/-!
# Reasons for missing values

A table of values, some of which are missing, and a table of reasons. The table is explained when
exactly the missing values have a reason, up to the gaps, which are missing and have none.
-/

section Reasons

variable {κ κ' α ρ : Type} [DecidableEq κ] [DecidableEq κ']

/-- The values under the names are explained by the reasons under their labels, but for the gaps. -/
structure Explained (label : κ → κ') (missing : α → Prop) (names gaps : List κ) (values : Dict κ α)
    (reasons : Dict κ' ρ) : Prop where
  keys : values.keys = names
  unexplained : ∀ k ∈ gaps, ∃ v, values.get? k = some v ∧ missing v ∧ reasons.get? (label k) = none
  explains : ∀ k v, values.get? k = some v → k ∉ gaps →
    (missing v ↔ (reasons.get? (label k)).isSome = true)
  fresh : ∀ k, k ∉ names → reasons.get? (label k) = none

namespace Explained

variable {label : κ → κ'} {missing : α → Prop} {names gaps : List κ} {values : Dict κ α}
  {reasons : Dict κ' ρ} {k : κ} {v : α} {r : ρ}

theorem empty :
  Explained label missing [] [] ({} : Dict κ α) ({} : Dict κ' ρ)
  where
  keys := rfl
  unexplained := nofun
  explains := nofun
  fresh _ _ := rfl

theorem get?_of_notMem (h : Explained label missing names gaps values reasons) (hk : k ∉ names) :
  values.get? k = none
  := by
  rw [Dict.get?_eq_none_iff, h.keys]
  exact hk

theorem notMem_gaps (h : Explained label missing names gaps values reasons) (hk : k ∉ names) :
  k ∉ gaps
  := by
  intro hgap
  obtain ⟨v, hv, -⟩ := h.unexplained k hgap
  rw [h.get?_of_notMem hk] at hv
  cases hv

theorem keys_set (h : Explained label missing names gaps values reasons) (hk : k ∉ names) (v : α) :
  (values.set k v).keys = names ++ [k]
  := by
  rw [Dict.keys_set, if_neg, h.keys]
  rw [h.keys]
  exact hk

/-- A new value that is there. -/
theorem value (h : Explained label missing names gaps values reasons) (hk : k ∉ names)
    (hv : ¬ missing v) :
  Explained label missing (names ++ [k]) gaps (values.set k v) reasons
  where
  keys := h.keys_set hk v
  unexplained k' hgap := by
    have hne : k' ≠ k := by
      rintro rfl
      exact h.notMem_gaps hk hgap
    rw [Dict.get?_set, if_neg hne]
    exact h.unexplained k' hgap
  explains k' v' hget hgap := by
    rw [Dict.get?_set] at hget
    split at hget
    · rename_i heq
      obtain rfl := Option.some.inj hget
      rw [heq, h.fresh k hk]
      simp [hv]
    · exact h.explains k' v' hget hgap
  fresh k' hk' := h.fresh k' fun hmem => hk' (List.mem_append_left _ hmem)

/-- A new value that is missing, with the reason. -/
theorem reason (hlabel : Function.Injective label)
    (h : Explained label missing names gaps values reasons) (hk : k ∉ names)
    (hv : missing v) (r : ρ) :
  Explained label missing (names ++ [k]) gaps (values.set k v) (reasons.set (label k) r)
  where
  keys := h.keys_set hk v
  unexplained k' hgap := by
    have hne : k' ≠ k := by
      rintro rfl
      exact h.notMem_gaps hk hgap
    rw [Dict.get?_set, if_neg hne, Dict.get?_set, if_neg fun heq => hne (hlabel heq)]
    exact h.unexplained k' hgap
  explains k' v' hget hgap := by
    rw [Dict.get?_set] at hget ⊢
    split at hget
    · rename_i heq
      obtain rfl := Option.some.inj hget
      rw [heq, if_pos rfl]
      simp [hv]
    · rename_i hne
      rw [if_neg fun heq => hne (hlabel heq)]
      exact h.explains k' v' hget hgap
  fresh k' hk' := by
    rw [List.mem_append, List.mem_singleton, not_or] at hk'
    rw [Dict.get?_set, if_neg fun heq => hk'.2 (hlabel heq)]
    exact h.fresh k' hk'.1

/-- New values that are all there. -/
theorem values_fold (h : Explained label missing names gaps values reasons) {ks : List κ}
    (hnodup : ks.Nodup) (hks : ∀ k ∈ ks, k ∉ names) {f : κ → α} (hf : ∀ k ∈ ks, ¬ missing (f k)) :
  Explained label missing (names ++ ks) gaps (ks.foldl (fun values k => values.set k (f k)) values)
    reasons
  := by
  induction ks generalizing names values with
  | nil =>
      rw [List.append_nil]
      exact h
  | cons k ks ih =>
      rw [List.nodup_cons] at hnodup
      rw [List.append_cons, List.foldl_cons]
      apply ih (h.value (hks k List.mem_cons_self) (hf k List.mem_cons_self)) hnodup.2
      · intro k' hk' hmem
        rcases List.mem_append.mp hmem with hmem | hmem
        · exact hks k' (List.mem_cons_of_mem _ hk') hmem
        · rw [List.mem_singleton.mp hmem] at hk'
          exact hnodup.1 hk'
      · intro k' hk'
        exact hf k' (List.mem_cons_of_mem _ hk')

/-- New values that are missing, all for one reason. -/
theorem reasons_fold (hlabel : Function.Injective label)
    (h : Explained label missing names gaps values reasons) {ks : List κ} (hnodup : ks.Nodup)
    (hks : ∀ k ∈ ks, k ∉ names) (hv : missing v) (r : ρ) :
  Explained label missing (names ++ ks) gaps (ks.foldl (fun values k => values.set k v) values)
    (ks.foldl (fun reasons k => reasons.set (label k) r) reasons)
  := by
  induction ks generalizing names values reasons with
  | nil =>
      rw [List.append_nil]
      exact h
  | cons k ks ih =>
      rw [List.nodup_cons] at hnodup
      rw [List.append_cons, List.foldl_cons, List.foldl_cons]
      apply ih (h.reason hlabel (hks k List.mem_cons_self) hv r) hnodup.2
      intro k' hk' hmem
      rcases List.mem_append.mp hmem with hmem | hmem
      · exact hks k' (List.mem_cons_of_mem _ hk') hmem
      · rw [List.mem_singleton.mp hmem] at hk'
        exact hnodup.1 hk'

/-- A new value that is missing without a reason. -/
theorem gap (h : Explained label missing names gaps values reasons) (hk : k ∉ names)
    (hv : missing v) :
  Explained label missing (names ++ [k]) (gaps ++ [k]) (values.set k v) reasons
  where
  keys := h.keys_set hk v
  unexplained k' hgap := by
    rw [Dict.get?_set]
    split
    · rename_i heq
      rw [heq]
      exact ⟨v, rfl, hv, h.fresh k hk⟩
    · rename_i hne
      rcases List.mem_append.mp hgap with hgap | hgap
      · exact h.unexplained k' hgap
      · exact absurd (List.mem_singleton.mp hgap) hne
  explains k' v' hget hgap := by
    rw [List.mem_append, List.mem_singleton, not_or] at hgap
    rw [Dict.get?_set, if_neg hgap.2] at hget
    exact h.explains k' v' hget hgap.1
  fresh k' hk' := h.fresh k' fun hmem => hk' (List.mem_append_left _ hmem)

/-- All missing values, and only these, have a reason exactly when there is no gap. -/
theorem iff_nil (h : Explained label missing names gaps values reasons) :
  (∀ k v, values.get? k = some v → (missing v ↔ (reasons.get? (label k)).isSome = true)) ↔ gaps = []
  := by
  constructor
  · intro hall
    rw [List.eq_nil_iff_forall_not_mem]
    intro k hgap
    obtain ⟨v, hget, hmissing, hnone⟩ := h.unexplained k hgap
    have hsome := (hall k v hget).mp hmissing
    rw [hnone] at hsome
    cases hsome
  · rintro rfl k v hget
    exact h.explains k v hget List.not_mem_nil

end Explained

end Reasons
