import RobotestLab.Library.Held

/-!
# Changes

Entries have keys and values, and an entry that repeats the last value of its key is dropped. What
is kept are the changes of the keys. An instant may then hold another entry than before: the last
change, when the entry that was held is dropped (`held_changes`).
-/

universe u v w x

variable {T : Type u} {α : Type v} {K : Type w} {V : Type x} [DecidableEq K] [DecidableEq V]
  {key : α → K} {value : α → V} {entries before after l l' : List α} {e : α} {k : K}

section Changes

variable (key : α → K) (value : α → V)

/-- The last value of a key. -/
def latest (entries : List α) (k : K) : Option V :=
  (entries.filter fun e => key e = k).getLast?.map value

/-- The entry has the last value of its key. -/
def Repeats (before : List α) (e : α) : Prop :=
  latest key value before (key e) = some (value e)

instance : DecidablePred (Repeats key value before) :=
  fun e => inferInstanceAs (Decidable (latest key value before (key e) = some (value e)))

/-- The entries that do not repeat the last value of their keys, after other entries. -/
def changesFrom (before : List α) : List α → List α
  | [] => []
  | e :: entries =>
      (if Repeats key value before e then [] else [e]) ++ changesFrom (before ++ [e]) entries

/-- The entries that do not repeat the last value of their keys. -/
def changes (entries : List α) : List α := changesFrom key value [] entries

end Changes

namespace Changes

omit [DecidableEq V] in
theorem latest_concat :
  latest key value (before ++ [e]) k = if key e = k then some (value e) else
    latest key value before k
  := by
  rw [latest, List.filter_append]
  by_cases hkey : key e = k
  · have hlast : [e].filter (fun e => key e = k) = [e] :=
      List.filter_cons_of_pos (decide_eq_true hkey)
    rw [hlast, List.getLast?_concat, if_pos hkey]
    rfl
  · have hnone : [e].filter (fun e => key e = k) = [] :=
      List.filter_cons_of_neg (by simpa using hkey)
    rw [hnone, List.append_nil, if_neg hkey]
    rfl

theorem changesFrom_append :
  changesFrom key value before (l ++ l')
    = changesFrom key value before l ++ changesFrom key value (before ++ l) l'
  := by
  induction l generalizing before with
  | nil => rw [List.nil_append, changesFrom, List.nil_append, List.append_nil]
  | cons e l ih =>
      rw [List.cons_append, changesFrom, changesFrom, ih, List.append_assoc, List.append_assoc,
        List.singleton_append]

theorem changes_append :
  changes key value (before ++ after) = changes key value before ++
    changesFrom key value before after
  := by
  rw [changes, changesFrom_append, List.nil_append]
  rfl

/-- The last entry is a change, or it is dropped. -/
theorem changes_concat :
  changes key value (before ++ [e])
    = changes key value before ++ if Repeats key value before e then [] else [e]
  := by
  rw [changes_append, changesFrom, changesFrom, List.append_nil]

theorem sublist_changesFrom : (changesFrom key value before entries).Sublist entries
  := by
  induction entries generalizing before with
  | nil => apply List.Sublist.refl
  | cons e entries ih =>
      rw [changesFrom]
      split
      · exact ih.cons e
      · exact ih.cons_cons e

theorem sublist_changes : (changes key value entries).Sublist entries
  := sublist_changesFrom

/-- A change is an entry that does not repeat, and the changes before it are the ones of the entries
before it. -/
theorem exists_split (h : changes key value entries = l ++ e :: l') :
  ∃ before after, entries = before ++ e :: after ∧ ¬ Repeats key value before e
    ∧ changes key value before = l ∧ changesFrom key value (before ++ [e]) after = l'
  := by
  induction entries using List.reverseRecOn generalizing l l' with
  | nil => cases l <;> cases h
  | append_singleton entries last ih =>
      rw [changes_concat] at h
      by_cases hlast : Repeats key value entries last
      · rw [if_pos hlast, List.append_nil] at h
        obtain ⟨before, after, rfl, hrest⟩ := ih h
        refine ⟨before, after ++ [last],
          by rw [List.append_assoc, List.cons_append], hrest.1, hrest.2.1, ?_⟩
        rw [changesFrom_append, hrest.2.2, changesFrom, changesFrom, List.append_assoc,
          List.singleton_append, if_pos hlast]
        rw [List.append_nil, List.append_nil]
      · rw [if_neg hlast] at h
        rcases List.eq_nil_or_concat l' with rfl | ⟨l', last', rfl⟩
        · obtain ⟨rfl, heq⟩ := List.append_inj' h rfl
          cases heq
          exact ⟨entries, [], rfl, hlast, rfl, rfl⟩
        · rw [List.concat_eq_append, ← List.cons_append, ← List.append_assoc] at h
          obtain ⟨hinit, heq⟩ := List.append_inj' h rfl
          cases heq
          obtain ⟨before, after, rfl, hrest⟩ := ih hinit
          refine ⟨before, after ++ [last],
            by rw [List.append_assoc, List.cons_append], hrest.1, hrest.2.1, ?_⟩
          rw [changesFrom_append, hrest.2.2, changesFrom, changesFrom, List.append_assoc,
            List.singleton_append, if_neg hlast, List.append_nil, List.concat_eq_append]

end Changes

/-! ### Instants -/

namespace Held

variable [LinearOrder T] {stamp : α → T} {t : T}

/-- Ordered entries are the ones until an instant and the ones after it. -/
theorem exists_split (h : InStampOrder stamp entries) (t : T) :
  ∃ before after, entries = before ++ after ∧ (∀ e ∈ before, stamp e ≤ t) ∧ ∀ e ∈ after, t < stamp e
  := by
  induction entries with
  | nil => exact ⟨[], [], rfl, nofun, nofun⟩
  | cons e entries ih =>
      obtain ⟨hfirst, hrest⟩ := List.pairwise_cons.mp h
      rcases le_or_gt (stamp e) t with hle | hlt
      · obtain ⟨before, after, rfl, hbefore, hafter⟩ := ih hrest
        exact ⟨e :: before, after, rfl, List.forall_mem_cons.mpr ⟨hle, hbefore⟩, hafter⟩
      · refine ⟨[], e :: entries, rfl, nofun, List.forall_mem_cons.mpr ⟨hlt, ?_⟩⟩
        exact fun e' he' => hlt.trans_le (hfirst e' he')

/-- The instant holds the last of the entries until it. -/
theorem held_append (hbefore : ∀ e ∈ before, stamp e ≤ t) (hafter : ∀ e ∈ after, t < stamp e) :
  held stamp (before ++ after) t = before.getLast?
  := by
  have hnone : after.filter (fun e => stamp e ≤ t) = [] := by
    rw [List.filter_eq_nil_iff]
    intro e he
    simpa using hafter e he
  have hall : before.filter (fun e => stamp e ≤ t) = before := by
    rw [List.filter_eq_self]
    intro e he
    simpa using hbefore e he
  rw [held, List.filter_append, hnone, hall, List.append_nil]

/-- Of the changes, the instant holds the last one of the entries until it. -/
theorem held_changes (hbefore : ∀ e ∈ before, stamp e ≤ t) (hafter : ∀ e ∈ after, t < stamp e) :
  held stamp (changes key value (before ++ after)) t = (changes key value before).getLast?
  := by
  rw [Changes.changes_append]
  apply held_append
  · exact fun e he => hbefore e (Changes.sublist_changes.subset he)
  · exact fun e he => hafter e (Changes.sublist_changesFrom.subset he)

end Held
