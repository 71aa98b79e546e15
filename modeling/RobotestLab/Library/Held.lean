import Mathlib.Algebra.Order.Floor.Ring
import Mathlib.Data.List.Basic
import Mathlib.Data.List.Induction
import Mathlib.Order.Basic

/-!
# Held values

A list of stamped entries is a function of time: at an instant it holds the last entry that is
stamped not later. The entry that is held changes only at the stamps of entries, so what is true at
one instant and of all entries stamped until another one is true in between (`Held.forall_between`).
When the stamps do not decrease along the list, the search for the entry may stop at the first one
stamped later.
-/

universe u v

/-- The last entry that is stamped at the instant or before it. -/
def held {T : Type u} {α : Type v} [LinearOrder T] (stamp : α → T) (entries : List α) (t : T) :
    Option α :=
  (entries.filter fun e => stamp e ≤ t).getLast?

/-- The first entry that is stamped at the instant or after it. -/
def upcoming {T : Type u} {α : Type v} [LinearOrder T] (stamp : α → T) (entries : List α) (t : T) :
    Option α :=
  entries.find? fun e => t ≤ stamp e

/-- The stamps do not decrease along the list. -/
def InStampOrder {T : Type u} {α : Type v} [LinearOrder T] (stamp : α → T)
    (entries : List α) : Prop :=
  entries.Pairwise fun e e' => stamp e ≤ stamp e'

namespace Held

variable {T : Type u} {α : Type v} [LinearOrder T] {stamp : α → T} {entries : List α} {e : α}
  {s t u : T}

@[simp]
theorem held_nil : held stamp [] t = none := rfl

theorem mem_of_held (h : held stamp entries t = some e) : e ∈ entries ∧ stamp e ≤ t := by
  have hmem := List.mem_of_getLast? h
  rw [List.mem_filter, decide_eq_true_eq] at hmem
  apply hmem

/-- Nothing is held exactly when nothing is stamped yet. -/
theorem held_eq_none_iff : held stamp entries t = none ↔ ∀ e ∈ entries, t < stamp e := by
  unfold held
  rw [List.getLast?_eq_none_iff, List.filter_eq_nil_iff]
  simp only [decide_eq_true_eq, not_le]

/-- The entries after the one that is held are stamped later. -/
theorem held_eq_some_iff :
  held stamp entries t = some e ↔
    ∃ l l', entries = l ++ e :: l' ∧ stamp e ≤ t ∧ ∀ e' ∈ l', t < stamp e'
  := by
  unfold held
  induction entries with
  | nil => simp
  | cons a entries ih =>
      constructor
      · intro h
        by_cases hnone : entries.filter (fun e => stamp e ≤ t) = []
        · by_cases ha : stamp a ≤ t
          · rw [List.filter_cons_of_pos (by simpa using ha), hnone] at h
            obtain rfl := Option.some.inj h
            refine ⟨[], entries, rfl, ha, ?_⟩
            simpa [List.filter_eq_nil_iff] using hnone
          · rw [List.filter_cons_of_neg (by simpa using ha), hnone] at h
            cases h
        · have hlast : (entries.filter fun e => stamp e ≤ t).getLast? = some e := by
            by_cases ha : stamp a ≤ t
            · rw [List.filter_cons_of_pos (by simpa using ha),
                List.getLast?_cons_of_ne_nil hnone] at h
              apply h
            · rw [List.filter_cons_of_neg (by simpa using ha)] at h
              apply h
          obtain ⟨l, l', rfl, he, hl'⟩ := ih.mp hlast
          exact ⟨a :: l, l', rfl, he, hl'⟩
      · rintro ⟨l, l', hsplit, he, hl'⟩
        have hnil : l'.filter (fun e => stamp e ≤ t) = [] := by
          rw [List.filter_eq_nil_iff]
          simpa using hl'
        rw [hsplit, List.filter_append, List.filter_cons_of_pos (by simpa using he), hnil]
        simp

/-- On ordered entries, the search may stop at the first entry that is stamped later. -/
theorem held_cons_of_lt (h : InStampOrder stamp (e :: entries)) (he : t < stamp e) :
  held stamp (e :: entries) t = none
  := by
  rw [held_eq_none_iff]
  intro e' he'
  rcases List.mem_cons.mp he' with rfl | he'
  · apply he
  · apply lt_of_lt_of_le he ((List.pairwise_cons.mp h).1 e' he')

theorem held_cons_of_le (he : stamp e ≤ t) :
  held stamp (e :: entries) t = some ((held stamp entries t).getD e)
  := by
  unfold held
  rw [List.filter_cons_of_pos (by simpa using he), List.getLast?_cons]

/-- Between two instants, what is held is what was held, or an entry that is stamped in between. -/
theorem held_eq_or (hst : s ≤ t) :
  held stamp entries t = held stamp entries s ∨
    ∃ e ∈ entries, held stamp entries t = some e ∧ s < stamp e ∧ stamp e ≤ t
  := by
  cases ht : held stamp entries t with
  | none =>
      left
      symm
      rw [held_eq_none_iff] at ht ⊢
      exact fun e he => lt_of_le_of_lt hst (ht e he)
  | some e =>
      obtain ⟨hmem, hle⟩ := mem_of_held ht
      rcases lt_or_ge s (stamp e) with hlt | hge
      · exact Or.inr ⟨e, hmem, rfl, hlt, hle⟩
      · left
        symm
        obtain ⟨l, l', hsplit, -, hl'⟩ := held_eq_some_iff.mp ht
        rw [held_eq_some_iff]
        exact ⟨l, l', hsplit, hge, fun e' he' => lt_of_le_of_lt hst (hl' e' he')⟩

/-- What is true of the entry held at an instant, and of the entries stamped from then on, stays
true of the entry held. -/
theorem forall_between {P : α → Prop} (hs : ∃ e, held stamp entries s = some e ∧ P e)
    (hentries : ∀ e ∈ entries, s ≤ stamp e → stamp e ≤ u → P e) (hst : s ≤ t) (htu : t ≤ u) :
  ∃ e, held stamp entries t = some e ∧ P e
  := by
  rcases held_eq_or hst with heq | ⟨e, he, heq, hse, het⟩
  · rw [heq]
    apply hs
  · exact ⟨e, heq, hentries e he (le_of_lt hse) (le_trans het htu)⟩

/-- With whole stamps, what is held at an instant is held since the whole instant before it. -/
theorem held_floor {K : Type u} [Ring K] [LinearOrder K] [IsStrictOrderedRing K] [FloorRing K]
    {α : Type v} (stamp : α → ℤ) (entries : List α) (t : K) :
  held (fun e => (stamp e : K)) entries t = held stamp entries ⌊t⌋
  := by
  unfold held
  simp only [Int.le_floor]

/-! ### The next entry -/

section Upcoming

theorem upcoming_eq_some_iff :
  upcoming stamp entries t = some e ↔
    ∃ l l', entries = l ++ e :: l' ∧ t ≤ stamp e ∧ ∀ e' ∈ l, stamp e' < t
  := by
  unfold upcoming
  rw [List.find?_eq_some_iff_append]
  constructor
  · rintro ⟨he, l, l', hsplit, hl⟩
    exact ⟨l, l', hsplit, by simpa using he, by simpa using hl⟩
  · rintro ⟨l, l', hsplit, he, hl⟩
    exact ⟨by simpa using he, l, l', hsplit, by simpa using hl⟩

theorem upcoming_eq_none_iff : upcoming stamp entries t = none ↔ ∀ e ∈ entries, stamp e < t := by
  unfold upcoming
  rw [List.find?_eq_none]
  simp only [decide_eq_true_eq, not_le]

/-- Between two instants, the next entry is the next one, or an entry that is stamped in between. -/
theorem upcoming_eq_or (hst : s ≤ t) :
  upcoming stamp entries s = upcoming stamp entries t ∨
    ∃ e ∈ entries, upcoming stamp entries s = some e ∧ s ≤ stamp e ∧ stamp e < t
  := by
  cases hs : upcoming stamp entries s with
  | none =>
      left
      symm
      rw [upcoming_eq_none_iff] at hs ⊢
      exact fun e he => lt_of_lt_of_le (hs e he) hst
  | some e =>
      obtain ⟨l, l', hsplit, hle, hl⟩ := upcoming_eq_some_iff.mp hs
      rcases lt_or_ge (stamp e) t with hlt | hge
      · exact Or.inr ⟨e, by simp [hsplit], rfl, hle, hlt⟩
      · left
        symm
        rw [upcoming_eq_some_iff]
        exact ⟨l, l', hsplit, hge, fun e' he' => lt_of_lt_of_le (hl e' he') hst⟩

/-- What is held at an instant comes before the next entry of a later instant, and the entries
between them are stamped in between. -/
theorem exists_between {e' : α} (h : InStampOrder stamp entries) (hst : s < t)
    (hheld : held stamp entries s = some e) (hupcoming : upcoming stamp entries t = some e') :
  ∃ l mid l', entries = l ++ e :: (mid ++ e' :: l') ∧ ∀ a ∈ mid, s < stamp a ∧ stamp a < t
  := by
  obtain ⟨l, w, hl, hes, hw⟩ := held_eq_some_iff.mp hheld
  obtain ⟨v, l', hv, het, hbefore⟩ := upcoming_eq_some_iff.mp hupcoming
  have hlt : stamp e < stamp e' := lt_of_le_of_lt hes (lt_of_lt_of_le hst het)
  obtain ⟨mid, hmid⟩ : ∃ mid, w = mid ++ e' :: l' := by
    rcases List.append_eq_append_iff.mp (hl.symm.trans hv) with ⟨as, -, has⟩ | ⟨as, has, -⟩
    · cases as with
      | nil =>
          obtain ⟨rfl, -⟩ := List.cons.inj has
          exact absurd hlt (lt_irrefl _)
      | cons a as => exact ⟨as, (List.cons.inj has).2⟩
    · cases as with
      | nil =>
          rw [List.append_nil] at has
          rw [hl, has] at hv
          obtain ⟨rfl, -⟩ := List.cons.inj (List.append_cancel_left hv)
          exact absurd hlt (lt_irrefl _)
      | cons a as =>
          -- The later entry would come first.
          have hmem : e' ∈ l := by
            rw [hl, has, List.append_assoc, List.cons_append] at hv
            obtain ⟨rfl, -⟩ := List.cons.inj (List.append_cancel_left hv)
            simp [has]
          rw [hl] at h
          have hle := (List.pairwise_append.mp h).2.2 e' hmem e List.mem_cons_self
          exact absurd (lt_of_lt_of_le hlt hle) (lt_irrefl _)
  refine ⟨l, mid, l', by rw [hl, hmid], ?_⟩
  intro a ha
  refine ⟨hw a (by simp [hmid, ha]), ?_⟩
  apply hbefore a
  rw [hl, hmid, ← List.cons_append, ← List.append_assoc] at hv
  rw [← List.append_cancel_right hv]
  simp [ha]

end Upcoming

/-! ### Entries within bounds -/

/-- The last entry that satisfies a condition which later entries inherit. -/
theorem getLast?_filter {p : α → Bool} (h : entries.Pairwise fun e e' => p e = true → p e' = true) :
  (entries.filter p).getLast? = entries.getLast?.filter p
  := by
  induction entries using List.reverseRecOn with
  | nil => rfl
  | append_singleton init a ih =>
      rw [List.filter_append]
      cases ha : p a with
      | true => simp [ha, Option.filter]
      | false =>
          have hnil : init.filter p = [] := by
            rw [List.filter_eq_nil_iff]
            intro e he hp
            have hp' := (List.pairwise_append.mp h).2.2 e he a List.mem_cons_self hp
            rw [ha] at hp'
            cases hp'
          simp [ha, hnil, Option.filter]

/-- The first entry that satisfies a condition which earlier entries inherit. -/
theorem head?_filter {p : α → Bool} (h : entries.Pairwise fun e e' => p e' = true → p e = true) :
  (entries.filter p).head? = entries.head?.filter p
  := by
  cases entries with
  | nil => rfl
  | cons a entries =>
      cases ha : p a with
      | true => simp [ha, Option.filter]
      | false =>
          have hnil : entries.filter p = [] := by
            rw [List.filter_eq_nil_iff]
            intro e he hp
            have hp' := (List.pairwise_cons.mp h).1 e he hp
            rw [ha] at hp'
            cases hp'
          simp [ha, hnil, Option.filter]

/-- The last entry within the bounds is the one that is held, when it is not too old. -/
theorem getLast?_within (h : InStampOrder stamp entries) :
  (entries.filter fun e => s ≤ stamp e && stamp e ≤ t).getLast? =
    (held stamp entries t).filter fun e => s ≤ stamp e
  := by
  unfold held
  rw [← List.filter_filter]
  apply getLast?_filter
  apply List.Pairwise.filter
  refine List.Pairwise.imp ?_ h
  intro e e' hle he
  simp only [decide_eq_true_eq] at he ⊢
  exact le_trans he hle

/-- The first entry within the bounds is the next one, when it is not too late. -/
theorem head?_within (h : InStampOrder stamp entries) :
  (entries.filter fun e => t ≤ stamp e && stamp e ≤ u).head? =
    (upcoming stamp entries t).filter fun e => stamp e ≤ u
  := by
  unfold upcoming
  rw [← List.head?_filter, show (fun e => decide (t ≤ stamp e) && decide (stamp e ≤ u)) =
    fun e => decide (stamp e ≤ u) && decide (t ≤ stamp e) from funext fun e => Bool.and_comm _ _,
    ← List.filter_filter]
  apply head?_filter
  apply List.Pairwise.filter
  refine List.Pairwise.imp ?_ h
  intro e e' hle he
  simp only [decide_eq_true_eq] at he ⊢
  exact le_trans hle he

end Held
