import RobotestLab.Library.Held

/-!
# Spans

Stamped entries divide the time until an end into spans, each of which goes from the stamp of an
entry to the stamp of the next one. The spans of the entries with a property cover the instants at
which such an entry is held, up to the end or the last entry (`mem_spans_iff`).
-/

universe u v

variable {T : Type u} {α : Type v} [LinearOrder T] {stamp : α → T} {p : α → Bool} {terminal t : T}
  {entries l l' : List α} {e : α}

/-- The stamp of the first entry, or the end. -/
def nextOr (stamp : α → T) (terminal : T) (entries : List α) : T :=
  entries.head?.elim terminal stamp

/-- The spans of the entries with the property, unless they are empty. -/
def spans (stamp : α → T) (p : α → Bool) (terminal : T) : List α → List (T × T)
  | [] => []
  | e :: entries =>
      if p e && stamp e < nextOr stamp terminal entries then
        (stamp e, nextOr stamp terminal entries) :: spans stamp p terminal entries
      else spans stamp p terminal entries

namespace Spans

/-- A span starts at the stamp of an entry with the property. -/
theorem exists_of_mem {span : T × T} (h : span ∈ spans stamp p terminal entries) :
  ∃ l e l', entries = l ++ e :: l' ∧ p e = true ∧ span = (stamp e, nextOr stamp terminal l')
    ∧ span.1 < span.2
  := by
  induction entries with
  | nil => cases h
  | cons e entries ih =>
      have hlater : span ∈ spans stamp p terminal entries → ∃ l e' l', e :: entries = l ++ e' :: l'
          ∧ p e' = true ∧ span = (stamp e', nextOr stamp terminal l') ∧ span.1 < span.2 := by
        intro hmem
        obtain ⟨l, e', l', rfl, hrest⟩ := ih hmem
        exact ⟨e :: l, e', l', rfl, hrest⟩
      rw [spans] at h
      split at h
      case isFalse => apply hlater h
      case isTrue hspan =>
        rw [Bool.and_eq_true, decide_eq_true_eq] at hspan
        rcases List.mem_cons.mp h with rfl | h
        · exact ⟨[], e, entries, rfl, hspan.1, rfl, hspan.2⟩
        · apply hlater h

theorem nextOr_le_of_mem (h : InStampOrder stamp entries) (he : e ∈ entries) :
  nextOr stamp terminal entries ≤ stamp e
  := by
  cases entries with
  | nil => cases he
  | cons first entries =>
      rcases List.mem_cons.mp he with rfl | he
      · apply le_refl
      · apply (List.pairwise_cons.mp h).1 e he

/-- The spans are in order, and do not overlap. -/
theorem pairwise_spans (h : InStampOrder stamp entries) :
  (spans stamp p terminal entries).Pairwise fun a b => a.2 ≤ b.1
  := by
  induction entries with
  | nil => apply List.Pairwise.nil
  | cons e entries ih =>
      have hrest := (List.pairwise_cons.mp h).2
      rw [spans]
      split
      case isFalse => apply ih hrest
      case isTrue =>
        rw [List.pairwise_cons]
        refine ⟨?_, ih hrest⟩
        intro span hspan
        obtain ⟨l, e', l', rfl, -, rfl, -⟩ := exists_of_mem hspan
        apply nextOr_le_of_mem hrest (List.mem_append_right l List.mem_cons_self)

/-- The spans cover the instants at which an entry with the property is held, before the end or
before the last entry. -/
theorem mem_spans_iff (h : InStampOrder stamp entries) :
  (∃ span ∈ spans stamp p terminal entries, span.1 ≤ t ∧ t < span.2)
    ↔ (∃ e, held stamp entries t = some e ∧ p e = true) ∧
      (t < terminal ∨ ∃ e ∈ entries, t < stamp e)
  := by
  constructor
  · rintro ⟨span, hspan, hle, hlt⟩
    obtain ⟨l, e, l', rfl, hp, rfl, -⟩ := exists_of_mem hspan
    have hl' : InStampOrder stamp l' := (List.pairwise_cons.mp (List.pairwise_append.mp h).2.1).2
    constructor
    · refine ⟨e, Held.held_eq_some_iff.mpr ⟨l, l', rfl, hle, ?_⟩, hp⟩
      intro e' he'
      apply hlt.trans_le (nextOr_le_of_mem hl' he')
    · cases l' with
      | nil => exact .inl hlt
      | cons next l' =>
          right
          exact ⟨next, List.mem_append_right l (List.mem_cons_of_mem e List.mem_cons_self), hlt⟩
  · rintro ⟨⟨e, hheld, hp⟩, hends⟩
    obtain ⟨l, l', rfl, hle, hl'⟩ := Held.held_eq_some_iff.mp hheld
    have hlt : t < nextOr stamp terminal l' := by
      cases l' with
      | cons next l' => apply hl' next List.mem_cons_self
      | nil =>
          rcases hends with hlt | ⟨e', he', hlt⟩
          · exact hlt
          · rcases List.mem_append.mp he' with hbefore | hlast
            · have hle' := (List.pairwise_append.mp h).2.2 e' hbefore e List.mem_cons_self
              exact absurd (hlt.trans_le (hle'.trans hle)) (lt_irrefl t)
            · rw [List.mem_singleton.mp hlast] at hlt
              exact absurd (hlt.trans_le hle) (lt_irrefl t)
    refine ⟨(stamp e, nextOr stamp terminal l'), ?_, hle, hlt⟩
    clear h hheld hends
    induction l with
    | nil =>
        rw [List.nil_append, spans, hp, Bool.true_and,
          decide_eq_true (hle.trans_lt hlt), if_pos rfl]
        apply List.mem_cons_self
    | cons first l ih =>
        rw [List.cons_append, spans]
        split
        · exact List.mem_cons_of_mem _ ih
        · exact ih

end Spans
