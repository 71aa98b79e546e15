import Mathlib.Algebra.BigOperators.Group.List.Basic
import Mathlib.Algebra.Ring.Nat
import Mathlib.Data.List.Forall2

/-!
# Related lists

Two lists are related when their elements are, one by one. What holds of an element at some place
then holds of a related element at the same place.
-/

universe u v

variable {α : Type u} {β : Type v}

/-- Lists that are zipped are related part by part. -/
theorem List.Forall₂.zip {A A' B B' : Type*} {R : A → A' → Prop} {S : B → B' → Prop}
    {l : List A} {l' : List A'} {m : List B} {m' : List B'} (h : List.Forall₂ R l l')
    (h' : List.Forall₂ S m m') :
  List.Forall₂ (fun a b => R a.1 b.1 ∧ S a.2 b.2) (l.zip m) (l'.zip m')
  := by
  induction h generalizing m m' with
  | nil =>
      rw [List.zip_nil_left, List.zip_nil_left]
      exact .nil
  | cons hhead htail ih =>
      cases h' with
      | nil => exact .nil
      | cons hhead' htail' => exact .cons ⟨hhead, hhead'⟩ (ih htail')

variable {A B : Type*}

/-- A member of the second list is related to one of the first. -/
theorem List.Forall₂.exists_mem {R : A → B → Prop} {l : List A} {l' : List B}
    (h : List.Forall₂ R l l') {b : B} (hb : b ∈ l') :
  ∃ a ∈ l, R a b
  := by
  induction h with
  | nil => cases hb
  | cons hhead htail ih =>
      rcases List.mem_cons.mp hb with rfl | hb
      · exact ⟨_, List.mem_cons_self, hhead⟩
      · obtain ⟨a, ha, hab⟩ := ih hb
        exact ⟨a, List.mem_cons_of_mem _ ha, hab⟩

/-- A sum over the second list is at most one over the first when its terms are. -/
theorem List.Forall₂.sum_map_le {R : A → B → Prop} {f : A → Nat} {g : B → Nat} {l : List A}
    {l' : List B} (h : List.Forall₂ R l l') (hle : ∀ a ∈ l, ∀ b, R a b → g b ≤ f a) :
  (l'.map g).sum ≤ (l.map f).sum
  := by
  induction h with
  | nil => exact Nat.le_refl _
  | cons hhead htail ih =>
      rw [List.map_cons, List.map_cons, List.sum_cons, List.sum_cons]
      apply Nat.add_le_add
      · exact hle _ List.mem_cons_self _ hhead
      · exact ih fun a ha => hle a (List.mem_cons_of_mem _ ha)

/-- What is related to two lists in a row is two lists in a row. -/
theorem List.Forall₂.exists_append {R : A → B → Prop} {l l' : List A} {m : List B}
    (h : List.Forall₂ R (l ++ l') m) :
  ∃ k k', m = k ++ k' ∧ List.Forall₂ R l k ∧ List.Forall₂ R l' k'
  := by
  induction l generalizing m with
  | nil => exact ⟨[], m, rfl, .nil, h⟩
  | cons a l ih =>
      rw [List.cons_append] at h
      cases h with
      | @cons _ b _ m hhead htail =>
          obtain ⟨k, k', rfl, hk, hk'⟩ := ih htail
          exact ⟨b :: k, k', rfl, .cons hhead hk, hk'⟩

/-- A list that is related to one with a last element has one too. -/
theorem List.Forall₂.exists_concat {R : α → β → Prop} {l : List α} {a : α} {m : List β}
    (h : List.Forall₂ R (l ++ [a]) m) :
  ∃ l' b, m = l' ++ [b] ∧ List.Forall₂ R l l' ∧ R a b
  := by
  rcases List.eq_nil_or_concat m with rfl | ⟨l', b, rfl⟩
  · exact absurd h.length_eq (by simp)
  · rw [List.concat_eq_append] at h ⊢
    have hreverse := List.rel_reverse h
    rw [List.reverse_concat, List.reverse_concat, List.forall₂_cons] at hreverse
    refine ⟨l', b, rfl, ?_, hreverse.1⟩
    have hl := List.rel_reverse hreverse.2
    rw [List.reverse_reverse, List.reverse_reverse] at hl
    exact hl

/-- The last elements of related lists are related. -/
theorem List.Forall₂.getLast? {R : α → β → Prop} {l : List α} {l' : List β}
    (h : List.Forall₂ R l l') :
  Option.Rel R l.getLast? l'.getLast?
  := by
  rcases List.eq_nil_or_concat l with rfl | ⟨init, a, rfl⟩
  · rw [List.forall₂_nil_left_iff] at h
    subst h
    exact .none
  · rw [List.concat_eq_append] at h ⊢
    obtain ⟨init', b, rfl, -, hab⟩ := h.exists_concat
    rw [List.getLast?_concat, List.getLast?_concat]
    exact .some hab

/-- A list of optional values is there exactly when each of them is. -/
theorem Option.mapM_eq_some_iff {A B : Type} {f : A → Option B} {l : List A} {l' : List B} :
  l.mapM f = some l' ↔ List.Forall₂ (fun a b => f a = some b) l l'
  := by
  induction l generalizing l' with
  | nil =>
      rw [List.mapM_nil, Option.pure_def, Option.some.injEq, List.forall₂_nil_left_iff, eq_comm]
  | cons a l ih =>
      simp only [List.mapM_cons, Option.bind_eq_bind, Option.bind_eq_some_iff, ih, Option.pure_def,
        Option.some.injEq, List.forall₂_cons_left_iff]
      constructor
      · rintro ⟨b, hb, bs, hbs, rfl⟩
        exact ⟨b, bs, hb, hbs, rfl⟩
      · rintro ⟨b, bs, hb, hbs, rfl⟩
        exact ⟨b, hb, bs, hbs, rfl⟩
