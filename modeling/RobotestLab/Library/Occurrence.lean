import RobotestLab.Library.Related
import Mathlib.Data.List.Basic
import Mathlib.Data.List.Induction

/-!
# Occurrences in a list

A property `P pre e` of an element `e` of a list may depend on the elements `pre` before it.
`Occurs P l` states that some element of `l` has the property, and `FirstAt P pre e` that `e`
has it and no element before it does. Both are computed from the end of the list, as an
induction over a run needs them.
-/

universe u v

variable {α : Type u} {β : Type v}

/-- Some element of the list satisfies `P`. -/
def Occurs (P : List α → α → Prop) (l : List α) : Prop :=
  ∃ pre e post, l = pre ++ e :: post ∧ P pre e

/-- The element `e` satisfies `P` after `pre`, and no element of `pre` does. -/
def FirstAt (P : List α → α → Prop) (pre : List α) (e : α) : Prop :=
  P pre e ∧ ¬ Occurs P pre

namespace Occurs

variable {P Q : List α → α → Prop} {l : List α} {e : α}

theorem not_nil :
  ¬ Occurs P []
  := by
  rintro ⟨pre, e, post, h, -⟩
  simp at h

theorem concat_iff :
  Occurs P (l ++ [e]) ↔ Occurs P l ∨ P l e
  := by
  constructor
  · rintro ⟨pre, x, post, h, hx⟩
    rcases List.eq_nil_or_concat post with rfl | ⟨init, last, rfl⟩
    · obtain ⟨rfl, hlast⟩ := List.append_inj' h rfl
      obtain rfl := (List.cons.inj hlast).1
      exact Or.inr hx
    · rw [List.concat_eq_append, ← List.cons_append, ← List.append_assoc] at h
      obtain ⟨rfl, -⟩ := List.append_inj' h rfl
      exact Or.inl ⟨pre, x, init, rfl, hx⟩
  · rintro (⟨pre, x, post, rfl, hx⟩ | hx)
    · exact ⟨pre, x, post ++ [e], by simp, hx⟩
    · exact ⟨l, e, [], rfl, hx⟩

/-- Related lists have the elements that a property holds of at related places. -/
theorem congr_forall₂ {R : α → β → Prop} {P : List α → α → Prop} {Q : List β → β → Prop}
    {l : List α} {l' : List β} (h : List.Forall₂ R l l')
    (hPQ : ∀ pre pre' a b, List.Forall₂ R pre pre' → R a b → (P pre a ↔ Q pre' b)) :
  Occurs P l ↔ Occurs Q l'
  := by
  induction l using List.reverseRecOn generalizing l' with
  | nil =>
      rw [List.forall₂_nil_left_iff] at h
      subst h
      exact ⟨fun hnil => absurd hnil not_nil, fun hnil => absurd hnil not_nil⟩
  | append_singleton l a ih =>
      obtain ⟨l', b, rfl, hl, hab⟩ := List.Forall₂.exists_concat h
      rw [concat_iff, concat_iff, ih hl, hPQ l l' a b hl hab]

/-- A property of single elements occurs when some member has it. -/
theorem iff_mem {P : α → Prop} :
  Occurs (fun _ e => P e) l ↔ ∃ e ∈ l, P e
  := by
  constructor
  · rintro ⟨pre, e, post, rfl, he⟩
    exact ⟨e, by simp, he⟩
  · rintro ⟨e, hmem, he⟩
    obtain ⟨pre, post, rfl⟩ := List.append_of_mem hmem
    exact ⟨pre, e, post, rfl, he⟩

end Occurs

/-! ### Elements with a key -/

section Key

variable {K : Type*} [DecidableEq K] {f : α → K} {key : β → K} {g : α → List β} {l : List α}

/-- No element of the list has the key. -/
theorem List.filter_flatMap_eq_nil {k : K} (hkey : ∀ a ∈ l, ∀ b ∈ g a, key b = f a)
    (hk : ∀ a ∈ l, f a ≠ k) :
  (l.flatMap g).filter (fun b => key b == k) = []
  := by
  rw [List.filter_eq_nil_iff]
  intro b hb
  obtain ⟨a, ha, hba⟩ := List.mem_flatMap.mp hb
  rw [hkey a ha b hba, beq_iff_eq]
  apply hk a ha

/-- One element of the list has the key. -/
theorem List.filter_flatMap_eq_of_nodup (hnodup : (l.map f).Nodup)
    (hkey : ∀ a ∈ l, ∀ b ∈ g a, key b = f a) {a : α} (ha : a ∈ l) :
  (l.flatMap g).filter (fun b => key b == f a) = g a
  := by
  induction l with
  | nil => cases ha
  | cons x l ih =>
      rw [List.map_cons, List.nodup_cons] at hnodup
      have hrest : ∀ y ∈ l, ∀ b ∈ g y, key b = f y :=
        fun y hy => hkey y (List.mem_cons_of_mem _ hy)
      rw [List.flatMap_cons, List.filter_append]
      rcases List.mem_cons.mp ha with rfl | hmem
      · rw [List.filter_flatMap_eq_nil hrest, List.append_nil, List.filter_eq_self.mpr]
        · intro b hb
          rw [hkey a List.mem_cons_self b hb, beq_self_eq_true]
        · intro y hy hid
          exact hnodup.1 (hid ▸ List.mem_map_of_mem hy)
      · rw [ih hnodup.2 hrest hmem, List.filter_eq_nil_iff.mpr, List.nil_append]
        intro b hb hid
        rw [hkey x List.mem_cons_self b hb, beq_iff_eq] at hid
        exact hnodup.1 (hid ▸ List.mem_map_of_mem hmem)

/-- A list with at most `m` elements for each of its keys. -/
theorem List.length_le_of_keys (key : β → K) {bs : List β} {ks : List K} (m : Nat)
    (hkeys : ∀ b ∈ bs, key b ∈ ks)
    (hcount : ∀ k ∈ ks, (bs.filter (fun b => key b == k)).length ≤ m) :
  bs.length ≤ ks.length * m
  := by
  induction ks generalizing bs with
  | nil =>
      rw [List.eq_nil_iff_forall_not_mem.mpr (fun b hb => List.not_mem_nil (hkeys b hb))]
      apply Nat.zero_le
  | cons k ks ih =>
      have hrest : (bs.filter (fun b => !(key b == k))).length ≤ ks.length * m := by
        apply ih
        · intro b hb
          obtain ⟨hmem, hne⟩ := List.mem_filter.mp hb
          rw [Bool.not_eq_true', beq_eq_false_iff_ne] at hne
          exact List.mem_of_ne_of_mem hne (hkeys b hmem)
        · intro k' hk'
          apply Nat.le_trans _ (hcount k' (List.mem_cons_of_mem _ hk'))
          exact (List.filter_sublist.filter _).length_le
      have hfirst := hcount k List.mem_cons_self
      rw [List.length_eq_length_filter_add (fun b => key b == k), List.length_cons, Nat.succ_mul]
      omega

end Key

/-! ### Elements in order -/

/-- Elements that satisfy the given properties occur in the list, in the given order. -/
def InOrder (ps : List (α → Prop)) (l : List α) : Prop :=
  ∃ es, es.Sublist l ∧ List.Forall₂ (fun P e => P e) ps es

namespace InOrder

variable {ps : List (α → Prop)} {l : List α}

theorem nil (l : List α) :
  InOrder [] l
  := ⟨[], List.nil_sublist l, .nil⟩

theorem append (h : InOrder ps l) (l' : List α) :
  InOrder ps (l ++ l')
  := by
  obtain ⟨es, hsub, hes⟩ := h
  exact ⟨es, hsub.trans (List.sublist_append_left l l'), hes⟩

theorem concat (h : InOrder ps l) {P : α → Prop} {e : α} (he : P e) :
  InOrder (ps ++ [P]) (l ++ [e])
  := by
  obtain ⟨es, hsub, hes⟩ := h
  refine ⟨es ++ [e], hsub.append_right [e], ?_⟩
  apply List.rel_append hes
  exact .cons he .nil

end InOrder

/-- An element of a list that grew is the new one, or it was there before. -/
theorem concat_eq_append_cons {l before after : List α} {e x : α}
    (h : l ++ [e] = before ++ x :: after) :
  (before = l ∧ x = e ∧ after = []) ∨ ∃ after', after = after' ++ [e] ∧ l = before ++ x :: after'
  := by
  rcases List.eq_nil_or_concat after with rfl | ⟨init, last, rfl⟩
  · obtain ⟨rfl, hlast⟩ := List.append_inj' h rfl
    exact Or.inl ⟨rfl, (List.cons.inj hlast).1.symm, rfl⟩
  · rw [List.concat_eq_append, ← List.cons_append, ← List.append_assoc] at h
    obtain ⟨rfl, hlast⟩ := List.append_inj' h rfl
    obtain rfl := (List.cons.inj hlast).1
    exact Or.inr ⟨init, List.concat_eq_append, rfl⟩
