import Mathlib.Data.List.Infix

/-!
# Retaining a prefix

Items are offered to a buffer one after the other, and a judge, who sees the items kept so far,
keeps the item, rejects it as invalid or turns it away because it does not fit. The judge is fair
when an item is kept exactly if it is valid and fits, and no valid item is rejected. The items that
a fair judge keeps are the first valid ones as long as no valid item fits after one was turned away.
-/

/-- What becomes of an item. -/
inductive Verdict where
  | kept
  | invalid
  | overflow
  deriving DecidableEq, Repr

/-- A buffer with the number of the items that it did not keep. -/
structure Retained (α : Type) where
  items : List α := []
  invalid : Nat := 0
  overflow : Nat := 0

namespace Retained

variable {α : Type}

/-- Offer an item. -/
def offer (judge : List α → α → Verdict) (b : Retained α) (a : α) : Retained α :=
  match judge b.items a with
  | .kept => { b with items := b.items ++ [a] }
  | .invalid => { b with invalid := b.invalid + 1 }
  | .overflow => { b with overflow := b.overflow + 1 }

variable {b : Retained α}

theorem offer_of_kept {judge : List α → α → Verdict} {a : α} (h : judge b.items a = .kept) :
  b.offer judge a = { b with items := b.items ++ [a] }
  := by
  unfold offer
  rw [h]

theorem offer_of_invalid {judge : List α → α → Verdict} {a : α} (h : judge b.items a = .invalid) :
  b.offer judge a = { b with invalid := b.invalid + 1 }
  := by
  unfold offer
  rw [h]

theorem offer_of_overflow {judge : List α → α → Verdict} {a : α} (h : judge b.items a = .overflow) :
  b.offer judge a = { b with overflow := b.overflow + 1 }
  := by
  unfold offer
  rw [h]

/-- Offer items one after the other to an empty buffer. -/
def retain (judge : List α → α → Verdict) (offers : List α) : Retained α :=
  offers.foldl (offer judge) {}

section Counts

variable {judge : List α → α → Verdict}

theorem retain_concat {offers : List α} {a : α} :
  retain judge (offers ++ [a]) = (retain judge offers).offer judge a
  := by
  unfold retain
  rw [List.foldl_append, List.foldl_cons, List.foldl_nil]

/-- The kept items only grow. -/
theorem items_prefix_offer (b : Retained α) (a : α) :
  b.items <+: (b.offer judge a).items
  := by
  unfold offer
  cases judge b.items a with
  | kept => apply List.prefix_append
  | invalid => apply List.prefix_rfl
  | overflow => apply List.prefix_rfl

theorem items_offer_of_ne_kept {b : Retained α} {a : α} (h : judge b.items a ≠ .kept) :
  (b.offer judge a).items = b.items
  := by
  unfold offer
  cases hj : judge b.items a with
  | kept => exact absurd hj h
  | invalid => rfl
  | overflow => rfl

theorem items_offer_of_kept {b : Retained α} {a : α} (h : judge b.items a = .kept) :
  (b.offer judge a).items = b.items ++ [a]
  := by
  rw [offer_of_kept h]

theorem overflow_le_offer (b : Retained α) (a : α) :
  b.overflow ≤ (b.offer judge a).overflow
  := by
  unfold offer
  cases judge b.items a with
  | kept => apply Nat.le_refl
  | invalid => apply Nat.le_refl
  | overflow => apply Nat.le_succ

/-- The kept items are among the offers, in the same order. -/
theorem retain_sublist (offers : List α) :
  (retain judge offers).items.Sublist offers
  := by
  induction offers using List.reverseRecOn with
  | nil => apply List.Sublist.refl
  | append_singleton offers a ih =>
      rw [retain_concat]
      by_cases h : judge (retain judge offers).items a = .kept
      · rw [items_offer_of_kept h]
        exact ih.append (List.Sublist.refl [a])
      · rw [items_offer_of_ne_kept h]
        exact ih.trans (List.sublist_append_left offers [a])

/-- What is kept stays kept when more is offered. -/
theorem retain_prefix (offers more : List α) :
  (retain judge offers).items <+: (retain judge (offers ++ more)).items
  := by
  induction more using List.reverseRecOn with
  | nil =>
      rw [List.append_nil]
  | append_singleton more a ih =>
      rw [← List.append_assoc, retain_concat]
      exact ih.trans (items_prefix_offer _ a)

end Counts

/-! ### Fair judges -/

/-- An item is kept exactly if it is valid and fits, and no valid item is rejected. -/
structure Fair (judge : List α → α → Verdict) (valid : α → Bool)
    (fits : List α → α → Prop) : Prop where
  kept_iff : ∀ items a, judge items a = .kept ↔ valid a = true ∧ fits items a
  invalid : ∀ items a, judge items a = .invalid → valid a = false

/-- The kept items are the first valid ones, and all of them if none was turned away. -/
structure Prefixed (valid : α → Bool) (offers : List α) (b : Retained α) : Prop where
  isPrefix : b.items <+: offers.filter valid
  all : b.overflow = 0 → b.items = offers.filter valid

section Fairness

variable {judge : List α → α → Verdict} {valid : α → Bool} {fits : List α → α → Prop}

theorem prefixed_nil :
  Prefixed valid ([] : List α) {}
  where
  isPrefix := List.prefix_rfl
  all _ := rfl

/-- An offer keeps the prefix unless a valid item fits after an overflow. -/
theorem Prefixed.offer {offers : List α} {b : Retained α} {a : α}
    (hjudge : Fair judge valid fits) (h : Prefixed valid offers b)
    (hafter : 0 < b.overflow → valid a = true → ¬ fits b.items a) :
  Prefixed valid (offers ++ [a]) (b.offer judge a)
  := by
  have hgrow : offers.filter valid <+: (offers ++ [a]).filter valid := by
    rw [List.filter_append]
    apply List.prefix_append
  cases hj : judge b.items a with
  | kept =>
      obtain ⟨hvalid, hfits⟩ := (hjudge.kept_iff b.items a).mp hj
      have hnone : b.overflow = 0 := by
        by_contra hne
        exact hafter (Nat.pos_of_ne_zero hne) hvalid hfits
      have hitems : b.items ++ [a] = (offers ++ [a]).filter valid := by
        rw [List.filter_append, h.all hnone, List.filter_cons_of_pos hvalid, List.filter_nil]
      constructor
      · rw [items_offer_of_kept hj, hitems]
      · intro _
        rw [items_offer_of_kept hj, hitems]
  | invalid =>
      have hvalid := hjudge.invalid b.items a hj
      have hsame : (offers ++ [a]).filter valid = offers.filter valid := by
        rw [List.filter_append, List.filter_cons_of_neg (by simp [hvalid]), List.filter_nil,
          List.append_nil]
      have hitems : (b.offer judge a).items = b.items := by
        apply items_offer_of_ne_kept
        simp [hj]
      have hoverflow : (b.offer judge a).overflow = b.overflow := by
        rw [offer_of_invalid hj]
      constructor
      · rw [hitems, hsame]
        exact h.isPrefix
      · intro hnone
        rw [hitems, hsame]
        exact h.all (hoverflow ▸ hnone)
  | overflow =>
      have hitems : (b.offer judge a).items = b.items := by
        apply items_offer_of_ne_kept
        simp [hj]
      have hoverflow : (b.offer judge a).overflow = b.overflow + 1 := by
        rw [offer_of_overflow hj]
      constructor
      · rw [hitems]
        exact h.isPrefix.trans hgrow
      · intro hnone
        omega

/-- A valid item that fits is one more item. -/
theorem length_offer_of_fits {b : Retained α} {a : α} (hjudge : Fair judge valid fits)
    (hvalid : valid a = true) (hfits : fits b.items a) :
  (b.offer judge a).items.length = b.items.length + 1
  := by
  rw [items_offer_of_kept ((hjudge.kept_iff b.items a).mpr ⟨hvalid, hfits⟩), List.length_append,
    List.length_singleton]

/-- An item that is not both valid and fitting leaves the items as they are. -/
theorem items_offer_of_not_fits {b : Retained α} {a : α} (hjudge : Fair judge valid fits)
    (h : valid a = true → ¬ fits b.items a) :
  (b.offer judge a).items = b.items
  := by
  apply items_offer_of_ne_kept
  rw [ne_eq, hjudge.kept_iff, not_and]
  exact h

end Fairness

end Retained
