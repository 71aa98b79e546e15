import Mathlib.Tactic.Common

/-!
# Ledgers of tokens

A system hands out numbered tokens, each larger than the ones before, and records values under
the token that is current. `Ledger entries last Current` states that the entries recorded so
far use tokens up to `last`, that a token never carries two values, and that the values under
`last` satisfy `Current`, which says what the present state knows about them.
-/

universe u

variable {α : Type u} {entries : List (Nat × α)} {last last' : Nat} {Current Current' : α → Prop}

structure Ledger (entries : List (Nat × α)) (last : Nat) (Current : α → Prop) : Prop where
  le_last : ∀ e ∈ entries, e.1 ≤ last
  functional : ∀ e ∈ entries, ∀ e' ∈ entries, e.1 = e'.1 → e.2 = e'.2
  current : ∀ e ∈ entries, e.1 = last → Current e.2

namespace Ledger

theorem nil (last : Nat) (Current : α → Prop) :
  Ledger [] last Current
  where
  le_last := by simp
  functional := by simp
  current := by simp

/-- The present state may forget what it knows. -/
theorem weaken (h : Ledger entries last Current) (hC : ∀ a, Current a → Current' a) :
  Ledger entries last Current'
  where
  le_last := h.le_last
  functional := h.functional
  current e he hlast := hC e.2 (h.current e he hlast)

/-- No value is recorded under a new token yet. -/
theorem advance (h : Ledger entries last Current) (hlt : last < last') (Current' : α → Prop) :
  Ledger entries last' Current'
  where
  le_last e he := Nat.le_of_lt (Nat.lt_of_le_of_lt (h.le_last e he) hlt)
  functional := h.functional
  current e he hlast := by
    have := h.le_last e he
    omega

/-- The value that the present state determines may be recorded once more. -/
theorem record (h : Ledger entries last Current) {b : α} (hb : ∀ a, Current a → a = b)
    (hb' : Current' b) :
  Ledger (entries ++ [(last, b)]) last Current'
  := by
  have hold : ∀ e ∈ entries, e.1 = last → e.2 = b := fun e he hlast =>
    hb e.2 (h.current e he hlast)
  constructor
  · intro e he
    rcases List.mem_append.mp he with he | he
    · apply h.le_last e he
    · apply Nat.le_of_eq
      exact congrArg Prod.fst (List.mem_singleton.mp he)
  · intro e he e' he' heq
    rcases List.mem_append.mp he with he | he <;> rcases List.mem_append.mp he' with he' | he'
    · apply h.functional e he e' he' heq
    · rw [List.mem_singleton.mp he'] at heq ⊢
      apply hold e he heq
    · rw [List.mem_singleton.mp he] at heq ⊢
      exact (hold e' he' heq.symm).symm
    · rw [List.mem_singleton.mp he, List.mem_singleton.mp he']
  · intro e he hlast
    rcases List.mem_append.mp he with he | he
    · rw [hold e he hlast]
      exact hb'
    · rw [List.mem_singleton.mp he]
      exact hb'

end Ledger
