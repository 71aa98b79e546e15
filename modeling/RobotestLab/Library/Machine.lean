import Mathlib.Data.List.Forall2
import Mathlib.Tactic.Common

/-!
# Machine arithmetic

A signed 64-bit quantity is an integer together with the promise that every operation
on it stays in range. `Int64Arith.add`, `Int64Arith.sub` and `Int64Arith.mul` give the exact
result when it is representable and fail otherwise, so a computation written with them
records an overflow as a failure. An unsigned 64-bit counter is a `UInt64` with
`UInt64.increment?`, which stops at the largest value.
-/

universe u v

/-! ### Sequencing computations that may fail -/

variable {α β : Type v}

/-- A sequence of two computations succeeds exactly when the first one does and the second
one succeeds on its result. -/
theorem Except.bind_eq_ok_iff {ε : Type u} {x : Except ε α} {f : α → Except ε β} {b : β} :
  (x >>= f) = .ok b ↔ ∃ a, x = .ok a ∧ f a = .ok b
  := by
  cases x with
  | error e => simp [bind, Except.bind]
  | ok a => simp [bind, Except.bind]

@[simp]
theorem Except.ok_bind {ε : Type u} (a : α) (f : α → Except ε β) :
  ((.ok a : Except ε α) >>= f) = f a
  := rfl

@[simp]
theorem Except.error_bind {ε : Type u} (e : ε) (f : α → Except ε β) :
  ((.error e : Except ε α) >>= f) = .error e
  := rfl

@[simp]
theorem Except.pure_eq_ok {ε : Type u} {α : Type v} (a : α) :
  (pure a : Except ε α) = .ok a
  := rfl

theorem Except.eq_ok_iff_toOption {ε : Type u} {α : Type v} {x : Except ε α} {a : α} :
  x = .ok a ↔ x.toOption = some a
  := by
  cases x with
  | error e => simp [Except.toOption]
  | ok a => simp [Except.toOption]

/-- A list of computations returns exactly when each of them does. -/
theorem Except.mapM_eq_ok_iff {ε : Type u} {α : Type v} {β : Type v} {f : α → Except ε β}
    {l : List α} {r : List β} :
  l.mapM f = .ok r ↔ List.Forall₂ (fun a b => f a = .ok b) l r
  := by
  induction l generalizing r with
  | nil =>
      rw [List.mapM_nil, Except.pure_eq_ok, Except.ok.injEq, List.forall₂_nil_left_iff, eq_comm]
  | cons a l ih =>
      simp only [List.mapM_cons, Except.bind_eq_ok_iff, ih, Except.pure_eq_ok, Except.ok.injEq,
        List.forall₂_cons_left_iff]
      constructor
      · rintro ⟨b, hb, bs, hbs, rfl⟩
        exact ⟨b, bs, hb, hbs, rfl⟩
      · rintro ⟨b, bs, hb, hbs, rfl⟩
        exact ⟨b, hb, bs, hbs, rfl⟩

/-! ### Signed 64-bit arithmetic -/

namespace Int64Arith

/-- The least signed 64-bit value. -/
def least : Int := -9223372036854775808

/-- The greatest signed 64-bit value. -/
def greatest : Int := 9223372036854775807

/-- `v` is a signed 64-bit value. -/
def InRange (v : Int) : Prop :=
  least ≤ v ∧ v ≤ greatest

instance (v : Int) : Decidable (InRange v) :=
  inferInstanceAs (Decidable (_ ∧ _))

variable {ε : Type*}

/-- The result of an operation whose exact value is `v`: that value when it is a signed
64-bit value, and the failure `overflow` otherwise. -/
def checked (overflow : ε) (v : Int) : Except ε Int :=
  if InRange v then .ok v else .error overflow

/-- Signed 64-bit addition. -/
def add (overflow : ε) (a b : Int) : Except ε Int := checked overflow (a + b)

/-- Signed 64-bit subtraction. -/
def sub (overflow : ε) (a b : Int) : Except ε Int := checked overflow (a - b)

/-- Signed 64-bit multiplication. -/
def mul (overflow : ε) (a b : Int) : Except ε Int := checked overflow (a * b)

theorem checked_of_inRange (overflow : ε) {v : Int} (h : InRange v) :
  checked overflow v = .ok v
  := if_pos h

theorem checked_eq_ok_iff (overflow : ε) {v w : Int} :
  checked overflow v = .ok w ↔ InRange v ∧ w = v
  := by
  unfold checked
  split
  · simp_all [eq_comm]
  · simp_all

end Int64Arith

/-! ### Unsigned 64-bit counters -/

/-- The successor of a counter, unless the counter is already the largest value. -/
def UInt64.increment? (v : UInt64) : Option UInt64 :=
  if v = 18446744073709551615 then none else some (v + 1)

/-- The largest value of a counter, as a number. -/
theorem UInt64.toNat_eq_max_iff (v : UInt64) :
  v = 18446744073709551615 ↔ v.toNat = 18446744073709551615
  := by
  constructor
  · rintro rfl
    rfl
  · intro h
    apply UInt64.toNat_inj.mp
    rw [h]
    rfl

theorem UInt64.increment?_eq_none_iff (v : UInt64) :
  v.increment? = none ↔ v.toNat = 18446744073709551615
  := by
  rw [← v.toNat_eq_max_iff]
  simp [increment?]

/-- A counter that can be incremented grows by exactly one. -/
theorem UInt64.increment?_eq_some_iff (v w : UInt64) :
  v.increment? = some w ↔ w.toNat = v.toNat + 1
  := by
  have hv := v.toNat_lt
  have hw := w.toNat_lt
  rw [increment?]
  split
  · rename_i h
    have := v.toNat_eq_max_iff.mp h
    simp only [reduceCtorEq, false_iff]
    omega
  · rename_i h
    have hne : v.toNat ≠ 18446744073709551615 := fun h' => h (v.toNat_eq_max_iff.mpr h')
    have hsucc : (v + 1).toNat = v.toNat + 1 := by
      rw [UInt64.toNat_add]
      apply Nat.mod_eq_of_lt
      simp
      omega
    constructor
    · intro h'
      rw [← Option.some.inj h', hsucc]
    · intro h'
      congr 1
      apply UInt64.toNat_inj.mp
      omega
