import RobotestLab.Library.Machine
import Mathlib.Algebra.BigOperators.Group.List.Basic
import Mathlib.Algebra.Ring.Nat
import Mathlib.Data.List.Induction

/-!
# Loops that check as they go

A loop that accumulates a state and stops at the first element it rejects is a `foldlM` in `Except`.
When the state after a prefix is a function of the prefix, and a prefix is accepted exactly when it
satisfies a property, the whole loop is described by that function and that property. A loop that
charges sizes to a bounded total is the case of a sum and a bound.
-/

variable {ε σ α : Type}

/-! ### Accepted prefixes -/

theorem Except.foldlM_concat (f : σ → α → Except ε σ) (s : σ) (l : List α) (x : α) :
  (l ++ [x]).foldlM f s = l.foldlM f s >>= fun s' => f s' x
  := by
  rw [List.foldlM_append]
  congr 1
  funext s'
  rw [List.foldlM_cons]
  cases f s' x with
  | error e => rfl
  | ok s'' => rfl

/-- A loop whose state after a prefix is `F` of the prefix, and that accepts exactly the prefixes
with `P`, accepts the lists with `P`. -/
theorem Except.foldlM_eq_ok_iff {f : σ → α → Except ε σ} {F : List α → σ} {P : List α → Prop}
    (hnil : P []) (hinit : ∀ l x, P (l ++ [x]) → P l)
    (hstep : ∀ l x s, P l → (f (F l) x = .ok s ↔ P (l ++ [x]) ∧ s = F (l ++ [x])))
    {l : List α} {s : σ} :
  l.foldlM f (F []) = .ok s ↔ P l ∧ s = F l
  := by
  induction l using List.reverseRecOn generalizing s with
  | nil =>
      rw [List.foldlM_nil, Except.pure_eq_ok, Except.ok.injEq, eq_comm]
      exact ⟨fun h => ⟨hnil, h⟩, fun h => h.2⟩
  | append_singleton l x ih =>
      rw [Except.foldlM_concat, Except.bind_eq_ok_iff]
      constructor
      · rintro ⟨s', hs', hx⟩
        obtain ⟨hP, rfl⟩ := ih.mp hs'
        exact (hstep l x s hP).mp hx
      · rintro ⟨hP, rfl⟩
        have hprior := hinit l x hP
        exact ⟨F l, ih.mpr ⟨hprior, rfl⟩, (hstep l x _ hprior).mpr ⟨hP, rfl⟩⟩

/-! ### Bounded totals -/

/-- Add a value to a total that must not exceed a maximum. -/
def checkedAdd (value total maximum : Nat) : Option Nat :=
  if value > maximum ∨ total > maximum - value then none else some (total + value)

theorem checkedAdd_eq_some_iff {value total maximum total' : Nat} :
  checkedAdd value total maximum = some total' ↔
    total + value ≤ maximum ∧ total' = total + value
  := by
  unfold checkedAdd
  split
  · simp only [reduceCtorEq, false_iff, not_and]
    omega
  · simp only [Option.some.injEq]
    omega

/-- Charge a size to a bounded total, or stop with the error. -/
def charge (error : ε) (maximum : Nat) (total value : Nat) : Except ε Nat :=
  match checkedAdd value total maximum with
  | none => .error error
  | some total => .ok total

theorem charge_eq_ok_iff {error : ε} {maximum total value total' : Nat} :
  charge error maximum total value = .ok total' ↔
    total + value ≤ maximum ∧ total' = total + value
  := by
  rw [← checkedAdd_eq_some_iff]
  unfold charge
  cases checkedAdd value total maximum with
  | none => simp
  | some total => simp

/-- Charge sizes one after the other. -/
def chargeAll (error : ε) (maximum : Nat) (total : Nat) (values : List Nat) : Except ε Nat :=
  values.foldlM (charge error maximum) total

/-- From a total within the maximum, the sizes can be charged exactly when all of them together
can. -/
theorem chargeAll_eq_ok_iff {error : ε} {maximum total total' : Nat} {values : List Nat}
    (h : total ≤ maximum) :
  chargeAll error maximum total values = .ok total' ↔
    total + values.sum ≤ maximum ∧ total' = total + values.sum
  := by
  unfold chargeAll
  induction values generalizing total with
  | nil =>
      rw [List.foldlM_nil, Except.pure_eq_ok, Except.ok.injEq, List.sum_nil, Nat.add_zero]
      exact ⟨fun h' => ⟨h, h'.symm⟩, fun h' => h'.2.symm⟩
  | cons value values ih =>
      rw [List.foldlM_cons, Except.bind_eq_ok_iff, List.sum_cons]
      constructor
      · rintro ⟨total₁, hcharge, hrest⟩
        obtain ⟨hle, rfl⟩ := charge_eq_ok_iff.mp hcharge
        obtain ⟨hsum, rfl⟩ := (ih hle).mp hrest
        omega
      · rintro ⟨hle, rfl⟩
        refine ⟨total + value, charge_eq_ok_iff.mpr ⟨by omega, rfl⟩, ?_⟩
        apply (ih (by omega)).mpr
        omega

/-! ### Errors -/

/-- The computation stops for no other reasons than those with `P`. -/
def Except.StopsFor (P : ε → Prop) (x : Except ε α) : Prop :=
  ∀ e, x = .error e → P e

namespace Except.StopsFor

variable {P : ε → Prop} {β : Type}

theorem ok (a : α) : (Except.ok a).StopsFor P := by
  intro e h
  cases h

theorem error {e : ε} (h : P e) : (Except.error e : Except ε α).StopsFor P := by
  rintro e' ⟨⟩
  exact h

theorem bind {x : Except ε α} {f : α → Except ε β} (hx : x.StopsFor P)
    (hf : ∀ a, (f a).StopsFor P) :
  (x >>= f).StopsFor P
  := by
  intro e h
  cases x with
  | error e' =>
      rw [Except.error_bind] at h
      exact hx e (Except.error.inj h ▸ rfl)
  | ok a => exact hf a e h

theorem ite {c : Prop} [Decidable c] {x y : Except ε α} (hx : x.StopsFor P) (hy : y.StopsFor P) :
  (if c then x else y).StopsFor P
  := by
  split
  · exact hx
  · exact hy

theorem foldlM {f : σ → α → Except ε σ} (hf : ∀ s a, (f s a).StopsFor P) {l : List α} {s : σ} :
  (l.foldlM f s).StopsFor P
  := by
  induction l generalizing s with
  | nil => exact ok s
  | cons a l ih =>
      rw [List.foldlM_cons]
      exact bind (hf s a) fun _ => ih

end Except.StopsFor

theorem stopsFor_charge {P : ε → Prop} {error : ε} (h : P error) {maximum total value : Nat} :
  (charge error maximum total value).StopsFor P
  := by
  unfold charge
  split
  · exact .error h
  · exact .ok _
