import Mathlib.Tactic.Common

/-!
# Runs of a step function

A system is given by a step function `step s c` that answers a call `c` in the state `s`
with an output and a next state, or fails. `Run step s tr s'` states that the calls of the
trace `tr` are answered, one after the other from `s`, with the outputs recorded in `tr`,
and end in `s'`. A failing call ends a run: no run contains it.
-/

universe u

variable {S C O E : Type u}

/-- `Run step s tr s'`: from `s`, the calls recorded in `tr` are answered with the outputs
recorded in `tr`, and lead to `s'`. -/
inductive Run (step : S → C → Except E (O × S)) : S → List (C × O) → S → Prop
  | nil (s : S) : Run step s [] s
  | cons {s s' s'' : S} {c : C} {o : O} {tr : List (C × O)} :
      step s c = .ok (o, s') → Run step s' tr s'' → Run step s ((c, o) :: tr) s''

namespace Run

variable {step : S → C → Except E (O × S)} {s s' s'' : S} {tr tr' : List (C × O)}

theorem nil_iff :
  Run step s [] s' ↔ s' = s
  := by
  constructor
  · intro h
    cases h
    rfl
  · rintro rfl
    apply Run.nil

theorem cons_iff {c : C} {o : O} :
  Run step s ((c, o) :: tr) s'' ↔ ∃ s', step s c = .ok (o, s') ∧ Run step s' tr s''
  := by
  constructor
  · intro h
    cases h with
    | cons hstep hrest => exact ⟨_, hstep, hrest⟩
  · rintro ⟨s', hstep, hrest⟩
    apply Run.cons hstep hrest

theorem single {c : C} {o : O} (h : step s c = .ok (o, s')) :
  Run step s [(c, o)] s'
  := Run.cons h (Run.nil s')

/-- A run of a concatenated trace is a run of the first part followed by a run of the
second. -/
theorem append_iff :
  Run step s (tr ++ tr') s'' ↔ ∃ s', Run step s tr s' ∧ Run step s' tr' s''
  := by
  induction tr generalizing s with
  | nil => simp [nil_iff]
  | cons head tr ih =>
      obtain ⟨c, o⟩ := head
      simp only [List.cons_append, cons_iff, ih]
      constructor
      · rintro ⟨t, hstep, m, h₁, h₂⟩
        exact ⟨m, ⟨t, hstep, h₁⟩, h₂⟩
      · rintro ⟨m, ⟨t, hstep, h₁⟩, h₂⟩
        exact ⟨t, hstep, m, h₁, h₂⟩

theorem append (h : Run step s tr s') (h' : Run step s' tr' s'') :
  Run step s (tr ++ tr') s''
  := append_iff.mpr ⟨s', h, h'⟩

/-- A property of states kept by every answered call is kept by every run. -/
theorem invariant {P : S → Prop}
    (hP : ∀ s c o s', P s → step s c = .ok (o, s') → P s')
    (h : Run step s tr s') (hs : P s) :
  P s'
  := by
  induction h with
  | nil s => exact hs
  | cons hstep _ ih => exact ih (hP _ _ _ _ hs hstep)

/-- A relation between the trace so far and the state, kept by every answered call that is
allowed, holds at the end of every run of allowed calls. -/
theorem history (h : Run step s tr s') (Allowed : C × O → Prop) (P : List (C × O) → S → Prop)
    (hP : ∀ pre s c o s', P pre s → Allowed (c, o) → step s c = .ok (o, s') →
      P (pre ++ [(c, o)]) s')
    (pre : List (C × O)) (hs : P pre s) (hall : ∀ e ∈ tr, Allowed e) :
  P (pre ++ tr) s'
  := by
  induction h generalizing pre with
  | nil s => simpa using hs
  | @cons s m s'' c o tr hstep _ ih =>
      have hnext := hP _ _ _ _ _ hs (hall (c, o) List.mem_cons_self) hstep
      have := ih _ hnext (fun e he => hall e (List.mem_cons_of_mem _ he))
      simpa using this

end Run

/-! ### Running a list of calls -/

/-- The answers to a list of calls, one after the other, with the last state. -/
def Run.exec (step : S → C → Except E (O × S)) : S → List C → Except E (List (C × O) × S)
  | s, [] => .ok ([], s)
  | s, c :: cs =>
      match step s c with
      | .error e => .error e
      | .ok (o, s') =>
          match Run.exec step s' cs with
          | .error e => .error e
          | .ok (tr, s'') => .ok ((c, o) :: tr, s'')

/-- The last state of a list of calls, or the first one when a call fails. -/
def Run.last (step : S → C → Except E (O × S)) (s : S) (cs : List C) : S :=
  match Run.exec step s cs with
  | .ok (_, s') => s'
  | .error _ => s

theorem Run.of_exec {step : S → C → Except E (O × S)} {s s' : S} {cs : List C}
    {tr : List (C × O)} (h : Run.exec step s cs = .ok (tr, s')) :
  Run step s tr s' ∧ tr.map Prod.fst = cs
  := by
  induction cs generalizing s tr with
  | nil =>
      obtain ⟨rfl, rfl⟩ := Prod.mk.inj (Except.ok.inj h)
      exact ⟨Run.nil s, rfl⟩
  | cons c cs ih =>
      rw [Run.exec] at h
      split at h
      · cases h
      · rename_i o m hstep
        split at h
        · cases h
        · rename_i tr' t hrest
          obtain ⟨rfl, rfl⟩ := Prod.mk.inj (Except.ok.inj h)
          obtain ⟨hrun, hcalls⟩ := ih hrest
          exact ⟨Run.cons hstep hrun, by rw [List.map_cons, hcalls]⟩

/-- Calls that are all answered make up a run. -/
theorem Run.exists_of_exec {step : S → C → Except E (O × S)} {s : S} {cs : List C}
    (h : (Run.exec step s cs).isOk = true) :
  ∃ tr, Run step s tr (Run.last step s cs) ∧ tr.map Prod.fst = cs
  := by
  unfold Run.last
  cases hexec : Run.exec step s cs with
  | error e =>
      rw [hexec] at h
      cases h
  | ok r => exact ⟨r.1, Run.of_exec hexec⟩

/-- The states some run from `init` leads to. -/
def Reachable (step : S → C → Except E (O × S)) (init s : S) : Prop :=
  ∃ tr, Run step init tr s

namespace Reachable

variable {step : S → C → Except E (O × S)} {init s s' : S}

theorem refl : Reachable step init init := ⟨[], Run.nil init⟩

/-- The last state of a list of calls is reachable. -/
theorem last (step : S → C → Except E (O × S)) (s : S) (cs : List C) :
  Reachable step s (Run.last step s cs)
  := by
  unfold Run.last
  split
  · exact ⟨_, (Run.of_exec ‹_›).1⟩
  · apply refl

/-- A property of the initial state kept by every answered call holds in every reachable
state. -/
theorem invariant {P : S → Prop} (hinit : P init)
    (hP : ∀ s c o s', P s → step s c = .ok (o, s') → P s') (h : Reachable step init s) :
  P s
  := by
  obtain ⟨tr, htr⟩ := h
  exact htr.invariant hP hinit

end Reachable
