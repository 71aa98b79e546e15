import Mathlib.Tactic.Common
import RobotestLab.Library.Program

/-!
# Programs with a budget

A graded relation between states and interactions before and after a program: the grade bounds what
the program spends, nothing is spent by nothing, and the grades of a sequence add up. In a given
environment a program `Keeps` a relation when all of its runs are in it. A loop spends what its last
round spends, if the rounds before it spend nothing (`Program.Keeps.loop`).
-/

namespace Program

variable {sig : Signature} {S L α β : Type} {env : sig.Environment}

/-! ### Runs in an environment -/

section Runs

variable {fuel : Nat} {s s' : S} {history w : List sig.Interaction}

theorem eq_andThen {m : Program sig S α} {f : Except sig.Raised α → Program sig S β}
    {r : Except sig.Raised β} (h : andThen m f env fuel s history = some (r, s', w)) :
  ∃ r₁ s₁ u v, m env fuel s history = some (r₁, s₁, u) ∧ w = u ++ v ∧
    f r₁ env fuel s₁ (history ++ u) = some (r, s', v)
  := by
  unfold andThen at h
  cases hm : m env fuel s history with
  | none =>
      rw [hm] at h
      cases h
  | some z =>
      obtain ⟨r₁, s₁, u⟩ := z
      rw [hm] at h
      simp only at h
      cases hf : f r₁ env fuel s₁ (history ++ u) with
      | none =>
          rw [hf] at h
          cases h
      | some z =>
          obtain ⟨r₂, s₂, v⟩ := z
          rw [hf] at h
          cases h
          exact ⟨r₁, s₁, u, v, rfl, rfl, hf⟩

theorem eq_bind {m : Program sig S α} {f : α → Program sig S β} {r : Except sig.Raised β}
    (h : (m >>= f) env fuel s history = some (r, s', w)) :
  (∃ e, r = .error e ∧ m env fuel s history = some (.error e, s', w)) ∨
    ∃ a s₁ u v, m env fuel s history = some (.ok a, s₁, u) ∧ w = u ++ v ∧
      f a env fuel s₁ (history ++ u) = some (r, s', v)
  := by
  obtain ⟨r₁, s₁, u, v, hm, rfl, hf⟩ := eq_andThen h
  cases r₁ with
  | ok a => exact .inr ⟨a, s₁, u, v, hm, rfl, hf⟩
  | error e =>
      cases hf
      rw [List.append_nil]
      exact .inl ⟨e, rfl, hm⟩

end Runs

/-! ### Graded relations -/

/-- A relation between the states and the interactions before and after a program, graded by what
the program spends. -/
structure Graded (P : Nat → S → List sig.Interaction → S → List sig.Interaction → Prop) : Prop where
  refl : ∀ s history, P 0 s history s history
  trans : ∀ {j k s h s₁ h₁ s₂ h₂}, P j s h s₁ h₁ → P k s₁ h₁ s₂ h₂ → P (j + k) s h s₂ h₂
  mono : ∀ {j k s h s' h'}, j ≤ k → P j s h s' h' → P k s h s' h'

/-- All runs of the program are in the relation. -/
def Keeps (env : sig.Environment) (m : Program sig S α)
    (P : S → List sig.Interaction → S → List sig.Interaction → Prop) : Prop :=
  ∀ fuel s history r s' u, m env fuel s history = some (r, s', u) → P s history s' (history ++ u)

variable {P : Nat → S → List sig.Interaction → S → List sig.Interaction → Prop} {j k : Nat}
  {m : Program sig S α}

theorem Keeps.mono (hP : Graded P) (hm : Keeps env m (P j)) (h : j ≤ k) :
  Keeps env m (P k)
  := fun fuel s history r s' u hrun => hP.mono h (hm fuel s history r s' u hrun)

theorem Keeps.done (hP : Graded P) (r : Except sig.Raised α) :
  Keeps env (done r : Program sig S α) (P 0)
  := by
  intro fuel s history r' s' u hrun
  cases hrun
  rw [List.append_nil]
  apply hP.refl

theorem Keeps.pure (hP : Graded P) (a : α) :
  Keeps env (Pure.pure a : Program sig S α) (P 0)
  := Keeps.done hP (.ok a)

theorem Keeps.raise (hP : Graded P) (e : sig.Raised) :
  Keeps env (Program.raise e : Program sig S α) (P 0)
  := Keeps.done hP (.error e)

theorem Keeps.getState (hP : Graded P) :
  Keeps env (Program.getState : Program sig S S) (P 0)
  := by
  intro fuel s history r s' u hrun
  cases hrun
  rw [List.append_nil]
  apply hP.refl

theorem Keeps.modifyState {f : S → S} (hf : ∀ s history, P k s history (f s) history) :
  Keeps env (Program.modifyState f : Program sig S Unit) (P k)
  := by
  intro fuel s history r s' u hrun
  cases hrun
  rw [List.append_nil]
  apply hf

theorem Keeps.ask {c : sig.Call}
    (h : ∀ s history, P k s history s (history ++ [⟨c, (env history c).result⟩])) :
  Keeps env (Program.ask sig c : Program sig S (sig.Answer c)) (P k)
  := by
  intro fuel s history r s' u hrun
  cases hrun
  apply h

theorem Keeps.andThen (hP : Graded P)
    {f : Except sig.Raised α → Program sig S β} (hm : Keeps env m (P j))
    (hf : ∀ r, Keeps env (f r) (P k)) :
  Keeps env (andThen m f) (P (j + k))
  := by
  intro fuel s history r s' w hrun
  obtain ⟨r₁, s₁, u, v, hfirst, rfl, hrest⟩ := eq_andThen hrun
  rw [← List.append_assoc]
  apply hP.trans (hm _ _ _ _ _ _ hfirst) (hf r₁ _ _ _ _ _ _ hrest)

theorem Keeps.bind (hP : Graded P) {f : α → Program sig S β}
    (hm : Keeps env m (P j)) (hf : ∀ a, Keeps env (f a) (P k)) :
  Keeps env (m >>= f) (P (j + k))
  := by
  apply Keeps.andThen hP hm
  intro r
  cases r with
  | ok a => apply hf a
  | error e => apply (Keeps.done hP _).mono hP (Nat.zero_le k)

theorem Keeps.attempt (hP : Graded P)
    {handler : sig.Raised → Program sig S α} (hm : Keeps env m (P j))
    (hhandler : ∀ e, Keeps env (handler e) (P k)) :
  Keeps env (attempt m handler) (P (j + k))
  := by
  apply Keeps.andThen hP hm
  intro r
  cases r with
  | ok a => apply (Keeps.done hP _).mono hP (Nat.zero_le k)
  | error e => apply hhandler e

/-- When the program ends with such a value, it has spent nothing. -/
def Paces (env : sig.Environment) (p : α → Prop) (m : Program sig S α)
    (P : Nat → S → List sig.Interaction → S → List sig.Interaction → Prop) : Prop :=
  ∀ fuel s history a s' u, m env fuel s history = some (.ok a, s', u) → p a →
    P 0 s history s' (history ++ u)

section Paces

variable {p : β → Prop}

theorem Paces.of_keeps {m : Program sig S β} (hm : Keeps env m (P 0)) :
  Paces env p m P
  := fun fuel s history _ s' u hrun _ => hm fuel s history _ s' u hrun

theorem Paces.raise (e : sig.Raised) :
  Paces env p (Program.raise e : Program sig S β) P
  := by
  intro fuel s history b s' u hrun
  cases hrun

theorem Paces.after (hP : Graded P) {m : Program sig S α} {f : α → Program sig S β}
    (hm : Keeps env m (P 0)) (hf : ∀ a, Paces env p (f a) P) :
  Paces env p (m >>= f) P
  := by
  intro fuel s history b s' w hrun hb
  rcases eq_bind hrun with ⟨e, he, -⟩ | ⟨a, s₁, u, v, hfirst, rfl, hrest⟩
  · cases he
  · rw [← List.append_assoc, ← Nat.add_zero 0]
    apply hP.trans (hm _ _ _ _ _ _ hfirst) (hf a _ _ _ _ _ _ hrest hb)

/-- A program that ends with another value. -/
theorem Paces.last {m : Program sig S α} {f : α → β} (hf : ∀ a, ¬ p (f a)) :
  Paces env p (m >>= fun a => Pure.pure (f a)) P
  := by
  intro fuel s history b s' w hrun hb
  rcases eq_bind hrun with ⟨e, he, -⟩ | ⟨a, s₁, u, v, hfirst, rfl, hrest⟩
  · cases he
  · cases hrest
    exact absurd hb (hf a)

theorem Paces.stop {b : β} (hb : ¬ p b) :
  Paces env p (Pure.pure b : Program sig S β) P
  := by
  intro fuel s history b' s' w hrun hb'
  cases hrun
  exact absurd hb' hb

/-- A program that goes on after some values and ends with another value after the rest. -/
theorem Paces.bind (hP : Graded P) {q : α → Prop} {m : Program sig S α} {f : α → Program sig S β}
    (hm : Paces env q m P) (hmore : ∀ a, q a → Paces env p (f a) P)
    (hstop : ∀ a, ¬ q a → ∃ b, f a = Pure.pure b ∧ ¬ p b) :
  Paces env p (m >>= f) P
  := by
  intro fuel s history b s' w hrun hb
  rcases eq_bind hrun with ⟨e, he, -⟩ | ⟨a, s₁, u, v, hfirst, rfl, hrest⟩
  · cases he
  · by_cases ha : q a
    · rw [← List.append_assoc, ← Nat.add_zero 0]
      apply hP.trans (hm _ _ _ _ _ _ hfirst ha) (hmore a ha _ _ _ _ _ _ hrest hb)
    · obtain ⟨b', hpure, hb'⟩ := hstop a ha
      rw [hpure] at hrest
      cases hrest
      exact absurd hb hb'

end Paces

/-- The value asks for another round. -/
def Continues (next : L ⊕ α) : Prop := next.isLeft = true

/-- A loop spends what its last round spends. -/
theorem Keeps.loop (hP : Graded P) {body : L → Program sig S (L ⊕ α)}
    (hlast : ∀ l, Keeps env (body l) (P k)) (hnext : ∀ l, Paces env Continues (body l) P) (l : L) :
  Keeps env (loop body l) (P k)
  := by
  have hiterate : ∀ rounds l fuel s history r s' u,
      iterate body rounds l env fuel s history = some (r, s', u) →
        P k s history s' (history ++ u) := by
    intro rounds
    induction rounds with
    | zero => nofun
    | succ rounds ih =>
        intro l fuel s history r s' w hrun
        obtain ⟨r₁, s₁, u, v, hbody, rfl, hrest⟩ := eq_andThen hrun
        match r₁ with
        | .ok (.inl l') =>
            rw [← List.append_assoc, ← Nat.zero_add k]
            apply hP.trans (hnext l _ _ _ _ _ _ hbody rfl) (ih _ _ _ _ _ _ _ hrest)
        | .ok (.inr a) =>
            cases hrest
            rw [List.append_nil]
            apply hlast _ _ _ _ _ _ _ hbody
        | .error e =>
            cases hrest
            rw [List.append_nil]
            apply hlast _ _ _ _ _ _ _ hbody
  intro fuel s history r s' u hrun
  exact hiterate fuel l fuel s history r s' u hrun

end Program
