import Mathlib.Data.List.Induction
import Mathlib.Logic.Function.Basic

/-!
# Threads over a shared state

A thread performs actions on a state that it shares with other threads. An action is atomic, and
it may have several answers. A thread may loop forever. In a pool of threads, the threads perform
their actions in any order (`Pool.Reaches`).

A protocol says, from the actions that a thread has performed and their answers, which action it
may perform next. A thread obeys a protocol whatever the answers are (`Thread.Obeys`), so this is
shown for each thread on its own. A statement about the whole pool then follows by an induction over
the steps of the pool that does not look at the threads any more (`Pool.Reaches.invariant`).
-/

/-- The actions of threads with the types of their answers. -/
structure Actions where
  Action : Type
  Answer : Action → Type

/-! ### Threads -/

inductive Thread (A : Actions) : Type → Type 1
  | pure {α : Type} (x : α) : Thread A α
  | act {α : Type} (a : A.Action) (k : A.Answer a → Thread A α) : Thread A α
  | loop {α β L : Type} (body : L → Thread A (L ⊕ β)) (l : L) (k : β → Thread A α) : Thread A α

namespace Thread

variable {A : Actions} {α β L : Type}

def bind : {α : Type} → Thread A α → (α → Thread A β) → Thread A β
  | _, .pure x, f => f x
  | _, .act a k, f => .act a fun r => (k r).bind f
  | _, .loop body l k, f => .loop body l fun b => (k b).bind f

instance : Monad (Thread A) where
  pure := Thread.pure
  bind := Thread.bind

/-- Perform an action. -/
def perform (a : A.Action) : Thread A (A.Answer a) := .act a .pure

/-- Run the body until it ends with a value. Each round gets the local variables that the round
before it left. -/
def repeatUntil (body : L → Thread A (L ⊕ β)) (l : L) : Thread A β := .loop body l .pure

/-- What follows a round of a loop. -/
def again (body : L → Thread A (L ⊕ β)) (k : β → Thread A α) : L ⊕ β → Thread A α
  | .inl l => .loop body l k
  | .inr b => k b

/-- The thread performs an action, gets an answer, and becomes another thread. -/
inductive Steps : {α : Type} → Thread A α → (a : A.Action) → A.Answer a → Thread A α → Prop
  | act {α : Type} (a : A.Action) (k : A.Answer a → Thread A α) (r : A.Answer a) :
      Steps (.act a k) a r (k r)
  | loop {α β L : Type} {body : L → Thread A (L ⊕ β)} {l : L} {k : β → Thread A α} {a : A.Action}
      {r : A.Answer a} {t : Thread A α} :
      Steps ((body l).bind (again body k)) a r t → Steps (.loop body l k) a r t

/-- The next action of the thread, when it is found after at most the given number of rounds. -/
def head? : Nat → Thread A α → Option ((a : A.Action) × (A.Answer a → Thread A α))
  | _, .pure _ => none
  | _, .act a k => some ⟨a, k⟩
  | 0, .loop _ _ _ => none
  | n + 1, .loop body l k => head? n ((body l).bind (again body k))

theorem steps_of_head? {n : Nat} {t : Thread A α} {a : A.Action} {k : A.Answer a → Thread A α}
    (h : t.head? n = some ⟨a, k⟩) (r : A.Answer a) :
  Steps t a r (k r)
  := by
  induction n, t using head?.induct with
  | case1 n x => simp [head?] at h
  | case2 n a' k' =>
      rw [head?, Option.some.injEq, Sigma.mk.injEq] at h
      obtain ⟨rfl, h⟩ := h
      obtain rfl := eq_of_heq h
      exact .act a' k' r
  | case3 => simp [head?] at h
  | case4 n _ _ body l k' ih =>
      rw [head?] at h
      exact .loop (ih h)

end Thread

/-! ### Protocols -/

/-- The actions that a thread may perform. The state is what the protocol remembers of the actions
performed so far, and `Possible` says which answers an action may have. -/
structure Protocol (A : Actions) where
  State : Type
  Allows : State → A.Action → Prop
  Possible : (a : A.Action) → A.Answer a → Prop
  next : State → (a : A.Action) → A.Answer a → State

namespace Thread

variable {A : Actions} (P : Protocol A) {α β L : Type}

/-- A round of a loop leaves the local variables of the next round, or ends the loop. -/
def Round {Q : Type} (inv : L → Q → Prop) (post : β → Q → Prop) : L ⊕ β → Q → Prop
  | .inl l => inv l
  | .inr b => post b

/-- From a state of the protocol the thread performs only allowed actions, for all possible
answers, and when it ends its value and the state of the protocol satisfy the given condition. -/
def Obeys : {α : Type} → Thread A α → P.State → (α → P.State → Prop) → Prop
  | _, .pure x, q, post => post x q
  | _, .act a k, q, post =>
      P.Allows q a ∧ ∀ r, P.Possible a r → Obeys (k r) (P.next q a r) post
  | _, .loop (L := L) body l k, q, post =>
      ∃ inv : L → P.State → Prop, inv l q ∧ ∀ l q, inv l q →
        Obeys (body l) q (Round inv fun b q' => Obeys (k b) q' post)

variable {P} {q : P.State} {t : Thread A α}

theorem Obeys.mono {post post' : α → P.State → Prop} (h : Obeys P t q post)
    (hpost : ∀ x q, post x q → post' x q) :
  Obeys P t q post'
  := by
  induction t generalizing q with
  | pure x => exact hpost x q h
  | act a k ih =>
      obtain ⟨hallows, hrest⟩ := h
      exact ⟨hallows, fun r hr => ih r (hrest r hr) hpost⟩
  | loop body l k ihbody ihk =>
      obtain ⟨inv, hinv, hround⟩ := h
      refine ⟨inv, hinv, ?_⟩
      intro l q hl
      apply ihbody l (hround l q hl)
      intro x q' hx
      cases x with
      | inl l' => exact hx
      | inr b => exact ihk b hx hpost

variable {post : β → P.State → Prop}

/-- A sequence obeys the protocol when its parts do. -/
theorem Obeys.andThen {f : α → Thread A β} (h : Obeys P t q fun x q' => Obeys P (f x) q' post) :
  Obeys P (t.bind f) q post
  := by
  induction t generalizing q with
  | pure x => exact h
  | act a k ih =>
      obtain ⟨hallows, hrest⟩ := h
      exact ⟨hallows, fun r hr => ih r (hrest r hr)⟩
  | loop body l k _ ihk =>
      obtain ⟨inv, hinv, hround⟩ := h
      refine ⟨inv, hinv, ?_⟩
      intro l q hl
      apply (hround l q hl).mono
      intro x q' hx
      cases x with
      | inl l' => exact hx
      | inr b => exact ihk b hx

/-- A sequence obeys the protocol when its first part does and its second part does afterwards. -/
theorem Obeys.bind {mid : α → P.State → Prop}
    {f : α → Thread A β} (h : Obeys P t q mid) (hf : ∀ x q', mid x q' → Obeys P (f x) q' post) :
  Obeys P (t >>= f) q post
  := (h.mono hf).andThen

theorem Obeys.repeatUntil {body : L → Thread A (L ⊕ β)} {l : L}
    (inv : L → P.State → Prop) (hinv : inv l q)
    (hround : ∀ l q, inv l q → Obeys P (body l) q (Round inv post)) :
  Obeys P (repeatUntil body l) q post
  := ⟨inv, hinv, hround⟩

/-- Every thread obeys a protocol that allows everything. -/
theorem obeys_of_allows (hallows : ∀ q a, P.Allows q a) (t : Thread A α) (q : P.State) :
  Obeys P t q fun _ _ => True
  := by
  induction t generalizing q with
  | pure x => trivial
  | act a k ih => exact ⟨hallows q a, fun r _ => ih r _⟩
  | loop body l k ihbody ihk =>
      refine ⟨fun _ _ => True, trivial, ?_⟩
      intro l q _
      apply (ihbody l q).mono
      intro x q' _
      cases x with
      | inl l' => trivial
      | inr b => exact ihk b q'

/-- A thread that obeys the protocol performs an allowed action, and obeys the protocol after any
possible answer. -/
theorem Obeys.steps {post : α → P.State → Prop} {t t' : Thread A α} {a : A.Action} {r : A.Answer a}
    (hstep : Steps t a r t') (h : Obeys P t q post) :
  P.Allows q a ∧ (P.Possible a r → Obeys P t' (P.next q a r) post)
  := by
  induction hstep with
  | act a k r => exact ⟨h.1, h.2 r⟩
  | loop _ ih =>
      apply ih
      obtain ⟨inv, hinv, hround⟩ := h
      apply Obeys.andThen
      apply (hround _ _ hinv).mono
      intro x q' hx
      cases x with
      | inl l' => exact ⟨inv, hx, hround⟩
      | inr b => exact hx

end Thread

/-! ### Pools -/

/-- An action that a thread performed, with its answer. -/
structure Performed (A : Actions) (I : Type) where
  thread : I
  action : A.Action
  answer : A.Answer action

/-- Threads with the state that they share. -/
structure Pool (A : Actions) (I S : Type) where
  shared : S
  threads : I → Thread A Unit

/-- What an action of a thread may answer and do to the shared state. -/
abbrev Semantics (A : Actions) (I S : Type) : Type :=
  I → (a : A.Action) → S → A.Answer a → S → Prop

namespace Pool

variable {A : Actions} {I S : Type} [DecidableEq I]

/-- One of the threads performs an action. -/
inductive Step (exec : Semantics A I S) : Pool A I S → Performed A I → Pool A I S → Prop
  | perform {p : Pool A I S} {i : I} {a : A.Action} {r : A.Answer a} {t : Thread A Unit} {s : S} :
      (p.threads i).Steps a r t → exec i a p.shared r s →
      Step exec p ⟨i, a, r⟩ ⟨s, Function.update p.threads i t⟩

/-- The threads can perform the given actions, in the given order. -/
inductive Reaches (exec : Semantics A I S) (p : Pool A I S) :
    List (Performed A I) → Pool A I S → Prop
  | refl : Reaches exec p [] p
  | step {history : List (Performed A I)} {e : Performed A I} {p' p'' : Pool A I S} :
      Reaches exec p history p' → Step exec p' e p'' → Reaches exec p (history ++ [e]) p''

end Pool

/-! ### What a thread remembers -/

namespace Protocol

variable {A : Actions} {I : Type} [DecidableEq I] (P : Protocol A)

/-- The state of the protocol of a thread after the actions of the pool. -/
def after (q : P.State) (i : I) (history : List (Performed A I)) : P.State :=
  history.foldl (fun q e => if e.thread = i then P.next q e.action e.answer else q) q

variable {P} {q : P.State} {i : I} {history : List (Performed A I)}

@[simp]
theorem after_nil : P.after q i ([] : List (Performed A I)) = q := rfl

theorem after_append (history' : List (Performed A I)) :
  P.after q i (history ++ history') = P.after (P.after q i history) i history'
  := List.foldl_append

theorem after_own (a : A.Action) (r : A.Answer a) :
  P.after q i (history ++ [⟨i, a, r⟩]) = P.next (P.after q i history) a r
  := by
  rw [after_append]
  exact if_pos rfl

theorem after_other {e : Performed A I} (he : e.thread ≠ i) :
  P.after q i (history ++ [e]) = P.after q i history
  := by
  rw [after_append]
  exact if_neg he

end Protocol

/-! ### Runs of a pool -/

namespace Pool

variable {A : Actions} {I S : Type} [DecidableEq I] {exec : Semantics A I S}
  {p p' p'' : Pool A I S} {history history' : List (Performed A I)}

theorem Reaches.trans (h : Reaches exec p history p') (h' : Reaches exec p' history' p'') :
  Reaches exec p (history ++ history') p''
  := by
  induction h' with
  | refl =>
      rw [List.append_nil]
      exact h
  | step _ hstep ih =>
      rw [← List.append_assoc]
      apply ih.step hstep

/-- The last action of a run. -/
theorem Reaches.last {e : Performed A I} (h : Reaches exec p (history ++ [e]) p'') :
  ∃ p', Reaches exec p history p' ∧ Step exec p' e p''
  := by
  generalize hfull : history ++ [e] = full at h
  cases h with
  | refl => simp at hfull
  | step h hstep =>
      obtain ⟨rfl, he⟩ := List.append_inj' hfull rfl
      obtain rfl := List.singleton_inj.mp he
      exact ⟨_, h, hstep⟩

/-- A run can be stopped after any number of its actions. -/
theorem Reaches.split (h : Reaches exec p (history ++ history') p'') :
  ∃ p', Reaches exec p history p' ∧ Reaches exec p' history' p''
  := by
  induction history' using List.reverseRecOn generalizing p'' with
  | nil =>
      rw [List.append_nil] at h
      exact ⟨p'', h, .refl⟩
  | append_singleton history' e ih =>
      rw [← List.append_assoc] at h
      obtain ⟨m, hm, hstep⟩ := h.last
      obtain ⟨p', h₁, h₂⟩ := ih hm
      exact ⟨p', h₁, h₂.step hstep⟩

/-- A thread that performs nothing stays as it is. -/
theorem Reaches.threads_eq (h : Reaches exec p history p') {i : I}
    (hi : ∀ e ∈ history, e.thread ≠ i) :
  p'.threads i = p.threads i
  := by
  induction h with
  | refl => rfl
  | step _ hstep ih =>
      cases hstep with
      | @perform j a r t s =>
          have hj : j ≠ i := hi _ (List.mem_append_right _ List.mem_cons_self)
          simp only [Function.update_of_ne (Ne.symm hj)]
          apply ih
          intro e he
          exact hi e (List.mem_append_left _ he)

section Obeys

variable {P : I → Protocol A} {q : (i : I) → (P i).State}

/-- Threads that obey their protocols keep obeying them. -/
theorem Reaches.obeys (hobeys : ∀ i, (p.threads i).Obeys (P i) (q i) fun _ _ => True)
    (hpossible : ∀ i a s r s', exec i a s r s' → (P i).Possible a r)
    (h : Reaches exec p history p') (i : I) :
  (p'.threads i).Obeys (P i) ((P i).after (q i) i history) fun _ _ => True
  := by
  induction h with
  | refl => exact hobeys i
  | step _ hstep ih =>
      cases hstep with
      | @perform j a r t s hthread hexec =>
          by_cases hj : j = i
          · subst hj
            simp only [Protocol.after_own, Function.update_self]
            exact (ih.steps hthread).2 (hpossible _ _ _ _ _ hexec)
          · simp only [Function.update_of_ne (Ne.symm hj)]
            rw [Protocol.after_other hj]
            exact ih

/-- Every action of a run was allowed when it was performed. -/
theorem Reaches.allows (hobeys : ∀ i, (p.threads i).Obeys (P i) (q i) fun _ _ => True)
    (hpossible : ∀ i a s r s', exec i a s r s' → (P i).Possible a r) {i : I} {a : A.Action}
    {r : A.Answer a} (h : Reaches exec p (history ++ ⟨i, a, r⟩ :: history') p') :
  ∃ p'', Reaches exec p history p'' ∧ (P i).Allows ((P i).after (q i) i history) a
  := by
  rw [List.append_cons] at h
  obtain ⟨m, hm, -⟩ := h.split
  obtain ⟨p'', hp'', hstep⟩ := hm.last
  cases hstep with
  | perform hthread hexec => exact ⟨p'', hp'', ((hp''.obeys hobeys hpossible i).steps hthread).1⟩

/-- When every thread obeys its protocol, a property of the actions and the shared state that every
allowed action keeps holds in every run. -/
theorem Reaches.invariant (Inv : List (Performed A I) → S → Prop)
    (hobeys : ∀ i, (p.threads i).Obeys (P i) (q i) fun _ _ => True)
    (hpossible : ∀ i a s r s', exec i a s r s' → (P i).Possible a r) (hinit : Inv [] p.shared)
    (hstep : ∀ history p' i a r s, Reaches exec p history p' → Inv history p'.shared →
      (P i).Allows ((P i).after (q i) i history) a → exec i a p'.shared r s →
      Inv (history ++ [⟨i, a, r⟩]) s)
    (h : Reaches exec p history p') :
  Inv history p'.shared
  := by
  induction h with
  | refl => exact hinit
  | step hreach hlast ih =>
      cases hlast with
      | @perform i a r t s hthread hexec =>
          apply hstep _ _ _ _ _ _ hreach ih _ hexec
          exact ((hreach.obeys hobeys hpossible i).steps hthread).1

end Obeys

/-! ### Running a schedule -/

/-- How the actions of a thread end in a schedule. -/
abbrev Resolver (A : Actions) (S : Type) : Type := (a : A.Action) → S → Option (A.Answer a × S)

/-- Let the thread perform the given number of actions. -/
def advance (i : I) (f : Resolver A S) : Nat → Pool A I S →
    Option (List (Performed A I) × Pool A I S)
  | 0, p => some ([], p)
  | n + 1, p =>
      match (p.threads i).head? 3 with
      | none => none
      | some ⟨a, k⟩ =>
          match f a p.shared with
          | none => none
          | some (r, s) =>
              match advance i f n ⟨s, Function.update p.threads i (k r)⟩ with
              | none => none
              | some (history, p') => some (⟨i, a, r⟩ :: history, p')

/-- Let the threads perform the given numbers of actions, one thread after the other. -/
def simulate : List (I × Resolver A S × Nat) → Pool A I S →
    Option (List (Performed A I) × Pool A I S)
  | [], p => some ([], p)
  | (i, f, n) :: schedule, p =>
      match advance i f n p with
      | none => none
      | some (history, p') =>
          match simulate schedule p' with
          | none => none
          | some (history', p'') => some (history ++ history', p'')

theorem reaches_of_advance {i : I} {f : Resolver A S}
    (hf : ∀ a s r s', f a s = some (r, s') → exec i a s r s') {n : Nat}
    (h : advance i f n p = some (history, p')) :
  Reaches exec p history p'
  := by
  induction n generalizing p history with
  | zero =>
      obtain ⟨rfl, rfl⟩ := Prod.mk.inj (Option.some.inj h)
      exact .refl
  | succ n ih =>
      rw [advance] at h
      split at h
      · cases h
      · rename_i a k hhead
        split at h
        · cases h
        · rename_i r s hf'
          split at h
          · cases h
          · rename_i history' p'' hrest
            obtain ⟨rfl, rfl⟩ := Prod.mk.inj (Option.some.inj h)
            have hstep : Reaches exec p [⟨i, a, r⟩] _ :=
              Reaches.refl.step (.perform (Thread.steps_of_head? hhead r) (hf a _ r s hf'))
            exact hstep.trans (ih hrest)

/-- The actions of a schedule make up a run. -/
theorem reaches_of_simulate {schedule : List (I × Resolver A S × Nat)}
    (hschedule : ∀ x ∈ schedule, ∀ a s r s', x.2.1 a s = some (r, s') → exec x.1 a s r s')
    (h : simulate schedule p = some (history, p')) :
  Reaches exec p history p'
  := by
  induction schedule generalizing p history with
  | nil =>
      obtain ⟨rfl, rfl⟩ := Prod.mk.inj (Option.some.inj h)
      exact .refl
  | cons x schedule ih =>
      obtain ⟨i, f, n⟩ := x
      rw [simulate] at h
      split at h
      · cases h
      · rename_i history₁ p₁ hadvance
        split at h
        · cases h
        · rename_i history₂ p₂ hrest
          obtain ⟨rfl, rfl⟩ := Prod.mk.inj (Option.some.inj h)
          apply (reaches_of_advance (hschedule _ List.mem_cons_self) hadvance).trans
          apply ih _ hrest
          intro x hx
          exact hschedule x (List.mem_cons_of_mem _ hx)

end Pool
