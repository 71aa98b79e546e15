import Mathlib.Data.List.Basic
import Mathlib.Data.Sigma.Basic

/-!
# Programs that call an environment

A program keeps a state, may raise, and calls an environment. The environment decides what every
call answers from the calls that ended before it, and it may call the program back before it
answers. The run of a program is the list of the calls it made, in the order in which they ended
(`Program.Runs`). The lemmas of this file take the run of a composed program apart into the runs
of its parts, and establish relations between the states before and after a run that hold for
every behaviour of the environment (`Program.Respects`).
-/

/-- The calls of a program with the types of their answers, the callbacks that a callee may make,
and what may be raised. -/
structure Signature where
  Call : Type
  Answer : Call → Type
  Callback : Type
  Raised : Type

namespace Signature

variable (sig : Signature)

/-- A call and how it ended. -/
abbrev Interaction : Type := (c : sig.Call) × Except sig.Raised (sig.Answer c)

/-- What a callee does: the callbacks it makes, and then what it answers or raises. -/
structure Reply (α : Type) where
  callbacks : List sig.Callback := []
  result : Except sig.Raised α

/-- What the callees do after the given interactions. -/
def Environment : Type :=
  List sig.Interaction → (c : sig.Call) → sig.Reply (sig.Answer c)

end Signature

/-- A program gets the environment, the number of times that a loop may go round, the state and the
interactions so far. It ends with a value or an exception, a state and its own interactions,
unless a loop goes round too often. -/
def Program (sig : Signature) (S α : Type) : Type :=
  sig.Environment → Nat → S → List sig.Interaction →
    Option (Except sig.Raised α × S × List sig.Interaction)

namespace Program

variable {sig : Signature} {S L α β : Type}

/-! ### Constructions -/

/-- Continue after a program that ended. -/
def andThen (m : Program sig S α) (f : Except sig.Raised α → Program sig S β) : Program sig S β :=
  fun env fuel s history =>
    match m env fuel s history with
    | none => none
    | some (r, s', u) =>
        match f r env fuel s' (history ++ u) with
        | none => none
        | some (r', s'', v) => some (r', s'', u ++ v)

/-- End with the given value or exception. -/
def done (r : Except sig.Raised α) : Program sig S α :=
  fun _ _ s _ => some (r, s, [])

instance : Monad (Program sig S) where
  pure a := done (.ok a)
  bind m f := andThen m fun
    | .ok a => f a
    | .error e => done (.error e)

def raise (e : sig.Raised) : Program sig S α := done (.error e)

/-- Handle the exception that the program raises. -/
def attempt (m : Program sig S α) (handler : sig.Raised → Program sig S α) : Program sig S α :=
  andThen m fun
    | .ok a => done (.ok a)
    | .error e => handler e

def getState : Program sig S S :=
  fun _ _ s _ => some (.ok s, s, [])

def modifyState (f : S → S) : Program sig S Unit :=
  fun _ _ s _ => some (.ok (), f s, [])

/-- A call whose callee makes no callbacks. -/
def ask (sig : Signature) (c : sig.Call) : Program sig S (sig.Answer c) :=
  fun env _ s history =>
    let reply := env history c
    some (reply.result, s, [⟨c, reply.result⟩])

/-- The callbacks of a callee. What they raise is for the callee to handle. -/
def callbacks (onCallback : sig.Callback → Program sig S Unit) :
    List sig.Callback → Program sig S Unit
  | [] => done (.ok ())
  | k :: ks => andThen (onCallback k) fun _ => callbacks onCallback ks

/-- A call whose callee makes callbacks. -/
def call (sig : Signature) (onCallback : sig.Callback → Program sig S Unit) (c : sig.Call) :
    Program sig S (sig.Answer c) :=
  fun env fuel s history =>
    let reply := env history c
    match callbacks onCallback reply.callbacks env fuel s history with
    | none => none
    | some (_, s', u) => some (reply.result, s', u ++ [⟨c, reply.result⟩])

/-- Run the body at most the given number of times, until it ends with a value. Each round gets
the local variables that the round before it left. -/
def iterate (body : L → Program sig S (L ⊕ α)) : Nat → L → Program sig S α
  | 0, _ => fun _ _ _ _ => none
  | n + 1, l => andThen (body l) fun
      | .ok (.inr a) => done (.ok a)
      | .ok (.inl l') => iterate body n l'
      | .error e => done (.error e)

/-- Run the body until it ends with a value. -/
def loop (body : L → Program sig S (L ⊕ α)) (l : L) : Program sig S α :=
  fun env fuel => iterate body fuel l env fuel

/-! ### Runs -/

/-- The program can run from the first state to the second with the given interactions and
result. -/
def Runs (m : Program sig S α) (s : S) (u : List sig.Interaction) (r : Except sig.Raised α)
    (s' : S) : Prop :=
  ∃ env fuel history, m env fuel s history = some (r, s', u)

section Runs

variable {s s' : S} {u : List sig.Interaction}

theorem runs_done {r₀ r : Except sig.Raised α} (h : Runs (done r₀) s u r s') :
  r = r₀ ∧ s' = s ∧ u = []
  := by
  obtain ⟨env, fuel, history, h⟩ := h
  obtain ⟨rfl, rfl, rfl⟩ : r₀ = r ∧ s = s' ∧ [] = u := by
    simpa [done] using h
  exact ⟨rfl, rfl, rfl⟩

variable {m : Program sig S α}

/-- The run of a program that continues another one falls into the runs of the two. -/
theorem runs_andThen {f : Except sig.Raised α → Program sig S β}
    {r : Except sig.Raised β} (h : Runs (andThen m f) s u r s') :
  ∃ r₁ s₁ u₁ u₂, u = u₁ ++ u₂ ∧ Runs m s u₁ r₁ s₁ ∧ Runs (f r₁) s₁ u₂ r s'
  := by
  obtain ⟨env, fuel, history, h⟩ := h
  unfold andThen at h
  cases hm : m env fuel s history with
  | none =>
      rw [hm] at h
      cases h
  | some w =>
      obtain ⟨r₁, s₁, u₁⟩ := w
      rw [hm] at h
      cases hf : f r₁ env fuel s₁ (history ++ u₁) with
      | none =>
          simp only [hf] at h
          cases h
      | some w =>
          obtain ⟨r₂, s₂, u₂⟩ := w
          simp only [hf] at h
          obtain ⟨rfl, rfl, rfl⟩ : r₂ = r ∧ s₂ = s' ∧ u₁ ++ u₂ = u := by
            simpa using h
          exact ⟨r₁, s₁, u₁, u₂, rfl, ⟨env, fuel, history, hm⟩, ⟨env, fuel, history ++ u₁, hf⟩⟩

variable {r : Except sig.Raised α}

theorem runs_pure {a : α} (h : Runs (pure a : Program sig S α) s u r s') :
  r = .ok a ∧ s' = s ∧ u = []
  := runs_done h

theorem runs_raise {e : sig.Raised} (h : Runs (raise e : Program sig S α) s u r s') :
  r = .error e ∧ s' = s ∧ u = []
  := runs_done h

/-- The run of a sequence begins with the run of its first part. -/
theorem runs_bind {f : α → Program sig S β} {r : Except sig.Raised β}
    (h : Runs (m >>= f) s u r s') :
  ∃ r₁ s₁ u₁ u₂, u = u₁ ++ u₂ ∧ Runs m s u₁ r₁ s₁ ∧
    (∀ a, r₁ = .ok a → Runs (f a) s₁ u₂ r s') ∧
    ∀ e, r₁ = .error e → r = .error e ∧ s' = s₁ ∧ u₂ = []
  := by
  obtain ⟨r₁, s₁, u₁, u₂, rfl, hm, hf⟩ := runs_andThen h
  refine ⟨r₁, s₁, u₁, u₂, rfl, hm, ?_, ?_⟩
  · rintro a rfl
    exact hf
  · rintro e rfl
    exact runs_done hf

/-- A sequence that ends with a value. -/
theorem runs_bind_ok {f : α → Program sig S β} {b : β} (h : Runs (m >>= f) s u (.ok b) s') :
  ∃ a s₁ u₁ u₂, u = u₁ ++ u₂ ∧ Runs m s u₁ (.ok a) s₁ ∧ Runs (f a) s₁ u₂ (.ok b) s'
  := by
  obtain ⟨r₁, s₁, u₁, u₂, rfl, hm, hf⟩ := runs_andThen h
  cases r₁ with
  | ok a => exact ⟨a, s₁, u₁, u₂, rfl, hm, hf⟩
  | error e => cases (runs_done hf).1

/-- A handled program ends with a value, or its handler runs after it. -/
theorem runs_attempt {handler : sig.Raised → Program sig S α}
    (h : Runs (attempt m handler) s u r s') :
  (∃ a, r = .ok a ∧ Runs m s u (.ok a) s') ∨
    ∃ e s₁ u₁ u₂, u = u₁ ++ u₂ ∧ Runs m s u₁ (.error e) s₁ ∧ Runs (handler e) s₁ u₂ r s'
  := by
  obtain ⟨r₁, s₁, u₁, u₂, rfl, hm, hf⟩ := runs_andThen h
  cases r₁ with
  | ok a =>
      obtain ⟨rfl, rfl, rfl⟩ := runs_done hf
      rw [List.append_nil]
      exact Or.inl ⟨a, rfl, hm⟩
  | error e => exact Or.inr ⟨e, s₁, u₁, u₂, rfl, hm, hf⟩

theorem runs_getState {r : Except sig.Raised S}
    (h : Runs (getState : Program sig S S) s u r s') :
  r = .ok s ∧ s' = s ∧ u = []
  := by
  obtain ⟨env, fuel, history, h⟩ := h
  obtain ⟨rfl, rfl, rfl⟩ : .ok s = r ∧ s = s' ∧ [] = u := by
    simpa [getState] using h
  exact ⟨rfl, rfl, rfl⟩

theorem runs_modifyState {f : S → S} {r : Except sig.Raised Unit}
    (h : Runs (modifyState f : Program sig S Unit) s u r s') :
  r = .ok () ∧ s' = f s ∧ u = []
  := by
  obtain ⟨env, fuel, history, h⟩ := h
  obtain ⟨rfl, rfl, rfl⟩ : .ok () = r ∧ f s = s' ∧ [] = u := by
    simpa [modifyState] using h
  exact ⟨rfl, rfl, rfl⟩

theorem runs_ask {c : sig.Call} {r : Except sig.Raised (sig.Answer c)}
    (h : Runs (ask sig c : Program sig S (sig.Answer c)) s u r s') :
  s' = s ∧ u = [⟨c, r⟩]
  := by
  obtain ⟨env, fuel, history, h⟩ := h
  obtain ⟨rfl, rfl, rfl⟩ : (env history c).result = r ∧ s = s' ∧
      [⟨c, (env history c).result⟩] = u := by
    simpa [ask] using h
  exact ⟨rfl, rfl⟩

/-- The last interaction of a call is the call. -/
theorem runs_call {onCallback : sig.Callback → Program sig S Unit} {c : sig.Call}
    {r : Except sig.Raised (sig.Answer c)} (h : Runs (call sig onCallback c) s u r s') :
  ∃ ks r' v, u = v ++ [⟨c, r⟩] ∧ Runs (callbacks onCallback ks) s v r' s'
  := by
  obtain ⟨env, fuel, history, h⟩ := h
  simp only [call] at h
  cases hk : callbacks onCallback (env history c).callbacks env fuel s history with
  | none =>
      rw [hk] at h
      cases h
  | some w =>
      obtain ⟨r', s₁, v⟩ := w
      simp only [hk] at h
      obtain ⟨rfl, rfl, rfl⟩ : (env history c).result = r ∧ s₁ = s' ∧
          v ++ [⟨c, (env history c).result⟩] = u := by
        simpa using h
      exact ⟨_, r', v, rfl, env, fuel, history, hk⟩

/-- What holds of the last round of a loop, and of a loop when it holds of its remaining rounds,
holds of every run of the loop. -/
theorem runs_loop {body : L → Program sig S (L ⊕ α)}
    {P : L → S → List sig.Interaction → Except sig.Raised α → S → Prop}
    (stop : ∀ {l s u a s'}, Runs (body l) s u (.ok (.inr a)) s' → P l s u (.ok a) s')
    (raised : ∀ {l s u e s'}, Runs (body l) s u (.error e) s' → P l s u (.error e) s')
    (next : ∀ {l l' s u s₁ v r s'}, Runs (body l) s u (.ok (.inl l')) s₁ → P l' s₁ v r s' →
      P l s (u ++ v) r s') {l : L} (h : Runs (loop body l) s u r s') :
  P l s u r s'
  := by
  obtain ⟨env, fuel, history, h⟩ := h
  have hiterate : ∀ n {l s u r s'}, Runs (iterate body n l) s u r s' → P l s u r s' := by
    intro n
    induction n with
    | zero =>
        rintro l s u r s' ⟨env, fuel, history, h⟩
        cases h
    | succ n ih =>
        intro l s u r s' h
        obtain ⟨r₁, s₁, u₁, u₂, rfl, hbody, hrest⟩ := runs_andThen h
        match r₁ with
        | .ok (.inr a) =>
            obtain ⟨rfl, rfl, rfl⟩ := runs_done hrest
            rw [List.append_nil]
            apply stop hbody
        | .ok (.inl l') => apply next hbody (ih hrest)
        | .error e =>
            obtain ⟨rfl, rfl, rfl⟩ := runs_done hrest
            rw [List.append_nil]
            apply raised hbody
  exact hiterate fuel ⟨env, fuel, history, h⟩

end Runs

/-! ### Relations that every run respects -/

/-- A relation between the state before, the interactions of and the state after a program that
holds of nothing and of a sequence when it holds of its parts. -/
structure Sequential (P : S → List sig.Interaction → S → Prop) : Prop where
  refl : ∀ s, P s [] s
  trans : ∀ {s u s₁ v s₂}, P s u s₁ → P s₁ v s₂ → P s (u ++ v) s₂

/-- Every run of the program is in the relation, whether it ends with a value or raises. -/
def Respects (m : Program sig S α) (P : S → List sig.Interaction → S → Prop) : Prop :=
  ∀ s u r s', Runs m s u r s' → P s u s'

section Respects

variable {P : S → List sig.Interaction → S → Prop} {m : Program sig S α}

theorem Respects.of_runs (h : Respects m P) {s s' : S}
    {u : List sig.Interaction} {r : Except sig.Raised α} (hrun : Runs m s u r s') :
  P s u s'
  := h s u r s' hrun

theorem Respects.mono {Q : S → List sig.Interaction → S → Prop}
    (h : Respects m P) (hPQ : ∀ {s u s'}, P s u s' → Q s u s') :
  Respects m Q
  := by
  intro s u r s' hrun
  apply hPQ (h.of_runs hrun)

theorem Respects.done (hP : Sequential P) (r : Except sig.Raised α) :
  Respects (done r) P
  := by
  intro s u r' s' h
  obtain ⟨-, rfl, rfl⟩ := runs_done h
  apply hP.refl

theorem Respects.pure (hP : Sequential P) (a : α) :
  Respects (Pure.pure a : Program sig S α) P
  := Respects.done hP (.ok a)

theorem Respects.raise (hP : Sequential P) (e : sig.Raised) :
  Respects (Program.raise e : Program sig S α) P
  := Respects.done hP (.error e)

theorem Respects.andThen (hP : Sequential P)
    {f : Except sig.Raised α → Program sig S β} (hm : Respects m P) (hf : ∀ r, Respects (f r) P) :
  Respects (Program.andThen m f) P
  := by
  intro s u r s' h
  obtain ⟨r₁, s₁, u₁, u₂, rfl, h₁, h₂⟩ := runs_andThen h
  apply hP.trans (hm.of_runs h₁) ((hf r₁).of_runs h₂)

theorem Respects.bind (hP : Sequential P) {f : α → Program sig S β}
    (hm : Respects m P) (hf : ∀ a, Respects (f a) P) :
  Respects (m >>= f) P
  := by
  apply Respects.andThen hP hm
  intro r
  cases r with
  | ok a => apply hf a
  | error e => apply Respects.done hP

theorem Respects.attempt (hP : Sequential P)
    {handler : sig.Raised → Program sig S α} (hm : Respects m P)
    (hhandler : ∀ e, Respects (handler e) P) :
  Respects (Program.attempt m handler) P
  := by
  apply Respects.andThen hP hm
  intro r
  cases r with
  | ok a => apply Respects.done hP
  | error e => apply hhandler e

theorem Respects.getState (hP : Sequential P) :
  Respects (Program.getState : Program sig S S) P
  := by
  intro s u r s' h
  obtain ⟨-, rfl, rfl⟩ := runs_getState h
  apply hP.refl

theorem Respects.modifyState {f : S → S} (h : ∀ s, P s [] (f s)) :
  Respects (Program.modifyState f : Program sig S Unit) P
  := by
  intro s u r s' hrun
  obtain ⟨-, rfl, rfl⟩ := runs_modifyState hrun
  apply h s

theorem Respects.ask {c : sig.Call} (h : ∀ s r, P s [⟨c, r⟩] s) :
  Respects (Program.ask sig c : Program sig S (sig.Answer c)) P
  := by
  intro s u r s' hrun
  obtain ⟨rfl, rfl⟩ := runs_ask hrun
  apply h

theorem Respects.callbacks (hP : Sequential P) {onCallback : sig.Callback → Program sig S Unit}
    (hcallback : ∀ k, Respects (onCallback k) P) (ks : List sig.Callback) :
  Respects (Program.callbacks onCallback ks) P
  := by
  induction ks with
  | nil => apply Respects.done hP
  | cons k ks ih => apply Respects.andThen hP (hcallback k) (fun _ => ih)

theorem Respects.call (hP : Sequential P) {onCallback : sig.Callback → Program sig S Unit}
    (hcallback : ∀ k, Respects (onCallback k) P) {c : sig.Call} (h : ∀ s r, P s [⟨c, r⟩] s) :
  Respects (Program.call sig onCallback c) P
  := by
  intro s u r s' hrun
  obtain ⟨ks, r', v, rfl, hks⟩ := runs_call hrun
  apply hP.trans ((Respects.callbacks hP hcallback ks).of_runs hks) (h s' r)

theorem Respects.loop (hP : Sequential P) {body : L → Program sig S (L ⊕ α)}
    (h : ∀ l, Respects (body l) P) (l : L) :
  Respects (Program.loop body l) P
  := by
  intro s u r s' hrun
  apply runs_loop (P := fun _ s u _ s' => P s u s') _ _ _ hrun
  · intro l s u a s' hbody
    apply (h l).of_runs hbody
  · intro l s u e s' hbody
    apply (h l).of_runs hbody
  · intro l l' s u s₁ v r s' hbody hrest
    apply hP.trans ((h l).of_runs hbody) hrest

end Respects

end Program
