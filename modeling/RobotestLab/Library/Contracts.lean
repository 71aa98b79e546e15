import RobotestLab.Library.Establishing

/-!
# Contracts of programs

Preconditions and postconditions of programs that call an environment. From every state with the
precondition, a run that ends with a value leaves the postcondition, and a run that raises leaves
what is said about its exceptions (`Program.Meets`). There is one rule for each construction of
programs.
-/

namespace Program

variable {sig : Signature} {S L α β : Type} {env : sig.Environment}

/-- From the precondition, the program ends with the postcondition or raises with the last
condition. -/
def Meets (env : sig.Environment) (P : S → Prop) (m : Program sig S α) (Q : α → S → Prop)
    (E : sig.Raised → S → Prop) : Prop :=
  ∀ s history, P s → Establishes env m s history fun r s' _ =>
    match r with
    | .ok a => Q a s'
    | .error e => E e s'

variable {P P' : S → Prop} {Q Q' : α → S → Prop} {E E' : sig.Raised → S → Prop}

/-! ### Consequence -/

variable {m : Program sig S α}

theorem Meets.mono (h : Meets env P m Q E) (hP : ∀ s, P' s → P s)
    (hQ : ∀ a s, Q a s → Q' a s) (hE : ∀ e s, E e s → E' e s) :
  Meets env P' m Q' E'
  := by
  intro s history hs
  refine (h s history (hP s hs)).mono ?_
  intro r s' history' hr
  cases r with
  | ok a => apply hQ a s' hr
  | error e => apply hE e s' hr

theorem Meets.weaken (hP : ∀ s, P' s → P s) (h : Meets env P m Q E) :
  Meets env P' m Q E
  := h.mono hP (fun _ _ hQ => hQ) (fun _ _ hE => hE)

/-! ### Constructions -/

theorem Meets.pure {a : α} (h : ∀ s, P s → Q a s) : Meets env P (Pure.pure a) Q E
  := by
  intro s history hs
  rw [establishes_pure]
  apply h s hs

theorem Meets.raise {e : sig.Raised} (h : ∀ s, P s → E e s) :
  Meets env P (Program.raise e : Program sig S α) Q E
  := by
  intro s history hs
  rw [establishes_raise]
  apply h s hs

theorem Meets.bind {f : α → Program sig S β} {Q' : β → S → Prop}
    (hm : Meets env P m Q E) (hf : ∀ a, Meets env (Q a) (f a) Q' E) :
  Meets env P (m >>= f) Q' E
  := by
  intro s history hs
  apply establishes_bind
  refine (hm s history hs).mono ?_
  intro r s' history' hr
  cases r with
  | ok a => apply hf a s' history' hr
  | error e => exact hr

/-- The state is read. -/
theorem Meets.getState_bind {f : S → Program sig S β} {Q' : β → S → Prop}
    (h : ∀ s, P s → Meets env (· = s) (f s) Q' E) :
  Meets env P (Program.getState >>= f) Q' E
  := by
  intro s history hs
  rw [establishes_getState_bind]
  apply h s hs s history rfl

theorem Meets.modifyState {f : S → S} {Q : Unit → S → Prop} (h : ∀ s, P s → Q () (f s)) :
  Meets env P (Program.modifyState f) Q E
  := by
  intro s history hs
  rw [establishes_modifyState]
  apply h s hs

/-- A call that makes no callbacks. -/
theorem Meets.ask {c : sig.Call} {Q : sig.Answer c → S → Prop} (hQ : ∀ a s, P s → Q a s)
    (hE : ∀ history e s, (env history c).result = .error e → P s → E e s) :
  Meets env P (Program.ask sig c) Q E
  := by
  intro s history hs
  rw [establishes_ask]
  cases h : (env history c).result with
  | ok a => apply hQ a s hs
  | error e => apply hE history e s h hs

/-- A call whose callbacks only change the state. -/
theorem Meets.call {g : sig.Callback → S → S} {c : sig.Call} {Q : sig.Answer c → S → Prop}
    (hg : ∀ k s, P s → P (g k s)) (hQ : ∀ a s, P s → Q a s)
    (hE : ∀ history e s, (env history c).result = .error e → P s → E e s) :
  Meets env P (Program.call sig (fun k => Program.modifyState (g k)) c) Q E
  := by
  intro s history hs
  rw [establishes_call]
  have hcallbacks : ∀ (ks : List sig.Callback) (s : S), P s →
      P (ks.foldl (fun s k => g k s) s) := by
    intro ks
    induction ks with
    | nil => exact fun s hs => hs
    | cons k ks ih => exact fun s hs => ih (g k s) (hg k s hs)
  have hafter := hcallbacks (env history c).callbacks s hs
  cases h : (env history c).result with
  | ok a => apply hQ a _ hafter
  | error e => apply hE history e _ h hafter

theorem Meets.attempt {handler : sig.Raised → Program sig S α}
    {D : sig.Raised → S → Prop} (hm : Meets env P m Q D)
    (hhandler : ∀ e, Meets env (D e) (handler e) Q E) :
  Meets env P (Program.attempt m handler) Q E
  := by
  intro s history hs
  apply establishes_attempt
  refine (hm s history hs).mono ?_
  intro r s' history' hr
  cases r with
  | ok a => exact hr
  | error e => apply hhandler e s' history' hr

/-! ### Loops -/

/-- The invariant of a loop. -/
theorem Meets.loop {body : L → Program sig S (L ⊕ α)} {I : L → S → Prop}
    (hbody : ∀ l, Meets env (I l) (body l) (Sum.elim I Q) E) (l : L) :
  Meets env (I l) (Program.loop body l) Q E
  := by
  intro s history hs
  refine @Establishes.loop _ _ _ _ _ s history body (fun l s _ => I l s) _ ?_ l hs
  intro l s history hl
  refine (hbody l s history hl).mono ?_
  intro r s' history' hr
  match r, hr with
  | .ok (.inl l'), hr => exact hr
  | .ok (.inr a), hr => exact hr
  | .error e, hr => exact hr

/-- Run the body for every natural number below a bound, in order. -/
def forRange (body : Nat → Program sig S Unit) : Nat → Program sig S Unit
  | 0 => Pure.pure ()
  | n + 1 => do
      forRange body n
      body n

theorem Meets.forRange {body : Nat → Program sig S Unit} {I : Nat → S → Prop}
    (hbody : ∀ k, Meets env (I k) (body k) (fun _ => I (k + 1)) E) (n : Nat) :
  Meets env (I 0) (Program.forRange body n) (fun _ => I n) E
  := by
  induction n with
  | zero => exact Meets.pure fun _ hs => hs
  | succ n ih => exact ih.bind fun _ => hbody n

/-- Run the body for every item of a list, in order. -/
def forEach {T : Type} (body : T → Program sig S Unit) : List T → Program sig S Unit
  | [] => Pure.pure ()
  | item :: items => do
      body item
      forEach body items

theorem Meets.forEach {T : Type} {body : T → Program sig S Unit}
    (hbody : ∀ item, Meets env P (body item) (fun _ => P) E) (items : List T) :
  Meets env P (Program.forEach body items) (fun _ => P) E
  := by
  induction items with
  | nil => exact Meets.pure fun _ hs => hs
  | cons item items ih => exact (hbody item).bind fun _ => ih

end Program
