import RobotestLab.Library.Budget

/-!
# What programs establish

The weakest precondition of a program under partial correctness. In an environment, from a state and
after some interactions, a program `Establishes` a condition when the condition holds of the result,
of the state and of the interactions of every run that ends. The constructions without loops have
equations, which execute a program symbolically; a loop has the rule of its invariant
(`Program.Establishes.loop`). What the callees did in a run is read off from the environment
(`Program.deliveries`).
-/

namespace Program

variable {sig : Signature} {S L α β : Type} {env : sig.Environment}

/-- Whenever the program ends, the condition holds. -/
def Establishes (env : sig.Environment) (m : Program sig S α) (s : S)
    (history : List sig.Interaction)
    (Q : Except sig.Raised α → S → List sig.Interaction → Prop) : Prop :=
  ∀ fuel r s' u, m env fuel s history = some (r, s', u) → Q r s' (history ++ u)

variable {s : S} {history : List sig.Interaction}

theorem Establishes.mono {m : Program sig S α}
    {Q Q' : Except sig.Raised α → S → List sig.Interaction → Prop}
    (h : Establishes env m s history Q)
    (hQ : ∀ r s' history', Q r s' history' → Q' r s' history') :
  Establishes env m s history Q'
  := fun fuel r s' u hrun => hQ r s' _ (h fuel r s' u hrun)

/-! ### Constructions -/

section Constructions

theorem establishes_done {r : Except sig.Raised α}
    {Q : Except sig.Raised α → S → List sig.Interaction → Prop} :
  Establishes env (done r) s history Q ↔ Q r s history
  := by
  constructor
  · intro h
    have hend := h 0 r s [] rfl
    rw [List.append_nil] at hend
    apply hend
  · intro h fuel r' s' u hrun
    cases hrun
    rw [List.append_nil]
    apply h

@[simp]
theorem establishes_pure {a : α} {Q : Except sig.Raised α → S → List sig.Interaction → Prop} :
  Establishes env (pure a) s history Q ↔ Q (.ok a) s history
  := establishes_done

@[simp]
theorem establishes_raise {e : sig.Raised}
    {Q : Except sig.Raised α → S → List sig.Interaction → Prop} :
  Establishes env (raise e) s history Q ↔ Q (.error e) s history
  := establishes_done

@[simp]
theorem establishes_getState {Q : Except sig.Raised S → S → List sig.Interaction → Prop} :
  Establishes env getState s history Q ↔ Q (.ok s) s history
  := by
  constructor
  · intro h
    have hend := h 0 (.ok s) s [] rfl
    rw [List.append_nil] at hend
    apply hend
  · intro h fuel r s' u hrun
    cases hrun
    rw [List.append_nil]
    apply h

@[simp]
theorem establishes_modifyState {f : S → S}
    {Q : Except sig.Raised Unit → S → List sig.Interaction → Prop} :
  Establishes env (modifyState f) s history Q ↔ Q (.ok ()) (f s) history
  := by
  constructor
  · intro h
    have hend := h 0 (.ok ()) (f s) [] rfl
    rw [List.append_nil] at hend
    apply hend
  · intro h fuel r' s' u hrun
    cases hrun
    rw [List.append_nil]
    apply h

/-- A call that makes no callbacks. -/
theorem establishes_ask {c : sig.Call}
    {Q : Except sig.Raised (sig.Answer c) → S → List sig.Interaction → Prop} :
  Establishes env (ask sig c) s history Q ↔
    Q (env history c).result s (history ++ [⟨c, (env history c).result⟩])
  := by
  constructor
  · intro h
    apply h 0 _ _ _ rfl
  · intro h fuel r s' u hrun
    cases hrun
    apply h

variable {Q : Except sig.Raised β → S → List sig.Interaction → Prop} {m : Program sig S α}

theorem establishes_andThen {f : Except sig.Raised α → Program sig S β}
    (h : Establishes env m s history fun r s' history' => Establishes env (f r) s' history' Q) :
  Establishes env (andThen m f) s history Q
  := by
  intro fuel r s' w hrun
  obtain ⟨r₁, s₁, u, v, hm, rfl, hf⟩ := eq_andThen hrun
  rw [← List.append_assoc]
  apply h fuel r₁ s₁ u hm fuel r s' v hf

theorem establishes_bind {f : α → Program sig S β}
    (h : Establishes env m s history fun r s' history' => match r with
      | .ok a => Establishes env (f a) s' history' Q | .error e => Q (.error e) s' history') :
  Establishes env (m >>= f) s history Q
  := by
  apply establishes_andThen
  refine Establishes.mono h ?_
  intro r s' history' hr
  cases r with
  | ok a => apply hr
  | error e => apply establishes_done.mpr hr

theorem establishes_attempt {handler : sig.Raised → Program sig S α}
    {Q : Except sig.Raised α → S → List sig.Interaction → Prop}
    (h : Establishes env m s history fun r s' history' => match r with
      | .ok a => Q (.ok a) s' history' | .error e => Establishes env (handler e) s' history' Q) :
  Establishes env (attempt m handler) s history Q
  := by
  apply establishes_andThen
  refine Establishes.mono h ?_
  intro r s' history' hr
  cases r with
  | ok a => apply establishes_done.mpr hr
  | error e => apply hr

/-- The state is read and the program goes on with it. -/
@[simp]
theorem establishes_getState_bind {f : S → Program sig S β} :
  Establishes env (getState >>= f) s history Q ↔ Establishes env (f s) s history Q
  := by
  constructor
  · intro h fuel r s' u hrun
    apply h fuel r s' u
    simp only [Bind.bind, andThen, getState, List.append_nil]
    rw [hrun]
    rfl
  · intro h
    apply establishes_bind
    rw [establishes_getState]
    apply h

@[simp]
theorem establishes_modifyState_bind {g : S → S} {f : Unit → Program sig S β} :
  Establishes env (modifyState g >>= f) s history Q ↔ Establishes env (f ()) (g s) history Q
  := by
  constructor
  · intro h fuel r s' u hrun
    apply h fuel r s' u
    simp only [Bind.bind, andThen, modifyState, List.append_nil]
    rw [hrun]
    rfl
  · intro h
    apply establishes_bind
    rw [establishes_modifyState]
    apply h

/-- A call whose callbacks only change the state. -/
theorem establishes_call {g : sig.Callback → S → S} {c : sig.Call}
    {Q : Except sig.Raised (sig.Answer c) → S → List sig.Interaction → Prop} :
  Establishes env (call sig (fun k => modifyState (g k)) c) s history Q ↔
    Q (env history c).result ((env history c).callbacks.foldl (fun s k => g k s) s)
      (history ++ [⟨c, (env history c).result⟩])
  := by
  have hcallbacks : ∀ ks fuel (s : S), ∃ r,
      @callbacks sig S (fun k => modifyState (g k)) ks env fuel s history =
        some (r, ks.foldl (fun s k => g k s) s, []) := by
    intro ks fuel
    induction ks with
    | nil => exact fun s => ⟨_, rfl⟩
    | cons k ks ih =>
        intro s
        obtain ⟨r, hr⟩ := ih (g k s)
        refine ⟨r, ?_⟩
        simp only [callbacks, andThen, modifyState, List.append_nil, List.foldl_cons]
        rw [hr]
        rfl
  constructor
  · intro h
    obtain ⟨r, hr⟩ := hcallbacks (env history c).callbacks 0 s
    apply h 0 _ _ [⟨c, (env history c).result⟩]
    simp only [call, hr, List.nil_append]
  · intro h fuel r s' u hrun
    obtain ⟨r', hr⟩ := hcallbacks (env history c).callbacks fuel s
    simp only [call, hr, List.nil_append] at hrun
    cases hrun
    apply h

end Constructions

/-! ### Loops -/

/-- What holds before every round of a loop holds before the round that ends it. -/
theorem Establishes.loop {body : L → Program sig S (L ⊕ α)}
    {I : L → S → List sig.Interaction → Prop}
    {Q : Except sig.Raised α → S → List sig.Interaction → Prop}
    (hround : ∀ l s history, I l s history →
      Establishes env (body l) s history fun r s' history' =>
        match r with
        | .ok (.inl l') => I l' s' history'
        | .ok (.inr a) => Q (.ok a) s' history'
        | .error e => Q (.error e) s' history')
    {l : L} (hI : I l s history) :
  Establishes env (Program.loop body l) s history Q
  := by
  intro fuel
  have hiterate : ∀ n l s history, I l s history → ∀ r s' u,
      iterate body n l env fuel s history = some (r, s', u) → Q r s' (history ++ u) := by
    intro n
    induction n with
    | zero =>
        rintro l s history - r s' u hrun
        cases hrun
    | succ n ih =>
        intro l s history hl r s' w hrun
        obtain ⟨r₁, s₁, u, v, hbody, rfl, hrest⟩ := eq_andThen hrun
        have hend := hround l s history hl fuel r₁ s₁ u hbody
        rw [← List.append_assoc]
        match r₁, hend, hrest with
        | .ok (.inl l'), hl', hrest => exact ih l' s₁ _ hl' r s' v hrest
        | .ok (.inr a), hend, hrest =>
            cases hrest
            rw [List.append_nil]
            apply hend
        | .error e, hend, hrest =>
            cases hrest
            rw [List.append_nil]
            apply hend
  exact fun r s' u hrun => hiterate fuel l s history hI r s' u hrun

/-! ### Values and exceptions -/

/-- Whenever the program ends with a value, the first condition holds of it, and whenever it raises,
the second one holds of the state. -/
def Obtains (env : sig.Environment) (m : Program sig S α) (s : S) (history : List sig.Interaction)
    (Q : α → S → List sig.Interaction → Prop) (E : S → Prop) : Prop :=
  Establishes env m s history fun r s' history' =>
    match r with
    | .ok a => Q a s' history'
    | .error _ => E s'

section Obtains

variable {E : S → Prop} {m : Program sig S α}

theorem Obtains.mono {Q Q' : α → S → List sig.Interaction → Prop} (h : Obtains env m s history Q E)
    (hQ : ∀ a s' history', Q a s' history' → Q' a s' history') :
  Obtains env m s history Q' E
  := by
  refine Establishes.mono h ?_
  intro r s' history' hr
  cases r with
  | ok a => apply hQ a s' history' hr
  | error e => apply hr

@[simp]
theorem obtains_pure {a : α} {Q : α → S → List sig.Interaction → Prop} :
  Obtains env (pure a) s history Q E ↔ Q a s history
  := establishes_pure

@[simp]
theorem obtains_raise {e : sig.Raised} {Q : α → S → List sig.Interaction → Prop} :
  Obtains env (raise e) s history Q E ↔ E s
  := establishes_raise

@[simp]
theorem obtains_modifyState {f : S → S} {Q : Unit → S → List sig.Interaction → Prop} :
  Obtains env (modifyState f) s history Q E ↔ Q () (f s) history
  := establishes_modifyState

variable {Q : β → S → List sig.Interaction → Prop}

@[simp]
theorem obtains_getState_bind {f : S → Program sig S β} :
  Obtains env (getState >>= f) s history Q E ↔ Obtains env (f s) s history Q E
  := establishes_getState_bind

@[simp]
theorem obtains_modifyState_bind {g : S → S} {f : Unit → Program sig S β} :
  Obtains env (modifyState g >>= f) s history Q E ↔ Obtains env (f ()) (g s) history Q E
  := establishes_modifyState_bind

theorem Obtains.bind {f : α → Program sig S β}
    (h : Obtains env m s history (fun a s' history' => Obtains env (f a) s' history' Q E) E) :
  Obtains env (m >>= f) s history Q E
  := establishes_bind h

/-- A call that makes no callbacks and may raise. -/
theorem Obtains.ask {c : sig.Call} {Q : sig.Answer c → S → List sig.Interaction → Prop}
    (hQ : ∀ a, (env history c).result = .ok a → Q a s (history ++ [⟨c, .ok a⟩])) (hE : E s) :
  Obtains env (ask sig c) s history Q E
  := by
  unfold Obtains
  rw [establishes_ask]
  cases h : (env history c).result with
  | ok a => apply hQ a h
  | error e => apply hE

/-- A call whose callbacks only change the state. -/
theorem Obtains.call {g : sig.Callback → S → S} {c : sig.Call}
    {Q : sig.Answer c → S → List sig.Interaction → Prop}
    (hQ : ∀ a, (env history c).result = .ok a →
      Q a ((env history c).callbacks.foldl (fun s k => g k s) s) (history ++ [⟨c, .ok a⟩]))
    (hE : E ((env history c).callbacks.foldl (fun s k => g k s) s)) :
  Obtains env (Program.call sig (fun k => modifyState (g k)) c) s history Q E
  := by
  unfold Obtains
  rw [establishes_call]
  cases h : (env history c).result with
  | ok a => apply hQ a h
  | error e => apply hE

theorem Obtains.attempt {handler : sig.Raised → Program sig S α}
    {Q : α → S → List sig.Interaction → Prop} {D : S → Prop} (h : Obtains env m s history Q D)
    (hhandler : ∀ e s' history', D s' → Obtains env (handler e) s' history' Q E) :
  Obtains env (Program.attempt m handler) s history Q E
  := by
  apply establishes_attempt
  refine Establishes.mono h ?_
  intro r s' history' hr
  cases r with
  | ok a => apply hr
  | error e => apply hhandler e s' history' hr

/-- The invariant of a loop. -/
theorem Obtains.loop {body : L → Program sig S (L ⊕ α)} {I : L → S → List sig.Interaction → Prop}
    {Q : α → S → List sig.Interaction → Prop}
    (hround : ∀ l s history, I l s history →
      Obtains env (body l) s history (fun
        | .inl l', s', history' => I l' s' history'
        | .inr a, s', history' => Q a s' history') E)
    {l : L} (hI : I l s history) :
  Obtains env (Program.loop body l) s history Q E
  := by
  refine Establishes.loop ?_ hI
  intro l s history hl
  refine Establishes.mono (hround l s history hl) ?_
  intro r s' history' hr
  match r, hr with
  | .ok (.inl l'), hr => exact hr
  | .ok (.inr a), hr => exact hr
  | .error e, hr => exact hr

end Obtains

/-! ### Deliveries -/

/-- The interactions of a run with the callbacks that their callees made, after some earlier
interactions. -/
def deliveriesAfter (env : sig.Environment) :
    List sig.Interaction → List sig.Interaction → List (List sig.Callback × sig.Interaction)
  | _, [] => []
  | past, i :: rest => ((env past i.1).callbacks, i) :: deliveriesAfter env (past ++ [i]) rest

/-- The interactions with the callbacks that their callees made. -/
def deliveries (env : sig.Environment) (history : List sig.Interaction) :
    List (List sig.Callback × sig.Interaction) :=
  deliveriesAfter env [] history

@[simp]
theorem deliveries_nil : deliveries env [] = [] := rfl

theorem deliveriesAfter_append (past u v : List sig.Interaction) :
  deliveriesAfter env past (u ++ v) =
    deliveriesAfter env past u ++ deliveriesAfter env (past ++ u) v
  := by
  induction u generalizing past with
  | nil => simp [deliveriesAfter]
  | cons i u ih => simp [deliveriesAfter, ih]

/-- The callees of an interaction act after all the interactions before it. -/
@[simp]
theorem deliveries_concat (history : List sig.Interaction) (i : sig.Interaction) :
  deliveries env (history ++ [i]) = deliveries env history ++ [((env history i.1).callbacks, i)]
  := by
  simp [deliveries, deliveriesAfter_append, deliveriesAfter]

end Program
