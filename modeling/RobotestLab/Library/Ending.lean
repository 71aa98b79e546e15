import Mathlib.Order.WellFounded
import RobotestLab.Library.Program

/-!
# Programs that end

A program runs on a budget: no loop may go round more often than the fuel says. In an environment it
`Attains` a condition from a state when, with every sufficient amount of fuel, it ends in the same
way, and the condition holds of the result, of the state and of the interactions at the end. The
rules take the condition through the constructions of programs. A loop attains a condition when
every round either leaves the loop with it, or goes down in a well-founded order
(`Program.Attains.loop`). A program `Ends` when it attains something from every state.
-/

namespace Program

variable {sig : Signature} {S L α β : Type} {env : sig.Environment}

/-- With enough fuel the program ends, always in the same way, and the condition holds then. -/
def Attains (env : sig.Environment) (m : Program sig S α) (s : S)
    (history : List sig.Interaction)
    (Q : Except sig.Raised α → S → List sig.Interaction → Prop) : Prop :=
  ∃ n r s' u, (∀ fuel, n ≤ fuel → m env fuel s history = some (r, s', u)) ∧ Q r s' (history ++ u)

/-- From every state, the program ends. -/
def Ends (env : sig.Environment) (m : Program sig S α) : Prop :=
  ∀ s history, Attains env m s history fun _ _ history' => ∃ u, history' = history ++ u

variable {s : S} {history : List sig.Interaction}
variable {Q Q' : Except sig.Raised α → S → List sig.Interaction → Prop}

/-! ### Conditions -/

variable {m : Program sig S α}

theorem Attains.mono (h : Attains env m s history Q)
    (hQ : ∀ r s' history', Q r s' history' → Q' r s' history') :
  Attains env m s history Q'
  := by
  obtain ⟨n, r, s', u, hrun, hend⟩ := h
  exact ⟨n, r, s', u, hrun, hQ _ _ _ hend⟩

theorem Attains.done {r : Except sig.Raised α} (h : Q r s history) :
  Attains env (Program.done r) s history Q
  := by
  refine ⟨0, r, s, [], fun _ _ => rfl, ?_⟩
  rw [List.append_nil]
  apply h

theorem Attains.pure {a : α} (h : Q (.ok a) s history) :
  Attains env (Pure.pure a) s history Q
  := Attains.done h

theorem Attains.raise {e : sig.Raised} (h : Q (.error e) s history) :
  Attains env (Program.raise e) s history Q
  := Attains.done h

theorem Attains.getState {Q : Except sig.Raised S → S → List sig.Interaction → Prop}
    (h : Q (.ok s) s history) :
  Attains env Program.getState s history Q
  := by
  refine ⟨0, .ok s, s, [], fun _ _ => rfl, ?_⟩
  rw [List.append_nil]
  apply h

theorem Attains.modifyState {Q : Except sig.Raised Unit → S → List sig.Interaction → Prop}
    {f : S → S} (h : Q (.ok ()) (f s) history) :
  Attains env (Program.modifyState f) s history Q
  := by
  refine ⟨0, .ok (), f s, [], fun _ _ => rfl, ?_⟩
  rw [List.append_nil]
  apply h

theorem Attains.ask {c : sig.Call}
    {Q : Except sig.Raised (sig.Answer c) → S → List sig.Interaction → Prop}
    (h : Q (env history c).result s (history ++ [⟨c, (env history c).result⟩])) :
  Attains env (Program.ask sig c) s history Q
  := ⟨0, _, s, _, fun _ _ => rfl, h⟩

theorem Attains.andThen {f : Except sig.Raised α → Program sig S β}
    {Q : Except sig.Raised β → S → List sig.Interaction → Prop}
    (h : Attains env m s history fun r s' history' => Attains env (f r) s' history' Q) :
  Attains env (Program.andThen m f) s history Q
  := by
  obtain ⟨n, r, s', u, hm, n', r', s'', u', hf, hend⟩ := h
  refine ⟨max n n', r', s'', u ++ u', ?_, ?_⟩
  · intro fuel hfuel
    rw [Program.andThen, hm fuel (le_trans (le_max_left n n') hfuel)]
    simp only
    rw [hf fuel (le_trans (le_max_right n n') hfuel)]
  · rw [← List.append_assoc]
    apply hend

theorem Attains.bind {f : α → Program sig S β}
    {Q : Except sig.Raised β → S → List sig.Interaction → Prop}
    (h : Attains env m s history fun r s' history' => match r with
      | .ok a => Attains env (f a) s' history' Q | .error e => Q (.error e) s' history') :
  Attains env (m >>= f) s history Q
  := by
  apply Attains.andThen
  apply h.mono
  intro r s' history' hr
  cases r with
  | ok a => apply hr
  | error e => apply Attains.done hr

/-! ### Loops -/

/-- A loop goes round as long as its rounds go down in a well-founded order. -/
theorem Attains.loop {M : Type*} [LT M] [WellFoundedLT M] {body : L → Program sig S (L ⊕ α)}
    {I : M → L → S → List sig.Interaction → Prop}
    (hround : ∀ μ l s history, I μ l s history →
      Attains env (body l) s history fun r s' history' =>
        match r with
        | .ok (.inl l') => ∃ μ' < μ, I μ' l' s' history'
        | .ok (.inr a) => Q (.ok a) s' history'
        | .error e => Q (.error e) s' history')
    {μ : M} {l : L} (hI : I μ l s history) :
  Attains env (Program.loop body l) s history Q
  := by
  have hiterate : ∃ n r s' u, (∀ rounds fuel, n ≤ rounds → n ≤ fuel →
      Program.iterate body rounds l env fuel s history = some (r, s', u)) ∧
        Q r s' (history ++ u) := by
    induction μ using WellFoundedLT.induction generalizing l s history with
    | ind μ ih =>
        obtain ⟨n, r, s', u, hbody, hend⟩ := hround μ l s history hI
        cases r with
        | ok next =>
            cases next with
            | inl l' =>
                obtain ⟨μ', hμ, hI'⟩ := hend
                obtain ⟨n', r', s'', u', hrest, hend'⟩ := ih μ' hμ hI'
                refine ⟨max n n' + 1, r', s'', u ++ u', ?_, ?_⟩
                · intro rounds fuel hrounds hfuel
                  obtain ⟨rounds, rfl⟩ := Nat.exists_eq_add_one.mpr (show 0 < rounds by omega)
                  rw [Program.iterate, Program.andThen, hbody fuel (by omega)]
                  simp only
                  rw [hrest rounds fuel (by omega) (by omega)]
                · rw [← List.append_assoc]
                  apply hend'
            | inr a =>
                refine ⟨n + 1, .ok a, s', u, ?_, hend⟩
                intro rounds fuel hrounds hfuel
                obtain ⟨rounds, rfl⟩ := Nat.exists_eq_add_one.mpr (show 0 < rounds by omega)
                rw [Program.iterate, Program.andThen, hbody fuel (by omega)]
                simp [Program.done]
        | error e =>
            refine ⟨n + 1, .error e, s', u, ?_, hend⟩
            intro rounds fuel hrounds hfuel
            obtain ⟨rounds, rfl⟩ := Nat.exists_eq_add_one.mpr (show 0 < rounds by omega)
            rw [Program.iterate, Program.andThen, hbody fuel (by omega)]
            simp [Program.done]
  obtain ⟨n, r, s', u, hrun, hend⟩ := hiterate
  exact ⟨n, r, s', u, fun fuel hfuel => hrun fuel fuel hfuel hfuel, hend⟩

/-! ### Programs that end from every state -/

theorem Ends.done (r : Except sig.Raised α) :
  Ends env (Program.done r : Program sig S α)
  := fun _ history => Attains.done ⟨[], (List.append_nil history).symm⟩

theorem Ends.pure (a : α) :
  Ends env (Pure.pure a : Program sig S α)
  := Ends.done (.ok a)

theorem Ends.raise (e : sig.Raised) :
  Ends env (Program.raise e : Program sig S α)
  := Ends.done (.error e)

theorem Ends.getState :
  Ends env (Program.getState : Program sig S S)
  := fun _ history => Attains.getState ⟨[], (List.append_nil history).symm⟩

theorem Ends.modifyState (f : S → S) :
  Ends env (Program.modifyState f : Program sig S Unit)
  := fun _ history => Attains.modifyState ⟨[], (List.append_nil history).symm⟩

theorem Ends.ask (c : sig.Call) :
  Ends env (Program.ask sig c : Program sig S (sig.Answer c))
  := fun _ _ => Attains.ask ⟨_, rfl⟩

/-- What follows a program that ends may use that the interactions have only become more. -/
theorem Ends.attains (h : Ends env m) (s : S)
    (history : List sig.Interaction) (hQ : ∀ r s' u, Q r s' (history ++ u)) :
  Attains env m s history Q
  := by
  apply (h s history).mono
  rintro r s' _ ⟨u, rfl⟩
  apply hQ

theorem Ends.andThen {f : Except sig.Raised α → Program sig S β}
    (hm : Ends env m) (hf : ∀ r, Ends env (f r)) :
  Ends env (Program.andThen m f)
  := by
  intro s history
  apply Attains.andThen
  apply hm.attains
  intro r s' u
  apply (hf r).attains
  intro r' s'' u'
  exact ⟨u ++ u', List.append_assoc history u u'⟩

theorem Ends.bind {f : α → Program sig S β} (hm : Ends env m) (hf : ∀ a, Ends env (f a)) :
  Ends env (m >>= f)
  := by
  apply Ends.andThen hm
  intro r
  cases r with
  | ok a => apply hf a
  | error e => apply Ends.done

theorem Ends.attempt {handler : sig.Raised → Program sig S α}
    (hm : Ends env m) (hhandler : ∀ e, Ends env (handler e)) :
  Ends env (Program.attempt m handler)
  := by
  apply Ends.andThen hm
  intro r
  cases r with
  | ok a => apply Ends.done
  | error e => apply hhandler e

theorem Ends.callbacks {onCallback : sig.Callback → Program sig S Unit}
    (h : ∀ k, Ends env (onCallback k)) (ks : List sig.Callback) :
  Ends env (Program.callbacks onCallback ks)
  := by
  induction ks with
  | nil => apply Ends.done
  | cons k ks ih => apply Ends.andThen (h k) (fun _ => ih)

/-- A call ends when its callbacks do, and it is the last interaction then. -/
theorem Attains.call {onCallback : sig.Callback → Program sig S Unit}
    (h : ∀ k, Ends env (onCallback k)) {c : sig.Call}
    {Q : Except sig.Raised (sig.Answer c) → S → List sig.Interaction → Prop}
    (hQ : ∀ s' u, Q (env history c).result s'
      (history ++ (u ++ [⟨c, (env history c).result⟩]))) :
  Attains env (Program.call sig onCallback c) s history Q
  := by
  obtain ⟨n, r, s', u, hrun, -⟩ := Ends.callbacks h (env history c).callbacks s history
  refine ⟨n, _, s', _, ?_, hQ s' u⟩
  intro fuel hfuel
  simp only [Program.call]
  rw [hrun fuel hfuel]

theorem Ends.call {onCallback : sig.Callback → Program sig S Unit}
    (h : ∀ k, Ends env (onCallback k)) (c : sig.Call) :
  Ends env (Program.call sig onCallback c)
  := fun _ _ => Attains.call h fun _ _ => ⟨_, rfl⟩

end Program
