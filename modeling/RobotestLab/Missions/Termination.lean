import Mathlib.Algebra.Order.Archimedean.Basic
import Mathlib.Data.Rat.Floor
import Mathlib.Order.WithBot
import RobotestLab.Library.Ending
import RobotestLab.Missions.Success

/-!
# Missions end

The executor waits for nothing without a bound. When the steady clock advances by a fixed amount
with every spin, each loop of the executor goes round finitely often: between two of its rounds the
steady clock moves towards the deadline of the loop, which for the loop that watches the goal is the
wall escape timeout. The simulation clock may stop or jump, and the drivers may answer and raise
anything (`run_ends`).
-/

namespace RobotestLab

namespace Missions

open Program

variable {F : Type}

/-! ### Parts without loops -/

section Parts

variable {env : (missionSignature F).Environment}

theorem ends_onlyIf {condition : Bool} {m : Mission F Unit} (hm : Ends env m) :
  Ends env (onlyIf condition m)
  := by
  cases condition with
  | true => apply hm
  | false => apply Ends.pure

theorem ends_ask (c : Call F) :
  Ends env (ask c)
  := by
  apply Ends.ask

theorem ends_raise {α : Type} (e : Raised) :
  Ends env (raise e : Mission F α)
  := by
  apply Ends.raise

theorem ends_modifyRecord (f : ExecutionRecord F → ExecutionRecord F) :
  Ends env (modifyRecord f)
  := Ends.modifyState _

theorem ends_getRecord :
  Ends env (getRecord : Mission F (ExecutionRecord F))
  := Ends.bind Ends.getState fun _ => Ends.pure _

theorem ends_exceptException {α : Type} {m : Mission F α} {handler : String → Mission F α}
    (hm : Ends env m) (hhandler : ∀ text, Ends env (handler text)) :
  Ends env (exceptException m handler)
  := by
  apply Ends.attempt hm
  intro e
  cases e with
  | baseException text => apply ends_raise
  | feedbackTraceOverflowError text => apply hhandler
  | faultProtocolError text => apply hhandler
  | actionProtocolError text => apply hhandler
  | exception text => apply hhandler

/-! ### Spins -/

def Call.isSpinOnce : Call F → Bool
  | .spinOnce _ => true
  | _ => false

/-- The number of spins. -/
def spinCount (u : List (Interaction F)) : Nat := u.countP fun i => i.1.isSpinOnce

theorem spinCount_append (u v : List (Interaction F)) :
  spinCount (u ++ v) = spinCount u + spinCount v
  := List.countP_append

/-- The value asks for another round. -/
def GoesOn {L α : Type} (next : L ⊕ α) : Prop := next.isLeft = true

/-- When the program ends with such a value, there was a spin. -/
def Spins {β : Type} (env : (missionSignature F).Environment) (p : β → Prop) (m : Mission F β) :
    Prop :=
  ∀ s history, Attains env m s history fun r _ history' =>
    ∃ u, history' = history ++ u ∧ ∀ b, r = .ok b → p b → 1 ≤ spinCount u

theorem Spins.after {β γ : Type} {p : γ → Prop} {m : Mission F β} {f : β → Mission F γ}
    (hm : Ends env m) (hf : ∀ b, Spins env p (f b)) :
  Spins env p (m >>= f)
  := by
  intro s history
  apply Attains.bind
  apply hm.attains
  intro r s' u
  cases r with
  | error e => exact ⟨u, rfl, nofun⟩
  | ok b =>
      apply (hf b s' (history ++ u)).mono
      rintro r s'' _ ⟨v, rfl, hspins⟩
      refine ⟨u ++ v, List.append_assoc history u v, ?_⟩
      intro c hr hc
      rw [spinCount_append]
      exact Nat.le_add_left_of_le (hspins c hr hc)

theorem Spins.before {β γ : Type} {p : γ → Prop} {m : Mission F β} {f : β → Mission F γ}
    (hm : Spins env (fun _ => True) m) (hf : ∀ b, Ends env (f b)) :
  Spins env p (m >>= f)
  := by
  intro s history
  apply Attains.bind
  apply (hm s history).mono
  rintro r s' _ ⟨u, rfl, hspins⟩
  cases r with
  | error e => exact ⟨u, rfl, nofun⟩
  | ok b =>
      apply (hf b).attains
      intro r s'' v
      refine ⟨u ++ v, List.append_assoc history u v, ?_⟩
      intro c _ _
      rw [spinCount_append]
      exact Nat.le_add_right_of_le (hspins b rfl trivial)

theorem Spins.pure {β : Type} {p : β → Prop} {b : β} (hb : ¬ p b) :
  Spins env p (Pure.pure b)
  := by
  intro s history
  apply Attains.pure
  refine ⟨[], (List.append_nil history).symm, ?_⟩
  rintro _ ⟨⟩ hp
  exact absurd hp hb

/-! ### Evidence -/

theorem ends_raiseIfFeedbackTraceOverflow :
  Ends env (raiseIfFeedbackTraceOverflow : Mission F Unit)
  := by
  apply Ends.bind ends_getRecord
  intro record
  apply ends_onlyIf (ends_raise _)

theorem ends_finish (exitCode : ExitCode) (reason : String) :
  Ends env (finish exitCode reason : Mission F Unit)
  := ends_modifyRecord _

theorem ends_collectFaultEvent (event : FaultEventDict) :
  Ends env (collectFaultEvent event : Mission F Unit)
  := by
  unfold collectFaultEvent
  split
  · apply ends_raise
  · split
    · apply ends_raise
    · split
      · apply ends_raise
      · apply Ends.bind Ends.getState
        intro executor
        split
        · apply ends_raise
        · apply Ends.bind (Ends.modifyState _)
          intro _
          split
          · apply Ends.bind (ends_modifyRecord _)
            intro _
            apply ends_raise
          · apply ends_modifyRecord

theorem ends_collectEach (events : List FaultEventDict) :
  Ends env (collectEach events : Mission F Unit)
  := by
  induction events with
  | nil => apply Ends.pure
  | cons event events ih => apply Ends.bind (ends_collectFaultEvent event) fun _ => ih

theorem ends_requireFaultContract (config : MissionConfig F) (faultDriver : Bool) :
  Ends env (requireFaultContract config faultDriver)
  := by
  unfold requireFaultContract
  split
  · apply Ends.pure
  · apply ends_raise

variable [PyFloat F]

theorem ends_event (kind : String) (details : List (String × Json)) (simStampNs : Option Int) :
  Ends env (event kind details simStampNs : Mission F Unit)
  := by
  apply Ends.bind ends_getRecord
  intro record
  split
  · apply ends_modifyRecord
  · apply Ends.bind
    · cases simStampNs with
      | none => apply ends_ask
      | some stamp => apply Ends.pure
    · intro stamp
      apply Ends.bind (ends_ask _)
      intro steady
      apply ends_modifyRecord

theorem ends_wallOffset :
  Ends env (wallOffset : Mission F F)
  := by
  apply Ends.bind (ends_ask _)
  intro steady
  apply Ends.bind ends_getRecord
  intro record
  apply Ends.pure

theorem ends_recordFeedback (waypointCount : Nat) (currentWaypoint : Int) :
  Ends env (recordFeedback waypointCount currentWaypoint : Mission F Unit)
  := by
  apply Ends.bind ends_getRecord
  intro record
  split
  · apply Ends.bind (ends_modifyRecord _)
    intro _
    apply ends_onlyIf (ends_event _ _ _)
  · apply Ends.bind (ends_onlyIf (ends_modifyRecord _))
    intro _
    apply Ends.bind (ends_ask _)
    intro stamp
    apply Ends.bind ends_wallOffset
    intro offset
    apply ends_modifyRecord

variable (config : MissionConfig F) (faultDriver : Bool)

theorem ends_perform (c : Call F) :
  Ends env (perform config c)
  := by
  apply Ends.call
  intro currentWaypoint
  apply ends_recordFeedback

theorem ends_deadlineAfter (timeoutS : F) :
  Ends env (deadlineAfter timeoutS)
  := Ends.bind (ends_ask _) fun _ => Ends.pure _

theorem ends_collectFaultEvents :
  Ends env (collectFaultEvents config faultDriver)
  := by
  cases faultDriver with
  | false => apply Ends.pure
  | true =>
      apply Ends.bind (ends_perform config _)
      intro events
      apply Ends.bind (ends_collectEach _)
      intro _
      apply Ends.bind (ends_perform config _)
      intro overflow
      split
      · apply Ends.bind (ends_modifyRecord _)
        intro _
        apply ends_raise
      · apply Ends.pure

theorem ends_findFaultEvent (eventType : Int) (startIndex : Nat) :
  Ends env (findFaultEvent config faultDriver eventType startIndex)
  := by
  apply Ends.bind (ends_collectFaultEvents config faultDriver)
  intro _
  apply Ends.bind ends_getRecord
  intro record
  apply Ends.pure

theorem spins_spinOnce (timeoutS : F) :
  Spins env (fun _ => True) (perform config (.spinOnce timeoutS))
  := by
  intro s history
  refine Attains.call (ends_recordFeedback _) ?_
  intro s' u
  refine ⟨_, rfl, ?_⟩
  intro _ _ _
  rw [spinCount_append]
  apply Nat.le_add_left

theorem spins_spinBounded (deadline : F) :
  Spins env (fun _ => True) (spinBounded config deadline)
  := Spins.after (ends_ask _) fun _ => spins_spinOnce config _

/-- A spin, and then another round. -/
theorem spins_again {L α : Type} (deadline : F) (l : L) :
  Spins env GoesOn (do
    spinBounded config deadline
    pure (.inl l) : Mission F (L ⊕ α))
  := Spins.before (spins_spinBounded config deadline) fun _ => Ends.pure _

end Parts

/-! ### The steady clock -/

/-- The numbers that floats stand for. A comparison compares them, and a difference of finite floats
is not rounded past a finite float. -/
class FloatValue (F : Type) [PyFloat F] where
  value : F → ℚ
  Finite : F → Prop
  value_lt : ∀ {a b : F}, PyFloat.lt a b = true → value a < value b
  le_sub : ∀ {a b w : F}, Finite a → Finite b → Finite w → value w ≤ value a - value b →
    PyFloat.le w (PyFloat.sub a b) = true

open FloatValue (value)

/-- The steady clock shows finite times, and each is later than an earlier one by at least `δ` for
every spin between them. -/
structure SteadyClock [PyFloat F] [FloatValue F] (env : (missionSignature F).Environment) (δ : ℚ) :
    Prop where
  finite : ∀ history t, (env history .steadyTimeS).result = .ok t → FloatValue.Finite t
  advances : ∀ history u t t', (env history .steadyTimeS).result = .ok t →
    (env (history ++ ⟨.steadyTimeS, .ok t⟩ :: u) .steadyTimeS).result = .ok t' →
    value t + δ * spinCount u ≤ value t'

/-- From now on, the steady clock shows at least `x`, and `δ` more with every spin. -/
def NotBefore [PyFloat F] [FloatValue F] (env : (missionSignature F).Environment) (δ : ℚ)
    (history : List (Interaction F)) (x : ℚ) : Prop :=
  ∀ u t, (env (history ++ u) .steadyTimeS).result = .ok t → x + δ * spinCount u ≤ value t

section Ending

variable [PyFloat F] [FloatValue F] {env : (missionSignature F).Environment} {δ : ℚ}
variable {history : List (Interaction F)} {x : ℚ}

theorem notBefore_of_reading (hclock : SteadyClock env δ) {t : F}
    (h : (env history .steadyTimeS).result = .ok t) :
  NotBefore env δ (history ++ [⟨.steadyTimeS, .ok t⟩]) (value t)
  := by
  intro u t' ht'
  rw [List.append_assoc] at ht'
  apply hclock.advances history u t t' h ht'

theorem NotBefore.append (h : NotBefore env δ history x) (u : List (Interaction F)) :
  NotBefore env δ (history ++ u) (x + δ * spinCount u)
  := by
  intro v t ht
  rw [List.append_assoc] at ht
  have hlater := h (u ++ v) t ht
  rw [spinCount_append, Nat.cast_add, mul_add, ← add_assoc] at hlater
  apply hlater

theorem NotBefore.mono {y : ℚ} (h : NotBefore env δ history x) (hy : y ≤ x) :
  NotBefore env δ history y
  := by
  intro u t ht
  apply le_trans _ (h u t ht)
  linarith

theorem NotBefore.le_reading (h : NotBefore env δ history x) {t : F}
    (ht : (env history .steadyTimeS).result = .ok t) :
  x ≤ value t
  := by
  have hnow := h [] t (by rw [List.append_nil, ht])
  simpa [spinCount] using hnow

variable (config : MissionConfig F) (faultDriver : Bool)

/-! ### Rounds of loops -/

/-- When the program asks for another round of its loop, the steady clock was before the limit, and
there was a spin afterwards. -/
def Progresses {L α : Type} (env : (missionSignature F).Environment) (δ limit : ℚ)
    (m : Mission F (L ⊕ α)) : Prop :=
  ∀ s history, Attains env m s history fun r _ history' =>
    (∃ u, history' = history ++ u) ∧ ∀ l, r = .ok (.inl l) → ∃ t, t < limit ∧
      (∀ x, NotBefore env δ history x → x ≤ t) ∧ NotBefore env δ history' (t + δ)

variable {L α : Type} {limit : ℚ}

/-- A loop ends whose rounds move the steady clock towards a limit. -/
theorem ends_loop (hδ : 0 < δ) {body : L → Mission F (L ⊕ α)}
    (hbody : ∀ l, Progresses env δ limit (body l)) (l : L) :
  Ends env (Program.loop body l)
  := by
  intro s history
  -- after its first round, the loop goes round at most `n` more times
  let I : WithTop ℕ → L → MissionExecutor F → List (Interaction F) → Prop :=
    fun μ _ _ history' => (∃ u, history' = history ++ u) ∧
      ∀ n : ℕ, μ = n → ∃ x, NotBefore env δ history' x ∧ limit < x + δ * n
  have hI : I ⊤ l s history := ⟨⟨[], (List.append_nil history).symm⟩, nofun⟩
  refine Attains.loop ?_ hI
  intro μ l s history' hμ
  obtain ⟨⟨u, rfl⟩, hμ⟩ := hμ
  apply (hbody l s (history ++ u)).mono
  rintro r s' _ ⟨⟨v, rfl⟩, hnext⟩
  match r with
  | .ok (.inr a) => exact ⟨u ++ v, List.append_assoc history u v⟩
  | .error e => exact ⟨u ++ v, List.append_assoc history u v⟩
  | .ok (.inl l') =>
      obtain ⟨t, ht, hbefore, hafter⟩ := hnext l' rfl
      have happend : history ++ u ++ v = history ++ (u ++ v) := List.append_assoc history u v
      cases μ with
      | top =>
          obtain ⟨n, hn⟩ := Archimedean.arch (limit - (t + δ) + δ) hδ
          rw [nsmul_eq_mul] at hn
          refine ⟨n, WithTop.coe_lt_top n, ⟨_, happend⟩, ?_⟩
          intro n' hn'
          obtain rfl : n = n' := WithTop.coe_injective hn'
          refine ⟨t + δ, hafter, ?_⟩
          linarith
      | coe n =>
          obtain ⟨x, hx, hlimit⟩ := hμ n rfl
          have hxt := hbefore x hx
          have hpos : 0 < n := by
            by_contra hzero
            obtain rfl : n = 0 := by omega
            simp at hlimit
            linarith
          have hless : n - 1 < n := Nat.sub_lt hpos Nat.one_pos
          refine ⟨WithTop.some (n - 1), WithTop.coe_lt_coe.mpr hless, ⟨_, happend⟩, ?_⟩
          · intro n' hn'
            obtain rfl : n - 1 = n' := WithTop.coe_injective hn'
            refine ⟨t + δ, hafter, ?_⟩
            have hcast : ((n - 1 : ℕ) : ℚ) = n - 1 := by
              rw [Nat.cast_sub hpos, Nat.cast_one]
            rw [hcast]
            linarith

theorem Progresses.after {β : Type} (hδ : 0 ≤ δ) {m : Mission F β} {f : β → Mission F (L ⊕ α)}
    (hm : Ends env m) (hf : ∀ b, Progresses env δ limit (f b)) :
  Progresses env δ limit (m >>= f)
  := by
  intro s history
  apply Attains.bind
  apply hm.attains
  intro r s' u
  cases r with
  | error e => exact ⟨⟨u, rfl⟩, nofun⟩
  | ok b =>
      apply (hf b s' (history ++ u)).mono
      rintro r s'' _ ⟨⟨v, rfl⟩, hnext⟩
      refine ⟨⟨u ++ v, List.append_assoc history u v⟩, ?_⟩
      intro l hl
      obtain ⟨t, ht, hbefore, hafter⟩ := hnext l hl
      refine ⟨t, ht, ?_, hafter⟩
      intro x hx
      apply hbefore
      apply (hx.append u).mono
      have : 0 ≤ δ * spinCount u := mul_nonneg hδ (Nat.cast_nonneg _)
      linarith

theorem Progresses.stop (a : α) :
  Progresses env δ limit (pure (.inr a) : Mission F (L ⊕ α))
  := fun _ history => Attains.pure ⟨⟨[], (List.append_nil history).symm⟩, nofun⟩

theorem Progresses.raise (e : Raised) :
  Progresses env δ limit (Missions.raise e : Mission F (L ⊕ α))
  := fun _ history => Attains.raise ⟨⟨[], (List.append_nil history).symm⟩, nofun⟩

theorem NotBefore.append_le (hδ : 0 ≤ δ) (h : NotBefore env δ history x)
    (u : List (Interaction F)) :
  NotBefore env δ (history ++ u) x
  := by
  apply (h.append u).mono
  have : 0 ≤ δ * spinCount u := mul_nonneg hδ (Nat.cast_nonneg _)
  linarith

/-- After a spin, the steady clock has moved. -/
theorem NotBefore.of_spin (hδ : 0 ≤ δ) (h : NotBefore env δ history x)
    {u : List (Interaction F)} (hu : 1 ≤ spinCount u) :
  NotBefore env δ (history ++ u) (x + δ)
  := by
  apply (h.append u).mono
  have hcast : (1 : ℚ) ≤ spinCount u := by exact_mod_cast hu
  have : δ * 1 ≤ δ * spinCount u := mul_le_mul_of_nonneg_left hcast hδ
  linarith

/-- Before the deadline, the steady clock has just been read. -/
theorem attains_beforeDeadline (hclock : SteadyClock env δ) (hδ : 0 ≤ δ) (deadline : F)
    (s : MissionExecutor F) (history : List (Interaction F)) :
  Attains env (beforeDeadline deadline) s history fun r _ history' =>
    (∃ u, history' = history ++ u) ∧ (r = .ok true → ∃ t, t < value deadline ∧
      (∀ x, NotBefore env δ history x → x ≤ t) ∧ NotBefore env δ history' t)
  := by
  apply Attains.bind
  apply Attains.ask
  cases (env history .runtimeOk).result with
  | error e => exact ⟨⟨_, rfl⟩, nofun⟩
  | ok ok =>
      cases ok with
      | false => exact Attains.pure ⟨⟨_, rfl⟩, nofun⟩
      | true =>
          apply Attains.bind
          apply Attains.ask
          cases hread : (env (history ++ [⟨.runtimeOk, .ok true⟩]) .steadyTimeS).result with
          | error e => exact ⟨⟨_, List.append_assoc _ _ _⟩, nofun⟩
          | ok steady =>
              apply Attains.pure
              refine ⟨⟨_, List.append_assoc _ _ _⟩, ?_⟩
              intro hbefore
              refine ⟨value steady, FloatValue.value_lt (Except.ok.inj hbefore), ?_, ?_⟩
              · intro x hx
                apply (hx.append_le hδ _).le_reading hread
              · apply notBefore_of_reading hclock hread

/-- The round of a loop with a deadline. -/
theorem progresses_deadline (hclock : SteadyClock env δ) (hδ : 0 ≤ δ) {deadline : F} {stop : α}
    {round : Mission F (L ⊕ α)} (hround : Spins env GoesOn round) :
  Progresses env δ (value deadline) (do
    let waiting ← beforeDeadline deadline
    if waiting then round else pure (.inr stop))
  := by
  intro s history
  apply Attains.bind
  apply (attains_beforeDeadline hclock hδ deadline s history).mono
  rintro r s' _ ⟨⟨u, rfl⟩, hreading⟩
  match r with
  | .error e => exact ⟨⟨u, rfl⟩, nofun⟩
  | .ok false => exact Attains.pure ⟨⟨u, rfl⟩, nofun⟩
  | .ok true =>
      obtain ⟨t, ht, hbefore, hnow⟩ := hreading rfl
      apply (hround s' (history ++ u)).mono
      rintro r s'' _ ⟨v, rfl, hspins⟩
      refine ⟨⟨u ++ v, List.append_assoc history u v⟩, ?_⟩
      intro l hl
      exact ⟨t, ht, hbefore, hnow.of_spin hδ (hspins _ hl rfl)⟩

/-! ### Waits -/

section Waits

variable (hclock : SteadyClock env δ) (hδ : 0 < δ)

include hclock hδ

theorem ends_waitUntil {deadline : F} {body : Mission F (Option α)} (hbody : Ends env body) :
  Ends env (waitUntil config deadline body)
  := by
  apply ends_loop hδ
  intro _
  apply progresses_deadline hclock hδ.le
  apply Spins.after hbody
  intro found
  cases found with
  | some value => exact Spins.pure nofun
  | none => apply spins_again config deadline

theorem ends_waitForValue {poll : Mission F (Option α)} (hpoll : Ends env poll) (timeoutS : F)
    (failOnFeedbackTraceOverflow : Bool) :
  Ends env (waitForValue config poll timeoutS failOnFeedbackTraceOverflow)
  := by
  apply Ends.bind (ends_deadlineAfter _)
  intro deadline
  apply Ends.bind
  · apply ends_waitUntil config hclock hδ
    apply Ends.bind (ends_onlyIf ends_raiseIfFeedbackTraceOverflow)
    intro _
    apply hpoll
  · intro found
    cases found with
    | some value => apply Ends.pure
    | none =>
        apply Ends.bind (ends_onlyIf ends_raiseIfFeedbackTraceOverflow)
        intro _
        apply Ends.bind (ends_ask _)
        intro ok
        cases ok with
        | true => apply hpoll
        | false => apply Ends.pure

theorem ends_waitForServer :
  Ends env (waitForServer config)
  := by
  apply Ends.bind (ends_deadlineAfter _)
  intro deadline
  apply Ends.bind
  · apply ends_waitUntil config hclock hδ
    apply Ends.bind (ends_perform config _)
    intro ready
    cases ready with
    | true =>
        apply Ends.bind (ends_event _ _ _)
        intro _
        apply Ends.pure
    | false => apply Ends.pure
  · intro found
    apply Ends.pure

theorem ends_waitForAdvancingPositiveSimTime :
  Ends env (waitForAdvancingPositiveSimTime config)
  := by
  apply Ends.bind (ends_deadlineAfter _)
  intro deadline
  apply ends_loop hδ
  intro firstPositiveNs
  apply progresses_deadline hclock hδ.le
  apply Spins.after (ends_ask _)
  intro stampNs
  split
  · cases firstPositiveNs with
    | none => apply spins_again config deadline
    | some first =>
        simp only
        split
        · apply Spins.after (ends_event _ _ _)
          intro _
          exact Spins.pure nofun
        · apply spins_again config deadline
  · apply spins_again config deadline

theorem ends_waitForClientClockToReach (acceptedStatusStampNs localAcceptanceObservedNs : Int) :
  Ends env (waitForClientClockToReach config acceptedStatusStampNs localAcceptanceObservedNs)
  := by
  apply Ends.bind (ends_deadlineAfter _)
  intro deadline
  apply Ends.bind
  · apply ends_waitUntil config hclock hδ
    apply Ends.bind ends_raiseIfFeedbackTraceOverflow
    intro _
    apply Ends.bind (ends_ask _)
    intro localStampNs
    split
    · apply ends_raise
    · split
      · apply ends_raise
      · split
        · apply Ends.bind (ends_event _ _ _)
          intro _
          apply Ends.pure
        · apply Ends.pure
  · intro found
    apply Ends.pure

end Waits

/-! ### Fault control -/

section Faults

variable (hclock : SteadyClock env δ) (hδ : 0 < δ)

include hclock hδ

theorem ends_waitForFaultEvent (eventType : Int) :
  Ends env (waitForFaultEvent config faultDriver eventType)
  := by
  apply Ends.bind (ends_deadlineAfter _)
  intro deadline
  apply Ends.bind ends_getRecord
  intro record
  apply Ends.bind
  · apply ends_waitUntil config hclock hδ
    apply ends_findFaultEvent
  · intro found
    cases found with
    | some event => apply Ends.pure
    | none =>
        apply Ends.bind (ends_findFaultEvent config faultDriver _ _)
        intro found
        cases found with
        | some event => apply Ends.pure
        | none => apply ends_raise

theorem ends_resetFaults (beforeGoal : Bool) :
  Ends env (resetFaults config faultDriver beforeGoal)
  := by
  cases faultDriver with
  | false => apply Ends.pure
  | true =>
      apply Ends.bind (ends_perform config _)
      intro _
      apply Ends.bind (ends_waitForValue config hclock hδ (ends_perform config _) _ _)
      intro response
      cases response with
      | none => apply Ends.pure
      | some response =>
          simp only
          split
          · apply Ends.bind (ends_waitForFaultEvent config true hclock hδ 3)
            intro resetEvent
            split
            · apply Ends.pure
            · apply Ends.bind (ends_modifyRecord _)
              intro _
              apply Ends.bind (ends_event _ _ _)
              intro _
              apply Ends.pure
          · apply Ends.pure

theorem ends_prepareFaultSchedule :
  Ends env (prepareFaultSchedule config faultDriver)
  := by
  apply Ends.bind (ends_requireFaultContract config faultDriver)
  intro schedule
  apply Ends.bind (ends_deadlineAfter _)
  intro deadline
  apply Ends.bind
  · apply ends_waitUntil config hclock hδ
    apply Ends.bind (ends_collectFaultEvents config faultDriver)
    intro _
    apply Ends.bind (ends_perform config _)
    intro ready
    apply Ends.pure
  intro found
  split
  · apply ends_raise
  apply Ends.bind (ends_resetFaults config faultDriver hclock hδ true)
  intro confirmed
  split
  · apply ends_raise
  apply Ends.bind (ends_perform config _)
  intro _
  apply Ends.bind (ends_waitForValue config hclock hδ (ends_perform config _) _ _)
  intro response
  cases response with
  | none => apply ends_raise
  | some response =>
      simp only
      split
      · apply ends_raise
      apply Ends.bind (ends_waitForFaultEvent config faultDriver hclock hδ 1)
      intro loaded
      split
      · apply ends_raise
      apply Ends.bind (ends_modifyRecord _)
      intro _
      apply ends_event

theorem ends_armFaultSchedule (goalUuid : String) (acceptedStampNs : Int) :
  Ends env (armFaultSchedule config faultDriver goalUuid acceptedStampNs)
  := by
  apply Ends.bind (ends_requireFaultContract config faultDriver)
  intro schedule
  apply Ends.bind ends_getRecord
  intro record
  split
  · apply ends_raise
  apply Ends.bind (ends_perform config _)
  intro _
  apply Ends.bind (ends_waitForValue config hclock hδ (ends_perform config _) _ _)
  intro response
  cases response with
  | none => apply ends_raise
  | some response =>
      simp only
      split
      · apply ends_raise
      split
      · apply ends_raise
      apply Ends.bind (ends_waitForFaultEvent config faultDriver hclock hδ 7)
      intro armed
      split
      · apply ends_raise
      apply Ends.bind (ends_modifyRecord _)
      intro _
      apply ends_event

end Faults


/-! ### The end of a goal -/

section Closing

omit [FloatValue F] in
theorem ends_captureTerminal (terminal : TerminalActionResult) :
  Ends env (captureTerminal terminal : Mission F Unit)
  := by
  apply Ends.bind (ends_modifyRecord _)
  intro _
  apply Ends.bind (ends_ask _)
  intro stamp
  apply Ends.bind (ends_modifyRecord _)
  intro _
  apply Ends.bind ends_wallOffset
  intro offset
  apply Ends.bind (ends_modifyRecord _)
  intro _
  apply ends_event

omit [FloatValue F] in
theorem ends_finishFromTerminal (terminal : TerminalActionResult) :
  Ends env (finishFromTerminal terminal : Mission F Unit)
  := by
  apply Ends.bind (ends_captureTerminal terminal)
  intro _
  apply Ends.bind ends_getRecord
  intro record
  apply ends_finish

variable (hclock : SteadyClock env δ) (hδ : 0 < δ)

include hclock hδ

theorem ends_cancelAndAwaitTerminal (completedExitCode : ExitCode) (reason : String) :
  Ends env (cancelAndAwaitTerminal config completedExitCode reason)
  := by
  apply Ends.bind (ends_modifyRecord _)
  intro _
  apply Ends.bind (ends_perform config _)
  intro _
  apply Ends.bind (ends_event _ _ _)
  intro _
  apply Ends.bind (ends_waitForValue config hclock hδ (ends_perform config _) _ _)
  intro acknowledged
  apply Ends.bind (ends_modifyRecord _)
  intro _
  split
  · apply Ends.bind (ends_event _ _ _)
    intro _
    apply ends_finish
  apply Ends.bind (ends_event _ _ _)
  intro _
  apply Ends.bind (ends_waitForValue config hclock hδ (ends_perform config _) _ _)
  intro terminal
  cases terminal with
  | none => apply ends_finish
  | some terminal =>
      apply Ends.bind (ends_captureTerminal terminal)
      intro _
      apply ends_finish

theorem ends_cancelAfterDeadline (deadlineKind : String) :
  Ends env (cancelAfterDeadline config deadlineKind)
  := by
  apply Ends.bind (ends_modifyRecord _)
  intro _
  apply Ends.bind (ends_event _ _ _)
  intro _
  apply ends_cancelAndAwaitTerminal config hclock hδ

theorem ends_failClosedAfterAcceptance (reason : String) :
  Ends env (failClosedAfterAcceptance config reason)
  := by
  apply ends_exceptException (ends_cancelAndAwaitTerminal config hclock hδ _ _)
  intro text
  apply Ends.bind (ends_event _ _ _)
  intro _
  apply ends_finish

theorem ends_closeAfterError (reason : String) :
  Ends env (closeAfterError config reason)
  := by
  apply Ends.bind
  · apply Ends.bind Ends.getState
    intro executor
    split
    · apply Ends.pure
    · apply ends_perform
  · intro active
    split
    · apply ends_failClosedAfterAcceptance config hclock hδ
    · apply ends_finish

theorem ends_handleError (e : Raised) :
  Ends env (handleError config e)
  := by
  cases e with
  | baseException text => apply ends_raise
  | feedbackTraceOverflowError text =>
      apply Ends.bind ends_getRecord
      intro record
      apply Ends.bind (ends_event _ _ _)
      intro _
      apply ends_closeAfterError config hclock hδ
  | faultProtocolError text =>
      apply Ends.bind (ends_event _ _ _)
      intro _
      apply ends_closeAfterError config hclock hδ
  | actionProtocolError text =>
      apply Ends.bind (ends_event _ _ _)
      intro _
      apply ends_closeAfterError config hclock hδ
  | exception text =>
      apply Ends.bind (ends_event _ _ _)
      intro _
      apply ends_closeAfterError config hclock hδ

theorem ends_tearDown :
  Ends env (tearDown config faultDriver)
  := by
  apply Ends.bind
  · apply ends_exceptException (ends_resetFaults config faultDriver hclock hδ false)
    intro text
    apply Ends.bind (ends_event _ _ _)
    intro _
    apply Ends.pure
  intro confirmed
  apply Ends.bind (ends_onlyIf (ends_modifyRecord _))
  intro _
  apply Ends.attempt (ends_collectFaultEvents config faultDriver)
  intro e
  cases e with
  | faultProtocolError text => apply ends_modifyRecord
  | baseException text => apply ends_raise
  | feedbackTraceOverflowError text => apply ends_raise
  | actionProtocolError text => apply ends_raise
  | exception text => apply ends_raise

end Closing

/-! ### The mission -/

section Mission

variable (hclock : SteadyClock env δ) (hδ : 0 < δ)
variable (hescape : FloatValue.Finite config.wallEscapeTimeoutS)

include hδ

/-- A program that only leaves the loop. -/
theorem progresses_stop {m : Mission F Unit} (hm : Ends env m) (a : α) :
  Progresses env δ limit (do
    m
    pure (.inr a) : Mission F (L ⊕ α))
  := Progresses.after hδ.le hm fun _ => Progresses.stop a

include hclock hescape

/-- The loop that watches the goal goes on only before the wall escape timeout. -/
theorem progresses_monitorRound {wallS : F} (hwall : FloatValue.Finite wallS)
    (localNs stampNs : Int) :
  Progresses env δ (value wallS + value config.wallEscapeTimeoutS)
    (monitorRound config faultDriver localNs wallS stampNs)
  := by
  apply Progresses.after hδ.le (ends_ask _)
  intro ok
  cases ok with
  | false => apply progresses_stop hδ (ends_finish _ _)
  | true =>
  apply Progresses.after hδ.le ends_raiseIfFeedbackTraceOverflow
  intro _
  apply Progresses.after hδ.le (ends_collectFaultEvents config faultDriver)
  intro _
  apply Progresses.after hδ.le (ends_perform config _)
  intro observedStatusStampNs
  split
  · apply Progresses.raise
  apply Progresses.after hδ.le (ends_perform config _)
  intro terminal
  cases terminal with
  | some terminal => apply progresses_stop hδ (ends_finishFromTerminal terminal)
  | none =>
  apply Progresses.after hδ.le (ends_ask _)
  intro stampNs
  simp only
  split
  · apply progresses_stop hδ (ends_finish _ _)
  split
  · apply Progresses.raise
  split
  · apply progresses_stop hδ (ends_cancelAfterDeadline config hclock hδ _)
  intro s history
  apply Attains.bind
  apply Attains.ask
  cases hread : (env history .steadyTimeS).result with
  | error e => exact ⟨⟨_, rfl⟩, nofun⟩
  | ok steady =>
      simp only
      split
      · apply Attains.bind
        apply (ends_cancelAfterDeadline config hclock hδ _).attains
        intro r s' u
        cases r with
        | error e => exact ⟨⟨_, List.append_assoc _ _ _⟩, nofun⟩
        | ok _ => exact Attains.pure ⟨⟨_, List.append_assoc _ _ _⟩, nofun⟩
      · rename_i hescaped
        have hlimit : value steady < value wallS + value config.wallEscapeTimeoutS := by
          by_contra hlimit
          apply hescaped
          apply FloatValue.le_sub (hclock.finite _ _ hread) hwall hescape
          linarith
        have hspins : Spins env GoesOn (do
            perform config (.spinOnce (SPIN_POLL_WALL_S F))
            pure (.inl ()) : Mission F (Unit ⊕ Unit)) :=
          Spins.before (spins_spinOnce config _) fun _ => Ends.pure _
        apply (hspins s _).mono
        rintro r s' _ ⟨u, rfl, hspun⟩
        refine ⟨⟨_, List.append_assoc _ _ _⟩, ?_⟩
        intro l hl
        refine ⟨value steady, hlimit, fun x hx => hx.le_reading hread, ?_⟩
        apply (notBefore_of_reading hclock hread).of_spin hδ.le (hspun _ hl rfl)

theorem ends_waitForTerminalOrDeadline {wallS : F} (hwall : FloatValue.Finite wallS)
    (localNs stampNs : Int) :
  Ends env (waitForTerminalOrDeadline config faultDriver localNs wallS stampNs)
  := by
  unfold waitForTerminalOrDeadline
  split
  · apply ends_raise
  · apply ends_loop hδ
    intro _
    apply progresses_monitorRound config faultDriver hclock hδ hescape hwall

theorem ends_monitorGoal {wallS : F} (hwall : FloatValue.Finite wallS) (goalUuid : String)
    (responseStampNs localNs stampNs : Int) :
  Ends env (monitorGoal config faultDriver goalUuid responseStampNs localNs wallS stampNs)
  := by
  apply Ends.bind (ends_modifyRecord _)
  intro _
  apply Ends.bind (ends_event _ _ _)
  intro _
  split
  · apply ends_raise
  apply Ends.bind (ends_waitForClientClockToReach config hclock hδ _ _)
  intro reached
  split
  · apply Ends.bind (ends_onlyIf (ends_armFaultSchedule config faultDriver hclock hδ _ _))
    intro _
    apply ends_waitForTerminalOrDeadline config faultDriver hclock hδ hescape hwall
  · apply Ends.bind (ends_event _ _ _)
    intro _
    apply ends_failClosedAfterAcceptance config hclock hδ

theorem ends_proveAcceptance (goalUuid : String) (responseStampNs : Int) :
  Ends env (proveAcceptance config faultDriver goalUuid responseStampNs)
  := by
  apply Ends.bind (ends_ask _)
  intro localNs
  split
  · apply ends_raise
  apply Ends.bind ends_getRecord
  intro record
  split
  · apply ends_raise
  intro s history
  apply Attains.bind
  apply Attains.ask
  cases hread : (env history .steadyTimeS).result with
  | error e => exact ⟨_, rfl⟩
  | ok wallS =>
      apply Ends.attains
      · apply Ends.bind (ends_modifyRecord _)
        intro _
        apply Ends.bind ends_wallOffset
        intro offset
        apply Ends.bind (ends_modifyRecord _)
        intro _
        apply Ends.bind (ends_event _ _ _)
        intro _
        apply Ends.bind ends_raiseIfFeedbackTraceOverflow
        intro _
        apply Ends.bind (ends_waitForValue config hclock hδ (ends_perform config _) _ _)
        intro acceptedStatusStampNs
        split
        · apply Ends.bind (ends_event _ _ _)
          intro _
          apply ends_failClosedAfterAcceptance config hclock hδ
        · apply ends_monitorGoal config faultDriver hclock hδ hescape (hclock.finite _ _ hread)
      · intro r s' u
        exact ⟨_, List.append_assoc _ _ _⟩

theorem ends_followGoal (response : GoalResponse) :
  Ends env (followGoal config faultDriver response)
  := by
  apply Ends.bind (Ends.modifyState _)
  intro _
  split
  · apply ends_failClosedAfterAcceptance config hclock hδ
  split
  · apply ends_raise
  · apply ends_proveAcceptance config faultDriver hclock hδ hescape

theorem ends_submitGoal :
  Ends env (submitGoal config faultDriver)
  := by
  apply Ends.bind (ends_ask _)
  intro submissionStampNs
  apply Ends.bind (ends_modifyRecord _)
  intro _
  split
  · apply ends_raise
  apply Ends.bind (ends_event _ _ _)
  intro _
  apply Ends.bind (ends_perform config _)
  intro _
  apply Ends.bind (ends_waitForValue config hclock hδ (ends_perform config _) _ _)
  intro response
  cases response with
  | none => apply ends_finish
  | some response =>
      simp only
      split
      · apply ends_followGoal config faultDriver hclock hδ hescape
      · apply Ends.bind (ends_event _ _ _)
        intro _
        apply ends_finish

theorem ends_runBody :
  Ends env (runBody config faultDriver)
  := by
  apply Ends.bind (ends_waitForAdvancingPositiveSimTime config hclock hδ)
  intro advancing
  split
  · apply Ends.bind (ends_onlyIf (ends_prepareFaultSchedule config faultDriver hclock hδ))
    intro _
    apply Ends.bind (ends_waitForServer config hclock hδ)
    intro ready
    split
    · apply ends_submitGoal config faultDriver hclock hδ hescape
    · apply ends_finish
  · apply ends_finish

end Mission

/-- A mission ends, whatever the drivers and the simulation clock do, when the steady clock advances
with every spin. -/
theorem run_ends (hclock : SteadyClock env δ) (hδ : 0 < δ)
    (hescape : FloatValue.Finite config.wallEscapeTimeoutS) (startNs : Int) (startS : F) :
  ∃ n result, ∀ fuel, n ≤ fuel →
    run config faultDriver env fuel (MissionExecutor.new startNs startS) [] = some result
  := by
  have hends : Ends env (run config faultDriver) := by
    apply Ends.bind
    · apply Ends.attempt (ends_runBody config faultDriver hclock hδ hescape)
      intro e
      apply ends_handleError config hclock hδ
    intro _
    apply Ends.bind (ends_onlyIf (ends_tearDown config faultDriver hclock hδ))
    intro _
    apply ends_getRecord
  obtain ⟨n, r, s', u, hrun, -⟩ := hends (MissionExecutor.new startNs startS) []
  exact ⟨n, _, hrun⟩

end Ending

/-! ### A simulation clock that stands still -/

section Sample

instance sampleValue : FloatValue ℚ where
  value := id
  Finite _ := True
  value_lt h := of_decide_eq_true h
  le_sub _ _ _ h := decide_eq_true h

theorem steadyClock_sample (clock : List (Interaction ℚ) → Int) :
  SteadyClock (sampleEnvironment clock) (1 / 16)
  := by
  have hspins : ∀ u : List (Interaction ℚ), (u.filter fun i => i.1.spins).length = spinCount u := by
    intro u
    rw [spinCount, List.countP_eq_length_filter]
    congr 2
    funext i
    cases i.1 with
    | _ => rfl
  have hreading : ∀ history, (sampleEnvironment clock history .steadyTimeS).result =
      .ok ((spinCount history : ℚ) / 16) := by
    intro history
    rw [← hspins]
    rfl
  constructor
  · intro history t _
    trivial
  · intro history u t t' ht ht'
    rw [hreading] at ht ht'
    cases ht
    cases ht'
    change (spinCount history : ℚ) / 16 + 1 / 16 * spinCount u ≤
      (spinCount (history ++ _ :: u) : ℚ) / 16
    rw [spinCount_append, spinCount, spinCount, spinCount,
      List.countP_cons_of_neg Bool.false_ne_true]
    push_cast
    linarith

/-- The mission without faults ends although the simulation clock stands still. -/
theorem run_ends_sample :
  ∃ n result, ∀ fuel, n ≤ fuel →
    run sampleConfig true (sampleEnvironment fun _ => 1000000000) fuel
      (MissionExecutor.new 1000000000 0) [] = some result
  := run_ends sampleConfig true (steadyClock_sample _) (by norm_num) trivial 1000000000 0

end Sample

end Missions

end RobotestLab
