import RobotestLab.Library.Budget
import RobotestLab.Missions.Termination

/-!
# The feedback of a mission

The feedback that arrives during a spin is appended to the feedback trace as long as there is room,
and each index that names no waypoint is counted. A `Behaviour` of the environment answers the calls
and delivers feedback in its spins. Every part of the executor keeps account of the feedback that
its spins deliver (`Accounts`), and reports a bounded number of events.
-/

namespace RobotestLab

namespace Missions

open Program

variable {F : Type}

/-! ### Behaviours -/

/-- How the environment behaves: what it answers after the interactions so far, and the feedback
that each spin delivers, the first spin having the number zero. -/
structure Behaviour (F : Type) where
  answer : List (Interaction F) → (c : Call F) → Except Raised c.Answer
  feedback : Nat → List Int

namespace Behaviour

def environment (b : Behaviour F) : (missionSignature F).Environment :=
  fun history c =>
    { callbacks := if c.isSpinOnce then b.feedback (spinCount history) else []
      result := b.answer history c }

/-- The feedback of the spins after the first interactions and among the second. -/
def delivered (b : Behaviour F) (history history' : List (Interaction F)) : List Int :=
  (List.range' (spinCount history) (spinCount history' - spinCount history)).flatMap b.feedback

/-- The clocks show a time whenever they are read. -/
def ClocksAnswer (b : Behaviour F) : Prop :=
  ∀ history, (∃ t, b.answer history .simTimeNs = .ok t) ∧
    ∃ t, b.answer history .steadyTimeS = .ok t

theorem delivered_self (b : Behaviour F) (history : List (Interaction F)) :
  b.delivered history history = []
  := by
  rw [delivered, Nat.sub_self]
  rfl

theorem delivered_append (b : Behaviour F) {h h₁ h₂ : List (Interaction F)}
    (hle : spinCount h ≤ spinCount h₁) (hle' : spinCount h₁ ≤ spinCount h₂) :
  b.delivered h h₂ = b.delivered h h₁ ++ b.delivered h₁ h₂
  := by
  rw [delivered, delivered, delivered, ← List.flatMap_append]
  congr 1
  have hstart : spinCount h₁ = spinCount h + (spinCount h₁ - spinCount h) := by omega
  have hlength : spinCount h₂ - spinCount h =
      (spinCount h₁ - spinCount h) + (spinCount h₂ - spinCount h₁) := by omega
  rw [hlength, ← List.range'_append_1, ← hstart]

end Behaviour

/-! ### What feedback does to the record -/

/-- The index names a waypoint. -/
def validIndex (waypointCount : Nat) (k : Int) : Bool := 0 ≤ k && k < waypointCount

def invalidCount (waypointCount : Nat) (ks : List Int) : Nat :=
  ks.countP fun k => !validIndex waypointCount k

/-- The record has received the feedback. Where all clocks answer, every piece of it has been
counted. -/
structure Receives (waypointCount : Nat) (answered : Prop) (ks : List Int)
    (record record' : ExecutionRecord F) : Prop where
  bounded : record.feedbackTrace.length ≤ FEEDBACK_TRACE_CAPACITY →
    record'.feedbackTrace.length ≤ FEEDBACK_TRACE_CAPACITY
  total : record'.feedbackTrace.length + record'.feedbackTraceOverflowCount ≤
    record.feedbackTrace.length + record.feedbackTraceOverflowCount + ks.length
  counted : answered → record'.feedbackTrace.length + record'.feedbackTraceOverflowCount =
    record.feedbackTrace.length + record.feedbackTraceOverflowCount + ks.length
  grows : record.feedbackTrace.length ≤ record'.feedbackTrace.length
  overflows : record.feedbackTraceOverflowCount ≤ record'.feedbackTraceOverflowCount
  overflow : record'.feedbackTraceOverflow = true ↔ record.feedbackTraceOverflow = true ∨
    record.feedbackTraceOverflowCount < record'.feedbackTraceOverflowCount
  full : record.feedbackTraceOverflowCount < record'.feedbackTraceOverflowCount →
    FEEDBACK_TRACE_CAPACITY ≤ record'.feedbackTrace.length
  invalid : record'.invalidFeedbackCount ≤
    record.invalidFeedbackCount + invalidCount waypointCount ks
  checked : record'.feedbackTraceOverflowCount = record.feedbackTraceOverflowCount →
    record'.invalidFeedbackCount = record.invalidFeedbackCount + invalidCount waypointCount ks

theorem Receives.refl (waypointCount : Nat) (answered : Prop) (record : ExecutionRecord F) :
  Receives waypointCount answered [] record record
  where
  bounded h := h
  total := le_refl _
  counted _ := rfl
  grows := le_refl _
  overflows := le_refl _
  overflow := by
    simp
  full h := absurd h (lt_irrefl _)
  invalid := le_refl _
  checked _ := rfl

variable {answered : Prop}

theorem Receives.trans {waypointCount : Nat} {ks ks' : List Int}
    {record record₁ record₂ : ExecutionRecord F}
    (h : Receives waypointCount answered ks record record₁)
    (h' : Receives waypointCount answered ks' record₁ record₂) :
  Receives waypointCount answered (ks ++ ks') record record₂
  := by
  have hinvalid : invalidCount waypointCount (ks ++ ks') =
      invalidCount waypointCount ks + invalidCount waypointCount ks' := List.countP_append
  have hlength : (ks ++ ks').length = ks.length + ks'.length := List.length_append
  constructor
  · exact fun hbound => h'.bounded (h.bounded hbound)
  · have := h.total
    have := h'.total
    omega
  · intro hanswered
    have := h.counted hanswered
    have := h'.counted hanswered
    omega
  · exact le_trans h.grows h'.grows
  · exact le_trans h.overflows h'.overflows
  · rw [h'.overflow, h.overflow]
    have := h.overflows
    have := h'.overflows
    constructor
    · rintro ((hoverflow | hless) | hless)
      · exact .inl hoverflow
      · exact .inr (by omega)
      · exact .inr (by omega)
    · rintro (hoverflow | hless)
      · exact .inl (.inl hoverflow)
      · by_cases hfirst : record.feedbackTraceOverflowCount < record₁.feedbackTraceOverflowCount
        · exact .inl (.inr hfirst)
        · exact .inr (by omega)
  · intro hless
    by_cases hfirst : record.feedbackTraceOverflowCount < record₁.feedbackTraceOverflowCount
    · exact le_trans (h.full hfirst) h'.grows
    · exact h'.full (by omega)
  · have := h.invalid
    have := h'.invalid
    omega
  · intro hsame
    have := h.overflows
    have := h'.overflows
    have := h.checked (by omega)
    have := h'.checked (by omega)
    omega

variable {record record' : ExecutionRecord F}

/-- Where no feedback arrives, none lacks room. -/
theorem Receives.uncrowded {waypointCount : Nat}
    (h : Receives waypointCount answered [] record record')
    (huncrowded : record.feedbackTraceOverflow = false) :
  record'.feedbackTraceOverflow = false
  := by
  rw [← Bool.not_eq_true, h.overflow, huncrowded]
  have htotal := h.total
  have hgrows := h.grows
  rw [List.length_nil] at htotal
  rintro (hbefore | hless)
  · cases hbefore
  · omega

/-! ### Accounts -/

/-- The events of the record, and the one that will report the first piece of feedback for which
there is no room. -/
def ExecutionRecord.eventPotential (record : ExecutionRecord F) : Nat :=
  record.events.length + if record.feedbackTraceOverflowCount = 0 then 1 else 0

/-- At most `k` events were reported besides the one of the overflow of the feedback trace. -/
structure Reported (k : Nat) (record record' : ExecutionRecord F) : Prop where
  reported : record'.eventPotential ≤ record.eventPotential + k
  events : record.events.length ≤ record'.events.length
  eventOverflow : record'.eventTraceOverflow = true → record.eventTraceOverflow = true ∨
    MISSION_EVENT_TRACE_CAPACITY ≤ record'.events.length

theorem Reported.refl (record : ExecutionRecord F) :
  Reported 0 record record
  where
  reported := le_refl _
  events := le_refl _
  eventOverflow := .inl

theorem Reported.trans {j k : Nat} {record record₁ record₂ : ExecutionRecord F}
    (h : Reported j record record₁) (h' : Reported k record₁ record₂) :
  Reported (j + k) record record₂
  where
  reported := by
    have := h.reported
    have := h'.reported
    omega
  events := le_trans h.events h'.events
  eventOverflow := by
    intro hoverflow
    rcases h'.eventOverflow hoverflow with hoverflow | hfull
    · rcases h.eventOverflow hoverflow with hoverflow | hfull
      · exact .inl hoverflow
      · exact .inr (le_trans hfull h'.events)
    · exact .inr hfull

theorem Reported.mono {j k : Nat} (h : Reported j record record') (hjk : j ≤ k) :
  Reported k record record'
  := { h with reported := le_trans h.reported (Nat.add_le_add_left hjk _) }

/-- The record received the feedback, at most `k` events were reported, and the verdict did not
become success. -/
structure Takes (waypointCount : Nat) (answered : Prop) (ks : List Int) (k : Nat)
    (record record' : ExecutionRecord F) : Prop extends
    Receives waypointCount answered ks record record', Reported k record record' where
  sober : record'.exitCode = .success → record.exitCode = .success

theorem Takes.refl (waypointCount : Nat) (answered : Prop) (record : ExecutionRecord F) :
  Takes waypointCount answered [] 0 record record
  := ⟨Receives.refl waypointCount answered record, Reported.refl record, id⟩

theorem Takes.trans {waypointCount j k : Nat} {ks ks' : List Int}
    {record record₁ record₂ : ExecutionRecord F}
    (h : Takes waypointCount answered ks j record record₁)
    (h' : Takes waypointCount answered ks' k record₁ record₂) :
  Takes waypointCount answered (ks ++ ks') (j + k) record record₂
  := ⟨h.toReceives.trans h'.toReceives, h.toReported.trans h'.toReported,
    fun hsuccess => h.sober (h'.sober hsuccess)⟩

theorem Takes.mono {waypointCount j k : Nat} {ks : List Int}
    (h : Takes waypointCount answered ks j record record') (hjk : j ≤ k) :
  Takes waypointCount answered ks k record record'
  := ⟨h.toReceives, h.toReported.mono hjk, h.sober⟩

/-- The fields that account for the evidence are the same, and the verdict is no new success. -/
structure Neutral (record record' : ExecutionRecord F) : Prop where
  trace : record'.feedbackTrace = record.feedbackTrace
  overflow : record'.feedbackTraceOverflow = record.feedbackTraceOverflow
  overflowCount : record'.feedbackTraceOverflowCount = record.feedbackTraceOverflowCount
  invalid : record'.invalidFeedbackCount = record.invalidFeedbackCount
  events : record'.events = record.events
  eventOverflow : record'.eventTraceOverflow = record.eventTraceOverflow
  sober : record'.exitCode = .success → record.exitCode = .success

theorem Neutral.takes (h : Neutral record record') (waypointCount : Nat) (answered : Prop) :
  Takes waypointCount answered [] 0 record record'
  := by
  have hpotential : record'.eventPotential = record.eventPotential := by
    rw [ExecutionRecord.eventPotential, ExecutionRecord.eventPotential, h.events, h.overflowCount]
  constructor
  · constructor
    · rw [h.trace]
      exact id
    · rw [h.trace, h.overflowCount, List.length_nil, Nat.add_zero]
    · intro _
      rw [h.trace, h.overflowCount, List.length_nil, Nat.add_zero]
    · rw [h.trace]
    · rw [h.overflowCount]
    · rw [h.overflow, h.overflowCount]
      simp
    · rw [h.overflowCount]
      exact fun hless => absurd hless (lt_irrefl _)
    · rw [h.invalid]
      apply Nat.le_add_right
    · intro _
      rw [h.invalid]
      rfl
  · constructor
    · rw [hpotential, Nat.add_zero]
    · rw [h.events]
    · rw [h.eventOverflow]
      exact .inl
  · exact h.sober

/-- Between the two states, the record took the feedback of the spins and reported at most `k`
events. -/
structure Accounts (b : Behaviour F) (waypointCount k : Nat) (s : MissionExecutor F)
    (history : List (Interaction F)) (s' : MissionExecutor F) (history' : List (Interaction F)) :
    Prop where
  spins : spinCount history ≤ spinCount history'
  takes : Takes waypointCount b.ClocksAnswer (b.delivered history history') k s.record s'.record

theorem accounts_graded (b : Behaviour F) (waypointCount : Nat) :
  Graded (Accounts b waypointCount)
  := by
  constructor
  · intro s history
    refine ⟨le_refl _, ?_⟩
    rw [b.delivered_self]
    apply Takes.refl
  · intro j k s h s₁ h₁ s₂ h₂ hfirst hsecond
    refine ⟨le_trans hfirst.spins hsecond.spins, ?_⟩
    rw [b.delivered_append hfirst.spins hsecond.spins]
    exact hfirst.takes.trans hsecond.takes
  · intro j k s h s' h' hjk haccounts
    exact ⟨haccounts.spins, haccounts.takes.mono hjk⟩

/-- Without spins there is no feedback. -/
theorem accounts_of_takes {b : Behaviour F} {waypointCount k : Nat} {s s' : MissionExecutor F}
    {history u : List (Interaction F)} (hu : spinCount u = 0)
    (h : Takes waypointCount b.ClocksAnswer [] k s.record s'.record) :
  Accounts b waypointCount k s history s' (history ++ u)
  := by
  have hcount : spinCount (history ++ u) = spinCount history := by
    rw [spinCount_append, hu, Nat.add_zero]
  refine ⟨hcount.ge, ?_⟩
  rw [Behaviour.delivered, hcount, Nat.sub_self]
  exact h

/-! ### Parts without waits -/

section Parts

variable {b : Behaviour F} {waypointCount : Nat}

/-- The program keeps account of the feedback, and reports at most `k` events. -/
abbrev KeepsAccount {α : Type} (b : Behaviour F) (waypointCount k : Nat) (m : Mission F α) : Prop :=
  Keeps b.environment m (Accounts b waypointCount k)

variable {j k : Nat}

theorem account_bind {α β : Type} {m : Mission F α} {f : α → Mission F β}
    (hm : KeepsAccount b waypointCount j m) (hf : ∀ a, KeepsAccount b waypointCount k (f a)) :
  KeepsAccount b waypointCount (k + j) (m >>= f)
  := by
  rw [Nat.add_comm]
  apply Keeps.bind (accounts_graded b waypointCount) hm hf

variable {α : Type} {m : Mission F α}

theorem account_mono (hm : KeepsAccount b waypointCount j m) (h : j ≤ k) :
  KeepsAccount b waypointCount k m
  := hm.mono (accounts_graded b waypointCount) h

theorem account_pure {k : Nat} (a : α) :
  KeepsAccount b waypointCount k (pure a : Mission F α)
  := account_mono (Keeps.pure (accounts_graded b waypointCount) a) (Nat.zero_le k)

theorem account_raise {k : Nat} (e : Raised) :
  KeepsAccount b waypointCount k (raise e : Mission F α)
  := account_mono (Keeps.raise (accounts_graded b waypointCount) e) (Nat.zero_le k)

theorem account_getState :
  KeepsAccount b waypointCount 0 (getState : Mission F (MissionExecutor F))
  := Keeps.getState (accounts_graded b waypointCount)

theorem account_getRecord :
  KeepsAccount b waypointCount 0 (getRecord : Mission F (ExecutionRecord F))
  := account_bind account_getState fun _ => account_pure _

variable {c : Call F}

theorem account_ask (hc : c.isSpinOnce = false) :
  KeepsAccount b waypointCount 0 (ask c)
  := by
  apply Keeps.ask
  intro s history
  apply accounts_of_takes _ (Takes.refl _ _ _)
  rw [spinCount, List.countP_singleton, hc]
  rfl

theorem account_modifyState {f : MissionExecutor F → MissionExecutor F}
    (hf : ∀ s, Neutral s.record (f s).record) :
  KeepsAccount b waypointCount 0 (modifyState f)
  := by
  apply Keeps.modifyState
  intro s history
  have h := @accounts_of_takes _ _ _ _ _ _ history [] rfl
    ((hf s).takes waypointCount b.ClocksAnswer)
  rw [List.append_nil] at h
  exact h

variable {f : ExecutionRecord F → ExecutionRecord F}

theorem account_modifyRecord (hf : ∀ record, Neutral record (f record)) :
  KeepsAccount b waypointCount 0 (modifyRecord f)
  := account_modifyState fun s => hf s.record

/-- A change of the record that leaves the evidence alone, and then the rest. -/
theorem account_modify {k : Nat} {m : Unit → Mission F α} (hf : ∀ record, Neutral record (f record))
    (hm : ∀ a, KeepsAccount b waypointCount k (m a)) :
  KeepsAccount b waypointCount k (modifyRecord f >>= m)
  := account_bind (account_modifyRecord hf) hm

theorem account_onlyIf {condition : Bool} {k : Nat} {m : Mission F Unit}
    (hm : KeepsAccount b waypointCount k m) :
  KeepsAccount b waypointCount k (onlyIf condition m)
  := by
  cases condition with
  | true => apply hm
  | false => apply account_pure

theorem account_attempt {handler : Raised → Mission F α}
    (hm : KeepsAccount b waypointCount j m)
    (hhandler : ∀ e, KeepsAccount b waypointCount k (handler e)) :
  KeepsAccount b waypointCount (k + j) (attempt m handler)
  := by
  rw [Nat.add_comm]
  apply Keeps.attempt (accounts_graded b waypointCount) hm hhandler

theorem account_exceptException {handler : String → Mission F α}
    (hm : KeepsAccount b waypointCount j m)
    (hhandler : ∀ text, KeepsAccount b waypointCount k (handler text)) :
  KeepsAccount b waypointCount (k + j) (exceptException m handler)
  := by
  apply account_attempt hm
  intro e
  cases e with
  | baseException text => apply account_raise
  | feedbackTraceOverflowError text => apply hhandler
  | faultProtocolError text => apply hhandler
  | actionProtocolError text => apply hhandler
  | exception text => apply hhandler

variable {history u : List (Interaction F)} {s s' : MissionExecutor F}
  {env : (missionSignature F).Environment} {fuel : Nat}

/-- The run of a program that reads the record first. -/
theorem eq_getRecord {f : ExecutionRecord F → Mission F α}
    {r : Except Raised α} (h : (getRecord >>= f) env fuel s history = some (r, s', u)) :
  f s.record env fuel s history = some (r, s', u)
  := by
  rcases eq_bind h with ⟨e, rfl, hread⟩ | ⟨record, s₁, v, w, hread, rfl, hrest⟩
  · rcases eq_bind hread with ⟨e', he', hstate⟩ | ⟨s₂, s₃, v, w, hstate, rfl, hpure⟩
    · cases hstate
    · cases hpure
  · rcases eq_bind hread with ⟨e', he', hstate⟩ | ⟨s₂, s₃, v', w', hstate, rfl, hpure⟩
    · cases he'
    · cases hstate
      cases hpure
      simpa using hrest

theorem eq_ask {r : Except Raised c.Answer} (h : ask c env fuel s history = some (r, s', u)) :
  r = (env history c).result ∧ s' = s ∧ u = [⟨c, r⟩]
  := by
  cases h
  exact ⟨rfl, rfl, rfl⟩

theorem account_stampOrNow (simStampNs : Option Int) :
  KeepsAccount b waypointCount 0 (stampOrNow simStampNs : Mission F Int)
  := by
  cases simStampNs with
  | none => apply account_ask rfl
  | some stamp => apply account_pure

/-- One more event, which the overflow of the trace may replace. -/
theorem takes_event {record record' : ExecutionRecord F} {answered : Prop}
    (htrace : record'.feedbackTrace = record.feedbackTrace)
    (hoverflow : record'.feedbackTraceOverflow = record.feedbackTraceOverflow)
    (hcount : record'.feedbackTraceOverflowCount = record.feedbackTraceOverflowCount)
    (hinvalid : record'.invalidFeedbackCount = record.invalidFeedbackCount)
    (hcode : record'.exitCode = record.exitCode)
    (hevents : record'.events.length = record.events.length + 1 ∧
        record'.eventTraceOverflow = record.eventTraceOverflow ∨
      record'.events = record.events ∧ MISSION_EVENT_TRACE_CAPACITY ≤ record.events.length) :
  Takes waypointCount answered [] 1 record record'
  := by
  have hreceives : Receives waypointCount answered [] record record' := by
    have hneutral : Neutral record { record' with
        events := record.events
        eventTraceOverflow := record.eventTraceOverflow } :=
      ⟨htrace, hoverflow, hcount, hinvalid, rfl, rfl, fun hsuccess => hcode ▸ hsuccess⟩
    have htakes := (hneutral.takes waypointCount answered).toReceives
    exact ⟨htakes.bounded, htakes.total, htakes.counted, htakes.grows, htakes.overflows,
      htakes.overflow, htakes.full, htakes.invalid, htakes.checked⟩
  refine ⟨hreceives, ⟨?_, ?_, ?_⟩, fun hsuccess => hcode ▸ hsuccess⟩
  · rw [ExecutionRecord.eventPotential, ExecutionRecord.eventPotential, hcount]
    rcases hevents with ⟨hlength, -⟩ | ⟨hsame, -⟩
    · omega
    · rw [hsame]
      omega
  · rcases hevents with ⟨hlength, -⟩ | ⟨hsame, -⟩
    · omega
    · rw [hsame]
  · intro hflag
    rcases hevents with ⟨-, hsame⟩ | ⟨hsame, hfull⟩
    · exact .inl (hsame ▸ hflag)
    · rw [hsame]
      exact .inr hfull

variable [PyFloat F]

theorem account_event (kind : String) (details : List (String × Json)) (simStampNs : Option Int) :
  KeepsAccount b waypointCount 1 (event kind details simStampNs : Mission F Unit)
  := by
  intro fuel s history r s' u hrun
  have hrun := eq_getRecord hrun
  split at hrun
  · rename_i hfull
    cases hrun
    exact accounts_of_takes rfl (takes_event rfl rfl rfl rfl rfl (.inr ⟨rfl, hfull⟩))
  · have happend : ∀ stamp steady, KeepsAccount b waypointCount 1
        (modifyRecord fun record => { record with
          events := record.events ++ [{
            kind := kind
            simStampNs := stamp
            wallOffsetS := nonnegative (PyFloat.sub steady record.startedSteadyS)
            details := details }] } : Mission F Unit) := by
      intro stamp steady fuel s history r s' u hrun
      cases hrun
      refine accounts_of_takes rfl (takes_event rfl rfl rfl rfl rfl (.inl ⟨?_, rfl⟩))
      apply List.length_append
    have hrest : KeepsAccount b waypointCount 1 (do
        let stamp ← stampOrNow simStampNs
        let steady ← ask .steadyTimeS
        modifyRecord fun record => { record with
          events := record.events ++ [{
            kind := kind
            simStampNs := stamp
            wallOffsetS := nonnegative (PyFloat.sub steady record.startedSteadyS)
            details := details }] } : Mission F Unit) := by
      apply account_bind (account_stampOrNow simStampNs)
      intro stamp
      apply account_bind (account_ask rfl)
      intro steady
      apply happend
    exact hrest _ _ _ _ _ _ hrun

theorem account_wallOffset :
  KeepsAccount b waypointCount 0 (wallOffset : Mission F F)
  := by
  apply account_bind (account_ask rfl)
  intro steady
  apply account_bind account_getRecord
  intro record
  apply account_pure

/-- There is no spin among the interactions. -/
def Spinless (_ : MissionExecutor F) (u : List (Interaction F)) (_ : MissionExecutor F) : Prop :=
  spinCount u = 0

omit [PyFloat F] in
theorem spinless_sequential :
  @Sequential (missionSignature F) (MissionExecutor F) Spinless
  := by
  constructor
  · intro s
    rfl
  · intro s u s₁ v s₂ hu hv
    rw [Spinless, spinCount_append, hu, hv]

omit [PyFloat F] in
theorem spinless_ask (hc : c.isSpinOnce = false) :
  Respects (ask c) Spinless
  := by
  apply Respects.ask
  intro s r
  rw [Spinless, spinCount, List.countP_singleton, hc]
  rfl

omit [PyFloat F] in
theorem spinless_modifyRecord (f : ExecutionRecord F → ExecutionRecord F) :
  Respects (modifyRecord f) Spinless
  := Respects.modifyState fun _ => rfl

omit [PyFloat F] in
theorem spinless_getRecord :
  Respects (getRecord : Mission F (ExecutionRecord F)) Spinless
  := Respects.bind spinless_sequential (Respects.getState spinless_sequential) fun _ =>
    Respects.pure spinless_sequential _

omit [PyFloat F] in
theorem spinless_onlyIf {condition : Bool} {m : Mission F Unit} (hm : Respects m Spinless) :
  Respects (onlyIf condition m) Spinless
  := by
  cases condition with
  | true => apply hm
  | false => apply Respects.pure spinless_sequential

theorem spinless_event (kind : String) (details : List (String × Json)) (simStampNs : Option Int) :
  Respects (event kind details simStampNs : Mission F Unit) Spinless
  := by
  apply Respects.bind spinless_sequential spinless_getRecord
  intro record
  split
  · apply spinless_modifyRecord
  · apply Respects.bind spinless_sequential
    · cases simStampNs with
      | none => exact spinless_ask rfl
      | some stamp => apply Respects.pure spinless_sequential
    · intro stamp
      apply Respects.bind spinless_sequential (spinless_ask rfl)
      intro steady
      apply spinless_modifyRecord

theorem spinless_wallOffset :
  Respects (wallOffset : Mission F F) Spinless
  := by
  apply Respects.bind spinless_sequential (spinless_ask rfl)
  intro steady
  apply Respects.bind spinless_sequential spinless_getRecord
  intro record
  apply Respects.pure spinless_sequential

theorem spinless_recordFeedback (currentWaypoint : Int) :
  Respects (recordFeedback waypointCount currentWaypoint : Mission F Unit) Spinless
  := by
  apply Respects.bind spinless_sequential spinless_getRecord
  intro record
  split
  · apply Respects.bind spinless_sequential (spinless_modifyRecord _)
    intro _
    apply spinless_onlyIf (spinless_event _ _ _)
  · apply Respects.bind spinless_sequential (spinless_onlyIf (spinless_modifyRecord _))
    intro _
    apply Respects.bind spinless_sequential (spinless_ask rfl)
    intro stamp
    apply Respects.bind spinless_sequential spinless_wallOffset
    intro offset
    apply spinless_modifyRecord

omit [PyFloat F] in
/-- What a part without spins takes is no feedback. -/
theorem takes_of_account {k : Nat}
    (hm : KeepsAccount b waypointCount k m) (hspinless : Respects m Spinless) {r : Except Raised α}
    (h : m b.environment fuel s history = some (r, s', u)) :
  Takes waypointCount b.ClocksAnswer [] k s.record s'.record
  := by
  have htakes := (hm fuel s history r s' u h).takes
  have hu : spinCount u = 0 := hspinless.of_runs ⟨_, _, _, h⟩
  rw [Behaviour.delivered, spinCount_append, hu, Nat.add_zero, Nat.sub_self] at htakes
  exact htakes

variable {currentWaypoint : Int}

omit [PyFloat F] in
/-- While there is room, a piece of feedback is checked, and appended unless a clock raises. -/
theorem takes_room {answered : Prop} {record record' : ExecutionRecord F}
    {appended : Nat} (hroom : record.feedbackTrace.length < FEEDBACK_TRACE_CAPACITY)
    (htrace : record'.feedbackTrace.length = record.feedbackTrace.length + appended)
    (hle : appended ≤ 1) (hanswered : answered → appended = 1)
    (hinvalid : record'.invalidFeedbackCount =
      record.invalidFeedbackCount + invalidCount waypointCount [currentWaypoint])
    (hrest : Neutral record { record' with
      feedbackTrace := record.feedbackTrace
      invalidFeedbackCount := record.invalidFeedbackCount }) :
  Takes waypointCount answered [currentWaypoint] 0 record record'
  := by
  have htakes := hrest.takes waypointCount answered
  have hcount : record'.feedbackTraceOverflowCount = record.feedbackTraceOverflowCount :=
    hrest.overflowCount
  refine ⟨?_, ⟨htakes.reported, htakes.events, htakes.eventOverflow⟩, htakes.sober⟩
  constructor
  · intro _
    omega
  · rw [List.length_singleton]
    omega
  · intro h
    have := hanswered h
    rw [List.length_singleton]
    omega
  · omega
  · exact hcount.ge
  · exact htakes.overflow
  · rw [hcount]
    exact fun hless => absurd hless (lt_irrefl _)
  · exact hinvalid.le
  · exact fun _ => hinvalid

omit [PyFloat F] in
/-- Without room, a piece of feedback is counted, and the first one is reported next. -/
theorem receives_full {currentWaypoint : Int} {answered : Prop} {record : ExecutionRecord F}
    (hfull : FEEDBACK_TRACE_CAPACITY ≤ record.feedbackTrace.length) :
  Receives waypointCount answered [currentWaypoint] record { record with
    feedbackTraceOverflow := true
    feedbackTraceOverflowCount := record.feedbackTraceOverflowCount + 1 }
  where
  bounded h := h
  total := by
    simp only [List.length_singleton]
    omega
  counted _ := by
    simp only [List.length_singleton]
    omega
  grows := le_refl _
  overflows := Nat.le_succ _
  overflow := by
    simp
  full _ := hfull
  invalid := Nat.le_add_right _ _
  checked h := absurd h (Nat.succ_ne_self _)

variable {r : Except Raised Unit}

omit [PyFloat F] in
theorem eq_onlyIf_modifyRecord {condition : Bool}
    (h : onlyIf condition (modifyRecord f) env fuel s history = some (r, s', u)) :
  r = .ok () ∧ s'.record = (if condition then f s.record else s.record) ∧ u = []
  := by
  cases condition with
  | true =>
      cases h
      exact ⟨rfl, rfl, rfl⟩
  | false =>
      cases h
      exact ⟨rfl, rfl, rfl⟩

/-- The end of the callback, once the index has been checked. -/
def appendFeedback (currentWaypoint : Int) (valid : Bool) : Mission F Unit := do
  let stamp ← ask .simTimeNs
  let offset ← wallOffset
  modifyRecord fun record => { record with
    feedbackTrace := record.feedbackTrace ++ [{
      currentWaypoint := currentWaypoint
      simStampNs := stamp
      wallOffsetS := offset
      validIndex := valid }] }

/-- A piece of feedback is appended, unless a clock raises. -/
theorem appends_appendFeedback {valid : Bool}
    (h : appendFeedback currentWaypoint valid b.environment fuel s history = some (r, s', u)) :
  ∃ added, s'.record = { s.record with feedbackTrace := s.record.feedbackTrace ++ added } ∧
    added.length ≤ 1 ∧ (b.ClocksAnswer → added.length = 1)
  := by
  have hraised : s.record = { s.record with feedbackTrace := s.record.feedbackTrace ++ [] } := by
    rw [List.append_nil]
  rcases eq_bind h with ⟨e, -, hask⟩ | ⟨stamp, s₁, u₁, u₂, hask, rfl, hrest⟩
  · obtain ⟨herror, rfl, -⟩ := eq_ask hask
    refine ⟨[], hraised, Nat.zero_le 1, ?_⟩
    intro hclocks
    obtain ⟨t, ht⟩ := (hclocks history).1
    exact nomatch herror.trans ht
  obtain ⟨-, rfl, -⟩ := eq_ask hask
  rcases eq_bind hrest with ⟨e, -, hoffset⟩ | ⟨offset, s₂, v₁, v₂, hoffset, rfl, hmodify⟩
  · rcases eq_bind hoffset with ⟨e, -, hask⟩ | ⟨steady, s₃, w₁, w₂, hask, rfl, hread⟩
    · obtain ⟨herror, rfl, -⟩ := eq_ask hask
      refine ⟨[], hraised, Nat.zero_le 1, ?_⟩
      intro hclocks
      obtain ⟨t, ht⟩ := (hclocks (history ++ u₁)).2
      exact nomatch herror.trans ht
    · cases eq_getRecord hread
  · have hsame : s₂ = s₁ := by
      rcases eq_bind hoffset with ⟨e, he, -⟩ | ⟨steady, s₃, w₁, w₂, hask, rfl, hread⟩
      · cases he
      · obtain ⟨-, rfl, -⟩ := eq_ask hask
        cases eq_getRecord hread
        rfl
    cases hmodify
    subst hsame
    exact ⟨[_], rfl, le_refl 1, fun _ => rfl⟩

/-- A piece of feedback is received by the callback. -/
theorem takes_recordFeedback
    (h : recordFeedback waypointCount currentWaypoint b.environment fuel s history =
      some (r, s', u)) :
  Takes waypointCount b.ClocksAnswer [currentWaypoint] 0 s.record s'.record
  := by
  have h := eq_getRecord h
  split at h
  · rename_i hfull
    rcases eq_bind h with ⟨e, -, hmodify⟩ | ⟨_, s₁, u₁, u₂, hmodify, rfl, hevent⟩
    · cases hmodify
    · cases hmodify
      have hreceives := @receives_full _ waypointCount currentWaypoint b.ClocksAnswer _ hfull
      by_cases hzero : s.record.feedbackTraceOverflowCount = 0
      · have htakes : Takes waypointCount b.ClocksAnswer [] 1 _ s'.record := takes_of_account
          (account_onlyIf (account_event _ _ _)) (spinless_onlyIf (spinless_event _ _ _)) hevent
        have hafter := htakes.reported
        simp only [ExecutionRecord.eventPotential, hzero, Nat.zero_add, if_false,
          Nat.one_ne_zero] at hafter
        refine ⟨hreceives.trans htakes.toReceives, ⟨?_, htakes.events, htakes.eventOverflow⟩,
          htakes.sober⟩
        rw [ExecutionRecord.eventPotential, ExecutionRecord.eventPotential, hzero, if_pos rfl]
        omega
      · have hcondition : decide (s.record.feedbackTraceOverflowCount + 1 = 1) = false := by
          apply decide_eq_false
          omega
        rw [hcondition] at hevent
        cases hevent
        refine ⟨hreceives, ⟨?_, le_refl _, .inl⟩, id⟩
        rw [ExecutionRecord.eventPotential, ExecutionRecord.eventPotential, if_neg hzero,
          if_neg (Nat.succ_ne_zero _)]
  · rename_i hroom
    have hroom : s.record.feedbackTrace.length < FEEDBACK_TRACE_CAPACITY := Nat.lt_of_not_le hroom
    rcases eq_bind h with ⟨e, he, hcheck⟩ | ⟨_, s₁, u₁, u₂, hcheck, rfl, happend⟩
    · cases (eq_onlyIf_modifyRecord hcheck).1
    · have hchecked : s₁.record = { s.record with
          invalidFeedbackCount :=
            s.record.invalidFeedbackCount + invalidCount waypointCount [currentWaypoint] } := by
        rw [(eq_onlyIf_modifyRecord hcheck).2.1, invalidCount, List.countP_singleton, validIndex]
        split <;> rfl
      obtain ⟨added, happended, hle, hanswered⟩ := appends_appendFeedback happend
      rw [happended, hchecked]
      exact takes_room hroom List.length_append hle hanswered rfl
        ⟨rfl, rfl, rfl, rfl, rfl, rfl, id⟩

/-! ### Calls with callbacks -/

theorem takes_callbacks {ks : List Int}
    (h : callbacks (recordFeedback waypointCount) ks b.environment fuel s history =
      some (r, s', u)) :
  Takes waypointCount b.ClocksAnswer ks 0 s.record s'.record ∧ spinCount u = 0
  := by
  induction ks generalizing s history u with
  | nil =>
      cases h
      exact ⟨Takes.refl _ _ _, rfl⟩
  | cons currentWaypoint ks ih =>
      obtain ⟨r₁, s₁, u₁, u₂, hfirst, rfl, hrest⟩ := eq_andThen h
      obtain ⟨htakes, hspins⟩ := ih hrest
      have hfirstSpins : spinCount u₁ = 0 :=
        (spinless_recordFeedback currentWaypoint).of_runs ⟨_, _, _, hfirst⟩
      refine ⟨(takes_recordFeedback hfirst).trans htakes, ?_⟩
      rw [spinCount_append, hfirstSpins, hspins]

variable {config : MissionConfig F}

theorem account_perform (c : Call F) :
  KeepsAccount b config.waypoints.length 0 (perform config c)
  := by
  intro fuel s history r s' w hrun
  simp only [perform, call] at hrun
  split at hrun
  · cases hrun
  · rename_i r₁ s₁ u hcallbacks
    cases hrun
    obtain ⟨htakes, hspins⟩ := takes_callbacks hcallbacks
    have hcount : spinCount (history ++ (u ++ [⟨c, (b.environment history c).result⟩])) =
        spinCount history + if c.isSpinOnce then 1 else 0 := by
      rw [spinCount_append, spinCount_append, hspins, Nat.zero_add, spinCount, spinCount,
        List.countP_singleton]
    refine ⟨by rw [hcount]; apply Nat.le_add_right, ?_⟩
    have hdelivered : b.delivered history
        (history ++ (u ++ [⟨c, (b.environment history c).result⟩])) =
          (b.environment history c).callbacks := by
      rw [Behaviour.delivered, hcount, Nat.add_sub_cancel_left, Behaviour.environment]
      split
      · apply List.append_nil
      · rfl
    rw [hdelivered]
    exact htakes

theorem spinless_perform (hc : c.isSpinOnce = false) :
  Respects (perform config c) Spinless
  := by
  apply Respects.call spinless_sequential spinless_recordFeedback
  intro s r
  rw [Spinless, spinCount, List.countP_singleton, hc]
  rfl

end Parts

end Missions

end RobotestLab
