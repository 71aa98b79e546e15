import Mathlib.Data.Rat.Floor
import RobotestLab.Missions.Goal

/-!
# Missions that succeed

A phase 3 mission that returns success sent one goal. Before it the faults were reset and the
schedule was preloaded, after its acceptance exactly that schedule was armed for it, its status
stamp stayed the same until it succeeded, and then the faults were reset again
(`no_false_success`).
-/

namespace RobotestLab

namespace Missions

open Program

variable {F : Type}

/-! ### The status stamp while the goal is watched -/

/-- Every status that is polled has the given stamp. -/
def KeepsStatus (stampNs : Int) (u : List (Interaction F)) : Prop :=
  ∀ reply, ⟨.pollAcceptedStatusStampNs, reply⟩ ∈ u → reply = .ok (some stampNs)

variable {stampNs : Int}

theorem keepsStatus_append {u v : List (Interaction F)}
    (hu : KeepsStatus stampNs u) (hv : KeepsStatus stampNs v) :
  KeepsStatus stampNs (u ++ v)
  := by
  intro reply hmem
  rcases List.mem_append.mp hmem with hmem | hmem
  · apply hu reply hmem
  · apply hv reply hmem

theorem keepsStatus_of_waits {u : List (Interaction F)} (h : Waits u) :
  KeepsStatus stampNs u
  := by
  intro reply hmem
  cases h _ hmem

theorem keepsStatus_cons {i : Interaction F} {u : List (Interaction F)}
    (hi : ∀ reply, i = ⟨.pollAcceptedStatusStampNs, reply⟩ → reply = .ok (some stampNs))
    (hu : KeepsStatus stampNs u) :
  KeepsStatus stampNs (i :: u)
  := by
  intro reply hmem
  rcases List.mem_cons.mp hmem with hmem | hmem
  · apply hi reply hmem.symm
  · apply hu reply hmem

/-- The interactions of a round up to the poll of the terminal result, and then two more calls. -/
theorem keepsStatus_round {v₁ v₂ w : List (Interaction F)}
    {terminal : Option TerminalActionResult} {observed : Int} (hbefore : Waits v₁)
    (hbetween : Waits v₂) (hafter : Waits w) :
  KeepsStatus stampNs (v₁ ++ ⟨.pollAcceptedStatusStampNs, .ok (some stampNs)⟩ ::
    (v₂ ++ ⟨.pollTerminalResult, .ok terminal⟩ :: ⟨.simTimeNs, .ok observed⟩ :: w))
  := by
  apply keepsStatus_append (keepsStatus_of_waits hbefore)
  apply keepsStatus_cons
  · intro reply heq
    simpa using heq.symm
  · apply keepsStatus_append (keepsStatus_of_waits hbetween)
    apply keepsStatus_cons
    · intro reply heq
      cases heq
    · apply keepsStatus_cons
      · intro reply heq
        cases heq
      · apply keepsStatus_of_waits hafter

theorem keepsStatus_rounds {localNs stampNs : Int} {rounds : List (List (Interaction F))}
    (h : ∀ round ∈ rounds, IsRound localNs stampNs round) :
  KeepsStatus stampNs rounds.flatten
  := by
  intro reply hmem
  obtain ⟨round, hround, hmem⟩ := List.mem_flatten.mp hmem
  obtain ⟨v₁, v₂, w, observed, rfl, hbefore, hbetween, hafter, -⟩ := h round hround
  apply keepsStatus_round hbefore hbetween hafter reply hmem

section Success

variable [PyFloat F] (config : MissionConfig F) (faultDriver : Bool)
variable {s s' : MissionExecutor F} {u : List (Interaction F)}

/-- The loop that ends with success ends with the terminal result of a goal that succeeded. -/
theorem succeeded_of_monitored {localNs stampNs : Int}
    (h : Monitored config localNs stampNs s u s')
    (haccepted : s.record.acceptedGoalStampNs = some stampNs)
    (hsuccess : s'.record.exitCode = .success) :
  KeepsStatus stampNs u ∧ ∃ terminal observed,
    [⟨.pollTerminalResult, .ok (some terminal)⟩, ⟨.simTimeNs, .ok observed⟩] <:+: u ∧
    terminal.Succeeded ∧ stampNs ≤ observed ∧ s'.record.terminalResult = some terminal ∧
    s'.record.terminalActionStampNs = some observed
  := by
  obtain ⟨rounds, last, s₁, rfl, hrounds, hobserves, hended⟩ := h
  have hstamp : s₁.record.acceptedGoalStampNs = some stampNs := by
    rw [← haccepted]
    exact hobserves.field (·.acceptedGoalStampNs) fun _ => rfl
  cases hended with
  | @terminal v₁ v₂ w terminal observed hlast hbefore hbetween hafter hresult
      hobserved hsucceeded =>
      subst hlast
      obtain ⟨hterminal, hafterStamp⟩ := hsucceeded hsuccess
      constructor
      · apply keepsStatus_append (keepsStatus_rounds hrounds)
        apply keepsStatus_round hbefore hbetween hafter
      · refine ⟨terminal, observed, ?_, hterminal, hafterStamp stampNs hstamp, hresult, hobserved⟩
        refine ⟨rounds.flatten ++ (v₁ ++
          (⟨.pollAcceptedStatusStampNs, .ok (some stampNs)⟩ :: v₂)), w, ?_⟩
        simp only [List.append_assoc, List.cons_append, List.nil_append]
  | regressed _ _ _ _ _ hcode => exact absurd hsuccess hcode
  | canceled _ _ _ _ _ hcancel => exact absurd hsuccess (runs_cancelAfterDeadline config hcancel).2
  | stopped _ hcode => exact absurd hsuccess hcode

/-! ### The final reset -/

omit [PyFloat F] in
theorem silent_allowsReset :
  AllowsReset (Silent (F := F))
  := silent_allowsFollowing.toAllowsReset

/-- The reset of the final phase is confirmed, or the handler of exceptions reports that it is
not. -/
theorem runs_finalReset {confirmed : Bool}
    (h : Runs (exceptException (resetFaults config faultDriver false) fun text => do
      event "fault_teardown_error" [("message", .str text)]
      pure false) s u (.ok confirmed) s') :
  Observes Silent s u s' ∧ (confirmed = true → ResetConfirmed u)
  := by
  have hreset := observes_resetFaults config faultDriver (silent_allowsReset (F := F)) false
  rcases runs_attempt h with ⟨_, hvalue, hrun⟩ | ⟨e, s₁, u₁, u₂, rfl, hrun, hhandler⟩
  · obtain rfl := Except.ok.inj hvalue
    refine ⟨hreset.of_runs hrun, ?_⟩
    rintro rfl
    apply runs_resetFaults config faultDriver hrun
  · have hreported : ∀ text, Runs (do
        event "fault_teardown_error" [("message", .str text)]
        pure false) s₁ u₂ (.ok confirmed) s' → Observes Silent s₁ u₂ s' ∧ confirmed = false := by
      intro text hrun'
      obtain ⟨_, s₂, u₃, u₄, rfl, hevent, hpure⟩ := runs_bind_ok hrun'
      obtain ⟨hvalue, rfl, rfl⟩ := runs_pure hpure
      rw [List.append_nil]
      exact ⟨(observes_event silent_allowsWaiting _ _ _).of_runs hevent, Except.ok.inj hvalue⟩
    have hfailed : Observes Silent s₁ u₂ s' ∧ confirmed = false := by
      cases e with
      | baseException text => cases (runs_raise hhandler).1
      | feedbackTraceOverflowError text => apply hreported _ hhandler
      | faultProtocolError text => apply hreported _ hhandler
      | actionProtocolError text => apply hreported _ hhandler
      | exception text => apply hreported _ hhandler
    obtain ⟨hobserves, rfl⟩ := hfailed
    refine ⟨(observes_sequential Silent).trans (hreset.of_runs hrun) hobserves, ?_⟩
    intro hconfirmed
    cases hconfirmed

/-- Only evidence is added, unless the verdict becomes an infrastructure error. -/
def Degrades (s : MissionExecutor F) (u : List (Interaction F)) (s' : MissionExecutor F) : Prop :=
  (∀ i ∈ u, Silent i.1) ∧ s'.record.terminalResult = s.record.terminalResult ∧
    (s'.record.exitCode = .success → s.record.exitCode = .success ∧
      s'.record.terminalActionStampNs = s.record.terminalActionStampNs)

omit [PyFloat F] in
theorem degrades_of_observes (h : Observes Silent s u s') :
  Degrades s u s'
  := by
  refine ⟨h.calls, h.field (·.terminalResult) fun _ => rfl, ?_⟩
  intro hsuccess
  refine ⟨?_, h.field (·.terminalActionStampNs) fun _ => rfl⟩
  rw [← hsuccess]
  exact (h.field (·.exitCode) fun _ => rfl).symm

omit [PyFloat F] in
theorem degrades_trans {s₁ : MissionExecutor F} {v : List (Interaction F)} (h : Degrades s u s₁)
    (h' : Degrades s₁ v s') :
  Degrades s (u ++ v) s'
  := by
  refine ⟨?_, h'.2.1.trans h.2.1, ?_⟩
  · intro i hi
    rcases List.mem_append.mp hi with hi | hi
    · apply h.1 i hi
    · apply h'.1 i hi
  · intro hsuccess
    obtain ⟨hcode, hstamp⟩ := h'.2.2 hsuccess
    obtain ⟨hcode', hstamp'⟩ := h.2.2 hcode
    exact ⟨hcode', hstamp.trans hstamp'⟩

/-- The final reset keeps a success only if it is confirmed. -/
theorem runs_tearDown (h : Runs (tearDown config faultDriver) s u (.ok ()) s') :
  Degrades s u s' ∧ (s'.record.exitCode = .success → ResetConfirmed u)
  := by
  obtain ⟨confirmed, s₁, u₁, u₂, rfl, hreset, h₁⟩ := runs_bind_ok h
  obtain ⟨hobserves, hconfirmed⟩ := runs_finalReset config faultDriver hreset
  obtain ⟨_, s₂, u₃, u₄, rfl, honly, hcollect⟩ := runs_bind_ok h₁
  have hverdict : Degrades s₁ u₃ s₂ ∧ (s₂.record.exitCode = .success → confirmed = true) := by
    cases confirmed with
    | true =>
        obtain ⟨-, rfl, rfl⟩ := runs_pure honly
        exact ⟨degrades_of_observes ((observes_sequential Silent).refl s₂), fun _ => rfl⟩
    | false =>
        rw [onlyIf, if_pos Bool.not_false] at honly
        obtain ⟨rfl, rfl⟩ := runs_modifyRecord honly
        exact ⟨⟨by simp, rfl, by simp⟩, by simp⟩
  have hlast : Degrades s₂ u₄ s' := by
    have hdrain := observes_collectFaultEvents (K := Silent) config faultDriver
      silent_allowsReset.toAllowsDraining
    rcases runs_attempt hcollect with ⟨_, -, hrun⟩ | ⟨e, s₃, u₅, u₆, rfl, hrun, hhandler⟩
    · apply degrades_of_observes (hdrain.of_runs hrun)
    · apply degrades_trans (degrades_of_observes (hdrain.of_runs hrun))
      cases e with
      | faultProtocolError text =>
          obtain ⟨rfl, rfl⟩ := runs_modifyRecord hhandler
          exact ⟨by simp, rfl, by simp⟩
      | baseException text => cases (runs_raise hhandler).1
      | feedbackTraceOverflowError text => cases (runs_raise hhandler).1
      | actionProtocolError text => cases (runs_raise hhandler).1
      | exception text => cases (runs_raise hhandler).1
  constructor
  · apply degrades_trans (degrades_of_observes hobserves)
    apply degrades_trans hverdict.1 hlast
  · intro hsuccess
    have hcode := (hlast.2.2 hsuccess).1
    obtain ⟨response, batch, resetEvent, hsublist, hrest⟩ := hconfirmed (hverdict.2 hcode)
    exact ⟨response, batch, resetEvent, hsublist.trans (List.sublist_append_left _ _), hrest⟩

/-! ### Success -/

/-- What a phase 3 mission did that succeeded, in five parts: before the goal was sent, up to the
acceptance of the goal, up to the arming of the faults, up to the terminal result, and the final
reset. -/
structure Accomplished (schedule : FaultSchedule) (generation : Int) (goalUuid : String)
    (stampNs : Int) (before accept arm loop teardown : List (Interaction F))
    (record : ExecutionRecord F) : Prop where
  configured : config.faultSchedule = some schedule
  once : ∀ i ∈ before ++ (accept ++ (arm ++ (loop ++ teardown))), NotStart i.1
  prepared : ∃ reset prepare, before = reset ++ prepare ∧ ResetConfirmed reset ∧
    Prepared schedule generation prepare
  accepted : ∃ response : GoalResponse, response.accepted = true ∧
    response.goalUuid = some goalUuid ∧
    [⟨.pollGoalResponse, .ok (some response)⟩,
      ⟨.pollAcceptedStatusStampNs, .ok (some stampNs)⟩].Sublist accept
  armed : Armed schedule generation goalUuid stampNs arm
  status : KeepsStatus stampNs loop
  terminal : ∃ terminal observed,
    [⟨.pollTerminalResult, .ok (some terminal)⟩, ⟨.simTimeNs, .ok observed⟩] <:+: loop ∧
    terminal.Succeeded ∧ stampNs ≤ observed ∧ record.terminalResult = some terminal ∧
    record.terminalActionStampNs = some observed
  reset : ResetConfirmed teardown

/-- The body of a mission that ends with success, without the final reset. -/
theorem accomplished_of_runOnce (hphase : config.isPhase3 = true)
    (h : Runs (runOnce config faultDriver) s u (.ok ()) s')
    (hsuccess : s'.record.exitCode = .success) :
  ∃ schedule generation goalUuid stampNs submissionNs before accept arm loop,
    u = before ++ ⟨.startGoal submissionNs, .ok ()⟩ :: (accept ++ (arm ++ loop)) ∧
    ∀ teardown record, ResetConfirmed teardown → (∀ i ∈ teardown, Silent i.1) →
      record.terminalResult = s'.record.terminalResult →
      record.terminalActionStampNs = s'.record.terminalActionStampNs →
      Accomplished config schedule generation goalUuid stampNs before accept arm loop
        teardown record
  := by
  rcases runs_attempt h with ⟨_, -, hbody⟩ | ⟨e, s₁, u₁, u₂, rfl, -, hhandler⟩
  · rcases runs_runBody config faultDriver hbody with ⟨-, hcode⟩ | ⟨submissionNs, response, before,
      wait, w, s₁, rfl, hsubmitted, hfollow⟩
    · exact absurd hsuccess (hcode rfl)
    · have hsilent := (silent_followGoal config faultDriver hfollow).1
      rcases runs_followGoal config faultDriver hfollow with habandoned | ⟨goalUuid, localNs,
        stampNs, accept, arm, loop, huuid, rfl, hwatched⟩
      · exact absurd hsuccess habandoned.2
      · obtain ⟨schedule, generation, reset, prepare, hschedule, hbefore, hreset, hprepared,
          hgeneration⟩ := hsubmitted.prepared hphase
        obtain ⟨schedule', generation', hschedule', hgeneration', harmed⟩ := hwatched.armed hphase
        obtain rfl := Option.some.inj (hschedule.symm.trans hschedule')
        obtain rfl := Option.some.inj (hgeneration.symm.trans hgeneration')
        obtain ⟨s₂, haccepted, -, hmonitored⟩ := hwatched.monitored
        obtain ⟨hstatus, terminal, observed, hinfix, hsucceeded, hafter, hresult, hstamp⟩ :=
          succeeded_of_monitored config hmonitored haccepted hsuccess
        refine ⟨schedule, generation, goalUuid, stampNs, submissionNs, before,
          wait ++ ⟨.pollGoalResponse, .ok (some response)⟩ :: ⟨.simTimeNs, .ok localNs⟩ :: accept,
          arm, loop, ?_, ?_⟩
        · simp only [List.append_assoc, List.cons_append]
        · intro teardown record hteardown hsilent' hresult' hstamp'
          refine ⟨hschedule, ?_, ⟨reset, prepare, hbefore, hreset, hprepared⟩, ?_, harmed, hstatus,
            ?_, hteardown⟩
          · intro i hi
            simp only [List.mem_append, List.mem_cons] at hi hsilent
            rcases hi with hi | (hi | rfl | rfl | hi) | hi | hi | hi
            · apply notStart_of_silent (hsubmitted.notBefore i hi)
            · apply hsubmitted.notWhileWaiting i hi
            · rintro _ ⟨⟩
            · rintro _ ⟨⟩
            · apply notStart_of_silent (hsilent i (by simp [hi]))
            · apply notStart_of_silent (hsilent i (by simp [hi]))
            · apply notStart_of_silent (hsilent i (by simp [hi]))
            · apply notStart_of_silent (hsilent' i hi)
          · refine ⟨response, hsubmitted.accepted, huuid, ?_⟩
            apply List.Sublist.trans _ (List.sublist_append_right _ _)
            apply List.Sublist.cons_cons
            apply List.Sublist.cons
            apply List.singleton_sublist.mpr hwatched.status
          · exact ⟨terminal, observed, hinfix, hsucceeded, hafter, hresult'.trans hresult,
              hstamp'.trans hstamp⟩
  · exact absurd hsuccess (runs_handleError config hhandler).2

/-- A phase 3 mission returns success only if the goal was sent once, with the faults prepared
before it, armed for it after its acceptance and reset after it, and the goal succeeded under the
same status stamp, whatever the drivers, the clocks and the callbacks do. -/
theorem no_false_success {env : (missionSignature F).Environment} {fuel : Nat} {startNs : Int}
    {startS : F} {record : ExecutionRecord F} {s' : MissionExecutor F} {u : List (Interaction F)}
    (hphase : config.isPhase3 = true)
    (h : run config faultDriver env fuel (MissionExecutor.new startNs startS) [] =
      some (.ok record, s', u))
    (hsuccess : record.exitCode = .success) :
  ∃ schedule generation goalUuid stampNs submissionNs before accept arm loop teardown,
    u = before ++ ⟨.startGoal submissionNs, .ok ()⟩ :: (accept ++ (arm ++ (loop ++ teardown))) ∧
    Accomplished config schedule generation goalUuid stampNs before accept arm loop teardown record
  := by
  have hrun : Runs (run config faultDriver) (MissionExecutor.new startNs startS) u
      (.ok record) s' :=
    ⟨env, fuel, [], h⟩
  obtain ⟨_, s₁, u₁, u₂, rfl, honce, h₁⟩ := runs_bind_ok hrun
  obtain ⟨_, s₂, u₃, u₄, rfl, hdown, hrecord⟩ := runs_bind_ok h₁
  obtain ⟨rfl, rfl, rfl⟩ := runs_getRecord hrecord
  rw [onlyIf, if_pos hphase] at hdown
  obtain ⟨⟨hsilent, hresult, hkeeps⟩, hconfirmed⟩ := runs_tearDown config faultDriver hdown
  obtain ⟨hcode, hstamp⟩ := hkeeps hsuccess
  obtain ⟨schedule, generation, goalUuid, stampNs, submissionNs, before, accept, arm, loop, rfl,
    haccomplished⟩ := accomplished_of_runOnce config faultDriver hphase honce hcode
  refine ⟨schedule, generation, goalUuid, stampNs, submissionNs, before, accept, arm, loop, u₃, ?_,
    haccomplished u₃ _ (hconfirmed hsuccess) hsilent hresult hstamp⟩
  simp only [List.append_assoc, List.cons_append, List.append_nil]

end Success

/-! ### A sample mission -/

section Sample

/-- Exact arithmetic. -/
instance sampleFloat : PyFloat ℚ where
  ofRat value := value
  add := (· + ·)
  sub := (· - ·)
  mul := (· * ·)
  lt a b := a < b
  le a b := a ≤ b
  truncate value := .ok (value.num.tdiv value.den)

/-- The schedule without faults. -/
def sampleSchedule : FaultSchedule where
  schemaVersion := 1
  faults := []
  canonicalJson := "\x7b\"schema_version\":1,\"faults\":[]\x7d"
  sha256 := "26080d7dc8f4108a369962ecad1d2e29941a991af68beb415067eae1dc1de6f8"

def sampleConfig : MissionConfig ℚ where
  waypoints := []
  missionTimeoutSimS := 10
  wallEscapeTimeoutS := 10
  faultSchedule := some sampleSchedule
  scenarioId := some 1

def sampleGoalUuid : String := "00000000-0000-0000-0000-000000000001"

def sampleStampNs : Int := 1100000000

def Call.spins : Call ℚ → Bool
  | .spinOnce _ => true
  | _ => false

/-- The requests to the fault proxy. -/
def Call.requests : Call ℚ → Bool
  | .startReset => true
  | .startPreload _ => true
  | .startArm _ _ _ _ => true
  | _ => false

def Call.drains : Call ℚ → Bool
  | .drainEvents => true
  | _ => false

/-- An event with the fields that all events have. -/
def sampleEvent (sequence eventType : Int) (fields : List (String × PyValue)) : FaultEventDict :=
  let common : List (String × PyValue) := [("schema_version", .int 2),
    ("event_sequence", .int sequence), ("event_type", .int eventType), ("accepted", .bool true),
    ("replayed", .bool false)]
  (common ++ fields).map fun field => (.str field.1, field.2)

/-- The event of the last request, once. -/
def sampleEvents (history : List (Interaction ℚ)) : List FaultEventDict :=
  let sequence : Int := (history.filter fun i => i.1.requests).length
  if (history.reverse.takeWhile fun i => !i.1.requests).any fun i => i.1.drains then []
  else match history.reverse.find? fun i => i.1.requests with
    | some ⟨.startReset, _⟩ => [sampleEvent sequence 3 [("state_after", .int 0)]]
    | some ⟨.startPreload schedule, _⟩ => [sampleEvent sequence 1 [
        ("state_after", .int 1),
        ("requested_schedule_hash", .str schedule.sha256),
        ("committed_schedule_hash", .str schedule.sha256),
        ("requested_fault_count", .int schedule.faults.length),
        ("committed_fault_count", .int schedule.faults.length),
        ("committed_generation", .int 1)]]
    | some ⟨.startArm scheduleHash generation goalUuid stampNs, _⟩ => [sampleEvent sequence 7 [
        ("state_after", .int 2),
        ("requested_schedule_hash", .str scheduleHash),
        ("committed_schedule_hash", .str scheduleHash),
        ("requested_generation", .int generation),
        ("committed_generation", .int generation),
        ("requested_goal_uuid", .str goalUuid),
        ("bound_goal_uuid", .str goalUuid),
        ("requested_t0_ns", .int stampNs),
        ("bound_t0_ns", .int stampNs),
        ("arm_commit_stamp_ns", .int stampNs),
        ("arm_margin_ns", .int 0),
        ("actual_stamp_ns", .int stampNs),
        ("header_stamp_ns", .int stampNs)]]
    | _ => []

/-- An environment in which everything is granted and the goal succeeds after three spins. The
simulation clock is the given function of the calls so far. -/
def sampleEnvironment (clock : List (Interaction ℚ) → Int) : (missionSignature ℚ).Environment
  | history, c =>
    let spins := (history.filter fun i => i.1.spins).length
    match c with
    | .runtimeOk => { result := .ok true }
    | .simTimeNs => { result := .ok (clock history) }
    | .steadyTimeS => { result := .ok (spins / 16) }
    | .spinOnce _ => { result := .ok () }
    | .serverIsReady => { result := .ok true }
    | .startGoal _ => { result := .ok () }
    | .pollGoalResponse => { result := .ok (some {
        accepted := true
        goalUuid := some sampleGoalUuid
        responseStampNs := some 0 }) }
    | .acceptedGoalIsActive => { result := .ok true }
    | .pollAcceptedStatusStampNs => { result := .ok (some sampleStampNs) }
    | .pollTerminalResult => { result := .ok (if 3 ≤ spins then some {
        statusCode := 4
        errorCode := 0
        errorMessage := ""
        missedWaypoints := [] } else none) }
    | .requestCancel => { result := .ok () }
    | .pollCancelAcknowledgement => { result := .ok (some true) }
    | .servicesAreReady => { result := .ok true }
    | .startReset => { result := .ok () }
    | .pollResetResponse => { result := .ok (some { success := true, message := "reset" }) }
    | .startPreload _ => { result := .ok () }
    | .pollPreloadResponse => { result := .ok (some {
        accepted := true
        replayed := false
        state := 1
        scheduleHash := sampleSchedule.sha256
        loadedCount := 0
        generation := 1
        message := "prepared" }) }
    | .startArm _ _ _ _ => { result := .ok () }
    | .pollArmResponse => { result := .ok (some {
        accepted := true
        replayed := false
        state := 2
        scheduleHash := sampleSchedule.sha256
        generation := 1
        goalUuid := sampleGoalUuid
        acceptedGoalStampNs := sampleStampNs
        armCommitStampNs := sampleStampNs
        armMarginNs := 0
        message := "armed" }) }
    | .drainEvents => { result := .ok (sampleEvents history) }
    | .eventOverflowCount => { result := .ok 0 }

/-- The simulation clock advances by 50 ms with every spin. -/
def sampleClock (history : List (Interaction ℚ)) : Int :=
  1000000000 + 50000000 * (history.filter fun i => i.1.spins).length

/-- The mission without faults succeeds in the sample environment. -/
theorem no_false_success_sample :
  ∃ record s' u, run sampleConfig true (sampleEnvironment sampleClock) 50
      (MissionExecutor.new 1000000000 0) [] = some (.ok record, s', u) ∧
    record.exitCode = .success ∧
    ∃ schedule generation goalUuid stampNs submissionNs before accept arm loop teardown,
      u = before ++ ⟨.startGoal submissionNs, .ok ()⟩ :: (accept ++ (arm ++ (loop ++ teardown))) ∧
      Accomplished sampleConfig schedule generation goalUuid stampNs before accept arm loop teardown
        record
  := by
  have hcode : ((run sampleConfig true (sampleEnvironment sampleClock) 50
      (MissionExecutor.new 1000000000 0) []).map fun w => w.1.map (·.exitCode)) =
        some (.ok .success) := by
    decide +kernel
  obtain ⟨⟨r, s', u⟩, hrun, hresult⟩ := Option.map_eq_some_iff.mp hcode
  match r, hresult, hrun with
  | .ok record, hresult, hrun =>
      have hsuccess : record.exitCode = .success := Except.ok.inj hresult
      exact ⟨record, s', u, hrun, hsuccess, no_false_success sampleConfig true rfl hrun hsuccess⟩

end Sample

end Missions

end RobotestLab
