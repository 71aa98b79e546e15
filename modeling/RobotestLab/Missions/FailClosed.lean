import RobotestLab.Missions.Success

/-!
# Accepted goals are canceled

A mission that returns without the terminal result of an accepted goal has requested the
cancellation of the goal, as long as the simulation clock does not fall behind its reading at the
acceptance (`fail_closed_of_clockHolds`). If it falls behind, the loop that waits for the terminal
result ends the mission at once, and the goal is left as it is (`fail_closed_regressed`).
-/

namespace RobotestLab

namespace Missions

open Program

variable {F : Type}

/-- The runtime is up at every test of it. -/
def RuntimeStays (u : List (Interaction F)) : Prop :=
  ∀ reply, ⟨.runtimeOk, reply⟩ ∈ u → reply = .ok true

def CancelRequested (u : List (Interaction F)) : Prop := ∃ reply, ⟨.requestCancel, reply⟩ ∈ u

/-- A goal is not abandoned: if it was accepted and has no terminal result, its cancellation was
requested. -/
def FailsClosed (u : List (Interaction F)) (record : ExecutionRecord F) : Prop :=
  ∀ response : GoalResponse, response.accepted = true →
    ⟨.pollGoalResponse, .ok (some response)⟩ ∈ u → record.terminalResult = none →
      CancelRequested u

/-- The simulation clock, read after a terminal result that is pending, is not behind its first
reading after the acceptance of the goal, unless the cancellation was requested before. -/
def ClockHolds (u : List (Interaction F)) : Prop :=
  ∀ v w response localNs observed,
    u = v ++ ⟨.pollTerminalResult, .ok none⟩ :: ⟨.simTimeNs, .ok observed⟩ :: w →
    [⟨.pollGoalResponse, .ok (some response)⟩, ⟨.simTimeNs, .ok localNs⟩] <:+: v →
    ¬ CancelRequested v → localNs ≤ observed

/-- The readings of the simulation clock. -/
def readings (u : List (Interaction F)) : List Int := u.filterMap fun
  | ⟨.simTimeNs, .ok stampNs⟩ => some stampNs
  | _ => none

/-- A simulation clock that never goes back holds. -/
theorem clockHolds_of_monotone {u : List (Interaction F)} (h : (readings u).Pairwise (· ≤ ·)) :
  ClockHolds u
  := by
  rintro v w response localNs observed rfl ⟨v₁, v₂, rfl⟩ -
  simp only [readings, List.filterMap_append, List.filterMap_cons] at h
  apply (List.pairwise_append.mp h).2.2 localNs (by simp) observed (by simp)

section FailClosed

variable [PyFloat F] (config : MissionConfig F) (faultDriver : Bool)
variable {s s' : MissionExecutor F} {u : List (Interaction F)}

/-- The loop that waits for the terminal result ends with the result, with a cancellation, or
because the clock or the runtime failed. -/
theorem ends_of_monitored {localNs stampNs : Int} (h : Monitored config localNs stampNs s u s') :
  s'.record.terminalResult ≠ none ∨ CancelRequested u ∨
    (∃ v observed, u = v ++ [⟨.pollTerminalResult, .ok none⟩, ⟨.simTimeNs, .ok observed⟩] ∧
      observed < localNs) ∨ ⟨.runtimeOk, .ok false⟩ ∈ u
  := by
  obtain ⟨rounds, last, s₁, rfl, -, -, hended⟩ := h
  cases hended with
  | terminal _ _ _ _ hresult _ _ =>
      left
      rw [hresult]
      simp
  | @regressed v₁ v₂ observed hlast _ _ hregression _ _ =>
      right; right; left
      refine ⟨rounds.flatten ++ (v₁ ++ (⟨.pollAcceptedStatusStampNs, .ok (some stampNs)⟩ :: v₂)),
        observed, ?_, hregression⟩
      rw [hlast]
      simp only [List.append_assoc, List.cons_append]
  | canceled hlast _ _ _ _ hcancel =>
      right; left
      obtain ⟨reply, hreply⟩ := (runs_cancelAfterDeadline config hcancel).1
      refine ⟨reply, ?_⟩
      rw [hlast]
      simp [hreply]
  | stopped hlast _ =>
      right; right; right
      rw [hlast]
      simp

/-- A mission that returns, up to the final reset. -/
theorem failsClosed_of_runOnce (h : Runs (runOnce config faultDriver) s u (.ok ()) s')
    {v : List (Interaction F)} (hv : ∀ i ∈ v, Silent i.1) (hruntime : RuntimeStays (u ++ v))
    (hclock : ClockHolds (u ++ v)) :
  FailsClosed (u ++ v) s'.record
  := by
  intro response haccepted hmem hnone
  by_contra hcancel
  have hmem' : ⟨.pollGoalResponse, .ok (some response)⟩ ∈ u := by
    rcases List.mem_append.mp hmem with hmem | hmem
    · exact hmem
    · exact absurd hmem (not_mem_of_silent hv)
  rcases runs_attempt h with ⟨_, -, hbody⟩ | ⟨e, s₁, u₁, u₂, rfl, hbody, hhandler⟩
  · rcases runs_runBody config faultDriver hbody with ⟨hunaccepted, -⟩ | ⟨submissionNs, response',
      before, wait, w, s₁, rfl, hsubmitted, hfollow⟩
    · exact hunaccepted response haccepted hmem'
    · rcases runs_followGoal config faultDriver hfollow with habandoned | ⟨goalUuid, localNs,
        stampNs, accept, arm, loop, -, rfl, hwatched⟩
      · obtain ⟨reply, hreply⟩ := habandoned.1
        exact hcancel ⟨reply, by simp [hreply]⟩
      · obtain ⟨s₂, -, -, hmonitored⟩ := hwatched.monitored
        rcases ends_of_monitored config hmonitored with hresult | hcancel' |
          ⟨v', observed, rfl, hregression⟩ | hstopped
        · exact hresult hnone
        · obtain ⟨reply, hreply⟩ := hcancel'
          exact hcancel ⟨reply, by simp [hreply]⟩
        · have hholds := hclock (before ++ ⟨.startGoal submissionNs, .ok ()⟩ :: (wait ++
              ⟨.pollGoalResponse, .ok (some response')⟩ :: ⟨.simTimeNs, .ok localNs⟩ ::
                (accept ++ (arm ++ v')))) v response' localNs observed ?_ ?_ ?_
          · exact absurd hregression (Int.not_lt.mpr hholds)
          · simp only [List.append_assoc, List.cons_append, List.nil_append]
          · refine ⟨before ++ ⟨.startGoal submissionNs, .ok ()⟩ :: wait, accept ++ (arm ++ v'), ?_⟩
            simp only [List.append_assoc, List.cons_append, List.nil_append]
          · rintro ⟨reply, hreply⟩
            apply hcancel
            refine ⟨reply, ?_⟩
            simp only [List.mem_append, List.mem_cons] at hreply ⊢
            tauto
        · have hok := hruntime (.ok false) (by simp [hstopped])
          cases hok
  · have hquiet := (quiet_handleError config
      silent_allowsFollowing.toAllowsClosing e).of_runs hhandler
    rcases runs_runBody config faultDriver hbody with ⟨hunaccepted, -⟩ | ⟨submissionNs, response',
      before, wait, w, s₂, rfl, hsubmitted, hfollow⟩
    · rcases List.mem_append.mp hmem' with hmem' | hmem'
      · exact hunaccepted response haccepted hmem'
      · exact not_mem_of_silent hquiet.calls hmem'
    · have hactive := (silent_followGoal config faultDriver hfollow).2
      obtain ⟨reply, hreply⟩ := (runs_handleError config hhandler).1 hactive
      exact hcancel ⟨reply, by simp [hreply]⟩

/-- A mission that returns while the runtime is up does not abandon an accepted goal, as long as the
simulation clock holds. -/
theorem fail_closed_of_clockHolds {env : (missionSignature F).Environment} {fuel : Nat}
    {startNs : Int} {startS : F} {record : ExecutionRecord F} {s' : MissionExecutor F}
    {u : List (Interaction F)}
    (h : run config faultDriver env fuel (MissionExecutor.new startNs startS) [] =
      some (.ok record, s', u))
    (hruntime : RuntimeStays u) (hclock : ClockHolds u) :
  FailsClosed u record
  := by
  have hrun : Runs (run config faultDriver) (MissionExecutor.new startNs startS) u
      (.ok record) s' :=
    ⟨env, fuel, [], h⟩
  obtain ⟨_, s₁, u₁, u₂, rfl, honce, h₁⟩ := runs_bind_ok hrun
  obtain ⟨_, s₂, u₃, u₄, rfl, hdown, hrecord⟩ := runs_bind_ok h₁
  obtain ⟨rfl, rfl, rfl⟩ := runs_getRecord hrecord
  rw [List.append_nil] at hruntime hclock ⊢
  have hreset : (∀ i ∈ u₃, Silent i.1) ∧
      s'.record.terminalResult = s₁.record.terminalResult := by
    unfold onlyIf at hdown
    split at hdown
    · obtain ⟨⟨hsilent, hresult, -⟩, -⟩ := runs_tearDown config faultDriver hdown
      exact ⟨hsilent, hresult⟩
    · obtain ⟨-, rfl, rfl⟩ := runs_pure hdown
      exact ⟨by simp, rfl⟩
  intro response haccepted hmem hnone
  rw [hreset.2] at hnone
  exact failsClosed_of_runOnce config faultDriver honce hreset.1 hruntime hclock response haccepted
    hmem hnone

end FailClosed

/-! ### A sample clock that regresses -/

section Sample

def Call.polls : Call ℚ → Bool
  | .pollTerminalResult => true
  | _ => false

/-- The simulation starts again when the terminal result is polled for the first time. -/
def restartedClock (history : List (Interaction ℚ)) : Int :=
  if history.any fun i => i.1.polls then 50000000 else sampleClock history

/-- The runtime is up, if the interaction is a test of it. -/
def runtimeUp : Interaction ℚ → Bool
  | ⟨.runtimeOk, .ok ok⟩ => ok
  | ⟨.runtimeOk, .error _⟩ => false
  | _ => true

def requestsCancel : Interaction ℚ → Bool
  | ⟨.requestCancel, _⟩ => true
  | _ => false

def acceptsGoal : Interaction ℚ → Bool
  | ⟨.pollGoalResponse, .ok (some response)⟩ => response.accepted
  | _ => false

theorem runtimeStays_of_all {u : List (Interaction ℚ)} (h : u.all runtimeUp = true) :
  RuntimeStays u
  := by
  intro reply hmem
  have hreply := List.all_eq_true.mp h _ hmem
  cases reply with
  | ok ok => exact congrArg _ hreply
  | error e => cases hreply

theorem accepted_of_any {u : List (Interaction ℚ)} (h : u.any acceptsGoal = true) :
  ∃ response : GoalResponse, response.accepted = true ∧
    ⟨.pollGoalResponse, .ok (some response)⟩ ∈ u
  := by
  obtain ⟨i, hi, haccepts⟩ := List.any_eq_true.mp h
  match i, haccepts, hi with
  | ⟨.pollGoalResponse, .ok (some response)⟩, haccepts, hi => exact ⟨response, haccepts, hi⟩

/-- The request of the cancellation is rejected. -/
def rejectedEnvironment : (missionSignature ℚ).Environment
  | _, .pollCancelAcknowledgement => { result := .ok (some false) }
  | history, c => sampleEnvironment sampleClock history c

/-- A goal whose mission has no time left is canceled. -/
theorem fail_closed_of_deadline :
  ∃ record s' u response,
    run { sampleConfig with missionTimeoutSimS := 0 } true rejectedEnvironment 50
      (MissionExecutor.new 1000000000 0) [] = some (.ok record, s', u) ∧
    RuntimeStays u ∧ ClockHolds u ∧ response.accepted = true ∧
    ⟨.pollGoalResponse, .ok (some response)⟩ ∈ u ∧ record.terminalResult = none ∧
    CancelRequested u
  := by
  have hchecked : ((run { sampleConfig with missionTimeoutSimS := 0 } true rejectedEnvironment 50
      (MissionExecutor.new 1000000000 0) []).map fun w =>
        (w.1.map (·.terminalResult.isNone), w.2.2.all runtimeUp, w.2.2.any acceptsGoal,
          decide ((readings w.2.2).Pairwise (· ≤ ·)))) = some (.ok true, true, true, true) := by
    decide +kernel
  obtain ⟨⟨r, s', u⟩, hrun, hresult⟩ := Option.map_eq_some_iff.mp hchecked
  match r, hresult, hrun with
  | .ok record, hresult, hrun =>
      simp only [Except.map, Prod.mk.injEq, Except.ok.injEq, decide_eq_true_eq] at hresult
      obtain ⟨hnone, hall, hany, hmonotone⟩ := hresult
      obtain ⟨response, haccepted, hmem⟩ := accepted_of_any hany
      have hruntime := runtimeStays_of_all hall
      have hclock := clockHolds_of_monotone hmonotone
      have hterminal := Option.isNone_iff_eq_none.mp hnone
      exact ⟨record, s', u, response, hrun, hruntime, hclock, haccepted, hmem, hterminal,
        fail_closed_of_clockHolds _ true hrun hruntime hclock response haccepted hmem hterminal⟩

/-- The mission ends as soon as the simulation clock regresses, and the accepted goal goes on. -/
theorem fail_closed_regressed :
  ∃ record s' u, run sampleConfig true (sampleEnvironment restartedClock) 50
      (MissionExecutor.new 1000000000 0) [] = some (.ok record, s', u) ∧
    RuntimeStays u ∧ ¬ FailsClosed u record
  := by
  have hchecked : ((run sampleConfig true (sampleEnvironment restartedClock) 50
      (MissionExecutor.new 1000000000 0) []).map fun w =>
        (w.1.map (·.terminalResult.isNone), w.2.2.all runtimeUp, w.2.2.any acceptsGoal,
          w.2.2.any requestsCancel)) = some (.ok true, true, true, false) := by
    decide +kernel
  obtain ⟨⟨r, s', u⟩, hrun, hresult⟩ := Option.map_eq_some_iff.mp hchecked
  match r, hresult, hrun with
  | .ok record, hresult, hrun =>
      simp only [Except.map, Prod.mk.injEq, Except.ok.injEq] at hresult
      obtain ⟨hnone, hall, hany, hcancel⟩ := hresult
      obtain ⟨response, haccepted, hmem⟩ := accepted_of_any hany
      refine ⟨record, s', u, hrun, runtimeStays_of_all hall, ?_⟩
      intro hcloses
      obtain ⟨reply, hreply⟩ := hcloses response haccepted hmem (Option.isNone_iff_eq_none.mp hnone)
      exact List.any_eq_false.mp hcancel _ hreply rfl

end Sample

end Missions

end RobotestLab
