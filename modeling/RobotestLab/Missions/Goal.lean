import RobotestLab.Missions.FaultControl
import RobotestLab.Missions.Monitoring

/-!
# How the executor follows a goal

The parts of a mission from its start to the end of the goal. After the acceptance of the goal no
part sends another goal (`Silent`), and every part that ends has either requested a cancellation
or watched the goal under its identifier and its status stamp (`runs_followGoal`).
-/

namespace RobotestLab

namespace Missions

open Program

variable {F : Type}

/-! ### Silent calls -/

/-- The calls that send a goal and receive the response to it. -/
def Call.submits : Call F → Bool
  | .startGoal _ => true
  | .pollGoalResponse => true
  | _ => false

def Silent (c : Call F) : Prop := c.submits = false

/-- The calls that follow the acceptance of a goal are allowed. -/
structure AllowsFollowing (K : Call F → Prop) : Prop extends AllowsControl K, AllowsClosing K where
  pollAcceptedStatusStampNs : K .pollAcceptedStatusStampNs

theorem silent_allowsFollowing :
  AllowsFollowing (Silent (F := F))
  := by
  constructor
  · constructor
    · constructor
      · exact ⟨⟨rfl, rfl, rfl, fun _ => rfl⟩, rfl, rfl⟩
      · rfl
      · rfl
    · rfl
    · intro schedule
      rfl
    · rfl
    · intro scheduleHash generation goalUuid stampNs
      rfl
    · rfl
  · rfl
  · rfl
  · rfl
  · rfl
  · rfl

theorem silent_allowsWaiting :
  AllowsWaiting (Silent (F := F))
  := silent_allowsFollowing.toAllowsWaiting

section Goal

variable [PyFloat F] (config : MissionConfig F) (faultDriver : Bool) {K : Call F → Prop}

/-! ### The parts that follow an accepted goal -/

theorem quiet_monitorRound (hK : AllowsFollowing K) (localNs : Int) (wallS : F) (stampNs : Int) :
  Respects (monitorRound config faultDriver localNs wallS stampNs) (Quiet K)
  := by
  have hwaiting := hK.toAllowsWaiting
  have hend : ∀ {m : Mission F Unit} (next : Unit ⊕ Unit), Respects m (Quiet K) →
      Respects (do
        m
        pure next) (Quiet K) := by
    intro m next hm
    apply quiet_bind hm
    intro _
    apply quiet_pure
  apply quiet_bind (quiet_of_observes (observes_ask hwaiting.runtimeOk))
  intro ok
  split
  · apply quiet_bind (quiet_of_observes observes_raiseIfFeedbackTraceOverflow)
    intro _
    apply quiet_bind (quiet_of_observes
      (observes_collectFaultEvents config faultDriver hK.toAllowsDraining))
    intro _
    apply quiet_bind (quiet_perform config hwaiting hK.pollAcceptedStatusStampNs)
    intro status
    split
    · apply quiet_raise
    · apply quiet_bind (quiet_perform config hwaiting hK.pollTerminalResult)
      intro terminal
      cases terminal with
      | some terminal =>
          apply hend
          apply quiet_finishFromTerminal hwaiting
      | none =>
          apply quiet_bind (quiet_of_observes (observes_ask hwaiting.simTimeNs))
          intro observed
          simp only
          split
          · apply hend
            apply quiet_finish
          · split
            · apply quiet_raise
            · split
              · apply hend
                apply quiet_cancelAfterDeadline config hK.toAllowsClosing
              · apply quiet_bind (quiet_of_observes (observes_ask hwaiting.steadyTimeS))
                intro steady
                split
                · apply hend
                  apply quiet_cancelAfterDeadline config hK.toAllowsClosing
                · apply hend
                  apply quiet_perform config hwaiting (hwaiting.spinOnce _)
  · apply hend
    apply quiet_finish

theorem quiet_waitForTerminalOrDeadline (hK : AllowsFollowing K) (localNs : Int) (wallS : F)
    (stampNs : Int) :
  Respects (waitForTerminalOrDeadline config faultDriver localNs wallS stampNs) (Quiet K)
  := by
  unfold waitForTerminalOrDeadline
  split
  · apply quiet_raise
  · apply Respects.loop (quiet_sequential K)
    intro _
    apply quiet_monitorRound config faultDriver hK

theorem quiet_monitorGoal (hK : AllowsFollowing K) (goalUuid : String)
    (responseStampNs localNs : Int) (wallS : F) (stampNs : Int) :
  Respects (monitorGoal config faultDriver goalUuid responseStampNs localNs wallS stampNs) (Quiet K)
  := by
  have hwaiting := hK.toAllowsWaiting
  apply quiet_bind (quiet_modifyRecord _)
  intro _
  apply quiet_bind (quiet_event hwaiting _ _ _)
  intro _
  split
  · apply quiet_raise
  · apply quiet_bind (quiet_of_observes
      (observes_waitForClientClockToReach config hwaiting stampNs localNs))
    intro reached
    split
    · apply quiet_bind
      · apply quiet_onlyIf
        apply quiet_armFaultSchedule config faultDriver hK.toAllowsControl
      · intro _
        apply quiet_waitForTerminalOrDeadline config faultDriver hK
    · apply quiet_bind (quiet_event hwaiting _ _ _)
      intro _
      apply quiet_failClosedAfterAcceptance config hK.toAllowsClosing

theorem quiet_proveAcceptance (hK : AllowsFollowing K) (goalUuid : String)
    (responseStampNs : Int) :
  Respects (proveAcceptance config faultDriver goalUuid responseStampNs) (Quiet K)
  := by
  have hwaiting := hK.toAllowsWaiting
  apply quiet_bind (quiet_of_observes (observes_ask hwaiting.simTimeNs))
  intro localNs
  split
  · apply quiet_raise
  · apply quiet_bind (quiet_of_observes observes_getRecord)
    intro record
    split
    · apply quiet_raise
    · apply quiet_bind (quiet_of_observes (observes_ask hwaiting.steadyTimeS))
      intro wallS
      apply quiet_bind (quiet_modifyRecord _)
      intro _
      apply quiet_bind (quiet_of_observes (observes_wallOffset hwaiting))
      intro offset
      apply quiet_bind (quiet_modifyRecord _)
      intro _
      apply quiet_bind (quiet_event hwaiting _ _ _)
      intro _
      apply quiet_bind (quiet_of_observes observes_raiseIfFeedbackTraceOverflow)
      intro _
      apply quiet_bind
      · apply quiet_waitForValue config hwaiting
        apply observes_perform config hwaiting hK.pollAcceptedStatusStampNs
      · intro status
        split
        · apply quiet_bind (quiet_event hwaiting _ _ _)
          intro _
          apply quiet_failClosedAfterAcceptance config hK.toAllowsClosing
        · apply quiet_monitorGoal config faultDriver hK

variable {s s' : MissionExecutor F} {u : List (Interaction F)} {r : Except Raised Unit}
  {response : GoalResponse}

/-- Whatever follows the acceptance of a goal sends no goal, and the acceptance is noted. -/
theorem silent_followGoal (h : Runs (followGoal config faultDriver response) s u r s') :
  (∀ i ∈ u, Silent i.1) ∧ s'.acceptedGoalActive = true
  := by
  have hK := silent_allowsFollowing (F := F)
  obtain ⟨r₁, s₁, u₁, u₂, rfl, hactive, hrest, -⟩ := runs_bind h
  obtain ⟨rfl, rfl, rfl⟩ := runs_modifyState hactive
  have hquiet : Quiet Silent { s with acceptedGoalActive := true } u₂ s' := by
    have hrun := hrest () rfl
    split at hrun
    · apply (quiet_failClosedAfterAcceptance config hK.toAllowsClosing _).of_runs hrun
    · split at hrun
      · apply (quiet_raise _).of_runs hrun
      · apply (quiet_proveAcceptance config faultDriver hK _ _).of_runs hrun
  exact ⟨hquiet.calls, hquiet.active⟩

/-! ### Goals that are watched -/

/-- The goal was watched after its acceptance: its status stamp was polled, the faults were armed
for it in phase 3, and then the loop ran that waits for its terminal result. -/
structure Watched (goalUuid : String) (stampNs localNs : Int) (s : MissionExecutor F)
    (accept arm loop : List (Interaction F)) (s' : MissionExecutor F) : Prop where
  positive : 0 < stampNs
  status : ⟨.pollAcceptedStatusStampNs, .ok (some stampNs)⟩ ∈ accept
  armed : config.isPhase3 = true → ∃ schedule generation, config.faultSchedule = some schedule ∧
    s.record.faultGeneration = some generation ∧ Armed schedule generation goalUuid stampNs arm
  monitored : ∃ s₁ : MissionExecutor F, s₁.record.acceptedGoalStampNs = some stampNs ∧
    s₁.record.terminalResult = s.record.terminalResult ∧
    Monitored config localNs stampNs s₁ loop s'

/-- The cancellation of the goal was requested, and the mission is no success. -/
def Abandoned (u : List (Interaction F)) (s' : MissionExecutor F) : Prop :=
  (∃ reply, ⟨.requestCancel, reply⟩ ∈ u) ∧ s'.record.exitCode ≠ .success

variable {v : List (Interaction F)}

omit [PyFloat F] in
theorem abandoned_append_left (h : Abandoned u s') :
  Abandoned (v ++ u) s'
  := by
  obtain ⟨⟨reply, hreply⟩, hcode⟩ := h
  exact ⟨⟨reply, List.mem_append_right _ hreply⟩, hcode⟩

theorem runs_monitorGoal {goalUuid : String} {responseStampNs localNs stampNs : Int} {wallS : F}
    (h : Runs (monitorGoal config faultDriver goalUuid responseStampNs localNs wallS stampNs) s u
      (.ok ()) s') :
  Abandoned u s' ∨ ∃ accept arm loop, u = accept ++ (arm ++ loop) ∧
    (config.isPhase3 = true → ∃ schedule generation, config.faultSchedule = some schedule ∧
      s.record.faultGeneration = some generation ∧ Armed schedule generation goalUuid stampNs arm) ∧
    ∃ s₁ : MissionExecutor F, s₁.record.acceptedGoalStampNs = some stampNs ∧
      s₁.record.terminalResult = s.record.terminalResult ∧
      Monitored config localNs stampNs s₁ loop s'
  := by
  have hall := anyCall_allowsWaiting (F := F)
  obtain ⟨_, s₁, u₁, u₂, rfl, hmodify, h₁⟩ := runs_bind_ok h
  obtain ⟨rfl, rfl⟩ := runs_modifyRecord hmodify
  obtain ⟨_, s₂, u₃, u₄, rfl, hevent, h₂⟩ := runs_bind_ok h₁
  have hevent' := (observes_event hall _ _ _).of_runs hevent
  split at h₂
  · cases (runs_raise h₂).1
  · obtain ⟨reached, s₃, u₅, u₆, rfl, hreach, h₃⟩ := runs_bind_ok h₂
    have hreach' := (observes_waitForClientClockToReach config hall _ _).of_runs hreach
    have hobserves := (observes_sequential AnyCall).trans hevent' hreach'
    split at h₃
    · right
      obtain ⟨_, s₄, u₇, u₈, rfl, harm, hloop⟩ := runs_bind_ok h₃
      have hmonitored := runs_waitForTerminalOrDeadline config faultDriver hloop
      refine ⟨u₃ ++ u₅, u₇, u₈, by simp only [List.nil_append, List.append_assoc], ?_⟩
      unfold onlyIf at harm
      split at harm
      · obtain ⟨schedule, generation, hschedule, hgeneration, harmed, haccepted, hterminal⟩ :=
          runs_armFaultSchedule config faultDriver harm
        refine ⟨?_, s₄, ?_, ?_, hmonitored⟩
        · intro _
          refine ⟨schedule, generation, hschedule, ?_, harmed⟩
          rw [← hgeneration]
          exact (hobserves.field (·.faultGeneration) fun _ => rfl).symm
        · rw [haccepted]
          exact hobserves.field (·.acceptedGoalStampNs) fun _ => rfl
        · rw [hterminal]
          exact hobserves.field (·.terminalResult) fun _ => rfl
      · rename_i hphase
        obtain ⟨-, rfl, rfl⟩ := runs_pure harm
        refine ⟨?_, s₄, ?_, ?_, hmonitored⟩
        · intro hphase'
          exact absurd hphase' hphase
        · exact hobserves.field (·.acceptedGoalStampNs) fun _ => rfl
        · exact hobserves.field (·.terminalResult) fun _ => rfl
    · left
      obtain ⟨_, s₄, u₇, u₈, rfl, -, hclosed⟩ := runs_bind_ok h₃
      have habandoned : Abandoned u₈ s' := runs_failClosedAfterAcceptance config hclosed
      apply abandoned_append_left
      apply abandoned_append_left
      apply abandoned_append_left
      apply abandoned_append_left habandoned

/-- The simulation clock is read as soon as the goal has an identifier. -/
theorem runs_proveAcceptance {goalUuid : String} {responseStampNs : Int}
    (h : Runs (proveAcceptance config faultDriver goalUuid responseStampNs) s u (.ok ()) s') :
  Abandoned u s' ∨ ∃ localNs stampNs accept arm loop,
    u = ⟨.simTimeNs, .ok localNs⟩ :: (accept ++ (arm ++ loop)) ∧
    Watched config goalUuid stampNs localNs s accept arm loop s'
  := by
  have hall := anyCall_allowsWaiting (F := F)
  obtain ⟨localNs, s₁, u₁, u₂, rfl, hlocal, h₁⟩ := runs_bind_ok h
  obtain ⟨rfl, rfl⟩ := runs_ask hlocal
  split at h₁
  · cases (runs_raise h₁).1
  · obtain ⟨record, s₂, u₃, u₄, rfl, hrecord, h₂⟩ := runs_bind_ok h₁
    obtain ⟨rfl, rfl, rfl⟩ := runs_getRecord hrecord
    split at h₂
    · cases (runs_raise h₂).1
    · obtain ⟨wallS, s₃, u₅, u₆, rfl, hwall, h₃⟩ := runs_bind_ok h₂
      obtain ⟨rfl, rfl⟩ := runs_ask hwall
      obtain ⟨_, s₄, u₇, u₈, rfl, hmodify, h₄⟩ := runs_bind_ok h₃
      obtain ⟨rfl, rfl⟩ := runs_modifyRecord hmodify
      obtain ⟨offset, s₅, u₉, u₁₀, rfl, hoffset, h₅⟩ := runs_bind_ok h₄
      have hoffset' := (observes_wallOffset hall).of_runs hoffset
      obtain ⟨_, s₆, u₁₁, u₁₂, rfl, hmodify', h₆⟩ := runs_bind_ok h₅
      obtain ⟨rfl, rfl⟩ := runs_modifyRecord hmodify'
      obtain ⟨_, s₇, u₁₃, u₁₄, rfl, hevent, h₇⟩ := runs_bind_ok h₆
      have hevent' := (observes_event hall _ _ _).of_runs hevent
      obtain ⟨_, s₈, u₁₅, u₁₆, rfl, hraise, h₈⟩ := runs_bind_ok h₇
      have hraise' := (observes_raiseIfFeedbackTraceOverflow (K := AnyCall)).of_runs hraise
      obtain ⟨status, s₉, u₁₇, u₁₈, rfl, hwait, h₉⟩ := runs_bind_ok h₈
      have hwait' := (observes_waitForValue config hall (observes_perform (K := AnyCall) config hall
        trivial) _ _).of_runs hwait
      have hseq := observes_sequential (F := F) AnyCall
      have hobserves := hseq.trans hevent' (hseq.trans hraise' hwait')
      split at h₉
      · left
        obtain ⟨_, s₁₀, u₁₉, u₂₀, rfl, -, hclosed⟩ := runs_bind_ok h₉
        have habandoned : Abandoned u₂₀ s' := runs_failClosedAfterAcceptance config hclosed
        simp only [← List.append_assoc]
        apply abandoned_append_left habandoned
      · rename_i stampNs hfilter
        obtain ⟨hstatus, hpositive⟩ := Option.filter_eq_some_iff.mp hfilter
        subst hstatus
        obtain ⟨s₁₀, v, w, rfl, hpoll⟩ := runs_waitForValue config hwait
        obtain ⟨v', rfl⟩ := runs_perform config hpoll
        rcases runs_monitorGoal config faultDriver h₉ with habandoned | hwatched
        · left
          simp only [← List.append_assoc]
          apply abandoned_append_left habandoned
        · right
          obtain ⟨accept, arm, loop, rfl, harmed, s₁₁, haccepted, hterminal, hmonitored⟩ := hwatched
          refine ⟨localNs, stampNs, ⟨.steadyTimeS, .ok wallS⟩ :: (u₉ ++ (u₁₃ ++ (u₁₅ ++ (v ++ (v' ++
            ⟨.pollAcceptedStatusStampNs, .ok (some stampNs)⟩ :: accept))))), arm, loop, ?_,
            ⟨?_, ?_, ?_, s₁₁, haccepted, ?_, hmonitored⟩⟩
          · simp only [List.append_assoc, List.cons_append, List.nil_append]
          · simpa [isPositiveTimeNs] using hpositive
          · simp
          · intro hphase
            obtain ⟨schedule, generation, hschedule, hgeneration, harm⟩ := harmed hphase
            refine ⟨schedule, generation, hschedule, ?_, harm⟩
            rw [← hgeneration, hobserves.field (·.faultGeneration) fun _ => rfl]
            exact (hoffset'.field (·.faultGeneration) fun _ => rfl).symm
          · rw [hterminal, hobserves.field (·.terminalResult) fun _ => rfl]
            exact hoffset'.field (·.terminalResult) fun _ => rfl

/-- A goal that was accepted is abandoned, or it is watched under its identifier. -/
theorem runs_followGoal (h : Runs (followGoal config faultDriver response) s u (.ok ()) s') :
  Abandoned u s' ∨ ∃ goalUuid localNs stampNs accept arm loop,
    response.goalUuid = some goalUuid ∧
    u = ⟨.simTimeNs, .ok localNs⟩ :: (accept ++ (arm ++ loop)) ∧
    Watched config goalUuid stampNs localNs s accept arm loop s'
  := by
  obtain ⟨_, s₁, u₁, u₂, rfl, hactive, h₁⟩ := runs_bind_ok h
  obtain ⟨-, rfl, rfl⟩ := runs_modifyState hactive
  split at h₁
  · left
    exact runs_failClosedAfterAcceptance config h₁
  · rename_i goalUuid hfilter
    obtain ⟨huuid, -⟩ := Option.filter_eq_some_iff.mp hfilter
    split at h₁
    · cases (runs_raise h₁).1
    · rcases runs_proveAcceptance config faultDriver h₁ with habandoned | hwatched
      · left
        exact habandoned
      · right
        obtain ⟨localNs, stampNs, accept, arm, loop, rfl, hwatched⟩ := hwatched
        exact ⟨goalUuid, localNs, stampNs, accept, arm, loop, huuid, rfl,
          hwatched.positive, hwatched.status, hwatched.armed, hwatched.monitored⟩

/-! ### Goals that are sent -/

/-- Any call but the one that sends a goal. -/
def NotStart (c : Call F) : Prop := ∀ submissionNs, c ≠ .startGoal submissionNs

omit [PyFloat F] in
theorem notStart_of_silent {c : Call F} (h : Silent c) :
  NotStart c
  := by
  rintro submissionNs rfl
  cases h

omit [PyFloat F] in
theorem notStart_allowsWaiting :
  AllowsWaiting (NotStart (F := F))
  := by
  have hsilent := silent_allowsWaiting (F := F)
  constructor
  · apply notStart_of_silent hsilent.runtimeOk
  · apply notStart_of_silent hsilent.simTimeNs
  · apply notStart_of_silent hsilent.steadyTimeS
  · intro timeoutS
    apply notStart_of_silent (hsilent.spinOnce timeoutS)

/-- A response to the goal is received last, and the result is made of it. -/
def EndsWithResponse {β : Type} (value : GoalResponse → β) (u : List (Interaction F))
    (r : Except Raised β) : Prop :=
  ∀ response, ⟨.pollGoalResponse, .ok (some response)⟩ ∈ u →
    r = .ok (value response) ∧ ∃ v, u = v ++ [⟨.pollGoalResponse, .ok (some response)⟩]

/-- The program ends as soon as it receives a response to the goal. -/
def Polls {β : Type} (m : Mission F β) (value : GoalResponse → β) : Prop :=
  ∀ s u r s', Runs m s u r s' → EndsWithResponse value u r

section Polls

variable {α β : Type} {value : GoalResponse → β}

omit [PyFloat F] in
/-- Silent calls receive no response. -/
theorem not_mem_of_silent {r : Except Raised (Option GoalResponse)}
    (h : ∀ i ∈ u, Silent i.1) :
  ⟨.pollGoalResponse, r⟩ ∉ u
  := by
  intro hmem
  cases h _ hmem

omit [PyFloat F] in
theorem polls_of_silent {m : Mission F β} (h : Respects m (Observes Silent)) :
  Polls m value
  := by
  intro s u r s' hrun response hmem
  exact absurd hmem (not_mem_of_silent (h.of_runs hrun).calls)

omit [PyFloat F] in
/-- A response that is received in the first part ends the sequence. -/
theorem polls_bind {m : Mission F α} {f : α → Mission F β} (found : GoalResponse → α)
    (hm : Polls m found) (hfound : ∀ response, f (found response) = pure (value response))
    (hf : ∀ a, Polls (f a) value) :
  Polls (m >>= f) value
  := by
  intro s u r s' hrun response hmem
  obtain ⟨r₁, s₁, u₁, u₂, rfl, hfirst, hok, herror⟩ := runs_bind hrun
  rcases List.mem_append.mp hmem with hmem | hmem
  · obtain ⟨rfl, v, rfl⟩ := hm s u₁ r₁ s₁ hfirst response hmem
    have hrest := hok _ rfl
    rw [hfound] at hrest
    obtain ⟨rfl, -, rfl⟩ := runs_pure hrest
    exact ⟨rfl, v, List.append_nil _⟩
  · cases r₁ with
    | ok a =>
        obtain ⟨rfl, v, rfl⟩ := hf a s₁ u₂ r s' (hok a rfl) response hmem
        exact ⟨rfl, u₁ ++ v, (List.append_assoc _ _ _).symm⟩
    | error e =>
        obtain ⟨-, -, rfl⟩ := herror e rfl
        cases hmem

omit [PyFloat F] in
theorem polls_bind_silent {m : Mission F α} {f : α → Mission F β}
    (hm : Respects m (Observes Silent)) (hf : ∀ a, Polls (f a) value) :
  Polls (m >>= f) value
  := by
  intro s u r s' hrun response hmem
  obtain ⟨r₁, s₁, u₁, u₂, rfl, hfirst, hok, herror⟩ := runs_bind hrun
  rcases List.mem_append.mp hmem with hmem | hmem
  · exact absurd hmem (not_mem_of_silent (hm.of_runs hfirst).calls)
  · cases r₁ with
    | ok a =>
        obtain ⟨rfl, v, rfl⟩ := hf a s₁ u₂ r s' (hok a rfl) response hmem
        exact ⟨rfl, u₁ ++ v, (List.append_assoc _ _ _).symm⟩
    | error e =>
        obtain ⟨-, -, rfl⟩ := herror e rfl
        cases hmem

omit [PyFloat F] in
theorem polls_loop {L : Type} {body : L → Mission F (L ⊕ β)}
    (h : ∀ l, Polls (body l) (fun response => .inr (value response))) (l : L) :
  Polls (Program.loop body l) value
  := by
  intro s u r s' hrun
  apply runs_loop (P := fun _ _ u r _ => EndsWithResponse value u r) _ _ _ hrun
  · intro l s u a s' hbody response hmem
    obtain ⟨hr, hlast⟩ := h l _ _ _ _ hbody response hmem
    exact ⟨congrArg _ (Sum.inr.inj (Except.ok.inj hr)), hlast⟩
  · intro l s u e s' hbody response hmem
    cases (h l _ _ _ _ hbody response hmem).1
  · intro l l' s u s₁ v r s' hbody ih response hmem
    rcases List.mem_append.mp hmem with hmem | hmem
    · cases (h l _ _ _ _ hbody response hmem).1
    · obtain ⟨hr, w, rfl⟩ := ih response hmem
      exact ⟨hr, u ++ w, (List.append_assoc _ _ _).symm⟩

end Polls

theorem polls_perform :
  Polls (perform config .pollGoalResponse) some
  := by
  intro s u r s' hrun response hmem
  obtain ⟨v, rfl, hobserves⟩ := runs_perform_observes config silent_allowsWaiting hrun
  rcases List.mem_append.mp hmem with hmem | hmem
  · exact absurd hmem (not_mem_of_silent hobserves.calls)
  · obtain rfl : .ok (some response) = r := by
      simpa using List.mem_singleton.mp hmem
    exact ⟨rfl, v, rfl⟩

/-- The wait for the response to the goal ends with the response that it receives. -/
theorem polls_waitForValue (timeoutS : F) :
  Polls (waitForValue config (perform config .pollGoalResponse) timeoutS) some
  := by
  have hwaiting := silent_allowsWaiting (F := F)
  apply polls_bind_silent (observes_deadlineAfter hwaiting _)
  intro deadline
  apply polls_bind some
  · apply polls_loop
    intro _
    apply polls_bind_silent (observes_beforeDeadline hwaiting _)
    intro waiting
    split
    · apply polls_bind some
      · apply polls_bind_silent (observes_pure ())
        intro _
        apply polls_perform
      · intro response
        rfl
      · intro found
        cases found with
        | some response => apply polls_of_silent (observes_pure _)
        | none =>
            apply polls_bind_silent (observes_spinBounded config hwaiting _)
            intro _
            apply polls_of_silent (observes_pure _)
    · apply polls_of_silent (observes_pure _)
  · intro response
    rfl
  · intro found
    cases found with
    | some response => apply polls_of_silent (observes_pure _)
    | none =>
        apply polls_bind_silent (observes_pure ())
        intro _
        apply polls_bind_silent (observes_ask hwaiting.runtimeOk)
        intro ok
        split
        · apply polls_perform
        · apply polls_of_silent (observes_pure _)

/-! ### The mission -/

/-- No goal was accepted in the interactions. -/
def Unaccepted (u : List (Interaction F)) : Prop :=
  ∀ response : GoalResponse, response.accepted = true →
    ⟨.pollGoalResponse, .ok (some response)⟩ ∉ u

/-- The interactions before the goal was sent, those of the wait for its response, and the response
that accepted it. -/
structure Submitted (s : MissionExecutor F) (before wait : List (Interaction F))
    (response : GoalResponse) (s₁ : MissionExecutor F) : Prop where
  accepted : response.accepted = true
  notBefore : ∀ i ∈ before, Silent i.1
  notWhileWaiting : ∀ i ∈ wait, NotStart i.1
  prepared : config.isPhase3 = true → ∃ schedule generation reset prepare,
    config.faultSchedule = some schedule ∧ before = reset ++ prepare ∧ ResetConfirmed reset ∧
    Prepared schedule generation prepare ∧ s₁.record.faultGeneration = some generation
  terminalResult : s₁.record.terminalResult = s.record.terminalResult

/-- The mission ends without an accepted goal and without success. -/
def Unsent (u : List (Interaction F)) (r : Except Raised Unit) (s' : MissionExecutor F) : Prop :=
  Unaccepted u ∧ (r = .ok () → s'.record.exitCode ≠ .success)

omit [PyFloat F] in
theorem unaccepted_of_silent (h : ∀ i ∈ u, Silent i.1) :
  Unaccepted u
  := by
  intro response _
  apply not_mem_of_silent h

omit [PyFloat F] in
theorem unaccepted_append (hu : Unaccepted u) (hv : Unaccepted v) :
  Unaccepted (u ++ v)
  := by
  intro response haccepted hmem
  rcases List.mem_append.mp hmem with hmem | hmem
  · exact hu response haccepted hmem
  · exact hv response haccepted hmem

omit [PyFloat F] in
theorem unsent_append (hv : ∀ i ∈ v, Silent i.1) (h : Unsent u r s') :
  Unsent (v ++ u) r s'
  := ⟨unaccepted_append (unaccepted_of_silent hv) h.1, h.2⟩

omit [PyFloat F] in
/-- A mission that raises while its calls are silent. -/
theorem unsent_of_error {e : Raised} (h : ∀ i ∈ u, Silent i.1) :
  Unsent u (.error e) s'
  := by
  refine ⟨unaccepted_of_silent h, ?_⟩
  intro hr
  cases hr

omit [PyFloat F] in
theorem unsent_finish {exitCode : ExitCode} {reason : String}
    (hcode : exitCode ≠ .success) (h : Runs (finish exitCode reason) s u r s') :
  Unsent u r s'
  := by
  obtain ⟨rfl, exitCode', reason', hcode', rfl⟩ := runs_finish h
  refine ⟨unaccepted_of_silent (by simp), ?_⟩
  intro _
  rcases hcode' with rfl | rfl
  · exact hcode
  · simp

omit [PyFloat F] in
/-- A sequence whose first part is silent goes on after it, or sends nothing. -/
theorem unsent_or_bind {α : Type} {m : Mission F α} {f : α → Mission F Unit}
    (hm : Respects m (Quiet Silent)) (h : Runs (m >>= f) s u r s') :
  Unsent u r s' ∨ ∃ a s₁ u₁ u₂, u = u₁ ++ u₂ ∧ (∀ i ∈ u₁, Silent i.1) ∧
    Runs m s u₁ (.ok a) s₁ ∧ Runs (f a) s₁ u₂ r s'
  := by
  obtain ⟨r₁, s₁, u₁, u₂, rfl, hfirst, hok, herror⟩ := runs_bind h
  have hsilent := (hm.of_runs hfirst).calls
  cases r₁ with
  | ok a => exact Or.inr ⟨a, s₁, u₁, u₂, rfl, hsilent, hfirst, hok a rfl⟩
  | error e =>
      obtain ⟨rfl, rfl, rfl⟩ := herror e rfl
      rw [List.append_nil]
      exact Or.inl (unsent_of_error hsilent)

omit [PyFloat F] in
theorem unaccepted_startGoal {submissionNs : Int} :
  Unaccepted (F := F) [⟨.startGoal submissionNs, r⟩]
  := by
  intro response _ hmem
  cases List.mem_singleton.mp hmem

/-- The wait for a response accepts no goal when it does not end with one that does. -/
theorem unaccepted_wait {r : Except Raised (Option GoalResponse)}
    (h : Runs (waitForValue config (perform config .pollGoalResponse)
      (GOAL_RESPONSE_TIMEOUT_WALL_S F)) s u r s')
    (hr : ∀ response : GoalResponse, response.accepted = true → r ≠ .ok (some response)) :
  Unaccepted u
  := by
  have hpolls := polls_waitForValue config _ _ _ _ _ h
  intro response haccepted hmem
  exact hr response haccepted (hpolls response hmem).1

/-- The wait for a response ends with its poll. -/
theorem wait_of_response (h : Runs (waitForValue config (perform config .pollGoalResponse)
      (GOAL_RESPONSE_TIMEOUT_WALL_S F)) s u (.ok (some response)) s') :
  ∃ wait, u = wait ++ [⟨.pollGoalResponse, .ok (some response)⟩] ∧ (∀ i ∈ wait, NotStart i.1) ∧
    Observes NotStart s u s'
  := by
  have hobserves := (observes_waitForValue config notStart_allowsWaiting
    (observes_perform (K := NotStart) (c := .pollGoalResponse) config
      notStart_allowsWaiting (by rintro _ ⟨⟩)) _ _).of_runs h
  obtain ⟨s₁, v₁, v₂, rfl, hpoll⟩ := runs_waitForValue config h
  obtain ⟨v₃, rfl⟩ := runs_perform config hpoll
  refine ⟨v₁ ++ v₃, (List.append_assoc v₁ v₃ _).symm, ?_, hobserves⟩
  intro i hi
  apply hobserves.calls
  rw [← List.append_assoc]
  exact List.mem_append_left _ hi

/-- The goal was rejected. -/
theorem unsent_of_rejected
    (h : Runs (do event "goal_rejected"; finish .goalRejected "goal_rejected") s u r s') :
  Unsent u r s'
  := by
  rcases unsent_or_bind (quiet_event (silent_allowsWaiting (F := F)) _ _ _) h with
    hunsent | ⟨_, s₁, u₁, u₂, rfl, hsilent, -, hfinish⟩
  · exact hunsent
  · exact unsent_append hsilent (unsent_finish (by simp) hfinish)

/-- A response accepts the goal, and then it is followed, or none does. -/
theorem runs_awaitResponse {f : Option GoalResponse → Mission F Unit}
    (hnone : f none = finish .infrastructureError "goal_response_timeout")
    (hsome : ∀ response, f (some response) =
      if response.accepted then followGoal config faultDriver response
      else do event "goal_rejected"; finish .goalRejected "goal_rejected")
    (h : Runs (waitForValue config (perform config .pollGoalResponse)
      (GOAL_RESPONSE_TIMEOUT_WALL_S F) >>= f) s u r s') :
  Unsent u r s' ∨ ∃ response wait w s₁,
    u = wait ++ ⟨.pollGoalResponse, .ok (some response)⟩ :: w ∧
    response.accepted = true ∧ (∀ i ∈ wait, NotStart i.1) ∧
    s₁.record.faultGeneration = s.record.faultGeneration ∧
    s₁.record.terminalResult = s.record.terminalResult ∧
    Runs (followGoal config faultDriver response) s₁ w r s'
  := by
  obtain ⟨answer, s₁, v, w, rfl, hwait, hok, herror⟩ := runs_bind h
  cases answer with
  | error e =>
      obtain ⟨rfl, rfl, rfl⟩ := herror e rfl
      left
      rw [List.append_nil]
      exact ⟨unaccepted_wait config hwait (by simp), by simp⟩
  | ok answer =>
      have hanswer := hok answer rfl
      cases answer with
      | none =>
          left
          rw [hnone] at hanswer
          obtain ⟨hu, hcode⟩ := unsent_finish (by simp) hanswer
          exact ⟨unaccepted_append (unaccepted_wait config hwait (by simp)) hu, hcode⟩
      | some response =>
          rw [hsome] at hanswer
          split at hanswer
          · rename_i haccepted
            right
            obtain ⟨wait, rfl, hnotStart, hobserves⟩ := wait_of_response config hwait
            refine ⟨response, wait, w, s₁, ?_, haccepted, hnotStart,
              hobserves.field (·.faultGeneration) fun _ => rfl,
              hobserves.field (·.terminalResult) fun _ => rfl, hanswer⟩
            rw [List.append_assoc, List.singleton_append]
          · rename_i hrejected
            left
            obtain ⟨hu, hcode⟩ := unsent_of_rejected hanswer
            refine ⟨unaccepted_append (unaccepted_wait config hwait ?_) hu, hcode⟩
            intro response' haccepted heq
            obtain rfl := Option.some.inj (Except.ok.inj heq)
            exact hrejected haccepted

/-- The goal is sent, and it is followed if it is accepted. -/
theorem runs_submitGoal (h : Runs (submitGoal config faultDriver) s u r s') :
  Unsent u r s' ∨ ∃ submissionNs response before wait w s₁,
    u = before ++ ⟨.startGoal submissionNs, .ok ()⟩ ::
      (wait ++ ⟨.pollGoalResponse, .ok (some response)⟩ :: w) ∧
    response.accepted = true ∧ (∀ i ∈ before, Silent i.1) ∧ (∀ i ∈ wait, NotStart i.1) ∧
    s₁.record.faultGeneration = s.record.faultGeneration ∧
    s₁.record.terminalResult = s.record.terminalResult ∧
    Runs (followGoal config faultDriver response) s₁ w r s'
  := by
  have hwaiting := silent_allowsWaiting (F := F)
  rcases unsent_or_bind (quiet_of_observes (observes_ask hwaiting.simTimeNs)) h with
    hunsent | ⟨submissionNs, s₁, u₁, u₂, rfl, hsilent₁, hstamp, h₁⟩
  · exact Or.inl hunsent
  obtain ⟨rfl, -⟩ := runs_ask hstamp
  rcases unsent_or_bind (quiet_modifyRecord _) h₁ with
    hunsent | ⟨_, s₂, u₃, u₄, rfl, hsilent₂, hmodify, h₂⟩
  · exact Or.inl (unsent_append hsilent₁ hunsent)
  obtain ⟨rfl, rfl⟩ := runs_modifyRecord hmodify
  split at h₂
  · obtain ⟨rfl, -, rfl⟩ := runs_raise h₂
    left
    apply unsent_of_error
    simpa using hsilent₁
  · rcases unsent_or_bind (quiet_event hwaiting _ _ _) h₂ with
      hunsent | ⟨_, s₃, u₅, u₆, rfl, hsilent₃, hevent, h₃⟩
    · exact Or.inl (unsent_append hsilent₁ hunsent)
    have hevent' := (observes_event hwaiting _ _ _).of_runs hevent
    obtain ⟨r₁, s₄, u₇, u₈, rfl, hstart, hok, herror⟩ := runs_bind h₃
    obtain ⟨v, rfl, hstart'⟩ := runs_perform_observes config hwaiting hstart
    have hsilent : ∀ i ∈ u₁ ++ (u₅ ++ v), Silent i.1 := by
      intro i hi
      rcases List.mem_append.mp hi with hi | hi
      · apply hsilent₁ i hi
      · rcases List.mem_append.mp hi with hi | hi
        · apply hsilent₃ i hi
        · apply hstart'.calls i hi
    have hsent : ∀ {w : List (Interaction F)}, Unsent w r s' → Unsent (u₁ ++ ([] ++ (u₅ ++
        (v ++ [⟨.startGoal submissionNs, r₁⟩] ++ w)))) r s' := by
      intro w hw
      have heq : u₁ ++ ([] ++ (u₅ ++ (v ++ [⟨.startGoal submissionNs, r₁⟩] ++ w))) =
          u₁ ++ (u₅ ++ v) ++ ([⟨.startGoal submissionNs, r₁⟩] ++ w) := by
        simp
      rw [heq]
      apply unsent_append hsilent
      exact ⟨unaccepted_append unaccepted_startGoal hw.1, hw.2⟩
    cases r₁ with
    | error e =>
        obtain ⟨rfl, rfl, rfl⟩ := herror e rfl
        left
        apply hsent
        apply unsent_of_error
        simp
    | ok _ =>
        rcases runs_awaitResponse config faultDriver rfl (fun _ => rfl) (hok () rfl) with
          hunsent | ⟨response, wait, w, s₅, rfl, haccepted, hnotStart, hgeneration,
            hresult, hfollow⟩
        · exact Or.inl (hsent hunsent)
        · right
          have hstarted := (observes_perform (K := AnyCall) (c := .startGoal submissionNs)
            config anyCall_allowsWaiting trivial).of_runs hstart
          refine ⟨submissionNs, response, u₁ ++ (u₅ ++ v), wait, w, s₅, ?_, haccepted,
            hsilent, hnotStart, ?_, ?_, hfollow⟩
          · simp only [List.append_assoc, List.cons_append, List.nil_append]
          · rw [hgeneration, hstarted.field (·.faultGeneration) fun _ => rfl,
              hevent'.field (·.faultGeneration) fun _ => rfl]
          · rw [hresult, hstarted.field (·.terminalResult) fun _ => rfl,
              hevent'.field (·.terminalResult) fun _ => rfl]

/-- The body of a mission sends no goal that is accepted, or it follows the goal it sent. -/
theorem runs_runBody (h : Runs (runBody config faultDriver) s u r s') :
  Unsent u r s' ∨ ∃ submissionNs response before wait w s₁,
    u = before ++ ⟨.startGoal submissionNs, .ok ()⟩ ::
      (wait ++ ⟨.pollGoalResponse, .ok (some response)⟩ :: w) ∧
    Submitted config s before wait response s₁ ∧
    Runs (followGoal config faultDriver response) s₁ w r s'
  := by
  have hK := silent_allowsFollowing (F := F)
  have hwaiting := silent_allowsWaiting (F := F)
  rcases unsent_or_bind (quiet_of_observes
      (observes_waitForAdvancingPositiveSimTime config hwaiting)) h with
    hunsent | ⟨advancing, s₁, u₁, u₂, rfl, hsilent₁, hclock, h₁⟩
  · exact Or.inl hunsent
  have hclock' := (observes_waitForAdvancingPositiveSimTime config hwaiting).of_runs hclock
  split at h₁
  · rcases unsent_or_bind (quiet_onlyIf
        (quiet_prepareFaultSchedule config faultDriver hK.toAllowsControl)) h₁ with
      hunsent | ⟨_, s₂, u₃, u₄, rfl, hsilent₂, hprepare, h₂⟩
    · exact Or.inl (unsent_append hsilent₁ hunsent)
    have hserver := observes_waitForServer (K := Silent) config hwaiting rfl
    rcases unsent_or_bind (quiet_of_observes hserver) h₂ with
      hunsent | ⟨ready, s₃, u₅, u₆, rfl, hsilent₃, hready, h₃⟩
    · exact Or.inl (unsent_append hsilent₁ (unsent_append hsilent₂ hunsent))
    have hready' := hserver.of_runs hready
    split at h₃
    · rcases runs_submitGoal config faultDriver h₃ with hunsent | ⟨submissionNs, response, before,
        wait, w, s₄, rfl, haccepted, hbefore, hwait, hgeneration, hterminal, hfollow⟩
      · left
        apply unsent_append hsilent₁
        apply unsent_append hsilent₂
        apply unsent_append hsilent₃ hunsent
      · right
        have hprepared : (config.isPhase3 = true → ∃ schedule generation reset prepare,
            config.faultSchedule = some schedule ∧ u₃ = reset ++ prepare ∧ ResetConfirmed reset ∧
            Prepared schedule generation prepare ∧ s₂.record.faultGeneration = some generation) ∧
            s₂.record.terminalResult = s₁.record.terminalResult := by
          unfold onlyIf at hprepare
          split at hprepare
          · obtain ⟨schedule, generation, reset, prepare, hschedule, hu, hreset, hprepared, hgen,
              hresult⟩ := runs_prepareFaultSchedule config faultDriver hprepare
            exact ⟨fun _ => ⟨schedule, generation, reset, prepare, hschedule, hu, hreset, hprepared,
              hgen⟩, hresult⟩
          · rename_i hphase
            obtain ⟨-, rfl, -⟩ := runs_pure hprepare
            exact ⟨fun hphase' => absurd hphase' hphase, rfl⟩
        refine ⟨submissionNs, response, u₁ ++ (u₃ ++ (u₅ ++ before)), wait, w, s₄, ?_,
          ⟨haccepted, ?_, hwait, ?_, ?_⟩, hfollow⟩
        · simp only [List.append_assoc]
        · intro i hi
          rcases List.mem_append.mp hi with hi | hi
          · apply hsilent₁ i hi
          · rcases List.mem_append.mp hi with hi | hi
            · apply hsilent₂ i hi
            · rcases List.mem_append.mp hi with hi | hi
              · apply hsilent₃ i hi
              · apply hbefore i hi
        · intro hphase
          obtain ⟨schedule, generation, reset, prepare, hschedule, rfl, hreset, hprepare', hgen⟩ :=
            hprepared.1 hphase
          refine ⟨schedule, generation, u₁ ++ reset, prepare ++ (u₅ ++ before), hschedule,
            ?_, ?_, ?_, ?_⟩
          · simp only [List.append_assoc]
          · obtain ⟨resetResponse, batch, resetEvent, hsublist, hreset'⟩ := hreset
            exact ⟨resetResponse, batch, resetEvent,
              hsublist.trans (List.sublist_append_right _ _), hreset'⟩
          · obtain ⟨preload, batch, loaded, hsublist, hloaded⟩ := hprepare'
            exact ⟨preload, batch, loaded, hsublist.trans (List.sublist_append_left _ _), hloaded⟩
          · rw [hgeneration, hready'.field (·.faultGeneration) fun _ => rfl]
            exact hgen
        · rw [hterminal, hready'.field (·.terminalResult) fun _ => rfl, hprepared.2,
            hclock'.field (·.terminalResult) fun _ => rfl]
    · left
      apply unsent_append hsilent₁
      apply unsent_append hsilent₂
      apply unsent_append hsilent₃ (unsent_finish (by simp) h₃)
  · left
    apply unsent_append hsilent₁ (unsent_finish (by simp) h₁)

end Goal

end Missions

end RobotestLab
