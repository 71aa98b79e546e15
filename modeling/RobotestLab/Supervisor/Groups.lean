import RobotestLab.Library.Occurrence
import RobotestLab.Supervisor.Interleaving

/-!
# The process groups of the children

What a history says about a process group: its cleanup is complete when the status of its leader was
received, a probe found the group empty after that, and no operation of the cleanup failed before.
The groups that a child was given are all cleaned up, but for the last one at most.
-/

namespace RobotestLab

namespace Supervisor

/-! ### Cleanups in a history -/

/-- The goroutine received something from the channel of a process. -/
inductive Receives (i : Goroutine) (wait : Nat) (r : Received) :
    Performed managerActions Goroutine → Prop
  | monitor (poll : Duration) : Receives i wait r ⟨i, .selectMonitor wait poll, .exited r⟩
  | cleanup (ctx : Context) (timeout : Duration) :
      Receives i wait r ⟨i, .selectCleanup ctx (some wait) timeout, .received r⟩
  | poll : Receives i wait r ⟨i, .pollWait (some wait), some r⟩

/-- An operation of a cleanup failed. -/
inductive Faults (i : Goroutine) : Performed managerActions Goroutine → Prop
  | signal {pgid : Int64} {signal : Signal} {err : SignalErr} (h : err.noSuchProcess = false) :
      Faults i ⟨i, .signal pgid signal, some err⟩
  | probe {pgid : Int64} {present : Bool} {err : Err} (h : err ≠ []) :
      Faults i ⟨i, .probe pgid, (present, err)⟩
  | closed {wait : Nat} {e : Performed managerActions Goroutine} (h : Receives i wait .closed e) :
      Faults i e

theorem Receives.not_faults {i : Goroutine} {wait : Nat} {err : Option WaitErr}
    {e : Performed managerActions Goroutine} (h : Receives i wait (.status err) e) :
  ¬ Faults i e
  := by
  intro hfaults
  cases h with
  | _ =>
      cases hfaults with
      | closed hclosed => cases hclosed

theorem not_faults_probe {i : Goroutine} {pgid : Int64} {present : Bool} :
  ¬ Faults i ⟨i, .probe pgid, (present, [])⟩
  := by
  intro hfaults
  cases hfaults with
  | probe h => exact h rfl
  | closed hclosed => cases hclosed

/-- The cleanup of the process group is complete: the status of the leader was received, a probe
found the group empty after that, and nothing failed before. -/
def CleanedUp (i : Goroutine) (process : StartedProcess) (history : History) : Prop :=
  ∃ before after, history = before ++ ⟨i, .probe process.pid, (false, [])⟩ :: after ∧
    (∃ e ∈ before, ∃ err, Receives i process.wait (.status err) e) ∧ ∀ e ∈ before, ¬ Faults i e

theorem CleanedUp.append {i : Goroutine} {process : StartedProcess} {history : History}
    (h : CleanedUp i process history) (history' : History) :
  CleanedUp i process (history ++ history')
  := by
  obtain ⟨before, after, rfl, hreaped, hsound⟩ := h
  exact ⟨before, after ++ history', by simp, hreaped, hsound⟩

/-- What is known of the group holds in the history since its start. -/
structure Knows (i : Goroutine) (process : StartedProcess) (history : History) (g : Group) :
    Prop where
  same : g.process = process
  reaped : g.reaped = true → ∃ e ∈ history, ∃ err, Receives i process.wait (.status err) e
  sound : g.faulty = false → ∀ e ∈ history, ¬ Faults i e
  proven : g.proven = true → CleanedUp i process history

namespace Knows

variable {i : Goroutine} {process : StartedProcess} {history : History} {g : Group}

theorem fresh (i : Goroutine) (process : StartedProcess) :
  Knows i process [] { process := process }
  where
  same := rfl
  reaped h := by cases h
  sound _ e he := by cases he
  proven h := by cases h

/-- An action that does not change what is known. -/
theorem keep (h : Knows i process history g) {e : Performed managerActions Goroutine}
    (he : ¬ Faults i e) :
  Knows i process (history ++ [e]) g
  where
  same := h.same
  reaped hreaped := by
    obtain ⟨e', he', herr⟩ := h.reaped hreaped
    exact ⟨e', List.mem_append_left _ he', herr⟩
  sound hfaulty e' he' := by
    rcases List.mem_append.mp he' with he' | he'
    · exact h.sound hfaulty e' he'
    · obtain rfl := List.mem_singleton.mp he'
      exact he
  proven hproven := (h.proven hproven).append [e]

/-- A failed operation. -/
theorem fault (h : Knows i process history g) (e : Performed managerActions Goroutine) :
  Knows i process (history ++ [e]) { g with faulty := true }
  where
  same := h.same
  reaped hreaped := by
    obtain ⟨e', he', herr⟩ := h.reaped hreaped
    exact ⟨e', List.mem_append_left _ he', herr⟩
  sound hfaulty := by cases hfaulty
  proven hproven := (h.proven hproven).append [e]

/-- Something is received from the channel of the process. -/
theorem receive (h : Knows i process history g) {r : Received}
    {e : Performed managerActions Goroutine} (he : Receives i process.wait r e) :
  Knows i process (history ++ [e]) (g.receive r)
  := by
  cases r with
  | closed => exact h.fault e
  | status err =>
      have hkept := h.keep he.not_faults
      refine ⟨hkept.same, ?_, hkept.sound, hkept.proven⟩
      intro _
      exact ⟨e, List.mem_append_right _ List.mem_cons_self, err, he⟩

/-- The group is probed. -/
theorem probe (h : Knows i process history g) (present : Bool) (err : Err) :
  Knows i process (history ++ [⟨i, .probe process.pid, (present, err)⟩]) (g.probe present err)
  := by
  unfold Group.probe
  split
  · exact h.fault _
  · rename_i herr
    rw [not_not] at herr
    subst herr
    have hkept := h.keep (e := ⟨i, .probe process.pid, (present, [])⟩) not_faults_probe
    split
    · rename_i hcomplete
      obtain ⟨rfl, hreaped, hfaulty⟩ := hcomplete
      refine ⟨hkept.same, hkept.reaped, hkept.sound, ?_⟩
      intro _
      exact ⟨history, [], rfl, h.reaped hreaped, h.sound hfaulty⟩
    · exact hkept

end Knows

/-! ### What a child knows of its groups -/

/-- The action may tell something about a process group. -/
def Action.concernsGroup : Action → Bool
  | .start _ | .selectMonitor _ _ | .selectCleanup _ _ _ | .pollWait _ | .probe
      _ | .signal _ _ => true
  | _ => false

theorem group_next {q : Progress} {a : Action} (ha : a.concernsGroup = false) (r : a.Answer) :
  (q.next a r).group = q.group
  := by
  cases a with
  | start _ | selectMonitor _ _ | selectCleanup _ _ _ | pollWait _ | probe _ | signal _ _ =>
      cases ha
  | _ =>
      unfold Progress.next
      grind [Progress.hold]

theorem not_faults_of_concernsGroup {i j : Goroutine} {a : Action} (ha : a.concernsGroup = false)
    (r : a.Answer) :
  ¬ Faults i ⟨j, a, r⟩
  := by
  intro hfaults
  cases hfaults with
  | signal => cases ha
  | probe => cases ha
  | closed h =>
      cases h with
      | _ => cases ha

theorem not_faults_of_ne {i j : Goroutine} (hij : j ≠ i) {a : Action} (r : a.Answer) :
  ¬ Faults i ⟨j, a, r⟩
  := by
  intro hfaults
  cases hfaults with
  | signal => exact hij rfl
  | probe => exact hij rfl
  | closed h =>
      cases h with
      | _ => exact hij rfl

section Step

variable {i : Goroutine} {process : StartedProcess} {history : History} {g : Group} {q : Progress}

theorem Knows.wait_eq (h : Knows i process history g) (hq : q.group = some g) {wait : Nat}
    (hawaits : q.Awaits wait) :
  wait = process.wait
  := by
  obtain ⟨g', hg', rfl⟩ := hawaits
  rw [hq] at hg'
  rw [← Option.some.inj hg', h.same]

theorem Knows.pid_eq (h : Knows i process history g) (hq : q.group = some g) {pgid : Int64}
    (howns : q.Owns pgid) :
  pgid = process.pid
  := by
  obtain ⟨g', hg', rfl⟩ := howns
  rw [hq] at hg'
  rw [← Option.some.inj hg', h.same]

/-- What is known of the group after the next action of the child. -/
theorem Knows.step (h : Knows i process history g) (hq : q.group = some g) {a : Action}
    (hallowed : AllowedAction i q a) (r : a.Answer) (hpossible : PossibleAnswer a r)
    (hstart : ∀ spec, a ≠ .start spec) :
  ∃ g', (q.next a r).group = some g' ∧ Knows i process (history ++ [⟨i, a, r⟩]) g'
  := by
  have hupdate : ∀ f, (q.updateGroup f).group = some (f g) := by
    intro f
    rw [Progress.updateGroup, hq]
    rfl
  cases a with
  | start spec => cases hstart spec rfl
  | selectMonitor wait poll =>
      obtain rfl := h.wait_eq hq hallowed
      cases r with
      | exited r => exact ⟨_, hupdate _, h.receive (.monitor poll)⟩
      | heartbeat => exact ⟨g, hq, h.keep (by rintro ⟨⟩; rename_i h; cases h)⟩
      | cancelled => exact ⟨g, hq, h.keep (by rintro ⟨⟩; rename_i h; cases h)⟩
  | selectCleanup ctx wait timeout =>
      cases r with
      | received r =>
          cases wait with
          | none => cases hpossible
          | some wait =>
              obtain rfl := h.wait_eq hq (hallowed wait rfl)
              exact ⟨_, hupdate _, h.receive (.cleanup ctx timeout)⟩
      | tick => exact ⟨g, hq, h.keep (by rintro ⟨⟩; rename_i h; cases h)⟩
      | deadline => exact ⟨g, hq, h.keep (by rintro ⟨⟩; rename_i h; cases h)⟩
      | cancelled => exact ⟨g, hq, h.keep (by rintro ⟨⟩; rename_i h; cases h)⟩
  | pollWait wait =>
      cases r with
      | some r =>
          cases wait with
          | none => cases hpossible
          | some wait =>
              obtain rfl := h.wait_eq hq (hallowed wait rfl)
              exact ⟨_, hupdate _, h.receive .poll⟩
      | none => exact ⟨g, hq, h.keep (by rintro ⟨⟩; rename_i h; cases h)⟩
  | probe pgid =>
      obtain rfl := h.pid_eq hq hallowed
      obtain ⟨present, err⟩ := r
      exact ⟨_, hupdate _, h.probe present err⟩
  | signal pgid signal =>
      cases r with
      | none => exact ⟨g, hq, h.keep (by rintro ⟨⟩; rename_i h; cases h)⟩
      | some err =>
          unfold Progress.next
          cases hnone : err.noSuchProcess with
          | true =>
              refine ⟨g, by simp [hnone, hq], h.keep ?_⟩
              intro hfaults
              cases hfaults with
              | signal hfalse =>
                  rw [hnone] at hfalse
                  cases hfalse
              | closed h => cases h
          | false => exact ⟨_, by simp [hnone, hupdate], h.fault _⟩
  | _ => exact ⟨g, (group_next rfl r).trans hq, h.keep (not_faults_of_concernsGroup rfl r)⟩

end Step

section Runs

variable {cfg : Config} {store : EventStore} {directory : Directory} {history : History}
  {p : Pool managerActions Goroutine World} {i : Goroutine}

/-- Every group that was started is cleaned up, or it is the last one and the goroutine knows what
happened to it. -/
theorem Manages.knows (h : Manages cfg store directory history p) {spec : Child}
    {process : StartedProcess} {before after : History}
    (hstart : history = before ++ ⟨i, .start spec, .ok process⟩ :: after) :
  CleanedUp i process after ∨
    ∃ g, (progress i history).group = some g ∧ Knows i process after g
  := by
  apply Manages.invariant (fun history _ => ∀ i spec process before after,
    history = before ++ ⟨i, .start spec, .ok process⟩ :: after → CleanedUp i process after ∨
      ∃ g, (progress i history).group = some g ∧ Knows i process after g) _ _ h _ _ _ _ _ hstart
  · intro i spec process before after h
    simp at h
  · intro history p j a r w _ hinv _ hallowed hexec i spec process before after h
    rcases concat_eq_append_cons h with ⟨rfl, hlast, rfl⟩ | ⟨after, rfl, hbefore⟩
    · -- The last action is the start.
      cases hlast
      right
      rw [progress_own]
      exact ⟨{ process := process }, rfl, Knows.fresh _ process⟩
    · rcases hinv i spec process before after hbefore with hcleaned | ⟨g, hg, hknows⟩
      · exact Or.inl (hcleaned.append _)
      · by_cases hji : j = i
        · subst hji
          rw [progress_own]
          by_cases hstart : ∃ spec, a = .start spec
          · obtain ⟨spec', rfl⟩ := hstart
            have hproven := hallowed.2.gone g hg
            exact Or.inl ((hknows.proven hproven).append _)
          · apply Or.inr
            apply hknows.step hg hallowed r (possibleAnswer_of_perform hexec)
            intro spec' ha
            exact hstart ⟨spec', ha⟩
        · rw [progress_other hji]
          exact Or.inr ⟨g, hg, hknows.keep (not_faults_of_ne hji r)⟩

/-- A process is started by the goroutine of its child. -/
theorem Manages.starter {spec : Child} {r : Except Err StartedProcess} {before after : History}
    (h : Manages cfg store directory (before ++ ⟨i, .start spec, r⟩ :: after) p) :
  i = .child spec.name
  := by
  obtain ⟨p', -, -, hallowed⟩ := h.allowed
  exact hallowed.1

/-- A group is cleaned up before the next process of the child is started. -/
theorem Manages.cleanedUp_of_start {spec spec' : Child} {process : StartedProcess}
    {r : Except Err StartedProcess} {before between after : History}
    (h : Manages cfg store directory (before ++ ⟨i, .start spec, .ok process⟩ :: between ++
      ⟨i, .start spec', r⟩ :: after) p) :
  CleanedUp i process between
  := by
  obtain ⟨p', hp', -, -, hcan⟩ := h.allowed
  rcases hp'.knows rfl with hcleaned | ⟨g, hg, hknows⟩
  · exact hcleaned
  · exact hknows.proven (hcan.gone g hg)

end Runs

end Supervisor

end RobotestLab
