import RobotestLab.Missions.Closing

/-!
# How the executor watches an accepted goal

The rounds of the loop that waits for the terminal result, and how the loop ends: with a terminal
result, with a cancellation, because the simulation clock regressed, or because the runtime
stopped (`Ended`).
-/

namespace RobotestLab

namespace Missions

open Program

variable {F : Type}

/-! ### Background calls -/

/-- The calls that a wait for fault events makes. -/
def Call.background : Call F → Bool
  | .runtimeOk => true
  | .simTimeNs => true
  | .steadyTimeS => true
  | .spinOnce _ => true
  | .drainEvents => true
  | .eventOverflowCount => true
  | _ => false

def Background (c : Call F) : Prop := c.background = true

theorem background_allowsDraining :
  AllowsDraining (Background (F := F))
  := by
  refine ⟨⟨rfl, rfl, rfl, fun _ => rfl⟩, rfl, rfl⟩

theorem background_allowsWaiting :
  AllowsWaiting (Background (F := F))
  := background_allowsDraining.toAllowsWaiting

theorem Observes.mono {K K' : Call F → Prop} {s s' : MissionExecutor F} {u : List (Interaction F)}
    (h : Observes K s u s') (hK : ∀ c, K c → K' c) :
  Observes K' s u s'
  := ⟨fun i hi => hK _ (h.calls i hi), h.settled, h.active, h.events⟩

theorem Observes.any {K : Call F → Prop} {s s' : MissionExecutor F} {u : List (Interaction F)}
    (h : Observes K s u s') :
  Observes AnyCall s u s'
  := h.mono fun _ _ => trivial

/-- Every call is a background call. -/
def Waits (u : List (Interaction F)) : Prop := ∀ i ∈ u, Background i.1

/-! ### Terminal results -/

/-- The goal succeeded: no error and no missed waypoint. -/
def TerminalActionResult.Succeeded (terminal : TerminalActionResult) : Prop :=
  terminal.statusCode = 4 ∧ terminal.errorCode = 0 ∧ terminal.missedWaypoints = []

/-- The verdict is success only for a goal that succeeded, observed after it was accepted. -/
theorem succeeded_of_terminalVerdict {record : ExecutionRecord F} {terminal : TerminalActionResult}
    (h : (terminalVerdict record terminal).1 = .success) :
  terminal.Succeeded ∧ ∀ accepted observed, record.acceptedGoalStampNs = some accepted →
    record.terminalActionStampNs = some observed → accepted ≤ observed
  := by
  unfold terminalVerdict at h
  split at h
  · cases h
  · rename_i hprecedes
    split at h
    · rename_i hstatus
      split at h
      · cases h
      · rename_i herror
        split at h
        · cases h
        · rename_i hmissed
          refine ⟨⟨hstatus, not_not.mp herror, ?_⟩, ?_⟩
          · simpa using hmissed
          · intro accepted observed haccepted hobserved
            rw [terminalPrecedesAcceptance, haccepted, hobserved] at hprecedes
            simpa using hprecedes
    · split at h
      · cases h
      · split at h
        · cases h
        · cases h

section Monitoring

variable [PyFloat F] (config : MissionConfig F) (faultDriver : Bool)
variable {s s' : MissionExecutor F} {u : List (Interaction F)}

/-- Capturing a terminal result reads the simulation clock first. -/
theorem runs_captureTerminal {terminal : TerminalActionResult}
    (h : Runs (captureTerminal terminal) s u (.ok ()) s') :
  ∃ observed w, u = ⟨.simTimeNs, .ok observed⟩ :: w ∧ Waits w ∧
    s'.record.terminalResult = some terminal ∧
    s'.record.terminalActionStampNs = some observed ∧
    s'.record.acceptedGoalStampNs = s.record.acceptedGoalStampNs
  := by
  obtain ⟨_, s₁, u₁, u₂, rfl, hresult, h₁⟩ := runs_bind_ok h
  obtain ⟨rfl, rfl⟩ := runs_modifyRecord hresult
  obtain ⟨observed, s₂, u₃, u₄, rfl, hstamp, h₂⟩ := runs_bind_ok h₁
  obtain ⟨rfl, rfl⟩ := runs_ask hstamp
  obtain ⟨_, s₃, u₅, u₆, rfl, hmodify, h₃⟩ := runs_bind_ok h₂
  obtain ⟨rfl, rfl⟩ := runs_modifyRecord hmodify
  obtain ⟨offset, s₄, u₇, u₈, rfl, hoffset, h₄⟩ := runs_bind_ok h₃
  have hoffset' := (observes_wallOffset background_allowsWaiting).of_runs hoffset
  obtain ⟨_, s₅, u₉, u₁₀, rfl, hwall, h₅⟩ := runs_bind_ok h₄
  obtain ⟨rfl, rfl⟩ := runs_modifyRecord hwall
  have hevent := (observes_event background_allowsWaiting _ _ _).of_runs h₅
  refine ⟨observed, u₇ ++ u₁₀, rfl, ?_, ?_, ?_, ?_⟩
  · intro i hi
    rcases List.mem_append.mp hi with hi | hi
    · apply hoffset'.calls i hi
    · apply hevent.calls i hi
  · rw [hevent.field (·.terminalResult) fun _ => rfl]
    exact hoffset'.field (·.terminalResult) fun _ => rfl
  · rw [hevent.field (·.terminalActionStampNs) fun _ => rfl]
    exact hoffset'.field (·.terminalActionStampNs) fun _ => rfl
  · rw [hevent.field (·.acceptedGoalStampNs) fun _ => rfl]
    exact hoffset'.field (·.acceptedGoalStampNs) fun _ => rfl

/-- Finishing from a terminal result captures it, and succeeds only if the goal did. -/
theorem runs_finishFromTerminal {terminal : TerminalActionResult}
    (h : Runs (finishFromTerminal terminal) s u (.ok ()) s') :
  ∃ observed w, u = ⟨.simTimeNs, .ok observed⟩ :: w ∧ Waits w ∧
    s'.record.terminalResult = some terminal ∧
    s'.record.terminalActionStampNs = some observed ∧
    (s'.record.exitCode = .success → terminal.Succeeded ∧
      ∀ accepted, s.record.acceptedGoalStampNs = some accepted → accepted ≤ observed)
  := by
  obtain ⟨_, s₁, u₁, u₂, rfl, hcapture, h₁⟩ := runs_bind_ok h
  obtain ⟨observed, w, rfl, hcalls, hresult, hstamp, haccepted⟩ := runs_captureTerminal hcapture
  obtain ⟨record, s₂, u₃, u₄, rfl, hrecord, hfinish⟩ := runs_bind_ok h₁
  obtain ⟨rfl, rfl, rfl⟩ := runs_getRecord hrecord
  obtain ⟨rfl, exitCode, reason, hcode, rfl⟩ := runs_finish hfinish
  refine ⟨observed, w, by simp, hcalls, hresult, hstamp, ?_⟩
  intro hsuccess
  obtain rfl : exitCode = .success := hsuccess
  rcases hcode with hcode | hcode
  · obtain ⟨hsucceeded, hafter⟩ := succeeded_of_terminalVerdict hcode.symm
    refine ⟨hsucceeded, ?_⟩
    intro accepted hstarted
    apply hafter accepted observed _ hstamp
    rw [haccepted]
    exact hstarted
  · cases hcode

/-! ### Rounds -/

/-- The interactions of a round that goes on: the status is the given one, the result is pending and
the simulation clock has not regressed. -/
def IsRound (localNs stampNs : Int) (u : List (Interaction F)) : Prop :=
  ∃ v₁ v₂ w observed, u = v₁ ++ ⟨.pollAcceptedStatusStampNs, .ok (some stampNs)⟩ ::
      (v₂ ++ ⟨.pollTerminalResult, .ok none⟩ :: ⟨.simTimeNs, .ok observed⟩ :: w) ∧
    Waits v₁ ∧ Waits v₂ ∧ Waits w ∧ localNs ≤ observed

/-- How the loop that waits for the terminal result ends. -/
inductive Ended (localNs stampNs : Int) (s : MissionExecutor F) (u : List (Interaction F))
    (s' : MissionExecutor F) : Prop
  | terminal {v₁ v₂ w : List (Interaction F)} {terminal : TerminalActionResult} {observed : Int}
      (interactions : u = v₁ ++ ⟨.pollAcceptedStatusStampNs, .ok (some stampNs)⟩ ::
        (v₂ ++ ⟨.pollTerminalResult, .ok (some terminal)⟩ :: ⟨.simTimeNs, .ok observed⟩ :: w))
      (before : Waits v₁) (between : Waits v₂) (after : Waits w)
      (result : s'.record.terminalResult = some terminal)
      (stamp : s'.record.terminalActionStampNs = some observed)
      (success : s'.record.exitCode = .success → terminal.Succeeded ∧
        ∀ accepted, s.record.acceptedGoalStampNs = some accepted → accepted ≤ observed)
  | regressed {v₁ v₂ : List (Interaction F)} {observed : Int}
      (interactions : u = v₁ ++ ⟨.pollAcceptedStatusStampNs, .ok (some stampNs)⟩ ::
        (v₂ ++ [⟨.pollTerminalResult, .ok none⟩, ⟨.simTimeNs, .ok observed⟩]))
      (before : Waits v₁) (between : Waits v₂) (regression : observed < localNs)
      (result : s'.record.terminalResult = s.record.terminalResult)
      (code : s'.record.exitCode ≠ .success)
  | canceled {v₁ v₂ v₃ w : List (Interaction F)} {observed : Int} {s₁ : MissionExecutor F}
      {deadlineKind : String}
      (interactions : u = v₁ ++ ⟨.pollAcceptedStatusStampNs, .ok (some stampNs)⟩ ::
        (v₂ ++ ⟨.pollTerminalResult, .ok none⟩ :: ⟨.simTimeNs, .ok observed⟩ :: (v₃ ++ w)))
      (before : Waits v₁) (between : Waits v₂) (after : Waits v₃) (holds : localNs ≤ observed)
      (cancels : Runs (cancelAfterDeadline config deadlineKind) s₁ w (.ok ()) s')
  | stopped (interactions : u = [⟨.runtimeOk, .ok false⟩]) (code : s'.record.exitCode ≠ .success)

variable {localNs stampNs : Int} {wallS : F}

/-- A call with the callbacks before it. -/
theorem runs_poll {c : Call F} {r : Except Raised c.Answer}
    (h : Runs (perform config c) s u r s') :
  ∃ v, u = v ++ [⟨c, r⟩] ∧ Observes Background s v s'
  := runs_perform_observes config background_allowsWaiting h

/-- A call with the callbacks before it, as one among any calls. -/
theorem observes_any_of_poll {c : Call F} {r : Except Raised c.Answer}
    (h : Runs (perform config c) s u r s') :
  Observes AnyCall s u s'
  := (observes_perform (K := AnyCall) config anyCall_allowsWaiting trivial).of_runs h

/-- The interactions of a round up to the poll of the terminal result. -/
structure Polled (stampNs : Int) (terminal : Option TerminalActionResult) (s : MissionExecutor F)
    (u : List (Interaction F)) (s₁ : MissionExecutor F) : Prop where
  interactions : ∃ v₁ v₂, u = v₁ ++ ⟨.pollAcceptedStatusStampNs, .ok (some stampNs)⟩ ::
      (v₂ ++ [⟨.pollTerminalResult, .ok terminal⟩]) ∧ Waits v₁ ∧ Waits v₂
  observes : Observes AnyCall s u s₁

section Polled

variable {w : List (Interaction F)} {s₁ : MissionExecutor F} {observed : Int}

/-- There is a terminal result. -/
theorem Polled.terminal {terminal : TerminalActionResult}
    (h : Polled stampNs (some terminal) s u s₁)
    (hfinish : Runs (finishFromTerminal terminal) s₁ w (.ok ()) s') :
  Ended config localNs stampNs s (u ++ w) s'
  := by
  obtain ⟨v₁, v₂, rfl, hbefore, hbetween⟩ := h.interactions
  obtain ⟨observed, w, rfl, hw, hresult, hstamp, hsuccess⟩ := runs_finishFromTerminal hfinish
  refine Ended.terminal ?_ hbefore hbetween hw hresult hstamp ?_
  · simp only [List.append_assoc, List.cons_append, List.nil_append]
  · rw [← h.observes.field (·.acceptedGoalStampNs) fun _ => rfl]
    exact hsuccess

/-- The simulation clock went back. -/
theorem Polled.regressed {reason : String} (h : Polled stampNs none s u s₁)
    (hregression : observed - localNs < 0)
    (hfinish : Runs (finish .infrastructureError reason) s₁ w (.ok ()) s') :
  Ended config localNs stampNs s (u ++ ⟨.simTimeNs, .ok observed⟩ :: w) s'
  := by
  obtain ⟨v₁, v₂, rfl, hbefore, hbetween⟩ := h.interactions
  obtain ⟨rfl, exitCode, reason, hcode, rfl⟩ := runs_finish hfinish
  refine Ended.regressed ?_ hbefore hbetween (Int.lt_of_sub_neg hregression) ?_ ?_
  · simp only [List.append_assoc, List.cons_append, List.nil_append]
  · exact h.observes.field (·.terminalResult) fun _ => rfl
  · rcases hcode with rfl | rfl <;> simp

/-- A deadline is over. -/
theorem Polled.canceled {v : List (Interaction F)} {s₂ : MissionExecutor F} {deadlineKind : String}
    (h : Polled stampNs none s u s₁) (hv : Waits v) (hholds : localNs ≤ observed)
    (hcancel : Runs (cancelAfterDeadline config deadlineKind) s₂ w (.ok ()) s') :
  Ended config localNs stampNs s (u ++ ⟨.simTimeNs, .ok observed⟩ :: (v ++ w)) s'
  := by
  obtain ⟨v₁, v₂, rfl, hbefore, hbetween⟩ := h.interactions
  refine Ended.canceled ?_ hbefore hbetween hv hholds hcancel
  simp only [List.append_assoc, List.cons_append, List.nil_append]

omit [PyFloat F] in
/-- The round goes on. -/
theorem Polled.isRound (h : Polled stampNs none s u s₁) (hw : Waits w)
    (hholds : localNs ≤ observed) :
  IsRound localNs stampNs (u ++ ⟨.simTimeNs, .ok observed⟩ :: w)
  := by
  obtain ⟨v₁, v₂, rfl, hbefore, hbetween⟩ := h.interactions
  refine ⟨v₁, v₂, w, observed, ?_, hbefore, hbetween, hw, hholds⟩
  simp only [List.append_assoc, List.cons_append, List.nil_append]

end Polled

omit [PyFloat F] in
/-- What ends the loop is done before it ends. -/
theorem runs_ends {m : Mission F Unit} {next : Unit ⊕ Unit}
    (h : Runs (do m; pure (.inr ())) s u (.ok next) s') :
  next = .inr () ∧ Runs m s u (.ok ()) s'
  := by
  obtain ⟨_, s₁, u₁, u₂, rfl, hm, hpure⟩ := runs_bind_ok h
  obtain ⟨hnext, rfl, rfl⟩ := runs_pure hpure
  rw [List.append_nil]
  exact ⟨Except.ok.inj hnext, hm⟩

/-- A round goes on or ends the loop. -/
theorem runs_monitorRound {next : Unit ⊕ Unit}
    (h : Runs (monitorRound config faultDriver localNs wallS stampNs) s u (.ok next) s') :
  (next = .inl () ∧ IsRound localNs stampNs u ∧ Observes AnyCall s u s') ∨
    (next = .inr () ∧ Ended config localNs stampNs s u s')
  := by
  have hseq := observes_sequential (F := F) Background
  have hany := observes_sequential (F := F) AnyCall
  obtain ⟨ok, s₀, u₀, u₁, rfl, hok, h₁⟩ := runs_bind_ok h
  have hbackground := (observes_ask background_allowsWaiting.runtimeOk).of_runs hok
  obtain ⟨rfl, rfl⟩ := runs_ask hok
  split at h₁
  · obtain ⟨_, s₁, u₂, u₃, rfl, hraise, h₂⟩ := runs_bind_ok h₁
    obtain ⟨_, s₂, u₄, u₅, rfl, hcollect, h₃⟩ := runs_bind_ok h₂
    obtain ⟨status, s₃, u₆, u₇, rfl, hstatus, h₄⟩ := runs_bind_ok h₃
    have hraise' := (observes_raiseIfFeedbackTraceOverflow (K := Background)).of_runs hraise
    have hcollect' :=
      (observes_collectFaultEvents config faultDriver background_allowsDraining).of_runs hcollect
    have hstatus' := observes_any_of_poll config hstatus
    obtain ⟨v, rfl, hv⟩ := runs_poll config hstatus
    split at h₄
    · cases (runs_raise h₄).1
    · rename_i hmatches
      obtain rfl := not_not.mp hmatches
      obtain ⟨terminal, s₄, u₈, u₉, rfl, hterminal, h₅⟩ := runs_bind_ok h₄
      have hterminal' := observes_any_of_poll config hterminal
      obtain ⟨v', rfl, hv'⟩ := runs_poll config hterminal
      have hbefore := hseq.trans hbackground (hseq.trans hraise' (hseq.trans hcollect' hv))
      have hobserves := hany.trans hbackground.any (hany.trans hraise'.any
        (hany.trans hcollect'.any (hany.trans hstatus' hterminal')))
      have hpolled : Polled stampNs terminal s₀ _ s₄ :=
        ⟨⟨_, v', by simp only [List.append_assoc, List.cons_append, List.nil_append],
          hbefore.calls, hv'.calls⟩, hobserves⟩
      -- What follows the poll is put at the end.
      rw [show ∀ a b c d e : List (Interaction F), a ++ (b ++ (c ++ (d ++ (e ++ u₉)))) =
        a ++ (b ++ (c ++ (d ++ e))) ++ u₉ by simp]
      cases terminal with
      | some terminal =>
          right
          obtain ⟨hnext, hfinish⟩ := runs_ends h₅
          exact ⟨hnext, hpolled.terminal config hfinish⟩
      | none =>
          obtain ⟨observed, s₅, u₁₀, u₁₁, rfl, hclock, h₆⟩ := runs_bind_ok h₅
          have hclock' := (observes_ask anyCall_allowsWaiting.simTimeNs).of_runs hclock
          obtain ⟨rfl, rfl⟩ := runs_ask hclock
          simp only at h₆
          split at h₆
          · rename_i hregression
            right
            obtain ⟨hnext, hfinish⟩ := runs_ends h₆
            exact ⟨hnext, hpolled.regressed config hregression hfinish⟩
          · rename_i hholds
            have hholds' : localNs ≤ observed := Int.le_of_sub_nonneg (Int.not_lt.mp hholds)
            split at h₆
            · cases (runs_raise h₆).1
            · split at h₆
              · right
                obtain ⟨hnext, hcancel⟩ := runs_ends h₆
                have hnone : Waits ([] : List (Interaction F)) := by
                  simp [Waits]
                exact ⟨hnext, hpolled.canceled config hnone hholds' hcancel⟩
              · obtain ⟨steady, s₆, u₁₂, u₁₃, rfl, hsteady, h₇⟩ := runs_bind_ok h₆
                have hwait := (observes_ask background_allowsWaiting.steadyTimeS).of_runs hsteady
                split at h₇
                · right
                  obtain ⟨hnext, hcancel⟩ := runs_ends h₇
                  exact ⟨hnext, hpolled.canceled config (v := u₁₂) hwait.calls hholds' hcancel⟩
                · left
                  obtain ⟨_, s₇, u₁₄, u₁₅, rfl, hspin, hpure⟩ := runs_bind_ok h₇
                  obtain ⟨hnext, rfl, rfl⟩ := runs_pure hpure
                  have hspin' := (observes_perform config background_allowsWaiting
                    (background_allowsWaiting.spinOnce _)).of_runs hspin
                  have hwaits := hseq.trans hwait hspin'
                  rw [List.append_nil]
                  exact ⟨Except.ok.inj hnext, hpolled.isRound hwaits.calls hholds',
                    hany.trans hpolled.observes (hany.trans hclock' hwaits.any)⟩
  · rename_i hstopped
    right
    obtain ⟨hnext, hfinish⟩ := runs_ends h₁
    obtain ⟨rfl, exitCode, reason, hcode, rfl⟩ := runs_finish hfinish
    refine ⟨hnext, Ended.stopped ?_ ?_⟩
    · rw [Bool.not_eq_true] at hstopped
      rw [hstopped]
      rfl
    · rcases hcode with rfl | rfl <;> simp

/-- The loop goes through rounds, and then it ends. -/
def Monitored (localNs stampNs : Int) (s : MissionExecutor F) (u : List (Interaction F))
    (s' : MissionExecutor F) : Prop :=
  ∃ (rounds : List (List (Interaction F))) (last : List (Interaction F)) (s₁ : MissionExecutor F),
    u = rounds.flatten ++ last ∧ (∀ round ∈ rounds, IsRound localNs stampNs round) ∧
    Observes AnyCall s rounds.flatten s₁ ∧ Ended config localNs stampNs s₁ last s'

theorem runs_waitForTerminalOrDeadline
    (h : Runs (waitForTerminalOrDeadline config faultDriver localNs wallS stampNs) s u
      (.ok ()) s') :
  Monitored config localNs stampNs s u s'
  := by
  unfold waitForTerminalOrDeadline at h
  split at h
  · cases (runs_raise h).1
  · have hloop : ∀ r, Runs (Program.loop (fun _ : Unit =>
        monitorRound config faultDriver localNs wallS stampNs) ()) s u r s' → r = .ok () →
          Monitored config localNs stampNs s u s' := by
      intro r hr
      apply runs_loop (P := fun _ s u r s' => r = .ok () →
        Monitored config localNs stampNs s u s') _ _ _ hr
      · intro _ s u a s' hround _
        rcases runs_monitorRound config faultDriver hround with ⟨hnext, -⟩ | ⟨-, hended⟩
        · cases hnext
        · exact ⟨[], u, s, rfl, by simp, (observes_sequential AnyCall).refl s, hended⟩
      · intro _ s u e s' _ hraised
        cases hraised
      · intro _ _ s u s₁ v r s' hround ih hok
        obtain ⟨rounds, last, s₂, rfl, hrounds, hobserves, hended⟩ := ih hok
        rcases runs_monitorRound config faultDriver hround with ⟨-, hround',
          hobserves'⟩ | ⟨hnext, -⟩
        · refine ⟨u :: rounds, last, s₂, ?_, ?_, ?_, hended⟩
          · rw [List.flatten_cons, List.append_assoc]
          · intro round hmem
            rcases List.mem_cons.mp hmem with rfl | hmem
            · exact hround'
            · apply hrounds round hmem
          · rw [List.flatten_cons]
            apply (observes_sequential AnyCall).trans hobserves' hobserves
        · cases hnext
    exact hloop _ h rfl

end Monitoring

end Missions

end RobotestLab
