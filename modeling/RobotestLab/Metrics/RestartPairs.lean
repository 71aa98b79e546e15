import RobotestLab.Metrics.OutageMeasure
import RobotestLab.Supervisor.RestartOrder

/-!
# Pairs of schedules and starts

What `supervisor_recovery_metrics` counts as a restart when several children are restarted at the
same time. It pairs a schedule with the next start of any child. The pairs belong to one child each,
and are the restarts that the manager counts, exactly when every child is started in its turn
(`restartPairs_of_one_child`).
-/

namespace RobotestLab

namespace Metrics

open Supervisor

/-! ### Pairs -/

/-- The schedules and the starts that are counted as restarts, given a schedule that is pending. -/
def countedPairs (pending : Option Event) : List Event → List (Event × Event)
  | [] => []
  | event :: events =>
      match event.mark with
      | .scheduled => countedPairs (some event) events
      | .started =>
          (pending.map fun schedule => (schedule, event)).toList ++ countedPairs none events
      | _ => countedPairs pending events

/-- The times of a pair. -/
def pairTimes (pair : Event × Event) : RestartPair where
  childStartedWallNs := pair.2.steadyWallNs.toInt
  restartScheduledWallNs := pair.1.steadyWallNs.toInt

/-- The pair is a restart of one child. -/
def OfOneChild (pair : Event × Event) : Prop :=
  pair.1.mark = .scheduled ∧ pair.2.mark = .started ∧ pair.1.child = pair.2.child

section Pairs

variable {event : Event} {events : List Event} {pending : Option Event}
  {restarts restarts' : Restarts}
  {owed : String → Bool} {n : Nat}

theorem countedPairs_scheduled (h : event.mark = .scheduled) :
  countedPairs pending (event :: events) = countedPairs (some event) events
  := by
  simp only [countedPairs, h]

theorem countedPairs_started (h : event.mark = .started) :
  countedPairs pending (event :: events) =
    (pending.map fun schedule => (schedule, event)).toList ++ countedPairs none events
  := by
  simp only [countedPairs, h]

theorem countedPairs_other (h : event.mark.isRestart = false) :
  countedPairs pending (event :: events) = countedPairs pending events
  := by
  cases hmark : event.mark with
  | scheduled | started =>
      rw [hmark] at h
      cases h
  | _ => simp only [countedPairs, hmark]

/-- The pairs are counted with their times. -/
theorem foldlM_count_pairs (hpending : restarts.scheduledStamp = pending.map (·.steadyWallNs.toInt))
    (h : (events.map orderedEvent).foldlM Restarts.count restarts = .ok restarts') :
  restarts'.restartPairs = restarts.restartPairs ++ (countedPairs pending events).map pairTimes
  := by
  induction events generalizing restarts pending with
  | nil =>
      rw [← Except.ok.inj h]
      exact (List.append_nil _).symm
  | cons event events ih =>
      rw [List.map_cons, List.foldlM_cons] at h
      rcases event.mark.isRestart_cases with hm | hm | hm
      · rw [count_scheduled hm] at h
        split at h
        · cases h
        · rw [countedPairs_scheduled hm]
          exact @ih (some event) { restarts with scheduledStamp := some event.steadyWallNs.toInt }
            rfl h
      · rw [countedPairs_started hm, List.map_append]
        have hkind := mark_eq_started_iff.mp hm
        cases pending with
        | none =>
            have hcount : restarts.count (orderedEvent event) = .ok restarts := by
              simp [Restarts.count, orderedEvent, hasKind_evidence, hkind, hpending]
            rw [hcount] at h
            exact ih hpending h
        | some schedule =>
            have hcount : restarts.count (orderedEvent event) = .ok {
                restartCount := restarts.restartCount + 1
                scheduledStamp := none
                restartPairs := restarts.restartPairs ++ [pairTimes (schedule, event)] } := by
              simp [Restarts.count, orderedEvent, hasKind_evidence, hkind, hpending, pairTimes]
            rw [hcount] at h
            rw [@ih none _ rfl h]
            apply List.append_assoc
      · rw [count_other hm] at h
        rw [countedPairs_other hm]
        exact ih hpending h

/-- Who owes a start, as the pending schedule tells. -/
def Owes (owed : String → Bool) (pending : Option Event) : Prop :=
  ∀ name, owed name = true ↔ ∃ schedule ∈ pending, schedule.child = name

theorem Owes.nobody (h : Owes owed none) (name : String) :
  owed name = false
  := by
  rw [← Bool.not_eq_true, h]
  rintro ⟨schedule, hmem, -⟩
  cases hmem

theorem Owes.schedule (h : Owes owed none) (hm : event.mark = .scheduled) :
  Owes (oweAfter owed event) (some event)
  := by
  intro name
  simp only [oweAfter, hm, Option.mem_some_iff, exists_eq_left']
  by_cases hname : name = event.child
  · rw [hname, Function.update_self]
    simp
  · rw [Function.update_of_ne hname, h.nobody]
    simp [Ne.symm hname]

/-- A start of the child that owes one, or of some child when nobody does. -/
theorem Owes.start (h : Owes owed pending) (hm : event.mark = .started)
    (hchild : ∀ schedule ∈ pending, schedule.child = event.child) :
  Owes (oweAfter owed event) none
  := by
  intro name
  simp only [oweAfter, hm]
  constructor
  · intro howed
    by_cases hname : name = event.child
    · rw [hname, Function.update_self] at howed
      cases howed
    · rw [Function.update_of_ne hname, h] at howed
      obtain ⟨schedule, hmem, rfl⟩ := howed
      exact absurd (hchild schedule hmem) hname
  · rintro ⟨schedule, hmem, -⟩
    cases hmem

/-- A start is in turn when it is a start of the child that owes one. -/
theorem Owes.in_turn (h : Owes owed pending) :
  (∀ name, name ≠ event.child → owed name = false) ↔
    ∀ schedule ∈ pending, schedule.child = event.child
  := by
  constructor
  · intro hturn schedule hmem
    by_contra hne
    have howed := (h schedule.child).mpr ⟨schedule, hmem, rfl⟩
    rw [hturn schedule.child hne] at howed
    cases howed
  · intro hchild name hname
    rw [← Bool.not_eq_true, h]
    rintro ⟨schedule, hmem, rfl⟩
    exact hname (hchild schedule hmem)

/-- The pairs belong to one child each exactly when every start is in turn. Then they are the
restarts, and nobody owes a start in the end. -/
theorem pairs_of_tally (howes : Owes owed pending)
    (hscheduled : ∀ schedule ∈ pending, schedule.mark = .scheduled)
    (h : tally pending.isSome (events.map Event.mark) = some (n, false)) :
  ((∀ pair ∈ countedPairs pending events, OfOneChild pair) ↔ InTurnFrom owed events) ∧
  (InTurnFrom owed events → (restartsFrom owed events).length = n ∧
    ∀ name, events.foldl oweAfter owed name = false)
  := by
  induction events generalizing pending owed n with
  | nil =>
      obtain ⟨rfl, hnone⟩ := Prod.mk.inj (Option.some.inj h)
      rw [Option.isSome_eq_false_iff, Option.isNone_iff_eq_none] at hnone
      subst hnone
      refine ⟨⟨fun _ => trivial, ?_⟩, fun _ => ⟨rfl, howes.nobody⟩⟩
      intro _ pair hmem
      cases hmem
  | cons event events ih =>
      rw [List.map_cons] at h
      rw [InTurnFrom, restartsFrom, List.foldl_cons]
      rcases event.mark.isRestart_cases with hm | hm | hm
      · rw [hm, tally] at h
        split at h
        · cases h
        · rename_i hpending
          rw [Option.not_isSome_iff_eq_none] at hpending
          subst hpending
          rw [countedPairs_scheduled hm, hm]
          have hrest := ih (howes.schedule hm) (by simpa using hm) h
          simpa using hrest
      · rw [hm, tally, Option.map_eq_some_iff] at h
        obtain ⟨⟨n', pending'⟩, htally, heq⟩ := h
        obtain ⟨rfl, rfl⟩ := Prod.mk.inj heq
        rw [countedPairs_started hm, hm]
        have hmark : ∀ s ∈ (none : Option Event), s.mark = .scheduled := by rintro s ⟨⟩
        cases pending with
        | none =>
            have hmem : ∀ s ∈ (none : Option Event), s.child = event.child := by rintro s ⟨⟩
            obtain ⟨hpairs, hcounts⟩ := ih (howes.start hm hmem) hmark htally
            rw [if_neg fun hboth => by rw [howes.nobody] at hboth; cases hboth.2]
            refine ⟨?_, fun hturn => hcounts hturn.2⟩
            rw [and_iff_right fun _ => howes.in_turn.mpr hmem]
            exact hpairs
        | some schedule =>
            by_cases hchild : schedule.child = event.child
            · have hmem : ∀ s ∈ some schedule, s.child = event.child := by
                rintro s ⟨⟩
                exact hchild
              have howed : owed event.child = true :=
                (howes event.child).mpr ⟨schedule, rfl, hchild⟩
              have hpair : OfOneChild (schedule, event) := ⟨hscheduled schedule rfl, hm, hchild⟩
              obtain ⟨hpairs, hcounts⟩ := ih (howes.start hm hmem) hmark htally
              rw [and_iff_right fun _ => howes.in_turn.mpr hmem, if_pos ⟨rfl, howed⟩, ← hpairs]
              refine ⟨by simp [hpair], ?_⟩
              intro hturn
              obtain ⟨hlength, hnobody⟩ := hcounts (hpairs.mp hturn)
              refine ⟨?_, hnobody⟩
              rw [List.singleton_append, List.length_cons, hlength]
              rfl
            · have hturn : ¬ ∀ name, name ≠ event.child → owed name = false := fun hturn =>
                hchild (howes.in_turn.mp hturn schedule rfl)
              have hpair : ¬ OfOneChild (schedule, event) := fun hpair => hchild hpair.2.2
              simp [hturn, hpair]
      · rw [tally_cons hm] at h
        have hnotStarted : event.mark ≠ .started := fun heq => by rw [heq] at hm; cases hm
        have hsame : oweAfter owed event = owed := by
          apply oweAfter_of_ne _ hnotStarted
          intro heq
          rw [heq] at hm
          cases hm
        rw [countedPairs_other hm, hsame, if_neg fun hboth => hnotStarted hboth.1, List.nil_append,
          and_iff_right fun heq => absurd heq hnotStarted]
        exact ih howes hscheduled h

end Pairs

/-! ### The outage of a log that is measured -/

section Measured

variable {F64 : Type} [PyFloat F64] {events before mid after : List Event}
  {failure restored : Event}
  {result : SupervisorRecovery F64}

/-- The restarts of an outage that is measured are counted, and none is pending in the end. -/
theorem measureOutage_counts {first failure restored : OrderedEvent} {interval : List OrderedEvent}
    (h : measureOutage first failure restored interval = .ok result) :
  ∃ restarts, interval.foldlM Restarts.count {} = .ok restarts ∧ restarts.scheduledStamp = none ∧
    result.restartCount = restarts.restartCount ∧ result.restartPairs = restarts.restartPairs
  := by
  unfold measureOutage at h
  split at h
  · cases h
  · split at h
    · cases h
    · obtain ⟨restarts, hfold, hrest⟩ := Except.bind_eq_ok_iff.mp h
      split at hrest
      · cases hrest
      · rename_i hpending
        split at hrest
        · cases hrest
        · obtain ⟨time, -, hresult⟩ := Except.bind_eq_ok_iff.mp hrest
          obtain rfl := Except.ok.inj hresult
          exact ⟨restarts, hfold, Option.not_isSome_iff_eq_none.mp hpending, rfl, rfl⟩

/-- A log that is measured has an outage. -/
theorem exists_outageLog_of_measureRun (hs : Sequenced events)
    (h : measureRun (events.map orderedEvent) = .ok result) :
  ∃ before mid after failure restored, OutageLog events before mid after failure restored
  := by
  unfold measureRun at h
  split at h
  · cases h
  · rename_i item hfailure
    split at h
    · cases h
    · rename_i item' hrestored
      rw [List.find?_map] at hfailure hrestored
      obtain ⟨failure, hfailure', rfl⟩ := Option.map_eq_some_iff.mp hfailure
      obtain ⟨restored, hrestored', rfl⟩ := Option.map_eq_some_iff.mp hrestored
      obtain ⟨hfailed, before, rest, hsplit, hbefore⟩ := List.find?_eq_some_iff_append.mp hfailure'
      subst hsplit
      have hsequence := hs.sequence
      rw [List.pairwise_append, List.pairwise_cons] at hsequence
      obtain ⟨-, ⟨hlater, -⟩, hearlier⟩ := hsequence
      rw [List.find?_append, List.find?_eq_none.mpr, Option.none_or, List.find?_cons_of_neg]
        at hrestored'
      · obtain ⟨hready, mid, after, hrest, hmid⟩ := List.find?_eq_some_iff_append.mp hrestored'
        subst hrest
        refine ⟨before, mid, after, failure, restored, ⟨?_, ?_, ?_, ?_, ?_⟩⟩
        · rw [List.append_assoc, List.cons_append]
        · intro e he b hb
          have hnot := hbefore e he
          simp only [Function.comp_apply, orderedEvent, hasKind_evidence,
            (mark_eq_failed_iff.mp hb).1] at hnot
          cases hnot
        · simp only [Function.comp_apply, orderedEvent, hasKind_evidence,
            decide_eq_true_eq] at hfailed
          exact ⟨_, mark_eq_failed_iff.mpr ⟨hfailed, rfl⟩⟩
        · intro e he hm
          have hlt := hlater e (List.mem_append_left _ he)
          have hnot := hmid e he
          simp only [Function.comp_apply, OutageLog.changes_ordered, hm] at hnot
          rw [OutageLog.sequence_ordered, OutageLog.sequence_ordered] at hnot
          simp at hnot
          omega
        · simp only [Function.comp_apply, OutageLog.changes_ordered, Bool.and_eq_true,
            decide_eq_true_eq] at hready
          exact hready.2
      · simp [OutageLog.sequence_ordered]
      · intro e he
        have hlt := hearlier e he failure List.mem_cons_self
        simp only [Function.comp_apply, Bool.and_eq_true, decide_eq_true_eq]
        rw [OutageLog.sequence_ordered, OutageLog.sequence_ordered]
        omega

end Measured

/-! ### The outage of a run -/

/-- The history of a run up to the first failure, until the supervisor is ready again, and after
that. -/
structure OutageRun (history : Supervisor.History) where
  before : Supervisor.History
  during : Supervisor.History
  after : Supervisor.History
  fails : Performed managerActions Goroutine
  restores : Performed managerActions Goroutine
  failure : Event
  restored : Event
  split : history = before ++ fails :: during ++ restores :: after
  recordsFailure : recordedEvent fails = some failure
  recordsRestored : recordedEvent restores = some restored
  unfailed : ∀ e ∈ recorded before, ∀ b, e.mark ≠ .failed b
  failed : ∃ b, failure.mark = .failed b
  unready : ∀ e ∈ recorded during, e.mark ≠ .ready true
  ready : restored.mark = .ready true

/-- The element that a mapped one comes from. -/
theorem filterMap_split {α β : Type*} {f : α → Option β} {l : List α} {b : β} {xs ys : List β}
    (h : l.filterMap f = xs ++ b :: ys) :
  ∃ l₁ a l₂, l = l₁ ++ a :: l₂ ∧ f a = some b ∧ l₁.filterMap f = xs ∧ l₂.filterMap f = ys
  := by
  obtain ⟨start, rest, rfl, hstart, hrest⟩ := List.filterMap_eq_append_iff.mp h
  obtain ⟨skipped, a, last, rfl, hskipped, ha, hlast⟩ := List.filterMap_eq_cons_iff.mp hrest
  refine ⟨start ++ skipped, a, last, (List.append_assoc _ _ _).symm, ha, ?_, hlast⟩
  rw [List.filterMap_append, hstart, List.filterMap_eq_nil_iff.mpr hskipped, List.append_nil]

namespace OutageRun

variable {history : Supervisor.History}

/-- The events from the failure to the restoration. -/
def interval (outage : OutageRun history) : List Event :=
  outage.failure :: recorded outage.during ++ [outage.restored]

/-- The events until the restoration. -/
def events (outage : OutageRun history) : List Event :=
  recorded outage.before ++ outage.interval

theorem outageLog (outage : OutageRun history) :
  OutageLog (recorded history) (recorded outage.before) (recorded outage.during)
    (recorded outage.after) outage.failure outage.restored
  where
  split := by
    have hsplit := congrArg recorded outage.split
    rw [recorded, recorded, List.filterMap_append, List.filterMap_append, List.filterMap_cons,
      outage.recordsFailure, List.filterMap_cons, outage.recordsRestored] at hsplit
    exact hsplit
  before := outage.unfailed
  failure := outage.failed
  mid := outage.unready
  restored := outage.ready

/-- The outage of a log is the outage of the run that wrote it. -/
theorem exists_of_outageLog {before mid after : List Event} {failure restored : Event}
    (h : OutageLog (recorded history) before mid after failure restored) :
  ∃ outage : OutageRun history, recorded outage.before = before ∧
    outage.interval = failure :: mid ++ [restored]
  := by
  have hrecorded := h.split
  rw [List.append_assoc] at hrecorded
  obtain ⟨first, fails, rest, rfl, hfails, hfirst, hrest⟩ := filterMap_split hrecorded
  obtain ⟨during, restores, last, rfl, hrestores, hduring, -⟩ := filterMap_split hrest
  refine ⟨⟨first, during, last, fails, restores, failure, restored, ?_, hfails, hrestores, ?_,
    h.failure, ?_, h.restored⟩, hfirst, ?_⟩
  · rw [List.append_assoc, List.cons_append]
  · rw [recorded, hfirst]
    exact h.before
  · rw [recorded, hduring]
    exact h.mid
  · rw [interval]
    exact congrArg (fun events => failure :: events ++ [restored]) hduring

end OutageRun

section Runs

variable {F64 : Type} [PyFloat F64] {cfg : Config} {store : EventStore} {directory : Directory}
  {history : Supervisor.History} {p : Pool managerActions Goroutine World}
  {result : SupervisorRecovery F64}
  {earlier : List Evidence}

/-- The measurement of a log is the measurement of its outage. -/
theorem OutageLog.measured {events before mid after : List Event} {failure restored : Event}
    (h : OutageLog events before mid after failure restored) (hs : Sequenced events)
    (hresult : measureRun (events.map orderedEvent) = .ok result) :
  ∃ n, tally false ((failure :: mid ++ [restored]).map Event.mark) = some (n, false) ∧
    result.restartCount = n ∧
    result.restartPairs = (countedPairs none (failure :: mid ++ [restored])).map pairTimes
  := by
  rw [h.measureRun_eq (h.placed hs)] at hresult
  obtain ⟨restarts, hfold, hpending, hcount, hpairs⟩ := measureOutage_counts hresult
  cases htally : tally false ((failure :: mid ++ [restored]).map Event.mark) with
  | none =>
      obtain ⟨e, herror⟩ := @foldlM_count_error (failure :: mid ++ [restored]) {} htally
      rw [hfold] at herror
      cases herror
  | some counted =>
      obtain ⟨n, pending⟩ := counted
      obtain ⟨restarts', hfold', hcount', hpending'⟩ :=
        @foldlM_count_ok (failure :: mid ++ [restored]) {} n pending htally
      obtain rfl := Except.ok.inj (hfold.symm.trans hfold')
      rw [hpending] at hpending'
      refine ⟨n, by rw [← hpending']; rfl, ?_, ?_⟩
      · rw [hcount, hcount']
        apply Nat.zero_add
      · rw [hpairs]
        exact @foldlM_count_pairs _ none {} restarts rfl hfold

/-- No restart is counted with the record of an event. -/
theorem counted_of_recorded {e : Performed managerActions Goroutine} {event : Event}
    (h : recordedEvent e = some event) :
  countedRestart e = none
  := by
  obtain ⟨i, a, r⟩ := e
  cases a with
  | append now event => rfl
  | _ => cases h

/-- The part of a run until the restoration. -/
def OutageRun.until (outage : OutageRun history) : Supervisor.History :=
  outage.before ++ outage.fails :: outage.during ++ [outage.restores]

theorem OutageRun.recorded_until (outage : OutageRun history) :
  recorded outage.until = outage.events
  := by
  rw [OutageRun.until, recorded, List.filterMap_append, List.filterMap_append, List.filterMap_cons,
    outage.recordsFailure, List.filterMap_cons, outage.recordsRestored]
  exact List.append_assoc _ _ _

theorem OutageRun.countedRestarts_until (outage : OutageRun history)
    (hbefore : countedRestarts outage.before = []) :
  countedRestarts outage.until = countedRestarts outage.during
  := by
  rw [countedRestarts] at hbefore
  rw [OutageRun.until, countedRestarts, List.filterMap_append, List.filterMap_append,
    List.filterMap_cons, counted_of_recorded outage.recordsFailure, List.filterMap_cons,
    counted_of_recorded outage.recordsRestored, hbefore, List.nil_append]
  apply List.append_nil

/-- Nothing is owed before the outage. When nothing is owed at its end, the manager counts the
restarts in the events. -/
theorem OutageRun.counted (outage : OutageRun history) (h : Manages cfg store directory history p) :
  StartsInTurn (recorded outage.before) ∧ owedAfter (recorded outage.before) = (fun _ => false) ∧
    ((∀ name, outage.interval.foldl oweAfter (fun _ => false) name = false) →
      (countedRestarts outage.during).length =
        (restartsFrom (fun _ => false) outage.interval).length)
  := by
  have hsplit : history = outage.before ++ (outage.fails :: outage.during ++
      outage.restores :: outage.after) := outage.split.trans (List.append_assoc _ _ _)
  have hsplit' : history = outage.until ++ outage.after :=
    outage.split.trans (List.append_cons _ _ _)
  have hwhole := h
  have hwhole' := h
  unfold Manages at hwhole hwhole'
  rw [hsplit] at hwhole
  rw [hsplit'] at hwhole'
  obtain ⟨p₁, hbefore, -⟩ := hwhole.split
  obtain ⟨p₂, huntil, -⟩ := hwhole'.split
  obtain ⟨howed, hrestarts, hturn, hnone⟩ := (Manages.turns hbefore).unfailed outage.unfailed
  refine ⟨hturn, howed, ?_⟩
  intro hnobody
  have hevents := outage.recorded_until
  rw [OutageRun.events] at hevents
  rw [← outage.countedRestarts_until hnone, (Manages.turns huntil).counted]
  · rw [hevents, restartsOf, restartsFrom_append]
    rw [restartsOf] at hrestarts
    rw [hrestarts]
    rw [owedAfter] at howed
    rw [howed]
    rfl
  · intro name
    rw [hevents, owedAfter, List.foldl_append]
    rw [owedAfter] at howed
    rw [howed]
    apply hnobody

/-- When the log of a run is measured, the pairs that are counted belong to one child each, and are
as many as the restarts that the manager counts during the outage, exactly when up to the
restoration every child is started in its turn. -/
theorem restartPairs_of_one_child (h : Manages cfg store directory history p)
    (hne : recorded history ≠ []) (hstore : AllPersisted store history p.shared)
    (hresult : supervisorRecoveryMetrics (earlier ++ (recorded history).map evidence) =
      .ok result) :
  Nonempty (OutageRun history) ∧ ∀ outage : OutageRun history,
    result.restartPairs = (countedPairs none outage.interval).map pairTimes ∧
    ((∀ pair ∈ countedPairs none outage.interval, OfOneChild pair) ∧
        result.restartCount = (countedRestarts outage.during).length ↔
      StartsInTurn outage.events)
  := by
  have hopens : Opens (recorded history) := by
    have hevents := h.opening.events
    split at hevents
    · exact hevents
    · exact absurd hevents hne
  have hsequenced := sequenced_recorded h (h.logged.2 hstore)
  rw [supervisorRecoveryMetrics_eq hopens hsequenced earlier] at hresult
  split at hresult
  · obtain ⟨before, mid, after, failure, restored, hlog⟩ :=
      exists_outageLog_of_measureRun hsequenced hresult
    obtain ⟨outage, -⟩ := OutageRun.exists_of_outageLog hlog
    refine ⟨⟨outage⟩, ?_⟩
    intro outage
    obtain ⟨n, htally, hcount, hpairs⟩ := outage.outageLog.measured hsequenced hresult
    obtain ⟨hturn, howed, hcounted⟩ := outage.counted h
    have howes : Owes (fun _ => false) none := fun _ => by simp
    obtain ⟨hchild, hrestarts⟩ := pairs_of_tally howes nofun htally
    have hevents : StartsInTurn outage.events ↔ InTurnFrom (fun _ => false) outage.interval := by
      rw [owedAfter] at howed
      rw [StartsInTurn, OutageRun.events, inTurnFrom_append, howed]
      exact and_iff_right hturn
    refine ⟨hpairs, ?_⟩
    rw [hevents]
    constructor
    · rintro ⟨hall, -⟩
      exact hchild.mp hall
    · intro hin
      obtain ⟨hlength, hnobody⟩ := hrestarts hin
      refine ⟨hchild.mpr hin, ?_⟩
      rw [hcounted hnobody, hcount]
      exact hlength.symm
  · cases hresult

end Runs

/-! ### A pair of two children -/

/-- A required child and another one. -/
def teamConfig : Config where
  heartbeatPollMs := 500
  heartbeatStaleMs := 2000
  heartbeatStartupTimeoutMs := 110000
  terminationGraceMs := 5000
  shutdownTimeoutMs := 10000
  restart := sampleConfig.restart
  children := [{ name := "stack", required := true }, { name := "viewer", required := false }]
  names_nodup := by decide

/-- The required child exits, its restart is scheduled, the other child is started for the first
time, and then the required child is started again. -/
def crossingTurns : List (((a : Action) → a.Choice) × Goroutine × Nat) :=
  [(exiting, .run, 11), (exiting, .child "stack", 87), (exiting, .child "viewer", 18),
    (exiting, .child "stack", 17)]

/-- The marks of the outage, with the starts of both children. -/
def crossingMarks : List Mark := [.ready false, .other, .scheduled, .started, .started]

/-- Every event got its record, the log is measured, and a schedule is counted with the start of
another child. -/
def crosses (history : Supervisor.History) (p : Pool managerActions Goroutine World) : Bool :=
  decide ((recorded history).map Event.mark =
    readyMarks ++ .failed false :: crossingMarks ++ [.ready true]) &&
  decide (p.shared.store.entries = roomyStore.entries + (recorded history).length) &&
  (supervisorRecoveryMetrics ((recorded history).map evidence) :
    Except MetricError (SupervisorRecovery ℚ)).isOk &&
  (countedPairs none ((recorded history).drop readyMarks.length)).any
    fun pair => decide (pair.1.child ≠ pair.2.child)

theorem exists_ok_of_isOk {α : Type} {r : Except MetricError α} (h : r.isOk = true) :
  ∃ x, r = .ok x
  := by
  cases r with
  | ok x => exact ⟨x, rfl⟩
  | error e => cases h

theorem crossing_run :
  ∃ history p, Manages teamConfig roomyStore {} history p ∧ crosses history p = true
  := by
  apply reaches_of_choices crossingTurns crosses
  decide +kernel

/-- A schedule of one child is counted with the first start of another one. -/
theorem restartPairs_of_two_children :
  ¬ ∀ (cfg : Config) (store : EventStore) (directory : Directory)
    (history : Supervisor.History)
      (p : Pool managerActions Goroutine World) (result : SupervisorRecovery ℚ),
    Manages cfg store directory history p → AllPersisted store history p.shared →
    supervisorRecoveryMetrics ((recorded history).map evidence) = .ok result →
    ∀ outage : OutageRun history,
      (∀ pair ∈ countedPairs none outage.interval, OfOneChild pair) ∧
        result.restartCount = (countedRestarts outage.during).length
  := by
  intro hall
  obtain ⟨history, p, hrun, hcheck⟩ := crossing_run
  simp only [crosses, Bool.and_eq_true, decide_eq_true_eq] at hcheck
  obtain ⟨⟨⟨hmarks, hstore⟩, hok⟩, hcrosses⟩ := hcheck
  obtain ⟨result, hresult⟩ := exists_ok_of_isOk hok
  obtain ⟨before, mid, failure, restored, hlog, hbefore, -, -⟩ :=
    exists_outageLog hmarks (by decide) (by decide)
  obtain ⟨outage, -, hinterval⟩ := OutageRun.exists_of_outageLog hlog
  obtain ⟨hpairs, -⟩ := hall _ _ _ history p result hrun hstore hresult outage
  have hdrop : (recorded history).drop readyMarks.length = outage.interval := by
    rw [hinterval, hlog.split, ← hbefore, List.length_map, List.append_assoc, List.drop_left]
  rw [hdrop, List.any_eq_true] at hcrosses
  obtain ⟨pair, hpair, hne⟩ := hcrosses
  exact of_decide_eq_true hne (hpairs pair hpair).2.2

/-- One child is restarted in the outage, and another one is started for the first time. -/
theorem restartPairs_of_one_child_sample :
  ∃ history p, ∃ result : SupervisorRecovery ℚ, Manages teamConfig roomyStore {} history p ∧
    supervisorRecoveryMetrics ([] ++ (recorded history).map evidence) = .ok result ∧
    (Nonempty (OutageRun history) ∧ ∀ outage : OutageRun history,
      result.restartPairs = (countedPairs none outage.interval).map pairTimes ∧
      ((∀ pair ∈ countedPairs none outage.interval, OfOneChild pair) ∧
          result.restartCount = (countedRestarts outage.during).length ↔
        StartsInTurn outage.events))
  := by
  obtain ⟨history, p, hrun, hcheck⟩ := crossing_run
  simp only [crosses, Bool.and_eq_true, decide_eq_true_eq] at hcheck
  obtain ⟨⟨⟨hmarks, hstore⟩, hok⟩, -⟩ := hcheck
  obtain ⟨result, hresult⟩ := exists_ok_of_isOk hok
  rw [← List.nil_append (List.map evidence (recorded history))] at hresult
  refine ⟨history, p, result, hrun, hresult, ?_⟩
  apply restartPairs_of_one_child hrun _ hstore hresult
  intro hnil
  rw [hnil] at hmarks
  cases hmarks

end Metrics

end RobotestLab
