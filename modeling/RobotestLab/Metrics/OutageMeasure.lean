import RobotestLab.Metrics.SteadyTime
import RobotestLab.Supervisor.Recovery

/-!
# Measuring the outages of a single child

What `supervisor_recovery_metrics` makes of an outage in the log of a supervisor with one required
child. It finds the failure and the restoration. It measures the outage exactly when the supervisor
was still said to be ready at the failure, no restart fails to start, and the steady times do not
decrease (`recovery_measured`).
-/

namespace RobotestLab

namespace Metrics

open Supervisor

/-! ### Counting restarts -/

section Counting

variable {event : Event} {events : List Event} {restarts : Restarts}

theorem count_scheduled (h : event.mark = .scheduled) :
  restarts.count (orderedEvent event) =
    if restarts.scheduledStamp.isSome then
      unavailable "restart scheduled twice without a child start"
    else .ok { restarts with scheduledStamp := some event.steadyWallNs.toInt }
  := by
  unfold Restarts.count
  rw [orderedEvent, hasKind_evidence, if_pos (decide_eq_true (mark_eq_scheduled_iff.mp h))]

theorem count_started (h : event.mark = .started) :
  ∃ restarts', restarts.count (orderedEvent event) = .ok restarts' ∧
    restarts'.restartCount = restarts.restartCount + restarts.scheduledStamp.isSome.toNat ∧
    restarts'.scheduledStamp.isSome = false
  := by
  have hkind := mark_eq_started_iff.mp h
  unfold Restarts.count
  simp only [orderedEvent, hasKind_evidence, hkind, String.reduceEq, decide_false, decide_true,
    if_true, Bool.false_eq_true, if_false]
  cases hstamp : restarts.scheduledStamp with
  | some stamp => exact ⟨_, rfl, rfl, rfl⟩
  | none => exact ⟨restarts, rfl, rfl, by rw [hstamp]; rfl⟩

theorem count_other (h : event.mark.isRestart = false) :
  restarts.count (orderedEvent event) = .ok restarts
  := by
  have hscheduled : event.kind ≠ "restart_scheduled" := by
    intro hkind
    rw [mark_eq_scheduled_iff.mpr hkind] at h
    cases h
  have hstarted : event.kind ≠ "child_started" := by
    intro hkind
    rw [mark_eq_started_iff.mpr hkind] at h
    cases h
  simp [Restarts.count, orderedEvent, hasKind_evidence, hscheduled, hstarted]

/-- Restarts that cannot be told from the marks of the events are not counted. -/
theorem foldlM_count_error
    (h : tally restarts.scheduledStamp.isSome (events.map Event.mark) = none) :
  ∃ e, (events.map orderedEvent).foldlM Restarts.count restarts = .error e
  := by
  induction events generalizing restarts with
  | nil => cases h
  | cons event events ih =>
      rw [List.map_cons] at h
      rw [List.map_cons, List.foldlM_cons]
      rcases event.mark.isRestart_cases with hm | hm | hm
      · rw [count_scheduled hm]
        rw [hm, tally] at h
        split
        · exact ⟨_, rfl⟩
        · rename_i hpending
          rw [if_neg hpending] at h
          exact ih h
      · obtain ⟨restarts', hcount, -, hpending⟩ := @count_started event restarts hm
        rw [hm, tally, Option.map_eq_none_iff, ← hpending] at h
        rw [hcount]
        exact ih h
      · rw [tally_cons hm] at h
        rw [count_other hm]
        exact ih h

/-- The restarts are counted as the marks of the events tell them. -/
theorem foldlM_count_ok {n : Nat} {pending : Bool}
    (h : tally restarts.scheduledStamp.isSome (events.map Event.mark) = some (n, pending)) :
  ∃ restarts', (events.map orderedEvent).foldlM Restarts.count restarts = .ok restarts' ∧
    restarts'.restartCount = restarts.restartCount + n ∧ restarts'.scheduledStamp.isSome = pending
  := by
  induction events generalizing restarts n with
  | nil =>
      obtain ⟨rfl, rfl⟩ := Prod.mk.inj (Option.some.inj h)
      exact ⟨restarts, rfl, rfl, rfl⟩
  | cons event events ih =>
      rw [List.map_cons] at h
      rw [List.map_cons, List.foldlM_cons]
      rcases event.mark.isRestart_cases with hm | hm | hm
      · rw [hm, tally] at h
        split at h
        · cases h
        · rename_i hpending
          rw [count_scheduled hm, if_neg hpending]
          refine ih ?_
          exact h
      · obtain ⟨restarts', hcount, hsum, hpending⟩ := @count_started event restarts hm
        rw [hm, tally, Option.map_eq_some_iff] at h
        obtain ⟨⟨n', pending'⟩, htally, heq⟩ := h
        obtain ⟨rfl, rfl⟩ := Prod.mk.inj heq
        rw [← hpending] at htally
        obtain ⟨restarts'', hfold, hcount', hpending'⟩ := ih htally
        rw [hcount]
        refine ⟨restarts'', hfold, ?_, hpending'⟩
        rw [hcount', hsum]
        omega
      · rw [tally_cons hm] at h
        rw [count_other hm]
        exact ih h

end Counting

/-! ### The outage in a log -/

/-- The events of a log up to the first failure, until the supervisor is ready again, and after
that. -/
structure OutageLog (events before mid after : List Event) (failure restored : Event) : Prop where
  split : events = before ++ failure :: mid ++ restored :: after
  before : ∀ e ∈ before, ∀ b, e.mark ≠ .failed b
  failure : ∃ b, failure.mark = .failed b
  mid : ∀ e ∈ mid, e.mark ≠ .ready true
  restored : restored.mark = .ready true

namespace OutageLog

variable {events before mid after : List Event} {failure restored : Event}

theorem sequence_ordered (event : Event) :
  (orderedEvent event).sequence = event.sequence.toNat
  := rfl

theorem changes_ordered (ready : Bool) (event : Event) :
  changesReadiness ready (orderedEvent event).event = decide (event.mark = .ready ready)
  := changesReadiness_evidence ready event

/-- The sequences of the events on both sides of an outage. -/
structure Placed (before mid after : List Event) (failure restored : Event) : Prop where
  before : ∀ e ∈ before, e.sequence.toNat < failure.sequence.toNat
  mid : ∀ e ∈ mid, failure.sequence.toNat < e.sequence.toNat ∧
    e.sequence.toNat < restored.sequence.toNat
  order : failure.sequence.toNat < restored.sequence.toNat
  after : ∀ e ∈ after, restored.sequence.toNat < e.sequence.toNat

theorem placed (h : OutageLog events before mid after failure restored) (hs : Sequenced events) :
  Placed before mid after failure restored
  := by
  have hsequence := hs.sequence
  rw [h.split, List.append_assoc, List.pairwise_append, List.cons_append, List.pairwise_cons,
    List.pairwise_append, List.pairwise_cons] at hsequence
  obtain ⟨-, ⟨hfailure, -, ⟨hafter, -⟩, hmid⟩, hbefore⟩ := hsequence
  constructor
  · intro e he
    exact hbefore e he failure List.mem_cons_self
  · intro e he
    exact ⟨hfailure e (List.mem_append_left _ he), hmid e he restored List.mem_cons_self⟩
  · exact hfailure restored (List.mem_append_right _ List.mem_cons_self)
  · exact hafter

theorem find_failure (h : OutageLog events before mid after failure restored) :
  (events.map orderedEvent).find? (fun item => hasKind "failure_detected" item.event) =
    some (orderedEvent failure)
  := by
  have hkind : ∀ e : Event, hasKind "failure_detected" (orderedEvent e).event = true ↔
      ∃ b, e.mark = .failed b := by
    intro e
    rw [orderedEvent, hasKind_evidence, decide_eq_true_iff]
    constructor
    · intro hkind
      exact ⟨_, mark_eq_failed_iff.mpr ⟨hkind, rfl⟩⟩
    · rintro ⟨b, hb⟩
      exact (mark_eq_failed_iff.mp hb).1
  rw [List.find?_map, h.split, List.append_assoc, List.find?_append, List.find?_eq_none.mpr,
    Option.none_or, List.cons_append, List.find?_cons_of_pos, Option.map_some]
  · exact (hkind failure).mpr h.failure
  · intro e he hfails
    obtain ⟨b, hb⟩ := (hkind e).mp hfails
    exact h.before e he b hb

theorem find_restored (h : OutageLog events before mid after failure restored)
    (hp : Placed before mid after failure restored) :
  (events.map orderedEvent).find? (fun item => (orderedEvent failure).sequence < item.sequence &&
    changesReadiness true item.event) = some (orderedEvent restored)
  := by
  rw [List.find?_map, h.split, List.find?_append, List.find?_eq_none.mpr, Option.none_or,
    List.find?_cons_of_pos, Option.map_some]
  · have hlt := hp.order
    simp only [Function.comp_apply, sequence_ordered, changes_ordered, h.restored]
    simpa using hlt
  · intro e he
    simp only [Function.comp_apply, Bool.and_eq_true, decide_eq_true_eq, changes_ordered]
    rw [sequence_ordered, sequence_ordered]
    rcases List.mem_append.mp he with he | he
    · have hlt := hp.before e he
      omega
    · rcases List.mem_cons.mp he with rfl | he
      · simp
      · simp [h.mid e he]

theorem filter_interval (h : OutageLog events before mid after failure restored)
    (hp : Placed before mid after failure restored) :
  (events.map orderedEvent).filter (fun item => (orderedEvent failure).sequence ≤ item.sequence &&
    item.sequence ≤ (orderedEvent restored).sequence) =
      (failure :: mid ++ [restored]).map orderedEvent
  := by
  have hlt := hp.order
  rw [List.filter_map, h.split]
  congr 1
  have hsplit : before ++ failure :: mid ++ restored :: after =
      before ++ ((failure :: mid ++ [restored]) ++ after) := by
    simp
  rw [hsplit, List.filter_append, List.filter_append, List.filter_eq_nil_iff.mpr,
    List.nil_append, List.filter_eq_self.mpr, List.filter_eq_nil_iff.mpr, List.append_nil]
  · intro e he
    have hafter := hp.after e he
    simp only [Function.comp_apply, Bool.and_eq_true, decide_eq_true_eq]
    rw [sequence_ordered, sequence_ordered, sequence_ordered]
    omega
  · intro e he
    simp only [Function.comp_apply, Bool.and_eq_true, decide_eq_true_eq]
    rw [sequence_ordered, sequence_ordered, sequence_ordered]
    rcases List.mem_append.mp he with he | he
    · rcases List.mem_cons.mp he with rfl | he
      · omega
      · have hbetween := hp.mid e he
        omega
    · obtain rfl := List.mem_singleton.mp he
      omega
  · intro e he
    have hbefore := hp.before e he
    simp only [Function.comp_apply, Bool.and_eq_true, decide_eq_true_eq]
    rw [sequence_ordered, sequence_ordered, sequence_ordered]
    omega

theorem measureRun_eq {F64 : Type} [PyFloat F64]
    (h : OutageLog events before mid after failure restored)
    (hp : Placed before mid after failure restored) :
  (measureRun (events.map orderedEvent) : Except MetricError (SupervisorRecovery F64)) =
    measureOutage ((events.map orderedEvent).headD (orderedEvent failure)) (orderedEvent failure)
      (orderedEvent restored) ((failure :: mid ++ [restored]).map orderedEvent)
  := by
  unfold measureRun
  rw [h.find_failure]
  simp only
  rw [h.find_restored hp]
  simp only
  rw [h.filter_interval hp]

/-- Whether the supervisor is said not to be ready during the outage. -/
theorem find_false (h : OutageLog events before mid after failure restored) :
  (((failure :: mid ++ [restored]).map orderedEvent).find?
      fun item => changesReadiness false item.event).isSome = true ↔
    Mark.ready false ∈ mid.map Event.mark
  := by
  obtain ⟨b, hb⟩ := h.failure
  simp only [List.find?_isSome, List.mem_map, List.mem_append, List.mem_cons, List.not_mem_nil,
    or_false]
  constructor
  · rintro ⟨item, ⟨e, he, rfl⟩, hready⟩
    rw [changes_ordered, decide_eq_true_iff] at hready
    rcases he with (rfl | he) | rfl
    · rw [hb] at hready
      cases hready
    · exact ⟨e, he, hready⟩
    · rw [h.restored] at hready
      cases hready
  · rintro ⟨e, he, hready⟩
    refine ⟨orderedEvent e, ⟨e, Or.inl (Or.inr he), rfl⟩, ?_⟩
    rw [changes_ordered, hready]
    rfl

/-- The supervisor is not said to be ready again before the restoration. -/
theorem any_premature (h : OutageLog events before mid after failure restored) :
  (((failure :: mid ++ [restored]).map orderedEvent).any fun item =>
    item.sequence < (orderedEvent restored).sequence && changesReadiness true item.event) = false
  := by
  obtain ⟨b, hb⟩ := h.failure
  rw [List.any_eq_false]
  intro item hitem
  obtain ⟨e, he, rfl⟩ := List.mem_map.mp hitem
  rw [changes_ordered, Bool.and_eq_true, decide_eq_true_eq, decide_eq_true_eq]
  rintro ⟨hlt, hready⟩
  rcases List.mem_append.mp he with he | he
  · rcases List.mem_cons.mp he with rfl | he
    · rw [hb] at hready
      cases hready
    · exact h.mid e he hready
  · rw [List.mem_singleton.mp he] at hlt
    exact lt_irrefl _ hlt

/-- Whether the restarts of the outage are counted, and how many there are. -/
theorem count_interval (h : OutageLog events before mid after failure restored) {s s' : Outage}
    (htraced : Supervisor.Traced s (mid.map Event.mark ++ [.ready true]) s')
    (hs : s.phase = .down) :
  (Mark.failed true ∈ mid.map Event.mark ∧
      ∃ e, ((failure :: mid ++ [restored]).map orderedEvent).foldlM Restarts.count {} = .error e) ∨
    (Mark.failed true ∉ mid.map Event.mark ∧ 0 < pairedRestarts (mid.map Event.mark) ∧
      ∃ restarts, ((failure :: mid ++ [restored]).map orderedEvent).foldlM Restarts.count {} =
        .ok restarts ∧
        restarts.restartCount = pairedRestarts (mid.map Event.mark) ∧
        restarts.scheduledStamp.isSome = false)
  := by
  obtain ⟨b, hb⟩ := h.failure
  have hmarks : tally false ((failure :: mid ++ [restored]).map Event.mark) =
      tally false (mid.map Event.mark ++ [.ready true]) := by
    rw [List.map_append, List.map_cons, List.cons_append, hb, List.map_singleton, h.restored]
    rfl
  have hend : s'.phase = .running := by
    obtain ⟨s₁, -, hlast⟩ := traced_append.mp htraced
    obtain ⟨s₂, hstep, hnil⟩ := traced_cons.mp hlast
    obtain ⟨-, hphase, -⟩ := Outage.step_eq_some_iff.mp hstep
    rw [← traced_nil.mp hnil]
    obtain ⟨hrunning, hsame⟩ := Option.ite_none_right_eq_some.mp hphase
    rw [← Option.some.inj hsame]
    exact hrunning rfl
  have hmem : Mark.failed true ∈ mid.map Event.mark ++ [.ready true] ↔
      Mark.failed true ∈ mid.map Event.mark := by
    simp
  rcases tally_outage htraced hs hend with ⟨hfailed, htally⟩ | ⟨hfailed, htally, hpos⟩
  · left
    refine ⟨hmem.mp hfailed, ?_⟩
    apply foldlM_count_error
    rw [← htally, ← hmarks]
    rfl
  · right
    rw [pairedRestarts_concat rfl] at htally hpos
    refine ⟨fun hm => hfailed (hmem.mpr hm), hpos, ?_⟩
    obtain ⟨restarts, hfold, hcount, hpending⟩ :=
      @foldlM_count_ok (failure :: mid ++ [restored]) {} _ _ (hmarks.trans htally)
    exact ⟨restarts, hfold, hcount.trans (Nat.zero_add _), hpending⟩

/-- The outage is measured when the supervisor is said not to be ready in it and no start fails. -/
theorem measureOutage_ok_iff {F64 : Type} [PyFloat F64]
    (h : OutageLog events before mid after failure restored) {s s' : Outage}
    (htraced : Supervisor.Traced s (mid.map Event.mark ++ [.ready true]) s') (hs : s.phase = .down)
    (hseconds : ∃ time : F64,
      seconds ((orderedEvent restored).steadyWallNs - (orderedEvent failure).steadyWallNs) =
        .ok time) (first : OrderedEvent) :
  (∃ result : SupervisorRecovery F64,
      measureOutage first (orderedEvent failure) (orderedEvent restored)
        ((failure :: mid ++ [restored]).map orderedEvent) = .ok result ∧
      result.restartCount = pairedRestarts (mid.map Event.mark)) ↔
    Mark.ready false ∈ mid.map Event.mark ∧ Mark.failed true ∉ mid.map Event.mark
  := by
  obtain ⟨time, htime⟩ := hseconds
  rw [← h.find_false]
  unfold measureOutage
  rw [h.any_premature]
  cases hfind : ((failure :: mid ++ [restored]).map orderedEvent).find?
      fun item => changesReadiness false item.event with
  | none => simp [unavailable]
  | some falseTransition =>
      simp only [Bool.false_eq_true, if_false, Option.isSome_some, true_and]
      rcases h.count_interval htraced hs with ⟨hfailed, e, hfold⟩ | ⟨hfailed, hpos, restarts, hfold,
        hcount, hpending⟩
      · rw [hfold]
        simp only [hfailed, not_true_eq_false, iff_false, not_exists, not_and]
        intro result hresult
        cases hresult
      · rw [hfold, Except.ok_bind, hpending, hcount, htime]
        simp only [hfailed, not_false_eq_true, iff_true, Bool.false_eq_true, if_false,
          Nat.ne_of_gt hpos]
        exact ⟨_, rfl, rfl⟩

end OutageLog

/-! ### Runs with a single child -/

section Runs

variable {cfg : Config} {store : EventStore} {directory : Directory}
  {history : Supervisor.History}
  {p : Pool managerActions Goroutine World} {before mid after : List Event}
  {failure restored : Event}

/-- What the order of the marks says about an outage. -/
theorem OutageLog.traced (h : OutageLog (recorded history) before mid after failure restored)
    (hopens : Opens (recorded history)) {s₀ : Outage}
    (htraced : Supervisor.Traced {} (marksOf history) s₀) :
  ∃ s s', Supervisor.Traced s (mid.map Event.mark ++ [.ready true]) s' ∧ s.phase = .down ∧
    (Mark.ready false ∈ mid.map Event.mark ↔ published (before.map Event.mark) = true)
  := by
  obtain ⟨b, hb⟩ := h.failure
  obtain ⟨first, rest, hrecorded, hfirst, -⟩ := hopens
  have hsplit := h.split
  rw [hrecorded] at hsplit
  cases before with
  | nil =>
      obtain ⟨rfl, -⟩ := List.cons.inj hsplit
      rw [hb] at hfirst
      cases hfirst
  | cons first' before =>
      obtain ⟨rfl, rfl⟩ := List.cons.inj hsplit
      have hmarks : marksOf history = before.map Event.mark ++
          .failed b :: ((mid.map Event.mark ++ [.ready true]) ++ after.map Event.mark) := by
        rw [marksOf, hrecorded, List.tail_cons]
        simp [hb, h.restored]
      rw [hmarks, traced_append] at htraced
      obtain ⟨s₁, hbefore, hrest⟩ := htraced
      obtain ⟨s₂, hfailed, hrest⟩ := traced_cons.mp hrest
      obtain ⟨s₃, hmid, -⟩ := traced_append.mp hrest
      obtain ⟨-, hdown, hkeeps⟩ := Outage.step_eq_some_iff.mp hfailed
      obtain ⟨-, hphase⟩ := Option.ite_none_right_eq_some.mp hdown
      refine ⟨s₂, s₃, hmid, (Option.some.inj hphase).symm, ?_⟩
      obtain ⟨s₄, hoff, hlast⟩ := traced_append.mp hmid
      obtain ⟨s₅, hready, -⟩ := traced_cons.mp hlast
      have hunready : s₄.published = false := by
        obtain ⟨hne, -, -⟩ := Outage.step_eq_some_iff.mp hready
        rw [← Bool.not_eq_true]
        intro hpublished
        exact hne (by rw [hpublished])
      have hmid : Mark.ready true ∉ mid.map Event.mark := by
        intro hmem
        obtain ⟨e, he, hmark⟩ := List.mem_map.mp hmem
        exact h.mid e he hmark
      have hsame : s₂.published = s₁.published := hkeeps
      rw [hoff.ready_false_mem hmid hunready, hsame, hbefore.published,
        List.map_cons, published, List.foldl_cons, hfirst]
      rfl

/-- The seconds between two moments of a run are a number. -/
def SecondsExist (F64 : Type) [PyFloat F64] : Prop :=
  ∀ ns : Int, ns.natAbs < 2 ^ 63 → ∃ time : F64, PyFloat.divide ns 1000000000 = .ok time

/-- In a run with one required child whose events all got their records, the outage from the first
failure to the next time the supervisor is ready is measured, with the restarts that are started
before the next one is scheduled, exactly when the supervisor was still said to be ready at the
failure, no start fails during the outage, and the steady times do not decrease. -/
theorem recovery_measured {F64 : Type} [PyFloat F64] (hseconds : SecondsExist F64)
    (h : Manages cfg store directory history p) {spec : Child} (hcfg : cfg.children = [spec])
    (hrequired : spec.required = true) (hstore : AllPersisted store history p.shared)
    (hlog : OutageLog (recorded history) before mid after failure restored)
    (earlier : List Evidence) :
  (∃ result : SupervisorRecovery F64,
      supervisorRecoveryMetrics (earlier ++ (recorded history).map evidence) = .ok result ∧
      result.restartCount = pairedRestarts (mid.map Event.mark)) ↔
    published (before.map Event.mark) = true ∧ Mark.failed true ∉ mid.map Event.mark ∧
      Steady (recorded history)
  := by
  have hne : recorded history ≠ [] := by
    rw [hlog.split]
    simp
  have hopens : Opens (recorded history) := by
    have hevents := h.opening.events
    split at hevents
    · exact hevents
    · exact absurd hevents hne
  have hsequenced := sequenced_recorded h (h.logged.2 hstore)
  obtain ⟨s₀, htraced, -⟩ := (h.told hcfg hrequired).traced
  obtain ⟨s, s', hmid, hdown, hfalse⟩ := hlog.traced hopens htraced
  have htime : ∃ time : F64,
      seconds ((orderedEvent restored).steadyWallNs - (orderedEvent failure).steadyWallNs) =
        .ok time := by
    have hrestored := hsequenced.steady restored (by rw [hlog.split]; simp)
    have hfailure := hsequenced.steady failure (by rw [hlog.split]; simp)
    obtain ⟨time, htime⟩ := hseconds
      ((orderedEvent restored).steadyWallNs - (orderedEvent failure).steadyWallNs) (by
        have hlt := restored.steadyWallNs.toInt_lt
        have hlt' := failure.steadyWallNs.toInt_lt
        simp only [orderedEvent]
        omega)
    exact ⟨time, by rw [seconds, htime]⟩
  rw [supervisorRecoveryMetrics_eq hopens hsequenced earlier]
  by_cases hsteady : Steady (recorded history)
  · rw [if_pos hsteady, hlog.measureRun_eq (hlog.placed hsequenced),
      hlog.measureOutage_ok_iff hmid hdown htime, hfalse]
    simp [hsteady]
  · rw [if_neg hsteady]
    simp [hsteady]

end Runs

/-! ### An outage that is not measured -/

/-- The outage in a log, from the marks of its events. -/
theorem exists_outageLog {events : List Event} {marks marks' : List Mark} {b : Bool}
    (h : events.map Event.mark = marks ++ .failed b :: marks' ++ [.ready true])
    (hmarks : ∀ b, .failed b ∉ marks) (hmarks' : .ready true ∉ marks') :
  ∃ before mid failure restored, OutageLog events before mid [] failure restored ∧
    before.map Event.mark = marks ∧ failure.mark = .failed b ∧ mid.map Event.mark = marks'
  := by
  obtain ⟨start, last, rfl, hstart, hlast⟩ := List.map_eq_append_iff.mp h
  obtain ⟨before, rest, rfl, hbefore, hrest⟩ := List.map_eq_append_iff.mp hstart
  obtain ⟨failure, mid, rfl, hfailure, hmid⟩ := List.map_eq_cons_iff.mp hrest
  obtain ⟨restored, rfl, hrestored⟩ := List.map_eq_singleton_iff.mp hlast
  refine ⟨before, mid, failure, restored, ⟨rfl, ?_, ⟨b, hfailure⟩, ?_, hrestored⟩, hbefore,
    hfailure, hmid⟩
  · intro e he b hb
    apply hmarks b
    rw [← hbefore, ← hb]
    exact List.mem_map_of_mem he
  · intro e he hready
    apply hmarks'
    rw [← hmid, ← hready]
    exact List.mem_map_of_mem he

/-- The child exits at every turn. -/
def exiting : (a : Action) → a.Choice := Choices.at { monitor := .exited (.status none) } (moment 1)

/-- The start of the child fails. -/
def failing : (a : Action) → a.Choice
  | .start _ => .error ["fork/exec: resource temporarily unavailable"]
  | a => exiting a

/-- The child exits, its first restart fails, and the second one succeeds. -/
def retryTurns : List (((a : Action) → a.Choice) × Goroutine × Nat) :=
  [(exiting, .run, 10), (exiting, .child "stack", 87), (failing, .child "stack", 1),
    (exiting, .child "stack", 58)]

/-- The marks of the events until the failure. -/
def readyMarks : List Mark := [.opened, .started, .ready true]

/-- The marks of an outage with a start that fails. -/
def retryMarks : List Mark :=
  [.ready false, .other, .scheduled, .failed true, .scheduled, .started]

/-- Every event got its record, the child exited, and the log is not measured. -/
def retries (history : Supervisor.History) (p : Pool managerActions Goroutine World) : Bool :=
  decide ((recorded history).map Event.mark =
    readyMarks ++ .failed false :: retryMarks ++ [.ready true]) &&
  decide (∀ e ∈ recorded history, e.mark = .failed false → e.failureKind = "unexpected_exit") &&
  decide (p.shared.store.entries = roomyStore.entries + (recorded history).length) &&
  !(supervisorRecoveryMetrics ((recorded history).map evidence) :
    Except MetricError (SupervisorRecovery ℚ)).isOk

theorem retrying_run :
  ∃ history p, Manages sampleConfig roomyStore {} history p ∧ retries history p = true
  := by
  apply reaches_of_choices retryTurns retries
  decide +kernel

/-- An outage with a restart that fails to start is not measured. -/
theorem recovery_unmeasured :
  ¬ ∀ (cfg : Config) (store : EventStore) (directory : Directory)
    (history : Supervisor.History)
      (p : Pool managerActions Goroutine World) (spec : Child) (before mid after : List Event)
      (failure restored : Event), Manages cfg store directory history p → cfg.children = [spec] →
    spec.required = true → AllPersisted store history p.shared →
    OutageLog (recorded history) before mid after failure restored →
    (∃ e ∈ before, e.mark = .ready true) →
    failure.failureKind ∈ ["unexpected_exit", "heartbeat_stale"] →
    ∃ result : SupervisorRecovery ℚ,
      supervisorRecoveryMetrics ((recorded history).map evidence) = .ok result ∧
      result.restartCount = pairedRestarts (mid.map Event.mark)
  := by
  intro hall
  obtain ⟨history, p, hrun, hcheck⟩ := retrying_run
  simp only [retries, Bool.and_eq_true, decide_eq_true_eq, Bool.not_eq_true'] at hcheck
  obtain ⟨⟨⟨hmarks, hkind⟩, hstore⟩, hfails⟩ := hcheck
  obtain ⟨before, mid, failure, restored, hlog, hbefore, hfailure, -⟩ :=
    exists_outageLog hmarks (by decide) (by decide)
  obtain ⟨result, hresult, -⟩ := hall _ _ _ history p _ before mid [] failure restored hrun rfl rfl
    hstore hlog
    (by
      have hready : Mark.ready true ∈ before.map Event.mark := by
        rw [hbefore]
        decide
      obtain ⟨e, he, hmark⟩ := List.mem_map.mp hready
      exact ⟨e, he, hmark⟩)
    (by
      rw [hkind failure (by rw [hlog.split]; simp) hfailure]
      decide)
  rw [hresult] at hfails
  cases hfails

/-- The child exits and is restarted. -/
def restartTurns : List (((a : Action) → a.Choice) × Goroutine × Nat) :=
  [(exiting, .run, 10), (exiting, .child "stack", 104)]

/-- The marks of an outage with one restart. -/
def restartMarks : List Mark := [.ready false, .other, .scheduled, .started]

/-- Every event got its record, and the child was restarted. -/
def restarts (history : Supervisor.History) (p : Pool managerActions Goroutine World) : Bool :=
  decide ((recorded history).map Event.mark =
    readyMarks ++ .failed false :: restartMarks ++ [.ready true]) &&
  decide (p.shared.store.entries = roomyStore.entries + (recorded history).length)

theorem restarting_run :
  ∃ history p, Manages sampleConfig roomyStore {} history p ∧ restarts history p = true
  := by
  apply reaches_of_choices restartTurns restarts
  decide +kernel

/-- An outage with one restart is measured. -/
theorem recovery_measured_sample :
  ∃ history p before mid failure restored, Manages sampleConfig roomyStore {} history p ∧
    OutageLog (recorded history) before mid [] failure restored ∧
    mid.map Event.mark = restartMarks ∧
    ((∃ result : SupervisorRecovery ℚ,
      supervisorRecoveryMetrics ([] ++ (recorded history).map evidence) = .ok result ∧
      result.restartCount = pairedRestarts (mid.map Event.mark)) ↔
    published (before.map Event.mark) = true ∧ Mark.failed true ∉ mid.map Event.mark ∧
      Steady (recorded history))
  := by
  obtain ⟨history, p, hrun, hcheck⟩ := restarting_run
  rw [restarts, Bool.and_eq_true, decide_eq_true_iff, decide_eq_true_iff] at hcheck
  obtain ⟨before, mid, failure, restored, hlog, -, -, hmid⟩ :=
    exists_outageLog hcheck.1 (by decide) (by decide)
  refine ⟨history, p, before, mid, failure, restored, hrun, hlog, hmid, ?_⟩
  exact recovery_measured (fun ns _ => ⟨_, rfl⟩) hrun rfl rfl hcheck.2 hlog []

end Metrics

end RobotestLab
