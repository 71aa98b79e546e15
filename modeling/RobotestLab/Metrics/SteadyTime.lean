import RobotestLab.Metrics.SupervisorLog
import RobotestLab.Supervisor.Records

/-!
# The steady time of the recorded events

A goroutine reads the clock before it appends its event, and another goroutine may append an event
in between. The steady times of the events of a run decrease exactly when an event is overtaken so
by an event with a later reading of the clock (`steady_recorded`). Then
`supervisor_recovery_metrics` rejects the log of the run.
-/

namespace RobotestLab

namespace Metrics

open Supervisor

/-! ### Clocks -/

/-- The reading of the clock by an action. -/
def reading : Performed managerActions Goroutine → Option Supervisor.Time
  | ⟨_, .now, now⟩ => some now
  | _ => none

/-- The readings of the clock, in their order. -/
def readings (history : Supervisor.History) : List Supervisor.Time := history.filterMap reading

/-- The readings are moments in nanoseconds that do not decrease. The start of the run is a moment
of the same clock. -/
def MonotonicClock (startedAt : Supervisor.Time) (history : Supervisor.History) : Prop :=
  ∃ instant : Supervisor.Time → Int,
    (∀ now ∈ readings history, now.since startedAt = instant now - instant startedAt) ∧
    (readings history).Pairwise fun t u => instant t ≤ instant u

/-- A goroutine read the clock, and before it appended the event of this reading another goroutine
appended an event with a later time. -/
def Overtaken (startedAt : Supervisor.Time) (history : Supervisor.History) : Prop :=
  ∃ before mid after i now event answer,
    history = before ++ ⟨i, .now, now⟩ :: mid ++ ⟨i, .append now event, answer⟩ :: after ∧
    ∃ j now' event' answer', ⟨j, .append now' event', answer'⟩ ∈ mid ∧
      steadyNs startedAt now < steadyNs startedAt now'

/-! ### Steady times -/

theorem toInt_saturate (n : Int) :
  (saturate n).toInt = max Int64.minValue.toInt (min n Int64.maxValue.toInt)
  := by
  have hmin : Int64.minValue.toInt = -9223372036854775808 := by
    decide
  have hmax : Int64.maxValue.toInt = 9223372036854775807 := by
    decide
  unfold saturate
  split
  · omega
  · split
    · omega
    · rw [Int64.toInt_ofInt_of_le]
      · omega
      · omega
      · omega

theorem toInt_steadyNs (startedAt now : Supervisor.Time) :
  (steadyNs startedAt now).toInt =
    if startedAt.isZero then 0 else max 0 (min (now.since startedAt) Int64.maxValue.toInt)
  := by
  have hmin : Int64.minValue.toInt = -9223372036854775808 := by
    decide
  have hsub : (now.sub startedAt).toInt = _ := toInt_saturate (now.since startedAt)
  unfold steadyNs
  split
  · rfl
  · split
    · rename_i hback
      rw [Int64.lt_iff_toInt_lt, hsub] at hback
      simp only [Int64.toInt_zero] at hback ⊢
      omega
    · rename_i hforth
      rw [Int64.lt_iff_toInt_lt, hsub] at hforth
      simp only [Int64.toInt_zero] at hforth
      omega

/-- A later reading has a later steady time. -/
theorem steadyNs_mono {startedAt t u : Supervisor.Time}
    (h : t.since startedAt ≤ u.since startedAt) :
  (steadyNs startedAt t).toInt ≤ (steadyNs startedAt u).toInt
  := by
  rw [toInt_steadyNs, toInt_steadyNs]
  split
  · apply le_refl
  · omega

theorem steadyNs_nonneg (startedAt now : Supervisor.Time) :
  0 ≤ (steadyNs startedAt now).toInt
  := by
  rw [toInt_steadyNs]
  split
  · apply le_refl
  · apply le_max_left

section Runs

variable {cfg : Config} {store : EventStore} {directory : Directory}
  {history : Supervisor.History}
  {p : Pool managerActions Goroutine World}

theorem mem_recorded {e : Event} (h : e ∈ recorded history) :
  ∃ i now event answer, ⟨i, .append now event, answer⟩ ∈ history ∧ answer.1 = e
  := by
  obtain ⟨⟨i, a, r⟩, hmem, he⟩ := List.mem_filterMap.mp h
  cases a with
  | append now event => exact ⟨i, now, event, r, hmem, Option.some.inj he⟩
  | _ => cases he

/-- The events of a log may stand in their order. -/
theorem sequenced_recorded (h : Manages cfg store directory history p)
    (hlog : Logged store directory (recorded history) p.shared) :
  Sequenced (recorded history)
  where
  schema := hlog.schema
  steady e he := by
    obtain ⟨i, now, event, answer, hmem, rfl⟩ := mem_recorded he
    rw [(h.steady hmem).2]
    apply steadyNs_nonneg
  sequence := by
    have hincreasing : (List.range' (store.sequence.toNat + 1) (recorded history).length).Pairwise
        (· < ·) := List.pairwise_lt_range' 1
    rw [← hlog.sequences, List.pairwise_map] at hincreasing
    exact hincreasing

/-- Two actions of a history, one after the other. -/
theorem pair_sublist_iff {e e' : Performed managerActions Goroutine} :
  List.Sublist [e, e'] history ↔ ∃ u v w, history = u ++ e :: v ++ e' :: w
  := by
  constructor
  · intro h
    obtain ⟨r₁, r₂, rfl, he, hrest⟩ := List.cons_sublist_iff.mp h
    obtain ⟨u, v, rfl⟩ := List.append_of_mem he
    obtain ⟨v', w, rfl⟩ := List.append_of_mem (List.singleton_sublist.mp hrest)
    exact ⟨u, v ++ v', w, by simp⟩
  · rintro ⟨u, v, w, rfl⟩
    have hfirst : List.Sublist [e] (u ++ e :: v) := by
      simp
    have hsecond : List.Sublist [e'] (e' :: w) := by
      simp
    exact hfirst.append hsecond

/-- An event is overtaken by the one before it, or the readings of the two events stand in the order
of the events. -/
theorem overtaken_or_readings (h : Manages cfg store directory history p) {i j : Goroutine}
    {now now' : Supervisor.Time} {event event' : Event} {answer answer' : Event × Err}
    (hpair : List.Sublist [⟨j, .append now' event', answer'⟩,
      ⟨i, .append now event, answer⟩] history)
    (hlt : steadyNs p.shared.startedAt now < steadyNs p.shared.startedAt now') :
  Overtaken p.shared.startedAt history ∨ List.Sublist [now', now] (readings history)
  := by
  obtain ⟨u, v, w, rfl⟩ := pair_sublist_iff.mp hpair
  obtain ⟨before, mid, hread⟩ := reading_mem h.reporting_allows.1
  have h' := h
  rw [List.append_assoc, List.cons_append] at h'
  obtain ⟨before', mid', hu'⟩ := reading_mem h'.reporting_allows.1
  rcases List.append_eq_append_iff.mp hread with ⟨c, hbefore, hrest⟩ | ⟨c, hu, hrest⟩
  · -- The clock was read for the second event after the first one was appended.
    right
    have hsublist : List.Sublist [⟨j, .now, now'⟩, ⟨i, .now, now⟩]
        (u ++ ⟨j, .append now' event', answer'⟩ :: v ++ ⟨i, .append now event, answer⟩ :: w) := by
      cases c with
      | nil =>
          obtain ⟨heq, -⟩ := List.cons.inj hrest
          cases congrArg Performed.action heq
      | cons x c =>
          obtain ⟨rfl, rfl⟩ := List.cons.inj hrest
          rw [pair_sublist_iff, hu']
          exact ⟨before', mid' ++ ⟨j, .append now' event', answer'⟩ :: c,
            mid ++ ⟨i, .append now event, answer⟩ :: w, by simp⟩
    exact hsublist.filterMap reading
  · -- The clock was read for the second event before the first one was appended.
    left
    refine ⟨before, mid, w, i, now, event, answer, ?_, j, now', event', answer', ?_, hlt⟩
    · rw [hread]
    · cases c with
      | nil =>
          obtain ⟨heq, -⟩ := List.cons.inj hrest
          cases congrArg Performed.action heq
      | cons x c =>
          obtain ⟨-, rfl⟩ := List.cons.inj hrest
          exact List.mem_append_right _ List.mem_cons_self

/-- The steady times of the events of a run decrease exactly when an event is overtaken. -/
theorem steady_iff (h : Manages cfg store directory history p)
    (hclock : MonotonicClock p.shared.startedAt history) :
  Steady (recorded history) ↔ ¬ Overtaken p.shared.startedAt history
  := by
  obtain ⟨instant, hsince, horder⟩ := hclock
  unfold Steady recorded
  rw [List.pairwise_filterMap, List.pairwise_iff_forall_sublist]
  constructor
  · rintro hsteady ⟨before, mid, after, i, now, event, answer, rfl, j, now', event',
      answer', hmem, hlt⟩
    have hpair : List.Sublist [⟨j, .append now' event', answer'⟩, ⟨i, .append now event, answer⟩]
        (before ++ ⟨i, .now, now⟩ :: mid ++ ⟨i, .append now event, answer⟩ :: after) := by
      obtain ⟨u, v, rfl⟩ := List.append_of_mem hmem
      rw [pair_sublist_iff]
      exact ⟨before ++ ⟨i, .now, now⟩ :: u, v, after, by simp⟩
    have hle := hsteady hpair answer'.1 rfl answer.1 rfl
    rw [(h.steady (hpair.subset List.mem_cons_self)).2,
      (h.steady (hpair.subset (List.mem_cons_of_mem _ List.mem_cons_self))).2] at hle
    rw [Int64.lt_iff_toInt_lt] at hlt
    exact absurd hlt (not_lt.mpr hle)
  · rintro hovertaken ⟨j, a', r'⟩ ⟨i, a, r⟩ hpair e' he' e he
    cases a' with
    | append now' event' =>
        cases a with
        | append now event =>
            obtain rfl := Option.some.inj he
            obtain rfl := Option.some.inj he'
            rw [(h.steady (hpair.subset List.mem_cons_self)).2,
              (h.steady (hpair.subset (List.mem_cons_of_mem _ List.mem_cons_self))).2]
            by_contra hlt
            rw [not_le, ← Int64.lt_iff_toInt_lt] at hlt
            have hreadings := (overtaken_or_readings h hpair hlt).resolve_left hovertaken
            rw [Int64.lt_iff_toInt_lt, ← not_le] at hlt
            apply hlt
            apply steadyNs_mono
            rw [hsince now' (hreadings.subset List.mem_cons_self),
              hsince now (hreadings.subset (List.mem_cons_of_mem _ List.mem_cons_self))]
            apply Int.sub_le_sub_right
            exact List.pairwise_iff_forall_sublist.mp horder hreadings
        | _ => cases he
    | _ => cases he'

/-- The events of a run, when each of them got its record, are in the log with increasing sequences.
Their steady times decrease, and `supervisor_recovery_metrics` rejects the log for it, exactly when
an event is overtaken. -/
theorem steady_recorded {F64 : Type} [PyFloat F64] (h : Manages cfg store directory history p)
    (hclock : MonotonicClock p.shared.startedAt history)
    (hstore : AllPersisted store history p.shared) :
  Logged store directory (recorded history) p.shared ∧
    ((Steady (recorded history) ∧ ∀ earlier : List Evidence, recorded history ≠ [] →
      (supervisorRecoveryMetrics (earlier ++ (recorded history).map evidence) :
        Except MetricError (SupervisorRecovery F64)) ≠ .error regressed) ↔
      ¬ Overtaken p.shared.startedAt history)
  := by
  have hlog := h.logged.2 hstore
  refine ⟨hlog, ?_⟩
  rw [← steady_iff h hclock]
  constructor
  · exact And.left
  · intro hsteady
    refine ⟨hsteady, ?_⟩
    intro earlier hne
    have hopens : Opens (recorded history) := by
      have hevents := h.opening.events
      split at hevents
      · exact hevents
      · exact absurd hevents hne
    rw [supervisorRecoveryMetrics_eq hopens (sequenced_recorded h hlog) earlier, if_pos hsteady]
    apply measureRun_ne_regressed

end Runs

/-! ### An overtaken event -/

/-- A reading of the clock, with the given number of nanoseconds since the start. -/
def moment (ns : Int) : Supervisor.Time where
  utc := Sample.noon
  monotonic := some ns

/-- The clock shows the given moment, and the other choices are the given ones. -/
def Choices.at (choices : Choices) (now : Supervisor.Time) : (a : Action) → a.Choice
  | .now | .beginRun => now
  | a => choices.choose a

/-- A store with room. -/
def roomyStore : EventStore where
  limits := Sample.limits

/-- The child reads the clock for the first event of its stop, and the run records the shutdown
before that event is appended. -/
def overtakingTurns : List (((a : Action) → a.Choice) × Goroutine × Nat) :=
  [(Choices.at {} (moment 0), .run, 10), (Choices.at {} (moment 0), .child "stack", 26),
    (Choices.at {} (moment 0), .caller, 1), (Choices.at {} (moment 1), .child "stack", 5),
    (Choices.at {} (moment 2), .run, 6), (Choices.at {} (moment 2), .child "stack", 2)]

/-- The error of an append. -/
def appendErr : Performed managerActions Goroutine → Err
  | ⟨_, .append _ _, (_, err)⟩ => err
  | _ => []

/-- The nanoseconds of a moment. -/
def instantOf (now : Supervisor.Time) : Int := now.monotonic.getD 0

/-- The history shows a clock that does not go back, no failure of an append, and steady times that
decrease. -/
def regresses (history : Supervisor.History) (p : Pool managerActions Goroutine World) : Bool :=
  decide (∀ now ∈ readings history,
    now.since p.shared.startedAt = instantOf now - instantOf p.shared.startedAt) &&
  decide ((readings history).Pairwise fun t u => instantOf t ≤ instantOf u) &&
  decide (∀ e ∈ history, appendErr e = []) && !p.shared.store.saturated &&
  !decide (Steady (recorded history))

theorem overtaking_run :
  ∃ history p, Manages sampleConfig roomyStore {} history p ∧ regresses history p = true
  := by
  apply reaches_of_choices overtakingTurns regresses
  decide +kernel

/-- A run with a monotonic clock and without a failure of the store, whose steady times decrease. -/
theorem exists_regression :
  ∃ history p, Manages sampleConfig roomyStore {} history p ∧
    MonotonicClock p.shared.startedAt history ∧
    (∀ i now event answer, ⟨i, .append now event, answer⟩ ∈ history → answer.2 = []) ∧
    p.shared.store.saturated = false ∧ ¬ Steady (recorded history)
  := by
  obtain ⟨history, p, hrun, hcheck⟩ := overtaking_run
  simp only [regresses, Bool.and_eq_true, decide_eq_true_eq, Bool.not_eq_true',
    decide_eq_false_iff_not] at hcheck
  obtain ⟨⟨⟨⟨hsince, horder⟩, herr⟩, hsaturated⟩, hsteady⟩ := hcheck
  refine ⟨history, p, hrun, ⟨instantOf, hsince, horder⟩, ?_, hsaturated, hsteady⟩
  intro i now event answer hmem
  exact herr _ hmem

/-- The steady times of a run may decrease. -/
theorem steady_regresses :
  ¬ ∀ (cfg : Config) (store : EventStore) (directory : Directory)
    (history : Supervisor.History)
      (p : Pool managerActions Goroutine World), Manages cfg store directory history p →
    MonotonicClock p.shared.startedAt history →
    (∀ i now event answer, ⟨i, .append now event, answer⟩ ∈ history → answer.2 = []) →
    p.shared.store.saturated = false →
    Steady (recorded history) ∧
      (supervisorRecoveryMetrics ((recorded history).map evidence) :
        Except MetricError (SupervisorRecovery ℚ)) ≠ .error regressed
  := by
  intro hall
  obtain ⟨history, p, hrun, hclock, herr, hsaturated, hsteady⟩ := exists_regression
  exact hsteady (hall _ _ _ history p hrun hclock herr hsaturated).1

/-- The event of the child is overtaken by the one of the shutdown. -/
theorem steady_recorded_sample :
  ∃ history p, Manages sampleConfig roomyStore {} history p ∧
    (Logged roomyStore {} (recorded history) p.shared ∧
      ((Steady (recorded history) ∧ ∀ earlier : List Evidence, recorded history ≠ [] →
        (supervisorRecoveryMetrics (earlier ++ (recorded history).map evidence) :
          Except MetricError (SupervisorRecovery ℚ)) ≠ .error regressed) ↔
        ¬ Overtaken p.shared.startedAt history))
  := by
  obtain ⟨history, p, hrun, hclock, herr, hsaturated, -⟩ := exists_regression
  exact ⟨history, p, hrun, steady_recorded hrun hclock (hrun.allPersisted herr hsaturated)⟩

end Metrics

end RobotestLab
