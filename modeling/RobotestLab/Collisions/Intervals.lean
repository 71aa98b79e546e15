import RobotestLab.Collisions.Admission
import RobotestLab.Library.Run
import Mathlib.Algebra.Ring.Int.Defs
import Mathlib.Data.Rat.Defs

/-!
# The intervals of the aggregator

The first observed stamp on the grid of 20 ms starts the first interval, and the boundaries are the
stamps of the grid after it. At a boundary the aggregator emits the union of the steps of the
interval that ends there, with the latest records of each pair. Its state after a run without an
error is a function of what was observed: the boundary that comes next, and the union of the steps
of the interval so far.
-/

namespace RobotestLab

namespace Collisions

open Gz ContactAggregatorPolicy

variable {F64 : Type}

/-! ### Boundaries -/

/-- The first observed stamp that is divisible by 20 ms. -/
def firstBoundary (seen : List (Observation F64)) : Option Int :=
  (seen.map Observation.stamp).find? fun stamp => stamp % kContactAggregatePeriodNs = 0

/-- A stamp of the grid after the first observed one. -/
def IsBoundary (seen : List (Observation F64)) (stamp : Int) : Prop :=
  ∃ first, firstBoundary seen = some first ∧
    ∃ k : Nat, 1 ≤ k ∧ stamp = first + k * kContactAggregatePeriodNs

/-- The contacts of the steps of the interval that ends at a boundary, step by step. -/
def intervalSteps (seen : List (Observation F64)) (boundary : Int) : List (List (Contact F64)) :=
  (seen.filter fun o =>
    boundary - kContactAggregatePeriodNs < o.stamp ∧ o.stamp ≤ boundary).map Observation.contacts

/-- Some step of the interval that ends at a boundary has a contact. -/
def HasContact (seen : List (Observation F64)) (boundary : Int) : Prop :=
  ∃ o ∈ seen, boundary - kContactAggregatePeriodNs < o.stamp ∧ o.stamp ≤ boundary ∧
    o.contacts ≠ []

section Boundaries

variable {seen : List (Observation F64)} {o : Observation F64} {stamp boundary : Int}

theorem firstBoundary_concat :
  firstBoundary (seen ++ [o]) = (firstBoundary seen).or
    (if o.stamp % kContactAggregatePeriodNs = 0 then some o.stamp else none)
  := by
  unfold firstBoundary
  rw [List.map_append, List.find?_append]
  congr 1
  simp only [List.map_cons, List.map_nil, List.find?_cons, List.find?_nil]
  split
  · simp_all
  · simp_all

theorem firstBoundary_mem {first : Int} (h : firstBoundary seen = some first) :
  first % kContactAggregatePeriodNs = 0 ∧ ∃ o ∈ seen, o.stamp = first
  := by
  unfold firstBoundary at h
  have hmem := List.mem_of_find?_eq_some h
  obtain ⟨o, ho, hstamp⟩ := List.mem_map.mp hmem
  have hdivisible := List.find?_some h
  exact ⟨of_decide_eq_true hdivisible, o, ho, hstamp⟩

/-- A boundary keeps being one. -/
theorem IsBoundary.concat (h : IsBoundary seen stamp) :
  IsBoundary (seen ++ [o]) stamp
  := by
  obtain ⟨first, hfirst, k, hk, rfl⟩ := h
  refine ⟨first, ?_, k, hk, rfl⟩
  rw [firstBoundary_concat, hfirst, Option.some_or]

/-- An observation does not make its own stamp a boundary. -/
theorem isBoundary_concat_iff :
  IsBoundary (seen ++ [o]) o.stamp ↔ IsBoundary seen o.stamp
  := by
  constructor
  · rintro ⟨first, hfirst, k, hk, hstamp⟩
    rw [firstBoundary_concat] at hfirst
    cases hseen : firstBoundary seen with
    | some first' =>
        rw [hseen, Option.some_or, Option.some.injEq] at hfirst
        exact ⟨first, by rw [hseen, hfirst], k, hk, hstamp⟩
    | none =>
        rw [hseen, Option.none_or] at hfirst
        split at hfirst
        · rw [Option.some.injEq] at hfirst
          unfold kContactAggregatePeriodNs at hstamp
          omega
        · cases hfirst
  · exact IsBoundary.concat

/-- Between two consecutive boundaries there is no boundary. -/
theorem IsBoundary.le_of_lt (h : IsBoundary seen boundary) (h' : IsBoundary seen stamp)
    (hlt : boundary - kContactAggregatePeriodNs < stamp) :
  boundary ≤ stamp
  := by
  obtain ⟨first, hfirst, k, -, rfl⟩ := h
  obtain ⟨first', hfirst', k', -, rfl⟩ := h'
  rw [hfirst, Option.some.injEq] at hfirst'
  subst hfirst'
  unfold kContactAggregatePeriodNs at hlt ⊢
  omega

theorem IsBoundary.next (h : IsBoundary seen boundary) :
  IsBoundary seen (boundary + kContactAggregatePeriodNs)
  := by
  obtain ⟨first, hfirst, k, hk, rfl⟩ := h
  refine ⟨first, hfirst, k + 1, by omega, ?_⟩
  rw [Nat.cast_succ, add_one_mul, add_assoc]

theorem intervalSteps_concat_of_mem
    (h : boundary - kContactAggregatePeriodNs < o.stamp ∧ o.stamp ≤ boundary) :
  intervalSteps (seen ++ [o]) boundary = intervalSteps seen boundary ++ [o.contacts]
  := by
  unfold intervalSteps
  rw [List.filter_append, List.map_append]
  congr 1
  simp [h.1, h.2]

theorem intervalSteps_eq_nil
    (h : ∀ o ∈ seen, o.stamp ≤ boundary - kContactAggregatePeriodNs) :
  intervalSteps seen boundary = []
  := by
  unfold intervalSteps
  rw [List.map_eq_nil_iff, List.filter_eq_nil_iff]
  intro o ho
  have := h o ho
  simp only [decide_eq_true_eq, not_and, not_le]
  omega

theorem mem_intervalSteps {step : List (Contact F64)} :
  step ∈ intervalSteps seen boundary ↔
    ∃ o ∈ seen, (boundary - kContactAggregatePeriodNs < o.stamp ∧ o.stamp ≤ boundary) ∧
      o.contacts = step
  := by
  simp [intervalSteps, and_assoc]

/-- The union of an interval is empty exactly when no step of it has a contact. -/
theorem unionGroups_isEmpty_iff :
  (unionGroups (intervalSteps seen boundary)).isEmpty = true ↔ ¬ HasContact seen boundary
  := by
  rw [Std.ExtTreeMap.isEmpty_iff, Std.ExtTreeMap.eq_empty_iff_forall_not_mem]
  have hmem : ∀ p, p ∈ unionGroups (intervalSteps seen boundary) ↔
      ∃ o ∈ seen, (boundary - kContactAggregatePeriodNs < o.stamp ∧ o.stamp ≤ boundary) ∧
        ∃ contact ∈ o.contacts, contact.pair = p := by
    intro p
    rw [Std.ExtTreeMap.mem_iff_isSome_getElem?, ← mem_pairsSeen_iff_isSome, mem_pairsSeen,
      latestRecords_ne_nil_iff]
    constructor
    · rintro ⟨step, hstep, hpair⟩
      obtain ⟨o, ho, hinterval, rfl⟩ := mem_intervalSteps.mp hstep
      exact ⟨o, ho, hinterval, hpair⟩
    · rintro ⟨o, ho, hinterval, hpair⟩
      exact ⟨o.contacts, mem_intervalSteps.mpr ⟨o, ho, hinterval, rfl⟩, hpair⟩
  constructor
  · rintro h ⟨o, ho, hlt, hle, hne⟩
    obtain ⟨contact, hcontact⟩ := List.exists_mem_of_ne_nil _ hne
    exact h contact.pair ((hmem _).mpr ⟨o, ho, ⟨hlt, hle⟩, contact, hcontact, rfl⟩)
  · intro h p hp
    obtain ⟨o, ho, ⟨hlt, hle⟩, contact, hcontact, -⟩ := (hmem p).mp hp
    exact h ⟨o, ho, hlt, hle, List.ne_nil_of_mem hcontact⟩

end Boundaries

/-! ### The state of the aggregator -/

/-- What an aggregator has observed and answered. -/
abbrev AggregatorTrace (F64 : Type) := List (Observation F64 × ContactAggregateDecision F64)

/-- The observations of a trace. -/
def observations (trace : AggregatorTrace F64) : List (Observation F64) :=
  trace.map Prod.fst

/-- The interval in progress ends at the given boundary. -/
structure InProgress (trace : AggregatorTrace F64) (policy : ContactAggregatorPolicy F64)
    (boundary : Int) : Prop where
  next : policy.nextBoundaryStampNs = some boundary
  isBoundary : IsBoundary (observations trace) boundary
  opened : ∃ e ∈ trace, e.1.stamp = boundary - kContactAggregatePeriodNs
  before : ∀ e ∈ trace, e.1.stamp < boundary
  groups : policy.intervalGroups = unionGroups (intervalSteps (observations trace) boundary)
  started : policy.streamStarted = true ↔ ∃ e ∈ trace, e.2.output.isSome = true
  recent : ∀ before e after, trace = before ++ e :: after → e.2.output.isSome = true →
    (∀ e' ∈ after, e'.2.output = none) → e.1.stamp = boundary - kContactAggregatePeriodNs

/-- No boundary was observed. -/
structure Unsynchronized (trace : AggregatorTrace F64) (policy : ContactAggregatorPolicy F64) :
    Prop where
  next : policy.nextBoundaryStampNs = none
  first : firstBoundary (observations trace) = none
  groups : policy.intervalGroups = ∅
  started : policy.streamStarted = false
  silent : ∀ e ∈ trace, e.2.output = none

variable [Binary64Tests F64]

/-- The state after a trace without an error. -/
structure Tracks (trace : AggregatorTrace F64) (policy : ContactAggregatorPolicy F64) : Prop where
  detail : policy.fatalDetail = none
  last : ∀ stamp, policy.lastObservedStampNs.any (stamp ≤ ·) = true ↔
    ∃ e ∈ trace, stamp ≤ e.1.stamp
  quiet : ∀ e ∈ trace, e.2.fatal = false
  admissible : ∀ e ∈ trace, StepAdmissible e.1.messages
  interval : Unsynchronized trace policy ∨ ∃ boundary, InProgress trace policy boundary

/-- What makes an observation fatal after a trace without an error. -/
inductive FatalCause (trace : AggregatorTrace F64) (o : Observation F64) : Prop
  | negative (h : o.stamp < 0)
  | notAdvancing (e : Observation F64 × ContactAggregateDecision F64) (he : e ∈ trace)
      (h : o.stamp ≤ e.1.stamp)
  | inadmissible (h : ¬ StepAdmissible o.messages)
  | skipped (boundary : Int) (h : IsBoundary (observations trace) boundary)
      (hbefore : ∀ e ∈ trace, e.1.stamp < boundary) (hafter : boundary < o.stamp)
  | overLimit (boundary : Int) (h : IsBoundary (observations trace) boundary)
      (hlt : boundary - kContactAggregatePeriodNs < o.stamp) (hle : o.stamp ≤ boundary)
      (hover : ¬ UnionWithin (intervalSteps (observations trace ++ [o]) boundary))
  | emptied (h : IsBoundary (observations trace) o.stamp)
      (hstarted : ∃ e ∈ trace, e.2.output.isSome = true)
      (hempty : ¬ HasContact (observations trace ++ [o]) o.stamp)
  | overflow (h : firstBoundary (observations trace ++ [o]) = some o.stamp ∨
      IsBoundary (observations trace) o.stamp)
      (hover : kMaxInt64 - kContactAggregatePeriodNs < o.stamp)

/-- The output at a stamp: the union of the interval that ends there. -/
def IntervalOutput (seen : List (Observation F64)) (stamp : Int) :
    Option (Contacts F64) → Prop
  | some output => (IsBoundary seen stamp ∧ HasContact seen stamp) ∧
      output = aggregateAt stamp (unionGroups (intervalSteps seen stamp))
  | none => ¬ (IsBoundary seen stamp ∧ HasContact seen stamp)

theorem Tracks.initial :
  Tracks ([] : AggregatorTrace F64) {}
  := by
  constructor
  · rfl
  · simp
  · exact fun e he => absurd he List.not_mem_nil
  · exact fun e he => absurd he List.not_mem_nil
  · exact .inl ⟨rfl, rfl, rfl, rfl, fun e he => absurd he List.not_mem_nil⟩

omit [Binary64Tests F64] in
theorem observations_concat {trace : AggregatorTrace F64} {o : Observation F64}
    {d : ContactAggregateDecision F64} :
  observations (trace ++ [(o, d)]) = observations trace ++ [o]
  := by
  simp [observations]

/-- The checks that come before the interval. -/
theorem Tracks.observe_eq {trace : AggregatorTrace F64} {policy : ContactAggregatorPolicy F64}
    (h : Tracks trace policy) (o : Observation F64) :
  (FatalCause trace o ∧ ∃ error, policy.observe o = policy.fail error) ∨
  (0 ≤ o.stamp ∧ (∀ e ∈ trace, e.1.stamp < o.stamp) ∧ StepAdmissible o.messages ∧
    policy.observe o =
      match policy.nextBoundaryStampNs with
      | none => { policy with lastObservedStampNs := some o.stamp }.synchronize o.stamp
      | some boundary => { policy with lastObservedStampNs := some o.stamp }.extendInterval o.stamp
          boundary (stepGrouping.groups o.contacts))
  := by
  unfold ContactAggregatorPolicy.observe observeSources
  rw [h.detail]
  dsimp only
  split
  · rename_i hnegative
    exact .inl ⟨.negative hnegative, _, rfl⟩
  · rename_i hnonnegative
    split
    · rename_i hlast
      obtain ⟨e, he, hle⟩ := (h.last _).mp hlast
      exact .inl ⟨.notAdvancing e he hle, _, rfl⟩
    · rename_i hlast
      have hadvance : ∀ e ∈ trace, e.1.stamp < o.stamp := by
        intro e he
        by_contra hle
        exact hlast ((h.last _).mpr ⟨e, he, not_lt.mp hle⟩)
      split
      · rename_i error herror
        refine .inl ⟨.inadmissible ?_, error, rfl⟩
        intro hadmissible
        have hok := validatedStepGroups_eq_ok_iff.mpr ⟨hadmissible, rfl⟩
        rw [herror] at hok
        cases hok
      · rename_i groups hok
        obtain ⟨hadmissible, rfl⟩ := validatedStepGroups_eq_ok_iff.mp hok
        exact .inr ⟨not_lt.mp hnonnegative, hadvance, hadmissible, rfl⟩

/-! ### One observation -/

section Step

variable {trace : AggregatorTrace F64} {policy : ContactAggregatorPolicy F64} {o : Observation F64}
  {boundary : Int}

/-- What an observation does: it fails for a cause and keeps the error, or it has none of the causes
and answers with the output of the interval. -/
def Answers (trace : AggregatorTrace F64) (o : Observation F64)
    (answer : ContactAggregateDecision F64 × ContactAggregatorPolicy F64) : Prop :=
  (FatalCause trace o ∧ ∃ error, answer.1 = { fatal := true, detail := some error } ∧
    answer.2.fatalDetail = some error) ∨
  (¬ FatalCause trace o ∧
    IntervalOutput (observations trace ++ [o]) o.stamp answer.1.output ∧
    Tracks (trace ++ [(o, answer.1)]) answer.2)

theorem Answers.fail (h : FatalCause trace o) (error : AggregateError) :
  Answers trace o (policy.fail error)
  := .inl ⟨h, error, rfl, rfl⟩

/-- The facts about an observation that passes the checks before the interval. -/
structure Advances (trace : AggregatorTrace F64) (o : Observation F64) : Prop where
  nonnegative : 0 ≤ o.stamp
  later : ∀ e ∈ trace, e.1.stamp < o.stamp
  admissible : StepAdmissible o.messages

omit [Binary64Tests F64] in
theorem mem_observations {s : Observation F64} (h : s ∈ observations trace) :
  ∃ e ∈ trace, e.1 = s
  := List.mem_map.mp h

variable {d : ContactAggregateDecision F64}

/-- The parts of the state that do not concern the interval. -/
theorem Tracks.concat (h : Tracks trace policy) (hadvances : Advances trace o)
    {policy' : ContactAggregatorPolicy F64}
    (hfatal : d.fatal = false) (hdetail : policy'.fatalDetail = policy.fatalDetail)
    (hlast : policy'.lastObservedStampNs = some o.stamp)
    (hinterval : Unsynchronized (trace ++ [(o, d)]) policy' ∨
      ∃ boundary, InProgress (trace ++ [(o, d)]) policy' boundary) :
  Tracks (trace ++ [(o, d)]) policy'
  := by
  constructor
  · rw [hdetail, h.detail]
  · intro stamp
    rw [hlast]
    simp only [Option.any_some, decide_eq_true_eq, List.mem_append, List.mem_singleton]
    constructor
    · intro hle
      exact ⟨_, .inr rfl, hle⟩
    · rintro ⟨e, he | rfl, hle⟩
      · exact hle.trans (hadvances.later e he).le
      · exact hle
  · intro e he
    rcases List.mem_append.mp he with he | he
    · exact h.quiet e he
    · rw [List.mem_singleton.mp he]
      exact hfatal
  · intro e he
    rcases List.mem_append.mp he with he | he
    · exact h.admissible e he
    · rw [List.mem_singleton.mp he]
      exact hadvances.admissible
  · exact hinterval

omit [Binary64Tests F64] in
theorem Unsynchronized.not_isBoundary (h : Unsynchronized trace policy) {stamp : Int} :
  ¬ IsBoundary (observations trace) stamp
  := by
  rintro ⟨first, hfirst, -⟩
  rw [h.first] at hfirst
  cases hfirst

theorem Unsynchronized.not_fatalCause (h : Unsynchronized trace policy)
    (hadvances : Advances trace o)
    (hoverflow : o.stamp % kContactAggregatePeriodNs = 0 →
      o.stamp ≤ kMaxInt64 - kContactAggregatePeriodNs) :
  ¬ FatalCause trace o
  := by
  intro hcause
  cases hcause with
  | negative hlt => exact absurd hadvances.nonnegative (not_le.mpr hlt)
  | notAdvancing e he hle => exact absurd (hadvances.later e he) (not_lt.mpr hle)
  | inadmissible hnot => exact hnot hadvances.admissible
  | skipped boundary hboundary => exact h.not_isBoundary hboundary
  | overLimit boundary hboundary => exact h.not_isBoundary hboundary
  | emptied hboundary => exact h.not_isBoundary hboundary
  | overflow hboundary hover =>
      rcases hboundary with hfirst | hboundary
      · rw [firstBoundary_concat, h.first, Option.none_or] at hfirst
        split at hfirst
        · rename_i hdivisible
          exact absurd (hoverflow hdivisible) (not_le.mpr hover)
        · cases hfirst
      · exact h.not_isBoundary hboundary

/-- A step of an interval comes after the boundary that opened it. -/
theorem InProgress.opened_lt (h : InProgress trace policy boundary)
    (hadvances : Advances trace o) :
  boundary - kContactAggregatePeriodNs < o.stamp
  := by
  obtain ⟨e, he, hstamp⟩ := h.opened
  rw [← hstamp]
  exact hadvances.later e he

theorem InProgress.not_fatalCause (h : InProgress trace policy boundary)
    (hadvances : Advances trace o) (hle : o.stamp ≤ boundary)
    (hwithin : UnionWithin (intervalSteps (observations trace ++ [o]) boundary))
    (hoverflow : o.stamp = boundary → boundary ≤ kMaxInt64 - kContactAggregatePeriodNs)
    (hcontact : o.stamp = boundary → HasContact (observations trace ++ [o]) boundary ∨
      policy.streamStarted = false) :
  ¬ FatalCause trace o
  := by
  have hopened := h.opened_lt hadvances
  have hsame : IsBoundary (observations trace) o.stamp → o.stamp = boundary := by
    intro hboundary
    exact le_antisymm hle (h.isBoundary.le_of_lt hboundary hopened)
  intro hcause
  cases hcause with
  | negative hlt => exact absurd hadvances.nonnegative (not_le.mpr hlt)
  | notAdvancing e he hle => exact absurd (hadvances.later e he) (not_lt.mpr hle)
  | inadmissible hnot => exact hnot hadvances.admissible
  | skipped boundary' hboundary hbefore hafter =>
      obtain ⟨e, he, hstamp⟩ := h.opened
      have hlt := hbefore e he
      rw [hstamp] at hlt
      have := h.isBoundary.le_of_lt hboundary hlt
      omega
  | overLimit boundary' hboundary hlt hle' hover =>
      have h₁ := h.isBoundary.le_of_lt hboundary (hopened.trans_le hle')
      have h₂ := hboundary.le_of_lt h.isBoundary (hlt.trans_le hle)
      rw [le_antisymm h₂ h₁] at hover
      exact hover hwithin
  | emptied hboundary hstarted hempty =>
      have heq := hsame hboundary
      rw [heq] at hempty
      rcases hcontact heq with hcontact | hnot
      · exact hempty hcontact
      · rw [h.started.mpr hstarted] at hnot
        cases hnot
  | overflow hboundary hover =>
      rcases hboundary with hfirst | hboundary
      · obtain ⟨first, hfirst', k, hk, heq⟩ := h.isBoundary
        rw [firstBoundary_concat, hfirst', Option.some_or, Option.some.injEq] at hfirst
        rw [heq, hfirst] at hopened
        unfold kContactAggregatePeriodNs at hopened
        omega
      · have heq := hsame hboundary
        have := hoverflow heq
        omega

omit [Binary64Tests F64] in
/-- An observation without an output ends no interval. -/
theorem silent_concat (hd : d.output = none) (h : ∀ e ∈ trace, e.2.output = none) :
  ∀ e ∈ trace ++ [(o, d)], e.2.output = none
  := by
  intro e he
  rcases List.mem_append.mp he with he | he
  · exact h e he
  · rw [List.mem_singleton.mp he]
    exact hd

/-- The first boundary opens the first interval. -/
theorem Unsynchronized.open (h : Unsynchronized trace policy) (hadvances : Advances trace o)
    (hfirst : firstBoundary (observations trace ++ [o]) = some o.stamp)
    {d : ContactAggregateDecision F64} {policy' : ContactAggregatorPolicy F64}
    (hd : d.output = none)
    (hnext : policy'.nextBoundaryStampNs = some (o.stamp + kContactAggregatePeriodNs))
    (hgroups : policy'.intervalGroups = policy.intervalGroups)
    (hstarted : policy'.streamStarted = policy.streamStarted) :
  InProgress (trace ++ [(o, d)]) policy' (o.stamp + kContactAggregatePeriodNs)
  := by
  have hperiod : (0 : Int) < kContactAggregatePeriodNs := by decide
  have hsilent := silent_concat (o := o) hd h.silent
  have hle : ∀ e ∈ trace ++ [(o, d)], e.1.stamp ≤ o.stamp := by
    intro e he
    rcases List.mem_append.mp he with he | he
    · exact (hadvances.later e he).le
    · rw [List.mem_singleton.mp he]
  constructor
  · exact hnext
  · rw [observations_concat]
    refine ⟨o.stamp, hfirst, 1, le_rfl, ?_⟩
    rw [Nat.cast_one, one_mul]
  · refine ⟨(o, d), by simp, ?_⟩
    rw [add_sub_cancel_right]
  · intro e he
    have := hle e he
    omega
  · rw [intervalSteps_eq_nil, hgroups]
    · exact h.groups
    · intro s hs
      obtain ⟨e, he, rfl⟩ := mem_observations hs
      rw [add_sub_cancel_right]
      exact hle e he
  · rw [hstarted, h.started]
    constructor
    · intro hfalse
      cases hfalse
    · rintro ⟨e, he, hsome⟩
      rw [hsilent e he] at hsome
      cases hsome
  · intro before e after htrace hsome
    have he : e ∈ trace ++ [(o, d)] := by
      rw [htrace]
      simp
    rw [hsilent e he] at hsome
    cases hsome

theorem Unsynchronized.answers (h : Tracks trace policy) (hu : Unsynchronized trace policy)
    (hadvances : Advances trace o) :
  Answers trace o ({ policy with lastObservedStampNs := some o.stamp }.synchronize o.stamp)
  := by
  have hnone : IntervalOutput (observations trace ++ [o]) o.stamp none := by
    rintro ⟨hboundary, -⟩
    exact hu.not_isBoundary (isBoundary_concat_iff.mp hboundary)
  unfold synchronize
  split
  · rename_i hdivisible
    refine .inr ⟨hu.not_fatalCause hadvances (fun h => absurd h hdivisible), hnone, ?_⟩
    refine h.concat hadvances rfl (by exact rfl) (by exact rfl) ?_
    refine .inl ⟨hu.next, ?_, hu.groups, hu.started, silent_concat rfl hu.silent⟩
    rw [observations_concat, firstBoundary_concat, hu.first, if_neg hdivisible]
    rfl
  · rename_i hdivisible
    rw [not_not] at hdivisible
    have hfirst : firstBoundary (observations trace ++ [o]) = some o.stamp := by
      rw [firstBoundary_concat, hu.first, if_pos hdivisible]
      rfl
    split
    · rename_i hover
      exact .fail (.overflow (.inl hfirst) hover) _
    · rename_i hover
      refine .inr ⟨hu.not_fatalCause hadvances (fun _ => not_lt.mp hover), hnone, ?_⟩
      refine h.concat hadvances rfl (by exact rfl) (by exact rfl)
        (.inr ⟨o.stamp + kContactAggregatePeriodNs, ?_⟩)
      exact hu.open hadvances hfirst rfl rfl rfl rfl

/-- The groups of the interval with those of a further step. -/
theorem InProgress.assignGroups (h : InProgress trace policy boundary)
    (hadvances : Advances trace o) (hle : o.stamp ≤ boundary) :
  SortedMap.assignAll policy.intervalGroups (stepGrouping.groups o.contacts).toList =
    unionGroups (intervalSteps (observations trace ++ [o]) boundary)
  := by
  rw [h.groups, intervalSteps_concat_of_mem ⟨h.opened_lt hadvances, hle⟩, unionGroups_concat]

theorem Tracks.validate_union (h : Tracks trace policy) (hadvances : Advances trace o) :
  validateCompleteGroups (unionGroups (intervalSteps (observations trace ++ [o]) boundary)) =
      .ok () ↔
    UnionWithin (intervalSteps (observations trace ++ [o]) boundary)
  := by
  apply validateCompleteGroups_unionGroups
  intro step hstep
  obtain ⟨s, hs, -, rfl⟩ := mem_intervalSteps.mp hstep
  rcases List.mem_append.mp hs with hs | hs
  · obtain ⟨e, he, rfl⟩ := mem_observations hs
    exact (h.admissible e he).pairs
  · rw [List.mem_singleton.mp hs]
    exact hadvances.admissible.pairs

/-- A step before the boundary leaves the interval in progress. -/
theorem InProgress.extend (h : InProgress trace policy boundary) (hadvances : Advances trace o)
    (hlt : o.stamp < boundary) {d : ContactAggregateDecision F64} (hd : d.output = none) :
  InProgress (trace ++ [(o, d)])
    ({ policy with lastObservedStampNs := some o.stamp }.assignGroups
      (stepGrouping.groups o.contacts)) boundary
  := by
  constructor
  · exact h.next
  · rw [observations_concat]
    exact h.isBoundary.concat
  · obtain ⟨e, he, hstamp⟩ := h.opened
    exact ⟨e, List.mem_append_left _ he, hstamp⟩
  · intro e he
    rcases List.mem_append.mp he with he | he
    · exact h.before e he
    · rw [List.mem_singleton.mp he]
      exact hlt
  · rw [observations_concat]
    exact h.assignGroups hadvances hlt.le
  · change policy.streamStarted = true ↔ _
    rw [h.started]
    constructor
    · rintro ⟨e, he, hsome⟩
      exact ⟨e, List.mem_append_left _ he, hsome⟩
    · rintro ⟨e, he, hsome⟩
      rcases List.mem_append.mp he with he | he
      · exact ⟨e, he, hsome⟩
      · rw [List.mem_singleton.mp he, hd] at hsome
        cases hsome
  · intro before e after htrace hsome hafter
    rcases List.eq_nil_or_concat after with rfl | ⟨after, e', rfl⟩
    · obtain ⟨-, hlast⟩ := List.append_inj' htrace rfl
      rw [← List.head_eq_of_cons_eq hlast, hd] at hsome
      cases hsome
    · rw [List.concat_eq_append, ← List.cons_append, ← List.append_assoc] at htrace
      obtain ⟨rfl, -⟩ := List.append_inj' htrace rfl
      apply h.recent before e after rfl hsome
      intro e'' he''
      apply hafter
      rw [List.concat_eq_append]
      exact List.mem_append_left _ he''

omit [Binary64Tests F64] in
/-- A step at the boundary opens the next interval. -/
theorem InProgress.close (h : InProgress trace policy boundary) (heq : o.stamp = boundary)
    {policy' : ContactAggregatorPolicy F64}
    (hnext : policy'.nextBoundaryStampNs = some (boundary + kContactAggregatePeriodNs))
    (hgroups : policy'.intervalGroups = ∅)
    (hstarted : policy'.streamStarted = (policy.streamStarted || d.output.isSome))
    (houtput : policy.streamStarted = true → d.output.isSome = true) :
  InProgress (trace ++ [(o, d)]) policy' (boundary + kContactAggregatePeriodNs)
  := by
  have hperiod : (0 : Int) < kContactAggregatePeriodNs := by decide
  have hle : ∀ e ∈ trace ++ [(o, d)], e.1.stamp ≤ boundary := by
    intro e he
    rcases List.mem_append.mp he with he | he
    · exact (h.before e he).le
    · rw [List.mem_singleton.mp he, ← heq]
  constructor
  · exact hnext
  · rw [observations_concat]
    exact h.isBoundary.concat.next
  · refine ⟨(o, d), by simp, ?_⟩
    rw [add_sub_cancel_right, heq]
  · intro e he
    have := hle e he
    omega
  · rw [intervalSteps_eq_nil]
    · exact hgroups
    · intro s hs
      obtain ⟨e, he, rfl⟩ := mem_observations hs
      rw [add_sub_cancel_right]
      exact hle e he
  · rw [hstarted, Bool.or_eq_true, h.started]
    constructor
    · rintro (⟨e, he, hsome⟩ | hsome)
      · exact ⟨e, List.mem_append_left _ he, hsome⟩
      · exact ⟨(o, d), by simp, hsome⟩
    · rintro ⟨e, he, hsome⟩
      rcases List.mem_append.mp he with he | he
      · exact .inl ⟨e, he, hsome⟩
      · rw [List.mem_singleton.mp he] at hsome
        exact .inr hsome
  · intro before e after htrace hsome hafter
    rw [add_sub_cancel_right]
    rcases List.eq_nil_or_concat after with rfl | ⟨after, e', rfl⟩
    · obtain ⟨-, hlast⟩ := List.append_inj' htrace rfl
      rw [← List.head_eq_of_cons_eq hlast, heq]
    · rw [List.concat_eq_append] at htrace hafter
      rw [← List.cons_append, ← List.append_assoc] at htrace
      obtain ⟨htrace, hlast⟩ := List.append_inj' htrace rfl
      have hnone := hafter e' (by simp)
      rw [← List.head_eq_of_cons_eq hlast] at hnone
      have hstream : policy.streamStarted = true := by
        apply h.started.mpr
        exact ⟨e, by rw [htrace]; simp, hsome⟩
      have hsome' := houtput hstream
      rw [hnone] at hsome'
      cases hsome'

theorem InProgress.answers (h : Tracks trace policy) (hi : InProgress trace policy boundary)
    (hadvances : Advances trace o) :
  Answers trace o ({ policy with lastObservedStampNs := some o.stamp }.extendInterval
    o.stamp boundary
    (stepGrouping.groups o.contacts))
  := by
  unfold extendInterval
  split
  · rename_i hskip
    exact .fail (.skipped boundary hi.isBoundary hi.before hskip) _
  · rename_i hskip
    have hle := not_lt.mp hskip
    have hopened := hi.opened_lt hadvances
    have hgroups : ({ policy with lastObservedStampNs := some o.stamp }.assignGroups
        (stepGrouping.groups o.contacts)).intervalGroups =
        unionGroups (intervalSteps (observations trace ++ [o]) boundary) :=
      hi.assignGroups hadvances hle
    dsimp only
    split
    · rename_i error herror
      refine .fail (.overLimit boundary hi.isBoundary hopened hle ?_) _
      intro hwithin
      rw [hgroups, (h.validate_union hadvances).mpr hwithin] at herror
      cases herror
    · rename_i hok
      rw [hgroups] at hok
      have hwithin := (h.validate_union hadvances).mp hok
      split
      · rename_i hlt
        refine .inr ⟨?_, ?_, ?_⟩
        · exact hi.not_fatalCause hadvances hle hwithin (fun heq => absurd heq hlt.ne)
            (fun heq => absurd heq hlt.ne)
        · rintro ⟨hboundary, -⟩
          have := hi.isBoundary.le_of_lt (isBoundary_concat_iff.mp hboundary) hopened
          omega
        · refine h.concat hadvances rfl (by exact rfl) (by exact rfl) (.inr ⟨boundary, ?_⟩)
          exact hi.extend hadvances hlt rfl
      · rename_i hlt
        have heq : o.stamp = boundary := le_antisymm hle (not_lt.mp hlt)
        unfold closeInterval
        split
        · rename_i hover
          refine .fail (.overflow (.inr ?_) ?_) _
          · rw [heq]
            exact hi.isBoundary
          · rw [heq]
            exact hover
        · rename_i hover
          rw [hgroups]
          split
          · rename_i hempty
            rw [unionGroups_isEmpty_iff] at hempty
            split
            · rename_i hstarted
              refine .fail (.emptied ?_ (hi.started.mp hstarted) ?_) _
              · rw [heq]
                exact hi.isBoundary
              · rw [heq]
                exact hempty
            · rename_i hstarted
              have hstarted' : policy.streamStarted = false := Bool.eq_false_iff.mpr hstarted
              refine .inr ⟨?_, ?_, ?_⟩
              · exact hi.not_fatalCause hadvances hle hwithin (fun _ => not_lt.mp hover)
                  (fun _ => .inr hstarted')
              · rintro ⟨-, hcontact⟩
                rw [heq] at hcontact
                exact hempty hcontact
              · refine h.concat hadvances rfl (by exact rfl) (by exact rfl)
                  (.inr ⟨boundary + kContactAggregatePeriodNs, ?_⟩)
                apply hi.close heq rfl rfl
                · exact (Bool.or_false _).symm
                · intro htrue
                  exact absurd htrue hstarted
          · rename_i hempty
            rw [unionGroups_isEmpty_iff, not_not] at hempty
            refine .inr ⟨?_, ?_, ?_⟩
            · exact hi.not_fatalCause hadvances hle hwithin (fun _ => not_lt.mp hover)
                (fun _ => .inl hempty)
            · refine ⟨⟨?_, ?_⟩, ?_⟩
              · rw [heq]
                exact hi.isBoundary.concat
              · rw [heq]
                exact hempty
              · rw [heq]
            · refine h.concat hadvances rfl (by exact rfl) (by exact rfl)
                  (.inr ⟨boundary + kContactAggregatePeriodNs, ?_⟩)
              apply hi.close heq rfl rfl
              · exact (Bool.or_true _).symm
              · intro htrue
                rfl

/-- What an observation does after a trace without an error. -/
theorem Tracks.answers (h : Tracks trace policy) (o : Observation F64) :
  Answers trace o (policy.observe o)
  := by
  rcases h.observe_eq o with ⟨hcause, error, heq⟩ | ⟨hnonnegative, hlater, hadmissible, heq⟩
  · rw [heq]
    exact .fail hcause error
  · have hadvances : Advances trace o := ⟨hnonnegative, hlater, hadmissible⟩
    rcases h.interval with hu | ⟨boundary, hi⟩
    · simp only [hu.next] at heq
      rw [heq, ← hu.next]
      exact hu.answers h hadvances
    · simp only [hi.next] at heq
      rw [heq, ← hi.next]
      exact hi.answers h hadvances

end Step

/-! ### Whole runs -/

/-- An aggregator that keeps an error answers with it. -/
theorem Run.stuck {policy policy' : ContactAggregatorPolicy F64} {trace : AggregatorTrace F64}
    {error : AggregateError} (h : Run ContactAggregatorPolicy.step policy trace policy')
    (herror : policy.fatalDetail = some error) :
  ∀ e ∈ trace, e.2 = { fatal := true, detail := some error }
  := by
  have hobserve : ∀ (policy : ContactAggregatorPolicy F64), policy.fatalDetail = some error →
      ∀ o, policy.observe o = ({ fatal := true, detail := some error }, policy) := by
    intro policy herror o
    unfold ContactAggregatorPolicy.observe observeSources
    rw [herror]
  induction h with
  | nil policy => exact fun e he => absurd he List.not_mem_nil
  | @cons policy policy₁ policy₂ o d trace hstep hrest ih =>
      have heq := Except.ok.inj hstep
      rw [hobserve policy herror o, Prod.mk.injEq] at heq
      obtain ⟨rfl, rfl⟩ := heq
      intro e he
      rcases List.mem_cons.mp he with rfl | he
      · rfl
      · exact ih herror e he

/-- After a run from the initial state, the aggregator tracks what it observed, or it keeps an error
that it has reported. -/
theorem Run.tracks_or_stuck {policy : ContactAggregatorPolicy F64} {trace : AggregatorTrace F64}
    (h : Run ContactAggregatorPolicy.step {} trace policy) :
  Tracks trace policy ∨
    ∃ error, policy.fatalDetail = some error ∧ ∃ e ∈ trace, e.2.fatal = true
  := by
  have hhistory := h.history (fun _ => True)
    (fun trace policy => Tracks trace policy ∨
      ∃ error, policy.fatalDetail = some error ∧ ∃ e ∈ trace, e.2.fatal = true)
    ?_ [] (.inl Tracks.initial) (fun _ _ => trivial)
  · exact hhistory
  · intro before policy o d policy' hbefore _ hstep
    have heq := Except.ok.inj hstep
    rcases hbefore with htracks | ⟨error, herror, e, he, hfatal⟩
    · rcases htracks.answers o with ⟨-, error, hd, hpolicy⟩ | ⟨-, -, htracks'⟩
      · rw [heq] at hd hpolicy
        change d = _ at hd
        refine .inr ⟨error, hpolicy, (o, d), by simp, ?_⟩
        rw [hd]
      · rw [heq] at htracks'
        exact .inl htracks'
    · have hstuck := Run.stuck (Run.single hstep) herror (o, d) (by simp)
      have hpolicy : policy'.fatalDetail = some error := by
        unfold ContactAggregatorPolicy.observe observeSources at heq
        rw [herror] at heq
        obtain ⟨-, rfl⟩ := Prod.mk.inj heq
        exact herror
      exact .inr ⟨error, hpolicy, e, List.mem_append_left _ he, hfatal⟩

/-- What an observation of a run does: it is fatal after an error or for a cause, and so are all
later ones, or it is answered with the output of the interval. -/
theorem Run.answers {policy : ContactAggregatorPolicy F64}
    {before after : AggregatorTrace F64} {o : Observation F64} {d : ContactAggregateDecision F64}
    (h : Run ContactAggregatorPolicy.step {} (before ++ (o, d) :: after) policy) :
  (((∃ e ∈ before, e.2.fatal = true) ∨ FatalCause before o) ∧
    ∃ error, d = { fatal := true, detail := some error } ∧
      ∀ e ∈ after, e.2 = { fatal := true, detail := some error }) ∨
  (∃ policy₀, Tracks before policy₀) ∧ ¬ FatalCause before o ∧ d.fatal = false ∧
    IntervalOutput (observations before ++ [o]) o.stamp d.output
  := by
  obtain ⟨policy₀, hbefore, hrest⟩ := Run.append_iff.mp h
  obtain ⟨policy₁, hstep, hafter⟩ := Run.cons_iff.mp hrest
  rcases Run.tracks_or_stuck hbefore with htracks | ⟨error, herror, hfatal⟩
  · have hanswers := htracks.answers o
    rw [Except.ok.inj hstep] at hanswers
    rcases hanswers with ⟨hcause, error, hd, hpolicy⟩ | ⟨hcause, houtput, htracks'⟩
    · exact .inl ⟨.inr hcause, error, hd, Run.stuck hafter hpolicy⟩
    · exact .inr ⟨⟨policy₀, htracks⟩, hcause, htracks'.quiet (o, d) (by simp), houtput⟩
  · have hstuck := Run.stuck hrest herror
    exact .inl ⟨.inl hfatal, error, hstuck (o, d) List.mem_cons_self,
      fun e he => hstuck e (List.mem_cons_of_mem _ he)⟩

/-- An output is 20 ms after the output before it. -/
theorem Run.output_spaced {policy : ContactAggregatorPolicy F64}
    {before between after : AggregatorTrace F64}
    {e e' : Observation F64 × ContactAggregateDecision F64}
    (h : Run ContactAggregatorPolicy.step {} (before ++ e :: between ++ e' :: after) policy)
    (hsome : e.2.output.isSome = true) (hsome' : e'.2.output.isSome = true)
    (hbetween : ∀ x ∈ between, x.2.output = none) :
  e'.1.stamp = e.1.stamp + kContactAggregatePeriodNs
  := by
  obtain ⟨o, d⟩ := e'
  rcases Run.answers h with ⟨-, error, rfl, -⟩ | ⟨⟨policy₀, htracks⟩, hcause, -, houtput⟩
  · cases hsome'
  · obtain ⟨output, hout⟩ := Option.isSome_iff_exists.mp hsome'
    change d.output = some output at hout
    rw [hout] at houtput
    have hboundary := isBoundary_concat_iff.mp houtput.1.1
    rcases htracks.interval with hu | ⟨boundary, hi⟩
    · exact absurd hboundary hu.not_isBoundary
    · have hrecent := hi.recent before e between rfl hsome hbetween
      have hle : o.stamp ≤ boundary := by
        by_contra hlt
        exact hcause (.skipped boundary hi.isBoundary hi.before (not_le.mp hlt))
      have hlt : e.1.stamp < o.stamp := by
        by_contra hge
        exact hcause (.notAdvancing e (by simp) (not_lt.mp hge))
      rw [hrecent] at hlt
      have hge := hi.isBoundary.le_of_lt hboundary hlt
      rw [hrecent]
      change o.stamp = _
      omega

omit [Binary64Tests F64] in
/-- The union of an interval lists its pairs in order, each with its latest records. -/
theorem aggregateAt_unionGroups (seen : List (Observation F64)) (boundary : Int) :
  ∃ pairs : List ContactPair, pairs.Pairwise ContactPair.Precedes ∧
    (∀ p, p ∈ pairs ↔ ∃ s ∈ seen, (boundary - kContactAggregatePeriodNs < s.stamp ∧
      s.stamp ≤ boundary) ∧ ∃ contact ∈ s.contacts, contact.pair = p) ∧
    aggregateAt boundary (unionGroups (intervalSteps seen boundary)) =
      { header := stampHeader boundary
        contact := pairs.flatMap fun p => (latestRecords (intervalSteps seen boundary) p).map
          fun contact => { rosProjectedContact contact with header := stampHeader boundary } }
  := by
  refine ⟨(unionGroups (intervalSteps seen boundary)).toList.map Prod.fst, pairwise_precedes _, ?_,
    ?_⟩
  · intro p
    rw [SortedMap.mem_keys, ← mem_pairsSeen_iff_isSome, mem_pairsSeen, latestRecords_ne_nil_iff]
    constructor
    · rintro ⟨step, hstep, hpair⟩
      obtain ⟨s, hs, hinterval, rfl⟩ := mem_intervalSteps.mp hstep
      exact ⟨s, hs, hinterval, hpair⟩
    · rintro ⟨s, hs, hinterval, hpair⟩
      exact ⟨s.contacts, mem_intervalSteps.mpr ⟨s, hs, hinterval, rfl⟩, hpair⟩
  · unfold aggregateAt
    rw [SortedMap.flatMap_toList]
    intro p group hgroup
    rw [getElem?_unionGroups] at hgroup
    split at hgroup
    · cases hgroup
    · rw [← Option.some.inj hgroup]
      simp [Grouping.group, stepGrouping]

/-- After construction or a reset, and as long as no call is fatal, a call has an output exactly
when its stamp is a boundary whose interval has a contact. The output is the union of the interval,
and outputs are 20 ms apart. A call is fatal exactly when an earlier one was, or for one of the
causes, and all later calls repeat it. -/
theorem aggregator_intervals (policy : ContactAggregatorPolicy F64)
    {policy' : ContactAggregatorPolicy F64} {trace : AggregatorTrace F64}
    (h : Run ContactAggregatorPolicy.step policy.reset trace policy') :
  (∀ before o d after, trace = before ++ (o, d) :: after →
    (∀ e ∈ before ++ [(o, d)], e.2.fatal = false) →
    (d.output.isSome = true ↔ IsBoundary (observations before ++ [o]) o.stamp ∧
      HasContact (observations before ++ [o]) o.stamp) ∧
    ∀ output, d.output = some output →
      ∃ pairs : List ContactPair, pairs.Pairwise ContactPair.Precedes ∧
        (∀ p, p ∈ pairs ↔ ∃ s ∈ observations before ++ [o],
          (o.stamp - kContactAggregatePeriodNs < s.stamp ∧ s.stamp ≤ o.stamp) ∧
          ∃ contact ∈ s.contacts, contact.pair = p) ∧
        output =
          { header := stampHeader o.stamp
            contact := pairs.flatMap fun p =>
              (latestRecords (intervalSteps (observations before ++ [o]) o.stamp) p).map
                fun contact =>
                  { rosProjectedContact contact with header := stampHeader o.stamp } }) ∧
  (∀ before e between e' after, trace = before ++ e :: between ++ e' :: after →
    e.2.output.isSome = true → e'.2.output.isSome = true → (∀ x ∈ between, x.2.output = none) →
    e'.1.stamp = e.1.stamp + kContactAggregatePeriodNs) ∧
  (∀ before o d after, trace = before ++ (o, d) :: after →
    (d.fatal = true ↔ (∃ e ∈ before, e.2.fatal = true) ∨ FatalCause before o)) ∧
  (∀ before o d after, trace = before ++ (o, d) :: after → d.fatal = true →
    d.output = none ∧
    ∀ e ∈ after, e.2.fatal = true ∧ e.2.detail = d.detail ∧ e.2.output = none)
  := by
  refine ⟨?_, ?_, ?_, ?_⟩
  · rintro before o d after rfl hquiet
    have hd : d.fatal = false := hquiet (o, d) (by simp)
    rcases Run.answers h with ⟨-, error, rfl, -⟩ | ⟨-, -, -, houtput⟩
    · cases hd
    · cases hout : d.output with
      | none =>
          rw [hout] at houtput
          refine ⟨⟨?_, fun hpair => absurd hpair houtput⟩, ?_⟩
          · intro hfalse
            cases hfalse
          · intro output hsome
            cases hsome
      | some output =>
          rw [hout] at houtput
          refine ⟨⟨fun _ => houtput.1, fun _ => rfl⟩, ?_⟩
          rintro output' ⟨⟩
          rw [houtput.2]
          exact aggregateAt_unionGroups _ _
  · rintro before e between e' after rfl hsome hsome' hbetween
    exact Run.output_spaced h hsome hsome' hbetween
  · rintro before o d after rfl
    rcases Run.answers h with ⟨hcause, error, rfl, -⟩ | ⟨⟨policy₀, htracks⟩, hcause, hd, -⟩
    · exact ⟨fun _ => hcause, fun _ => rfl⟩
    · rw [hd]
      constructor
      · intro hfalse
        cases hfalse
      · rintro (⟨e, he, hfatal⟩ | hcause')
        · rw [htracks.quiet e he] at hfatal
          cases hfatal
        · exact absurd hcause' hcause
  · rintro before o d after rfl hfatal
    rcases Run.answers h with ⟨-, error, rfl, hafter⟩ | ⟨-, -, hd, -⟩
    · refine ⟨rfl, ?_⟩
      intro e he
      rw [hafter e he]
      exact ⟨rfl, rfl, rfl⟩
    · rw [hd] at hfatal
      cases hfatal

/-! ### A run -/

/-- Rational numbers are finite. -/
instance : Binary64Tests ℚ where
  isFinite _ := true
  isNegative q := q < 0

/-- A contact of two collisions, with one position and no details. -/
def sampleContact (first second : String) : Contact ℚ where
  collision1 := { name := first }
  collision2 := { name := second }
  position := [{ x := 1, y := 0, z := 0 }]

/-- Two intervals with a contact each, and a step that skips a boundary. -/
def sampleObservations : List (Observation ℚ) :=
  [.single 20000000 {}, .single 30000000 { contact := [sampleContact "wall" "base"] },
    .single 40000000 {}, .single 50000000 { contact := [sampleContact "base" "wall"] },
    .single 60000000 {}, .single 100000000 {}]

/-- Two intervals are published, and the step that skips a boundary is fatal. -/
theorem aggregator_intervals_sample :
  ∃ (trace : AggregatorTrace ℚ) (policy : ContactAggregatorPolicy ℚ),
    Run ContactAggregatorPolicy.step (ContactAggregatorPolicy.reset {}) trace policy ∧
    (trace.map fun e => (e.1.stamp, e.2.output.isSome, e.2.fatal)) =
      [(20000000, false, false), (30000000, false, false), (40000000, true, false),
        (50000000, false, false), (60000000, true, false), (100000000, false, true)] ∧
    (∀ before e between e' after, trace = before ++ e :: between ++ e' :: after →
      e.2.output.isSome = true → e'.2.output.isSome = true → (∀ x ∈ between, x.2.output = none) →
      e'.1.stamp = e.1.stamp + kContactAggregatePeriodNs) ∧
    (∀ before o d after, trace = before ++ (o, d) :: after →
      (d.fatal = true ↔ (∃ e ∈ before, e.2.fatal = true) ∨ FatalCause before o))
  := by
  cases hexec : Run.exec ContactAggregatorPolicy.step (ContactAggregatorPolicy.reset {})
      sampleObservations with
  | error e => cases e
  | ok r =>
      obtain ⟨trace, policy⟩ := r
      have hrun := (Run.of_exec hexec).1
      have hsummary : (Run.exec ContactAggregatorPolicy.step (ContactAggregatorPolicy.reset {})
          sampleObservations).toOption.map
            (fun r => r.1.map fun e => (e.1.stamp, e.2.output.isSome, e.2.fatal)) =
          some [(20000000, false, false), (30000000, false, false), (40000000, true, false),
            (50000000, false, false), (60000000, true, false), (100000000, false, true)] := by
        decide +kernel
      rw [hexec] at hsummary
      obtain ⟨-, hspaced, hfatal, -⟩ := aggregator_intervals {} hrun
      exact ⟨trace, policy, hrun, Option.some.inj hsummary, hspaced, hfatal⟩

end Collisions

end RobotestLab
