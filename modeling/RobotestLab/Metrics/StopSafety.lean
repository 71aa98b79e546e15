import RobotestLab.Metrics.CommandSafety
import Mathlib.Data.List.Sort

/-!
# STOP commands

The gate on the commands while the collision monitor says STOP, in the scenario with a crossing
actor. The intervals with STOP go from one event of the monitor to the next one, so at every instant
before the end at which the last event says STOP, the command is zero.
-/

namespace RobotestLab

namespace Metrics

open PyFloat PyArithmetic

def EXPOSED_HALF_WIDTH_M : ℚ := 425 / 1000

/-! ### The exposed crossing -/

/-- The stamp of the observed pose of a target, when the target is exposed. -/
def exposedStamp (F64 : Type) [PyArithmetic F64] (index : Nat) (target : PyValue) :
    Except MetricError (Option Int) :=
  let name := "Scenario 3 target[" ++ toString index ++ "]"
  match target.asMapping with
  | none => unavailable (name ++ " is invalid")
  | some target =>
      match (PyValue.item "target_pose" target).asMapping,
        (PyValue.item "observed_pose" target).asMapping with
      | some targetPose, some observation => do
          let x : F64 ← requireFinite (itemOr "x_m" targetPose (PyValue.item "x" targetPose))
            (name ++ ".x")
          let stamp ← requireInt (stampItem observation) (name ++ ".stamp_ns")
          if lt (literal (-EXPOSED_HALF_WIDTH_M)) x && lt x (literal EXPOSED_HALF_WIDTH_M) then
            .ok (some stamp)
          else .ok none
      | _, _ => unavailable (name ++ " lacks observed-pose proof")

/-- The stamps and the indices of the exposed targets, the first of which has the given index. -/
def exposedTargets (F64 : Type) [PyArithmetic F64] (index : Nat) :
    List PyValue → Except MetricError (List (Int × Nat))
  | [] => .ok []
  | target :: targets => do
      let stamp ← exposedStamp F64 index target
      let exposed ← exposedTargets F64 (index + 1) targets
      .ok ((stamp.map (·, index)).toList ++ exposed)

/-- The targets of the trajectory. -/
def trajectoryTargets (interaction : Evidence) : Except MetricError (List PyValue) :=
  match (PyValue.item "trajectory" interaction).asMapping with
  | none => unavailable "Scenario 3 bounded trajectory evidence is missing"
  | some trajectory =>
      match PyValue.item "targets" trajectory with
      | .list targets => .ok targets
      | _ => unavailable "Scenario 3 bounded trajectory evidence is missing"

/-- The first and the last stamp of the exposed targets. -/
def exposedCrossing (F64 : Type) [PyArithmetic F64] (interaction : Evidence) :
    Except MetricError (Int × Int) := do
  let targets ← trajectoryTargets interaction
  let exposed ← exposedTargets F64 0 targets
  if exposed.length < 2 then
    unavailable "Scenario 3 observed exposed-crossing interval is missing"
  else
    let exposed := exposed.insertionSort fun a b => a.1 < b.1 ∨ (a.1 = b.1 ∧ a.2 ≤ b.2)
    match exposed.head?, exposed.getLast? with
    | some first, some last =>
        if last.1 ≤ first.1 then
          unavailable "Scenario 3 exposed-crossing interval has no duration"
        else .ok (first.1, last.1)
    | _, _ => unavailable "Scenario 3 observed exposed-crossing interval is missing"

/-! ### The intervals -/

def isCollisionMonitor (event : Evidence) : Bool :=
  (PyValue.item "kind" event).equalsText "collision_monitor"

def isStop (event : Evidence) : Bool := (PyValue.item "value" event).equalsInt STOP_ACTION

/-- The stamp of the next event, or the end. -/
def nextStamp (terminalStampNs : Int) : List Evidence → Except MetricError Int
  | [] => .ok terminalStampNs
  | next :: _ => requireInt (stampItem next) "collision_monitor.next_stamp_ns"

/-- The intervals from the events with STOP to the events after them. -/
def intervalsOf (terminalStampNs : Int) : List Evidence → Except MetricError (List (Int × Int))
  | [] => .ok []
  | event :: events =>
      if !isStop event then intervalsOf terminalStampNs events
      else do
        let start ← requireInt (stampItem event) "collision_monitor.stamp_ns"
        let stop ← nextStamp terminalStampNs events
        let intervals ← intervalsOf terminalStampNs events
        .ok (if start < stop then (start, stop) :: intervals else intervals)

def stopIntervals (stateEvents : List Evidence) (terminalStampNs : Int) :
    Except MetricError (List (Int × Int)) := do
  let events ← ordered stateEvents "state_events"
  intervalsOf terminalStampNs (events.filter isCollisionMonitor)

def anyNonzero (F64 : Type) [PyArithmetic F64] : List Evidence → Except MetricError Bool
  | [] => .ok false
  | command :: commands => do
      if !(← isZero F64 command) then .ok true else anyNonzero F64 commands

structure StopInterval where
  endStampNs : Int
  exposedZeroOverlapNs : Int
  startStampNs : Int

/-- The commands are zero in the interval, which is evidence. -/
def checkInterval (F64 : Type) [PyArithmetic F64] (commands : List Evidence)
    (exposedStart exposedEnd : Int) (interval : Int × Int) : Except MetricError StopInterval := do
  let held ← heldCommand commands interval.1
  if !(← isHeldZero F64 held) then
    unavailable "nonzero or missing final command at STOP interval start"
  else
    let inInterval ← filterStamp "command.stamp_ns"
      (fun stamp => interval.1 ≤ stamp && stamp < interval.2) commands
    if ← anyNonzero F64 inInterval then
      unavailable "nonzero final command was published during STOP"
    else .ok {
      endStampNs := interval.2
      exposedZeroOverlapNs := max 0 (min interval.2 exposedEnd - max interval.1 exposedStart)
      startStampNs := interval.1 }

structure Scenario3StopCommand where
  exposedEndStampNs : Int
  exposedStartStampNs : Int
  maximumContinuousStopZeroNs : Int
  minimumRequiredNs : Int
  noNonzeroCommandDuringStop : Bool
  stopIntervals : List StopInterval

def scenario3StopCommandMetrics (F64 : Type) [PyArithmetic F64]
    (stateEvents commands : List Evidence) (interaction : Evidence) (terminalStampNs : PyValue) :
    Except MetricError Scenario3StopCommand := do
  let terminal ← requireInt terminalStampNs "terminal_stamp_ns"
  let (exposedStart, exposedEnd) ← exposedCrossing F64 interaction
  let orderedCommands ← ordered commands "cmd_vel"
  let intervals ← stopIntervals stateEvents terminal
  if intervals.isEmpty then
    unavailable "collision monitor never reported STOP"
  else
    let evidence ← intervals.mapM (checkInterval F64 orderedCommands exposedStart exposedEnd)
    let maximumOverlap := (evidence.map (·.exposedZeroOverlapNs)).foldl max 0
    if maximumOverlap < MINIMUM_STOP_ZERO_NS then
      unavailable "STOP/final-zero exposed overlap is below 0.20 s"
    else .ok {
      exposedEndStampNs := exposedEnd
      exposedStartStampNs := exposedStart
      maximumContinuousStopZeroNs := maximumOverlap
      minimumRequiredNs := MINIMUM_STOP_ZERO_NS
      noNonzeroCommandDuringStop := true
      stopIntervals := evidence }

/-! ### What the intervals cover -/

variable {F64 : Type} [PyArithmetic F64] {events commands : List Evidence}
  {terminal start stop : Int}

/-- The stamp of the event after an event, or the end. -/
def stampAfter (terminal : Int) (later : List Evidence) : Int :=
  (later.head?.map stampOf).getD terminal

theorem nextStamp_eq (h : Stamped events) :
  nextStamp terminal events = .ok (stampAfter terminal events)
  := by
  cases events with
  | nil => rfl
  | cons event events =>
      obtain ⟨n, hn⟩ := h event List.mem_cons_self
      apply requireInt_stampOf hn

/-- The intervals are those from an event with STOP to the next event, as far as they have a
length. -/
theorem mem_intervalsOf (hstamped : Stamped events) {intervals : List (Int × Int)}
    (h : intervalsOf terminal events = .ok intervals) :
  (start, stop) ∈ intervals ↔ start < stop ∧ ∃ l event l', events = l ++ event :: l' ∧
    isStop event = true ∧ start = stampOf event ∧ stop = stampAfter terminal l'
  := by
  induction events generalizing intervals with
  | nil =>
      obtain rfl := Except.ok.inj h
      simp
  | cons event events ih =>
      have hstamped' := hstamped.tail
      obtain ⟨n, hn⟩ := hstamped event List.mem_cons_self
      -- An event with STOP is the first one or one of the later ones.
      have hsplit : (∃ l e l', event :: events = l ++ e :: l' ∧ isStop e = true ∧
          start = stampOf e ∧ stop = stampAfter terminal l') ↔
          (isStop event = true ∧ start = stampOf event ∧ stop = stampAfter terminal events) ∨
            ∃ l e l', events = l ++ e :: l' ∧ isStop e = true ∧
              start = stampOf e ∧ stop = stampAfter terminal l' := by
        constructor
        · rintro ⟨l, e, l', hl, he⟩
          cases l with
          | nil =>
              obtain ⟨rfl, rfl⟩ := List.cons.inj hl
              exact Or.inl he
          | cons a l =>
              obtain ⟨rfl, rfl⟩ := List.cons.inj hl
              exact Or.inr ⟨l, e, l', rfl, he⟩
        · rintro (he | ⟨l, e, l', rfl, he⟩)
          · exact ⟨[], event, events, rfl, he⟩
          · exact ⟨event :: l, e, l', rfl, he⟩
      rw [hsplit]
      unfold intervalsOf at h
      split at h
      · rename_i hstop
        rw [ih hstamped' h]
        simp only [Bool.not_eq_true'] at hstop
        simp [hstop]
      · rename_i hstop
        rw [requireInt_stampOf hn, Except.ok_bind, nextStamp_eq hstamped', Except.ok_bind] at h
        obtain ⟨intervals', hintervals', h⟩ := Except.bind_eq_ok_iff.mp h
        obtain rfl := Except.ok.inj h
        have ih := ih hstamped' hintervals'
        simp only [Bool.not_eq_true', Bool.not_eq_false] at hstop
        split
        · rename_i hlt
          rw [List.mem_cons, ih, Prod.mk.injEq]
          constructor
          · rintro (⟨rfl, rfl⟩ | ⟨hlt', he⟩)
            · exact ⟨hlt, Or.inl ⟨hstop, rfl, rfl⟩⟩
            · exact ⟨hlt', Or.inr he⟩
          · rintro ⟨hlt', ⟨-, rfl, rfl⟩ | he⟩
            · exact Or.inl ⟨rfl, rfl⟩
            · exact Or.inr ⟨hlt', he⟩
        · rename_i hge
          rw [ih]
          constructor
          · rintro ⟨hlt', he⟩
            exact ⟨hlt', Or.inr he⟩
          · rintro ⟨hlt', ⟨-, rfl, rfl⟩ | he⟩
            · exact absurd hlt' hge
            · exact ⟨hlt', he⟩

theorem anyNonzero_eq_false (h : anyNonzero F64 commands = .ok false) :
  ∀ command ∈ commands, isZero F64 command = .ok true
  := by
  induction commands with
  | nil => exact nofun
  | cons command commands ih =>
      unfold anyNonzero at h
      obtain ⟨zero, hzero, h⟩ := Except.bind_eq_ok_iff.mp h
      cases zero with
      | false => cases h
      | true =>
          intro c hc
          rcases List.mem_cons.mp hc with rfl | hc
          · apply hzero
          · apply ih h c hc

/-- In a checked interval, the command that is held is zero. -/
theorem checkInterval_eq_ok (hstamped : Stamped commands) (hordered : InStampOrder stampOf commands)
    {exposedStart exposedEnd : Int} {evidence : StopInterval}
    (h : checkInterval F64 commands exposedStart exposedEnd (start, stop) = .ok evidence) :
  (∀ n, start ≤ n → n < stop → HeldZero F64 commands n) ∧
    evidence.exposedZeroOverlapNs = max 0 (min stop exposedEnd - max start exposedStart)
  := by
  unfold checkInterval at h
  rw [heldCommand_eq hstamped hordered, Except.ok_bind] at h
  obtain ⟨zero, hzero, h⟩ := Except.bind_eq_ok_iff.mp h
  cases zero with
  | false => cases h
  | true =>
      simp only [Bool.not_true, Bool.false_eq_true, if_false] at h
      rw [filterStamp_eq hstamped, Except.ok_bind] at h
      obtain ⟨nonzero, hnonzero, h⟩ := Except.bind_eq_ok_iff.mp h
      cases nonzero with
      | true => cases h
      | false =>
          obtain rfl := Except.ok.inj h
          refine ⟨?_, rfl⟩
          intro n hle hlt
          apply Held.forall_between (isHeldZero_held.mp hzero) _ hle (le_refl n)
          intro c hc hstart hn
          apply anyNonzero_eq_false hnonzero c
          simp only [List.mem_filter, Bool.and_eq_true, decide_eq_true_eq]
          exact ⟨hc, hstart, lt_of_le_of_lt hn hlt⟩

theorem foldl_max_eq_or (ns : List Int) (n : Int) :
  ns.foldl max n = n ∨ ns.foldl max n ∈ ns
  := by
  induction ns generalizing n with
  | nil => exact Or.inl rfl
  | cons m ns ih =>
      rw [List.foldl_cons]
      rcases ih (max n m) with heq | hmem
      · rw [heq]
        rcases max_choice n m with hmax | hmax
        · exact Or.inl hmax
        · rw [hmax]
          exact Or.inr List.mem_cons_self
      · exact Or.inr (List.mem_cons_of_mem m hmem)

/-- An interval with STOP that overlaps the exposed crossing for so long. -/
def OverlapsFor (events : List Evidence) (terminal exposedStart exposedEnd overlap : Int) : Prop :=
  ∃ l event l', events = l ++ event :: l' ∧ isStop event = true ∧
    overlap = min (stampAfter terminal l') exposedEnd - max (stampOf event) exposedStart

/-- What the metric establishes: as long as the last event says STOP, the command is zero, and one
of the intervals overlaps the exposed crossing for long enough. -/
theorem stop_commands_zero {stateEvents commands : List Evidence} {interaction : Evidence}
    {terminalStampNs : PyValue} {metrics : Scenario3StopCommand}
    (h : scenario3StopCommandMetrics F64 stateEvents commands interaction terminalStampNs =
      .ok metrics) :
  ∃ terminal, terminalStampNs = .int terminal ∧
    (∀ (t : ℝ) (event : Evidence), t < terminal →
      held (fun e => (stampOf e : ℝ)) (stateEvents.filter isCollisionMonitor) t = some event →
        isStop event = true → ZeroAt F64 commands t) ∧
    OverlapsFor (stateEvents.filter isCollisionMonitor) terminal metrics.exposedStartStampNs
      metrics.exposedEndStampNs metrics.maximumContinuousStopZeroNs ∧
    200000000 ≤ metrics.maximumContinuousStopZeroNs
  := by
  unfold scenario3StopCommandMetrics at h
  obtain ⟨terminal, hterminal, h⟩ := Except.bind_eq_ok_iff.mp h
  obtain ⟨⟨exposedStart, exposedEnd⟩, -, h⟩ := Except.bind_eq_ok_iff.mp h
  obtain ⟨orderedCommands, hcommands, h⟩ := Except.bind_eq_ok_iff.mp h
  obtain ⟨heq, hstamped, hordered⟩ := ordered_eq_ok hcommands
  rw [heq] at h
  obtain ⟨intervals, hintervals, h⟩ := Except.bind_eq_ok_iff.mp h
  unfold stopIntervals at hintervals
  obtain ⟨events, hevents, hintervals⟩ := Except.bind_eq_ok_iff.mp hintervals
  obtain ⟨hsame, heventsStamped, -⟩ := ordered_eq_ok hevents
  rw [hsame] at hintervals
  have hmonitor : Stamped (stateEvents.filter isCollisionMonitor) := by
    intro e he
    apply heventsStamped e (List.mem_filter.mp he).1
  split at h
  · cases h
  obtain ⟨evidence, hevidence, h⟩ := Except.bind_eq_ok_iff.mp h
  have hchecked := Except.mapM_eq_ok_iff.mp hevidence
  simp only at h
  split at h
  · cases h
  rename_i hoverlap
  obtain rfl := Except.ok.inj h
  refine ⟨terminal, requireInt_eq_ok_iff.mp hterminal, ?_, ?_, not_lt.mp hoverlap⟩
  · intro t event hlt hheld hstop
    rw [zeroAt_iff]
    rw [Held.held_floor] at hheld
    obtain ⟨l, l', hsplit, hle, hl'⟩ := Held.held_eq_some_iff.mp hheld
    -- The instant is before the next event.
    have hnext : ⌊t⌋ < stampAfter terminal l' := by
      cases l' with
      | nil => exact Int.floor_lt.mpr hlt
      | cons next l' => exact hl' next List.mem_cons_self
    have hmem : (stampOf event, stampAfter terminal l') ∈ intervals := by
      rw [mem_intervalsOf hmonitor hintervals]
      exact ⟨lt_of_le_of_lt hle hnext, l, event, l', hsplit, hstop, rfl, rfl⟩
    obtain ⟨checked, -, hcheck⟩ := hchecked.flip.exists_mem hmem
    exact (checkInterval_eq_ok hstamped hordered hcheck).1 ⌊t⌋ hle hnext
  · -- The maximum is the overlap of one of the intervals.
    have hmin : (0 : Int) < MINIMUM_STOP_ZERO_NS := by decide
    have hpositive := lt_of_lt_of_le hmin (not_lt.mp hoverlap)
    rcases foldl_max_eq_or (evidence.map (·.exposedZeroOverlapNs)) 0 with hzero | hmem
    · rw [hzero] at hpositive
      exact absurd hpositive (lt_irrefl 0)
    · obtain ⟨checked, hchecked', heq⟩ := List.mem_map.mp hmem
      obtain ⟨⟨start, stop⟩, hinterval, hcheck⟩ := hchecked.exists_mem hchecked'
      have hvalue := (checkInterval_eq_ok hstamped hordered hcheck).2
      obtain ⟨-, l, event, l', hsplit, hstop, rfl, rfl⟩ :=
        (mem_intervalsOf hmonitor hintervals).mp hinterval
      refine ⟨l, event, l', hsplit, hstop, ?_⟩
      rw [← heq, hvalue] at hpositive ⊢
      exact max_eq_right (le_of_lt (lt_max_iff.mp hpositive |>.resolve_left (lt_irrefl 0)))

section Sample

def sampleEvent (stampNs sequence value : Int) : Evidence :=
  [(.str "stamp_ns", .int stampNs), (.str "collector_sequence", .int sequence),
    (.str "kind", .str "collision_monitor"), (.str "value", .int value)]

def sampleTarget (stampNs : Int) (x : ℚ) : PyValue :=
  .dict [(.str "target_pose", .dict [(.str "x_m", .float (some x))]),
    (.str "observed_pose", .dict [(.str "stamp_ns", .int stampNs)])]

/-- The actor crosses for a second. -/
def sampleInteraction : Evidence :=
  [(.str "trajectory", .dict [(.str "targets",
    .list [sampleTarget 1500000000 (-1 / 4), sampleTarget 2500000000 (1 / 4)])])]

/-- The robot is stopped for the last half of the second in which the actor crosses. -/
theorem stop_commands_zero_sample :
  ∃ metrics : Scenario3StopCommand, metrics.maximumContinuousStopZeroNs = 500000000 ∧
    OverlapsFor ([sampleEvent 2000000000 4 1, sampleEvent 4000000000 5 0].filter isCollisionMonitor)
      5000000000 metrics.exposedStartStampNs metrics.exposedEndStampNs
      metrics.maximumContinuousStopZeroNs
  := by
  have hrun : ((scenario3StopCommandMetrics ℚ [sampleEvent 2000000000 4 1,
      sampleEvent 4000000000 5 0] sampleCommands sampleInteraction (.int 5000000000)).toOption.map
        (·.maximumContinuousStopZeroNs)) = some 500000000 := by
    decide +kernel
  obtain ⟨metrics, hrun, hmaximum⟩ := exists_eq_ok hrun
  obtain ⟨terminal, hterminal, -, hoverlaps, -⟩ := stop_commands_zero hrun
  obtain rfl : (5000000000 : Int) = terminal := PyValue.int.inj hterminal
  exact ⟨metrics, hmaximum, hoverlaps⟩

end Sample

end Metrics

end RobotestLab
