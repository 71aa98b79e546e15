import RobotestLab.Metrics.SupervisorRecovery
import RobotestLab.Supervisor.Outage

/-!
# The event log as evidence

What the records of the supervisor's events are as evidence, and what `supervisor_recovery_metrics`
makes of the counters of consecutive events. It accepts them exactly when the steady times do not
decrease.
-/

namespace RobotestLab

namespace Metrics

open Supervisor (Event Mark Opens omitEmpty)

/-- The items that are decoded from a record. -/
def evidence (event : Event) : Evidence :=
  PyValue.ofMembers (fun _ => none) (event.fields.map fun (k, f) => (k, f.value))

/-! ### Items -/

section Items

variable {name k : String} {v : PyValue} {items items' : Evidence}

theorem item_evidence_schema (event : Event) :
  PyValue.item "schema_version" (evidence event) = .int event.schemaVersion.toInt
  := rfl

theorem item_evidence_sequence (event : Event) :
  PyValue.item "sequence" (evidence event) = .int event.sequence.toNat
  := by
  rfl

theorem item_evidence_steady (event : Event) :
  PyValue.item "steady_wall_ns" (evidence event) = .int event.steadyWallNs.toInt
  := by
  rfl

theorem item_of_notMem {float : String → Option ℚ} {members : List (String × Json)}
    (h : ∀ m ∈ members, m.1 ≠ name) :
  PyValue.item name (PyValue.ofMembers float members) = .none
  := by
  induction members with
  | nil => rfl
  | cons m members ih =>
      obtain ⟨k, v⟩ := m
      rw [PyValue.ofMembers, item_cons, if_neg (h (k, v) List.mem_cons_self)]
      apply ih
      intro m hm
      exact h m (List.mem_cons_of_mem _ hm)

/-- The readiness is an item of the events that have one. -/
theorem item_evidence_ready (event : Event) :
  PyValue.item "ready" (evidence event) =
    match event.ready with
    | some b => .bool b
    | none => .none
  := by
  cases hready : event.ready with
  | some b =>
      simp only [evidence, Event.fields, Event.optionalFields, omitEmpty, hready]
      rfl
  | none =>
      apply item_of_notMem
      intro m hm
      obtain ⟨field, hfield, rfl⟩ := List.mem_map.mp hm
      simp only [Event.fields, Event.optionalFields, hready, List.mem_cons, List.mem_append]
        at hfield
      rcases hfield with rfl | rfl | rfl | rfl | rfl | hfield
      iterate 5 simp
      rcases hfield with (((((((hfield | hfield) | hfield) | hfield) | hfield) | hfield) | hfield) |
        hfield) | hfield
      · cases hfield
      all_goals
        rw [Supervisor.mem_omitEmpty hfield]
        simp

theorem hasKind_evidence (kind : String) (event : Event) :
  hasKind kind (evidence event) = decide (event.kind = kind)
  := rfl

theorem changesReadiness_evidence (b : Bool) (event : Event) :
  changesReadiness b (evidence event) = decide (event.mark = .ready b)
  := by
  rw [changesReadiness, hasKind_evidence, item_evidence_ready, Bool.eq_iff_iff]
  simp only [Bool.and_eq_true, decide_eq_true_eq, Supervisor.mark_eq_ready_iff]
  cases event.ready with
  | none => simp [isBool]
  | some b' => simp [isBool]

end Items

/-! ### The counters of the events -/

/-- An event with its counters. -/
def orderedEvent (event : Event) : OrderedEvent where
  sequence := event.sequence.toNat
  steadyWallNs := event.steadyWallNs.toInt
  event := evidence event

/-- The event may follow the other one in a log: it is of the schema, its steady time is not
negative and its sequence is greater. -/
structure Follows (previous : Option Event) (event : Event) : Prop where
  schema : event.schemaVersion = 1
  steady : 0 ≤ event.steadyWallNs.toInt
  sequence : ∀ e ∈ previous, e.sequence.toNat < event.sequence.toNat

theorem orderEvent_evidence {previous : Option Event} {event : Event} (h : Follows previous event)
    (index : Nat) :
  orderEvent (previous.map orderedEvent) index (evidence event) =
    if ∃ e ∈ previous, event.steadyWallNs.toInt < e.steadyWallNs.toInt then .error regressed
    else .ok (orderedEvent event)
  := by
  have hschema : PyValue.equalsInt 1 (.int event.schemaVersion.toInt) = true := by
    rw [h.schema]
    decide
  have hcounters : ¬ ((event.sequence.toNat : Int) < 0 ∨ event.steadyWallNs.toInt < 0) := by
    have hsteady := h.steady
    omega
  have hsequence : ¬ ∃ item ∈ previous.map orderedEvent,
      (event.sequence.toNat : Int) ≤ item.sequence := by
    rintro ⟨item, hitem, hle⟩
    obtain ⟨e, he, rfl⟩ := Option.mem_map.mp hitem
    have hlt := h.sequence e he
    simp only [orderedEvent] at hle
    omega
  unfold orderEvent
  rw [item_evidence_schema, item_evidence_sequence, item_evidence_steady]
  simp only [hschema, requireInt, PyValue.toInteger, PyValue.asInteger, Except.ok_bind, hcounters,
    hsequence, if_false, Bool.true_eq_false]
  congr 1
  simp [orderedEvent]

/-- The steady times do not decrease. -/
def Steady (events : List Event) : Prop :=
  events.Pairwise fun e e' => e.steadyWallNs.toInt ≤ e'.steadyWallNs.toInt

instance (events : List Event) : Decidable (Steady events) :=
  inferInstanceAs (Decidable (events.Pairwise _))

/-- The events may stand in this order in a log. -/
structure Sequenced (events : List Event) : Prop where
  schema : ∀ event ∈ events, event.schemaVersion = 1
  steady : ∀ event ∈ events, 0 ≤ event.steadyWallNs.toInt
  sequence : events.Pairwise fun e e' => e.sequence.toNat < e'.sequence.toNat

variable {events : List Event}

theorem Sequenced.tail {event : Event} (h : Sequenced (event :: events)) :
  Sequenced events
  where
  schema e he := h.schema e (List.mem_cons_of_mem _ he)
  steady e he := h.steady e (List.mem_cons_of_mem _ he)
  sequence := h.sequence.of_cons

theorem steady_cons_cons {e e' : Event} :
  Steady (e :: e' :: events) ↔
    ¬ e'.steadyWallNs.toInt < e.steadyWallNs.toInt ∧ Steady (e' :: events)
  := by
  unfold Steady
  rw [List.pairwise_cons, not_lt]
  constructor
  · rintro ⟨hfirst, hrest⟩
    exact ⟨hfirst e' List.mem_cons_self, hrest⟩
  · rintro ⟨hfirst, hrest⟩
    refine ⟨?_, hrest⟩
    intro x hx
    rcases List.mem_cons.mp hx with rfl | hx
    · exact hfirst
    · exact le_trans hfirst ((List.pairwise_cons.mp hrest).1 x hx)

theorem Sequenced.follows {e e' : Event} (h : Sequenced (e :: e' :: events)) :
  Follows (some e) e'
  where
  schema := h.schema e' (List.mem_cons_of_mem _ List.mem_cons_self)
  steady := h.steady e' (List.mem_cons_of_mem _ List.mem_cons_self)
  sequence := by
    intro x hx
    obtain rfl := Option.mem_some_iff.mp hx
    exact (List.pairwise_cons.mp h.sequence).1 e' List.mem_cons_self

theorem orderEvents_evidence {previous : Event} (h : Sequenced (previous :: events)) (index : Nat) :
  orderEvents (some (orderedEvent previous)) index (events.map evidence) =
    if Steady (previous :: events) then .ok (events.map orderedEvent) else .error regressed
  := by
  induction events generalizing previous index with
  | nil => exact (if_pos (List.pairwise_singleton _ _)).symm
  | cons event events ih =>
      have horder := orderEvent_evidence h.follows index
      rw [Option.map_some] at horder
      simp only [Option.mem_some_iff, exists_eq_left'] at horder
      rw [List.map_cons, orderEvents, horder]
      simp only [steady_cons_cons]
      by_cases hlt : event.steadyWallNs.toInt < previous.steadyWallNs.toInt
      · rw [if_pos hlt, if_neg fun hboth => hboth.1 hlt]
        rfl
      · rw [if_neg hlt, Except.ok_bind, ih h.tail]
        by_cases hsteady : Steady (event :: events)
        · rw [if_pos hsteady, if_pos ⟨hlt, hsteady⟩]
          rfl
        · rw [if_neg hsteady, if_neg fun hboth => hsteady hboth.2]
          rfl

/-- The events are accepted exactly when their steady times do not decrease. -/
theorem orderEvents_eq (h : Sequenced events) (index : Nat) :
  orderEvents none index (events.map evidence) =
    if Steady events then .ok (events.map orderedEvent) else .error regressed
  := by
  cases events with
  | nil => exact (if_pos List.Pairwise.nil).symm
  | cons event events =>
      have hfollows : Follows none event :=
        ⟨h.schema event List.mem_cons_self, h.steady event List.mem_cons_self, nofun⟩
      have horder := orderEvent_evidence hfollows index
      rw [Option.map_none, if_neg (by simp)] at horder
      rw [List.map_cons, orderEvents, horder, Except.ok_bind, orderEvents_evidence h]
      split
      · rfl
      · rfl

/-! ### The events of the last run -/

theorem lastIndex_append {f : Evidence → Bool} {events rest : List Evidence} {event : Evidence}
    (hevent : f event = true) (hrest : ∀ e ∈ rest, f e = false) :
  lastIndex f (events ++ event :: rest) = some events.length
  := by
  have hlength : (events ++ event :: rest).length = events.length + 1 + rest.length := by
    simp only [List.length_append, List.length_cons]
    omega
  unfold lastIndex
  rw [hlength, List.range_add, List.range_succ, List.filter_append, List.filter_append]
  have hafter : ((List.range rest.length).map (events.length + 1 + ·)).filter
      (fun n => ((events ++ event :: rest)[n]?).any f) = [] := by
    rw [List.filter_eq_nil_iff]
    intro n hn
    obtain ⟨k, hk, rfl⟩ := List.mem_map.mp hn
    rw [List.mem_range] at hk
    rw [List.getElem?_append_right (by omega), show events.length + 1 + k - events.length =
      k + 1 by omega, List.getElem?_cons_succ, List.getElem?_eq_getElem hk]
    simp [hrest]
  rw [hafter, List.append_nil]
  simp [hevent]

/-- The log of a run, after the logs of earlier runs, is measured when its steady times do not
decrease. -/
theorem supervisorRecoveryMetrics_eq {F64 : Type} [PyFloat F64]
    (hopens : Opens events) (h : Sequenced events) (earlier : List Evidence) :
  (supervisorRecoveryMetrics (earlier ++ events.map evidence) :
      Except MetricError (SupervisorRecovery F64)) =
    if Steady events then measureRun (events.map orderedEvent) else .error regressed
  := by
  obtain ⟨first, rest, rfl, hfirst, hrest⟩ := hopens
  have hindex : lastIndex (hasKind "supervisor_started")
      (earlier ++ (first :: rest).map evidence) = some earlier.length := by
    apply lastIndex_append
    · rw [hasKind_evidence, decide_eq_true_eq, ← Supervisor.mark_eq_opened_iff]
      exact hfirst
    · intro e he
      obtain ⟨event, hevent, rfl⟩ := List.mem_map.mp he
      rw [hasKind_evidence, decide_eq_false_iff_not, ← Supervisor.mark_eq_opened_iff]
      exact hrest event hevent
  unfold supervisorRecoveryMetrics
  rw [hindex]
  simp only [List.drop_left]
  rw [orderEvents_eq h]
  split
  · rfl
  · rfl

/-! ### Errors of the measurement -/

theorem foldlM_count_ne_regressed (restarts : Restarts) (interval : List OrderedEvent) :
  interval.foldlM Restarts.count restarts ≠ .error regressed
  := by
  induction interval generalizing restarts with
  | nil => exact nofun
  | cons item interval ih =>
      rw [List.foldlM_cons]
      cases hcount : restarts.count item with
      | ok restarts' => exact ih restarts'
      | error e =>
          unfold Restarts.count at hcount
          split at hcount
          · split at hcount
            · obtain rfl := Except.error.inj hcount
              simp [regressed]
            · cases hcount
          · split at hcount
            · split at hcount
              · cases hcount
              · cases hcount
            · cases hcount

/-- Only the counters of the events can show a regression of the steady time. -/
theorem measureRun_ne_regressed {F64 : Type} [PyFloat F64] (items : List OrderedEvent) :
  (measureRun items : Except MetricError (SupervisorRecovery F64)) ≠ .error regressed
  := by
  unfold measureRun
  split
  · simp [unavailable, regressed]
  · split
    · simp [unavailable, regressed]
    · unfold measureOutage
      split
      · simp [unavailable, regressed]
      · split
        · simp [unavailable, regressed]
        · rename_i first _ _ _ _ _
          generalize hfold : List.foldlM Restarts.count _ _ = result
          cases result with
          | error e =>
              intro heq
              obtain rfl := Except.error.inj heq
              exact foldlM_count_ne_regressed _ _ hfold
          | ok restarts =>
              rw [Except.ok_bind]
              split
              · simp [unavailable, regressed]
              · split
                · simp [unavailable, regressed]
                · unfold seconds
                  split
                  · nofun
                  · nofun

end Metrics

end RobotestLab
