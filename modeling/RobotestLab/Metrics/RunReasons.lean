import RobotestLab.Library.Machine
import RobotestLab.Metrics.Geometry
import RobotestLab.Metrics.RunAnalysis

/-!
# Reasons of the measurements

Every measurement of a run that is `None` has a reason, and no other one has, exactly when the
number of the completed waypoints is known, the dropout of the LiDAR is measured in its scenario,
and the recovery of the supervisor is measured when there are events of it (`reasons_complete`).
-/

namespace RobotestLab

namespace Metrics

namespace RunAnalysis

open PyValue (isNone isNone_iff item)

theorem metricPath_injective :
  Function.Injective metricPath
  := by
  intro name name' h
  exact (String.append_right_inj "measurements.").mp h

/-- The measurements have the names, and only the gaps are unavailable without a reason. -/
abbrev Accounted (names gaps : List String) (report : Report) : Prop :=
  Explained metricPath (· = PyValue.none) names gaps report.measurements report.unavailable

section Steps

variable {names gaps : List String} {report report' : Report} {name : String} {value : PyValue}
  {paths : List (List String)}

theorem Accounted.measure (h : Accounted names gaps report) (hname : name ∉ names)
    (hvalue : value ≠ .none) :
  Accounted (names ++ [name]) gaps (report.measure name value)
  := h.value hname hvalue

theorem Accounted.explain (h : Accounted names gaps report) (hname : name ∉ names)
    (reason : Reason) :
  Accounted (names ++ [name]) gaps ((report.explain name reason).measure name .none)
  := h.reason metricPath_injective hname rfl reason

theorem Accounted.omit (h : Accounted names gaps report) (hname : name ∉ names) :
  Accounted (names ++ [name]) (gaps ++ [name]) (report.measure name .none)
  := h.gap hname rfl

/-- A metric that is computed, or unavailable. -/
theorem calculate_eq_ok {α : Type} {function : Except Stop α} {metric : Option α}
    (h : report.calculate name function = .ok (metric, report')) :
  (∃ x, function = .ok x ∧ metric = some x ∧ report' = report) ∨
    ∃ reason, function = .error (.unavailable reason) ∧ metric = none ∧
      report' = report.explain name reason
  := by
  unfold Report.calculate at h
  split at h
  · rename_i x
    obtain ⟨rfl, rfl⟩ := Prod.mk.inj (Except.ok.inj h)
    exact .inl ⟨x, rfl, rfl, rfl⟩
  · rename_i reason
    obtain ⟨rfl, rfl⟩ := Prod.mk.inj (Except.ok.inj h)
    exact .inr ⟨reason, rfl, rfl, rfl⟩
  · cases h

/-- A metric is computed and measured. -/
theorem Accounted.calculate (h : Accounted names gaps report) (hname : name ∉ names)
    {function : Except Stop (Measured paths)} {metric : Option (Measured paths)}
    (hcalculate : report.calculate name function = .ok (metric, report')) :
  Accounted (names ++ [name]) gaps (report'.measure name (valueOf metric))
  := by
  rcases calculate_eq_ok hcalculate with ⟨x, -, rfl, rfl⟩ | ⟨reason, -, rfl, rfl⟩
  · exact h.measure hname x.value_ne_none
  · exact h.explain hname reason

/-- A field of a metric is measured. -/
theorem Accounted.field (h : Accounted names gaps report) (hname : name ∉ names)
    {metric : Option (Measured paths)} {source : String} {path : List String} (hpath : path ∈ paths)
    (hfield : report.measureField source metric name path = .ok report') :
  Accounted (names ++ [name]) gaps report'
  := by
  unfold Report.measureField at hfield
  cases metric with
  | some m =>
      obtain rfl := Except.ok.inj hfield
      exact h.measure hname (m.field_ne_none hpath)
  | none =>
      obtain ⟨reason, -, hreport⟩ := Except.bind_eq_ok_iff.mp hfield
      obtain rfl := Except.ok.inj hreport
      exact h.explain hname reason

/-- Measurements that are made one by one. -/
theorem Accounted.fold {α : Type} (h : Accounted names gaps report) (items : List α)
    (key : α → String) (f : Report → α → Report) (hnodup : (items.map key).Nodup)
    (hfresh : ∀ name ∈ items.map key, name ∉ names)
    (hf : ∀ {names report x}, Accounted names gaps report → x ∈ items → key x ∉ names →
      Accounted (names ++ [key x]) gaps (f report x)) :
  Accounted (names ++ items.map key) gaps (items.foldl f report)
  := by
  induction items generalizing names report with
  | nil =>
      rw [List.map_nil, List.append_nil]
      exact h
  | cons x items ih =>
      rw [List.map_cons, List.nodup_cons] at hnodup
      rw [List.foldl_cons, List.map_cons, List.append_cons]
      have hx := hf h List.mem_cons_self (hfresh _ List.mem_cons_self)
      apply ih hx hnodup.2
      · intro name hname hmem
        rcases List.mem_append.mp hmem with hmem | hmem
        · exact hfresh name (List.mem_cons_of_mem _ hname) hmem
        · rw [List.mem_singleton.mp hmem] at hname
          exact hnodup.1 hname
      · intro names report y h hy
        exact hf h (List.mem_cons_of_mem _ hy)

/-- Measurements that are made one by one and may stop. -/
theorem Accounted.foldM {α : Type} (h : Accounted names gaps report) (items : List α)
    (key : α → String) (f : Report → α → Except Stop Report) (hnodup : (items.map key).Nodup)
    (hfresh : ∀ name ∈ items.map key, name ∉ names)
    (hf : ∀ {names report report' x}, Accounted names gaps report → x ∈ items → key x ∉ names →
      f report x = .ok report' → Accounted (names ++ [key x]) gaps report')
    (hfold : items.foldlM f report = .ok report') :
  Accounted (names ++ items.map key) gaps report'
  := by
  induction items generalizing names report with
  | nil =>
      obtain rfl := Except.ok.inj hfold
      rw [List.map_nil, List.append_nil]
      exact h
  | cons x items ih =>
      rw [List.map_cons, List.nodup_cons] at hnodup
      rw [List.foldlM_cons] at hfold
      obtain ⟨report₁, hx, hrest⟩ := Except.bind_eq_ok_iff.mp hfold
      rw [List.map_cons, List.append_cons]
      have hnext := hf h List.mem_cons_self (hfresh _ List.mem_cons_self) hx
      apply ih hnext hnodup.2 _ _ hrest
      · intro name hname hmem
        rcases List.mem_append.mp hmem with hmem | hmem
        · exact hfresh name (List.mem_cons_of_mem _ hname) hmem
        · rw [List.mem_singleton.mp hmem] at hname
          exact hnodup.1 hname
      · intro names report report' y h hy
        exact hf h (List.mem_cons_of_mem _ hy)

end Steps

/-! ### Common metrics -/

section Common

variable {A : Analyses} {run : Run} {names gaps : List String} {report report' : Report}

theorem completedWaypoints_eq_ok {mission : Option Items} {value : PyValue}
    (h : completedWaypoints run mission = .ok value) :
  value = .none ↔ item "completed_waypoint_count" run.missionMeasurements = .none
  := by
  unfold completedWaypoints at h
  rw [← @isNone_iff (item _ _)]
  dsimp only at h
  split at h
  · rename_i hnone
    rw [Bool.and_eq_true] at hnone
    obtain rfl := Except.ok.inj h
    simp [hnone.1]
  · obtain ⟨n, hn, hvalue⟩ := Except.bind_eq_ok_iff.mp h
    obtain rfl := Except.ok.inj hvalue
    simp only [reduceCtorEq, false_iff]
    intro hnone
    rw [isNone_iff.mp hnone] at hn
    cases hn

theorem measurements_explains (fields : List String) (reason : Reason) (report : Report) :
  (fields.foldl (fun report name => report.explain name reason) report).measurements =
    report.measurements
  := by
  induction fields generalizing report with
  | nil => rfl
  | cons name fields ih => exact ih _

theorem unavailable_explains (fields : List String) (reason : Reason) (report : Report) :
  (fields.foldl (fun report name => report.explain name reason) report).unavailable =
    fields.foldl (fun reasons name => reasons.set (metricPath name) reason) report.unavailable
  := by
  induction fields generalizing report with
  | nil => rfl
  | cons name fields ih => exact ih _

theorem measurements_measures (fields : List String) (value : String → PyValue) (report : Report) :
  (fields.foldl (fun report name => report.measure name (value name)) report).measurements =
    fields.foldl (fun measurements name => measurements.set name (value name)) report.measurements
  := by
  induction fields generalizing report with
  | nil => rfl
  | cons name fields ih => exact ih _

theorem unavailable_measures (fields : List String) (value : String → PyValue) (report : Report) :
  (fields.foldl (fun report name => report.measure name (value name)) report).unavailable =
    report.unavailable
  := by
  induction fields generalizing report with
  | nil => rfl
  | cons name fields ih => exact ih _

/-- The gap of the initial measurements. -/
def initialGaps (run : Run) : List String :=
  if isNone (item "completed_waypoint_count" run.missionMeasurements)
    then ["completed_waypoint_count"] else []

theorem initialReport_accounted {components : Components} {failures : Failures}
    (h : initialReport A run components failures = .ok report) :
  Accounted (["accepted_goal_stamp_ns", "completed_waypoint_count", "completion_time_sim_s",
      "mission_action_status", "nav2_recovery_count", "terminal_action_stamp_ns"] ++ resourceNames)
    (initialGaps run) report
  := by
  unfold initialReport at h
  obtain ⟨completed, hcompleted, h⟩ := Except.bind_eq_ok_iff.mp h
  obtain ⟨time, -, h⟩ := Except.bind_eq_ok_iff.mp h
  have hempty : Accounted [] [] ({ componentFailures := failures } : Report) := Explained.empty
  have hstart := @Accounted.measure _ _ _ "accepted_goal_stamp_ns" (.int run.start) hempty
    (by simp) nofun
  have hwaypoints : Accounted ["accepted_goal_stamp_ns", "completed_waypoint_count"]
      (initialGaps run)
      ((({ componentFailures := failures } : Report).measure "accepted_goal_stamp_ns"
        (.int run.start)).measure "completed_waypoint_count" completed) := by
    unfold initialGaps
    have hvalue := completedWaypoints_eq_ok hcompleted
    rw [← @isNone_iff (item _ _)] at hvalue
    split
    · rename_i hnone
      rw [hvalue.mpr hnone]
      exact hstart.omit (by decide)
    · rename_i hpresent
      exact hstart.measure (by decide) fun hnone => hpresent (hvalue.mp hnone)
  have htime := @Accounted.measure _ _ _ "completion_time_sim_s" (.float time) hwaypoints
    (by decide) nofun
  have hstatus := @Accounted.measure _ _ _ "mission_action_status" (.str run.terminalStatus) htime
    (by decide) nofun
  have hnav2 := @Accounted.explain _ _ _ "nav2_recovery_count" hstatus (by decide)
    (.of "installed Jazzy FollowWaypoints feedback has no structured recovery counter")
  have hbase := @Accounted.measure _ _ _ "terminal_action_stamp_ns" (.int run.terminal) hnav2
    (by decide) nofun
  cases horchestrator : components.orchestrator with
  | some pair =>
      rw [horchestrator] at h
      obtain rfl := Except.ok.inj h
      rw [Accounted]
      unfold Report.explain
      dsimp only
      rw [measurements_measures, unavailable_measures]
      apply hbase.values_fold (by decide) (by decide)
      intro name hname
      exact pair.2.field_ne_none (List.mem_map_of_mem hname)
  | none =>
      rw [horchestrator] at h
      obtain rfl := Except.ok.inj h
      rw [Accounted, measurements_explains, unavailable_explains]
      unfold Report.explain
      dsimp only
      rw [measurements_measures, unavailable_measures]
      exact hbase.reasons_fold metricPath_injective (by decide) (by decide) rfl _

/-- The actual path, with its length. -/
theorem measureActualPath_accounted (h : Accounted names gaps report)
    (hnames : ∀ name ∈ ["actual_path", "actual_path_length_m"], name ∉ names)
    {actual : Option (Measured [["actual_path_length_m"]])}
    (hmeasure : measureActualPath A run report = .ok (actual, report')) :
  Accounted (names ++ ["actual_path", "actual_path_length_m"]) gaps report'
  := by
  unfold measureActualPath at hmeasure
  obtain ⟨⟨metric, report₁⟩, hcalculate, hmeasure⟩ := Except.bind_eq_ok_iff.mp hmeasure
  obtain ⟨report₂, hfield, hmeasure⟩ := Except.bind_eq_ok_iff.mp hmeasure
  obtain ⟨rfl, rfl⟩ := Prod.mk.inj (Except.ok.inj hmeasure)
  have hpath := h.calculate (hnames _ (by simp)) hcalculate
  have hlength := hpath.field (by simp [hnames]) (by simp) hfield
  rw [List.append_assoc] at hlength
  exact hlength

/-- The names of the planned paths. -/
def planNames : List String :=
  ["initial_planned_path_length_m", "latest_planned_path_length_m", "replan_count"]

theorem measurePlannedPaths_accounted (h : Accounted names gaps report)
    (hnames : ∀ name ∈ "planned_paths" :: planNames, name ∉ names)
    {plans : Option PlannedPaths}
    (hmeasure : measurePlannedPaths A run report = .ok (plans, report')) :
  Accounted (names ++ "planned_paths" :: planNames) gaps report'
  := by
  unfold measurePlannedPaths at hmeasure
  obtain ⟨⟨metric, report₁⟩, hcalculate, hmeasure⟩ := Except.bind_eq_ok_iff.mp hmeasure
  obtain ⟨report₂, hfields, hmeasure⟩ := Except.bind_eq_ok_iff.mp hmeasure
  obtain ⟨rfl, rfl⟩ := Prod.mk.inj (Except.ok.inj hmeasure)
  have hpaths := h.calculate (hnames _ List.mem_cons_self) hcalculate
  have hfresh : ∀ name ∈ planNames.map id, name ∉ names ++ ["planned_paths"] := by
    intro name hname hmem
    rw [List.map_id] at hname
    rcases List.mem_append.mp hmem with hmem | hmem
    · exact hnames name (List.mem_cons_of_mem _ hname) hmem
    · rw [List.mem_singleton.mp hmem] at hname
      exact absurd hname (by decide)
  rw [List.append_cons]
  refine hpaths.foldM planNames id _ (by decide) hfresh ?_ hfields
  intro names report report' field h hfield hname hmeasure
  refine h.field hname ?_ hmeasure
  simpa [planNames] using hfield

theorem measureEfficiency_accounted (h : Accounted names gaps report)
    (hnames : ∀ name ∈ ["path_efficiency", "path_overrun_ratio"], name ∉ names)
    {plans : Option PlannedPaths} {actual : Option (Measured [["actual_path_length_m"]])}
    (hmeasure : measureEfficiency A run report plans actual = .ok report') :
  Accounted (names ++ ["path_efficiency", "path_overrun_ratio"]) gaps report'
  := by
  unfold measureEfficiency at hmeasure
  obtain ⟨⟨efficiency, report₁⟩, hefficiency, hrest⟩ := Except.bind_eq_ok_iff.mp hmeasure
  have hcases : (∃ x, efficiency = some x ∧ report₁ = report) ∨
      ∃ reason, efficiency = none ∧ report₁ = report.explain "path_efficiency" reason := by
    unfold calculateEfficiency at hefficiency
    split at hefficiency
    · rcases calculate_eq_ok hefficiency with ⟨x, -, hx, hreport⟩ | ⟨reason, -, hnone, hreport⟩
      · exact .inl ⟨x, hx, hreport⟩
      · exact .inr ⟨reason, hnone, hreport⟩
    · obtain ⟨hnone, hreport⟩ := Prod.mk.inj (Except.ok.inj hefficiency)
      exact .inr ⟨_, hnone.symm, hreport.symm⟩
  have hfirst := hnames "path_efficiency" (by simp)
  have hsecond : "path_overrun_ratio" ∉ names ++ ["path_efficiency"] := by
    simp [hnames]
  rw [List.append_cons]
  rcases hcases with ⟨x, rfl, rfl⟩ | ⟨reason, rfl, rfl⟩
  · obtain rfl := Except.ok.inj hrest
    have hefficient : x.field ["path_efficiency"] ≠ .none := x.field_ne_none (by simp)
    have hoverrun : x.field ["path_overrun_ratio"] ≠ .none := x.field_ne_none (by simp)
    exact (h.measure hfirst hefficient).measure hsecond hoverrun
  · obtain ⟨reason', -, hreport⟩ := Except.bind_eq_ok_iff.mp hrest
    obtain rfl := Except.ok.inj hreport
    have hnone := h.explain hfirst reason
    have hfresh :
        (((report.explain "path_efficiency" reason).measure "path_efficiency" .none).measure
        "path_overrun_ratio" .none).reason? "path_overrun_ratio" = none := hnone.fresh _ hsecond
    have hreport := hnone.explain hsecond reason'
    unfold Report.explainDefault
    dsimp only [fieldOf]
    rw [hfresh]
    exact hreport

/-- A metric of which only a part is measured. -/
theorem Accounted.calculated {paths : List (List String)} {name : String}
    (h : Accounted names gaps report) (hname : name ∉ names) {metric : Option (Measured paths)}
    (hmetric : (∃ x, metric = some x ∧ report' = report) ∨
      ∃ reason, metric = none ∧ report' = report.explain name reason) :
  Accounted (names ++ [name]) gaps (report'.measure name (valueOf metric))
  := by
  rcases hmetric with ⟨x, rfl, rfl⟩ | ⟨reason, rfl, rfl⟩
  · exact h.measure hname x.value_ne_none
  · exact h.explain hname reason

theorem measureCollisions_accounted {request : Items} (h : Accounted names gaps report)
    (hnames : ∀ name ∈ ["collisions", "collision_count"], name ∉ names)
    {collisions : Option CollisionResult}
    (hmeasure : measureCollisions A run request report = .ok (collisions, report')) :
  Accounted (names ++ ["collisions", "collision_count"]) gaps report'
  := by
  unfold measureCollisions at hmeasure
  obtain ⟨⟨result, report₁⟩, hcollisions, hrest⟩ := Except.bind_eq_ok_iff.mp hmeasure
  obtain ⟨report₂, hfield, hrest⟩ := Except.bind_eq_ok_iff.mp hrest
  have hcases : (∃ x, result.map CollisionResult.metrics = some x ∧ report₁ = report) ∨
      ∃ reason, result.map CollisionResult.metrics = none ∧
        report₁ = report.explain "collisions" reason := by
    unfold calculateCollisions at hcollisions
    split at hcollisions
    · rcases calculate_eq_ok hcollisions with ⟨x, -, rfl, hreport⟩ | ⟨reason, -, rfl, hreport⟩
      · exact .inl ⟨x.metrics, rfl, hreport⟩
      · exact .inr ⟨reason, rfl, hreport⟩
    · obtain ⟨rfl, hreport⟩ := Prod.mk.inj (Except.ok.inj hcollisions)
      exact .inr ⟨_, rfl, hreport.symm⟩
  have hvalue := h.calculated (hnames _ (by simp)) hcases
  have hcount := hvalue.field (by simp [hnames]) (by simp) hfield
  rw [List.append_cons]
  cases result with
  | none =>
      obtain ⟨-, rfl⟩ := Prod.mk.inj (Except.ok.inj hrest)
      exact hcount
  | some result =>
      obtain ⟨-, rfl⟩ := Prod.mk.inj (Except.ok.inj hrest)
      exact hcount

theorem measureLocalization_accounted (h : Accounted names gaps report)
    (hnames : ∀ name ∈ "localization" :: localizationScalars.map Prod.fst, name ∉ names)
    (hmeasure : measureLocalization A run report = .ok report') :
  Accounted (names ++ "localization" :: localizationScalars.map Prod.fst) gaps report'
  := by
  unfold measureLocalization at hmeasure
  obtain ⟨⟨metric, report₁⟩, hcalculate, hrest⟩ := Except.bind_eq_ok_iff.mp hmeasure
  obtain rfl := Except.ok.inj hrest
  have hvalue := h.calculate (hnames _ List.mem_cons_self) hcalculate
  have hfresh : ∀ name ∈ localizationScalars.map Prod.fst, name ∉ names ++ ["localization"] := by
    intro name hname hmem
    rcases List.mem_append.mp hmem with hmem | hmem
    · exact hnames name (List.mem_cons_of_mem _ hname) hmem
    · rw [List.mem_singleton.mp hmem] at hname
      exact absurd hname (by decide)
  rw [List.append_cons]
  apply hvalue.fold localizationScalars Prod.fst (measureScalar metric) (by decide) hfresh
  intro names report scalar h hscalar hname
  unfold measureScalar
  dsimp only
  split
  · rename_i hnone
    rw [isNone_iff.mp hnone]
    exact h.explain hname _
  · rename_i hsome
    exact h.measure hname fun hnone => hsome (isNone_iff.mpr hnone)

theorem measureRealTimeFactor_accounted (h : Accounted names gaps report)
    (hnames : ∀ name ∈ ["real_time_factor", "rtf_median", "rtf_p5"], name ∉ names)
    (hmeasure : measureRealTimeFactor A run report = .ok report') :
  Accounted (names ++ ["real_time_factor", "rtf_median", "rtf_p5"]) gaps report'
  := by
  unfold measureRealTimeFactor at hmeasure
  obtain ⟨⟨metric, report₁⟩, hcalculate, hrest⟩ := Except.bind_eq_ok_iff.mp hmeasure
  obtain ⟨report₂, hmedian, hp5⟩ := Except.bind_eq_ok_iff.mp hrest
  have hvalue := h.calculate (hnames _ (by simp)) hcalculate
  have hfirst := hvalue.field (by simp [hnames]) (by simp) hmedian
  have hsecond := hfirst.field (by simp [hnames]) (by simp) hp5
  rw [List.append_assoc, List.append_assoc] at hsecond
  exact hsecond

end Common

/-! ### Scenarios -/

section Scenarios

variable {A : Analyses} {run : Run} {evidence : FaultEvidence} {names gaps : List String}
  {report report' : Report}

/-- The names of the interaction. -/
def interactionNames (run : Run) (scenario : Option (Measured [["interaction"]])) : List String :=
  match scenario with
  | none => []
  | some _ =>
      if run.isScenario 3 then ["scenario_interaction", "scenario3_stop_command"]
      else ["scenario_interaction"]

theorem measureInteraction_accounted {scenario : Option (Measured [["interaction"]])}
    (h : Accounted names gaps report)
    (hnames : ∀ name ∈ ["scenario_interaction", "scenario3_stop_command"], name ∉ names)
    (hmeasure : measureInteraction A run scenario report = .ok report') :
  Accounted (names ++ interactionNames run scenario) gaps report'
  := by
  unfold measureInteraction at hmeasure
  unfold interactionNames
  cases scenario with
  | none =>
      obtain rfl := Except.ok.inj hmeasure
      rw [List.append_nil]
      exact h
  | some scenario =>
      have hvalue := h.measure (hnames "scenario_interaction" (by simp))
        (scenario.field_ne_none (List.mem_singleton_self _))
      dsimp only at hmeasure ⊢
      split
      · rename_i hthree
        rw [if_pos hthree] at hmeasure
        obtain ⟨⟨metric, report₁⟩, hcalculate, hrest⟩ := Except.bind_eq_ok_iff.mp hmeasure
        obtain rfl := Except.ok.inj hrest
        rw [List.append_cons]
        exact hvalue.calculate (by simp [hnames]) hcalculate
      · rename_i hother
        rw [if_neg hother] at hmeasure
        obtain rfl := Except.ok.inj hmeasure
        exact hvalue

/-- The names of the dropout. -/
def dropoutNames : List String :=
  ["lidar_dropout", "lidar_dropout_command_safety", "sensor_recovery", "sensor_recovery_time_sim_s"]

theorem measureCommandSafety_accounted {dropout : DropoutEvidence}
    {metric : Option (Measured [["actual_deactivation_stamp_ns"]])}
    (h : Accounted names gaps report)
    (hname : "lidar_dropout_command_safety" ∉ names)
    (hmeasure : measureCommandSafety A run evidence dropout metric report = .ok report') :
  Accounted (names ++ ["lidar_dropout_command_safety"])
    (gaps ++ if metric.isNone then ["lidar_dropout_command_safety"] else []) report'
  := by
  unfold measureCommandSafety at hmeasure
  obtain ⟨⟨safety, report₁⟩, hcalculate, hrest⟩ := Except.bind_eq_ok_iff.mp hmeasure
  obtain rfl := Except.ok.inj hrest
  cases metric with
  | none =>
      obtain ⟨rfl, rfl⟩ := Prod.mk.inj (Except.ok.inj hcalculate)
      exact h.omit hname
  | some metric =>
      rw [Option.isNone_some, if_neg Bool.false_ne_true, List.append_nil]
      exact h.calculate hname hcalculate

variable {collisions : Option CollisionResult}

theorem measureSensorRecovery_accounted
    {metric : Option (Measured [["actual_deactivation_stamp_ns"]])}
    (h : Accounted names gaps report)
    (hnames : ∀ name ∈ ["sensor_recovery", "sensor_recovery_time_sim_s"], name ∉ names)
    (hmeasure : measureSensorRecovery A run evidence metric collisions report = .ok report') :
  Accounted (names ++ ["sensor_recovery", "sensor_recovery_time_sim_s"]) gaps report'
  := by
  unfold measureSensorRecovery at hmeasure
  obtain ⟨⟨recovery, report₁⟩, hcalculate, hfield⟩ := Except.bind_eq_ok_iff.mp hmeasure
  have hvalue : Accounted (names ++ ["sensor_recovery"]) gaps
      (report₁.measure "sensor_recovery" (valueOf recovery)) := by
    unfold calculateSensorRecovery at hcalculate
    split at hcalculate
    · obtain ⟨⟨nodes, lifecycle, failures⟩, -, hcalculate⟩ := Except.bind_eq_ok_iff.mp hcalculate
      have hfailures : Accounted names gaps { report with componentFailures := failures } := h
      exact hfailures.calculate (hnames _ (by simp)) hcalculate
    · obtain ⟨rfl, rfl⟩ := Prod.mk.inj (Except.ok.inj hcalculate)
      exact h.explain (hnames _ (by simp)) _
    · obtain ⟨rfl, rfl⟩ := Prod.mk.inj (Except.ok.inj hcalculate)
      exact h.explain (hnames _ (by simp)) _
  rw [List.append_cons]
  exact hvalue.field (by simp [hnames]) (by simp) hfield

/-- The measurements of a dropout, with the gap when it is not measured. -/
theorem measureDropout_accounted
    (h : Accounted names gaps report) (hnames : ∀ name ∈ dropoutNames, name ∉ names)
    (hmeasure : measureDropout A run evidence collisions report = .ok report') :
  ∃ dropout, readDropout run evidence = .ok dropout ∧
    ((∃ metric, lidarDropout A run dropout = .ok metric) ∧
      Accounted (names ++ dropoutNames) gaps report' ∨
    (¬ ∃ metric, lidarDropout A run dropout = .ok metric) ∧
      Accounted (names ++ dropoutNames) (gaps ++ ["lidar_dropout_command_safety"]) report')
  := by
  unfold measureDropout at hmeasure
  unfold dropoutNames at hnames ⊢
  obtain ⟨dropout, hdropout, hrest⟩ := Except.bind_eq_ok_iff.mp hmeasure
  refine ⟨dropout, hdropout, ?_⟩
  obtain ⟨⟨metric, report₁⟩, hcalculate, hrest⟩ := Except.bind_eq_ok_iff.mp hrest
  obtain ⟨report₂, hsafety, hrecovery⟩ := Except.bind_eq_ok_iff.mp hrest
  have hreport : Accounted names gaps { report with
    componentFailures := checkDropoutEvents dropout report.componentFailures } := h
  have hvalue := hreport.calculate (hnames _ List.mem_cons_self) hcalculate
  have hname : "lidar_dropout_command_safety" ∉ names ++ ["lidar_dropout"] := by
    simp [hnames]
  have hsafe := measureCommandSafety_accounted hvalue hname hsafety
  have hall := measureSensorRecovery_accounted hsafe (by simp [hnames]) hrecovery
  rw [List.append_assoc, List.append_assoc] at hall
  rcases calculate_eq_ok hcalculate with ⟨x, hx, rfl, -⟩ | ⟨reason, hreason, rfl, -⟩
  · left
    rw [Option.isNone_some, if_neg Bool.false_ne_true, List.append_nil] at hall
    exact ⟨⟨x, hx⟩, hall⟩
  · right
    refine ⟨?_, hall⟩
    rintro ⟨x, hx⟩
    rw [hx] at hreason
    cases hreason

theorem measureDrift_accounted (h : Accounted names gaps report) (hname : "odometry_drift" ∉ names)
    (hmeasure : measureDrift A run evidence report = .ok report') :
  Accounted (names ++ ["odometry_drift"]) gaps report'
  := by
  unfold measureDrift at hmeasure
  dsimp only at hmeasure
  split at hmeasure
  · cases hmeasure
  · split at hmeasure
    · obtain ⟨parameters, -, hrest⟩ := Except.bind_eq_ok_iff.mp hmeasure
      obtain ⟨⟨activation, deactivation⟩, -, hrest⟩ := Except.bind_eq_ok_iff.mp hrest
      obtain ⟨⟨drift, report₁⟩, hcalculate, hrest⟩ := Except.bind_eq_ok_iff.mp hrest
      obtain rfl := Except.ok.inj hrest
      exact h.calculate hname hcalculate
    · cases hmeasure

/-- The names of what the fault of the scenario does. -/
def faultNames (run : Run) : List String :=
  if run.isScenario 4 then dropoutNames
  else if run.isScenario 5 then ["odometry_drift"]
  else []

/-- In its scenario, the dropout of the LiDAR is measured. -/
def DropoutMeasured (A : Analyses) (run : Run) (evidence : FaultEvidence) : Prop :=
  run.isScenario 4 = true → ∀ dropout, readDropout run evidence = .ok dropout →
    ∃ metric, lidarDropout A run dropout = .ok metric

theorem measureFault_accounted (h : Accounted names gaps report)
    (hnames : ∀ name ∈ "odometry_drift" :: dropoutNames, name ∉ names)
    (hmeasure : measureFault A run evidence collisions report = .ok report') :
  DropoutMeasured A run evidence ∧ Accounted (names ++ faultNames run) gaps report' ∨
    ¬ DropoutMeasured A run evidence ∧
      Accounted (names ++ faultNames run) (gaps ++ ["lidar_dropout_command_safety"]) report'
  := by
  unfold measureFault at hmeasure
  unfold faultNames DropoutMeasured
  by_cases hfour : run.isScenario 4 = true
  · rw [if_pos hfour] at hmeasure ⊢
    obtain ⟨dropout, hdropout, hcases⟩ := measureDropout_accounted h
      (fun name hname => hnames name (List.mem_cons_of_mem _ hname)) hmeasure
    have hiff : (run.isScenario 4 = true → ∀ dropout, readDropout run evidence = .ok dropout →
        ∃ metric, lidarDropout A run dropout = .ok metric) ↔
        ∃ metric, lidarDropout A run dropout = .ok metric := by
      constructor
      · intro hall
        exact hall hfour dropout hdropout
      · intro hmetric _ dropout' hdropout'
        obtain rfl := Except.ok.inj (hdropout.symm.trans hdropout')
        exact hmetric
    rw [hiff]
    exact hcases
  · left
    rw [if_neg hfour] at hmeasure ⊢
    refine ⟨fun h => absurd h hfour, ?_⟩
    split at hmeasure
    · rename_i hfive
      rw [if_pos hfive]
      exact measureDrift_accounted h (hnames _ List.mem_cons_self) hmeasure
    · rename_i hfive
      rw [if_neg hfive, List.append_nil]
      split at hmeasure
      · cases hmeasure
      · obtain rfl := Except.ok.inj hmeasure
        exact h

/-- The recovery of the supervisor is measured when there are events of it. -/
def SupervisorMeasured (A : Analyses) (request : Items) (run : Run) : Prop :=
  item "supervisor_events" request ≠ .none →
    ∃ metric, supervisorRecovery A run (item "supervisor_events" request) = .ok metric

/-- The names of the recovery of the supervisor. -/
def supervisorNames : List String :=
  ["supervisor_recovery", "supervisor_recovery_time_wall_s", "restart_count"]

theorem measureSupervisor_accounted {request : Items} (h : Accounted names gaps report)
    (hnames : ∀ name ∈ supervisorNames, name ∉ names)
    (hmeasure : measureSupervisor A run request report = .ok report') :
  ∃ names', SupervisorMeasured A request run ∧ Accounted names' gaps report' ∨
    ¬ SupervisorMeasured A request run ∧
      Accounted names' (gaps ++ ["supervisor_recovery_time_wall_s", "restart_count"]) report'
  := by
  unfold measureSupervisor at hmeasure
  unfold SupervisorMeasured
  unfold supervisorNames at hnames
  dsimp only at hmeasure
  split at hmeasure
  · rename_i hnone
    obtain rfl := Except.ok.inj hmeasure
    exact ⟨names, .inl ⟨fun hpresent => absurd (isNone_iff.mp hnone) hpresent, h⟩⟩
  · rename_i hpresent
    rw [isNone_iff] at hpresent
    obtain ⟨⟨supervisor, report₁⟩, hcalculate, hrest⟩ := Except.bind_eq_ok_iff.mp hmeasure
    obtain rfl := Except.ok.inj hrest
    have hvalue := h.calculate (hnames _ List.mem_cons_self) hcalculate
    have htime : "supervisor_recovery_time_wall_s" ∉ names ++ ["supervisor_recovery"] := by
      simp [hnames]
    have hcount : "restart_count" ∉ names ++ ["supervisor_recovery"] ++
        ["supervisor_recovery_time_wall_s"] := by
      simp [hnames]
    rcases calculate_eq_ok hcalculate with ⟨x, hx, rfl, -⟩ | ⟨reason, hreason, rfl, -⟩
    · have hsecond := hvalue.measure htime (x.field_ne_none List.mem_cons_self)
      have hall := hsecond.measure hcount
        (x.field_ne_none (List.mem_cons_of_mem _ List.mem_cons_self))
      exact ⟨_, .inl ⟨fun _ => ⟨x, hx⟩, hall⟩⟩
    · have hgaps := (hvalue.omit htime).omit hcount
      rw [List.append_assoc gaps] at hgaps
      refine ⟨_, .inr ⟨?_, hgaps⟩⟩
      intro hmeasured
      obtain ⟨x, hx⟩ := hmeasured hpresent
      rw [hx] at hreason
      cases hreason

end Scenarios

/-! ### All measurements -/

section Result

variable {A : Analyses} {request : Items} {run : Run}

/-- What has to be there for every measurement to be accounted for. -/
structure Complete (A : Analyses) (request : Items) (run : Run) : Prop where
  completed : item "completed_waypoint_count" run.missionMeasurements ≠ .none
  dropout : ∀ evidence, readFault request run = .ok evidence → DropoutMeasured A run evidence
  supervisor : SupervisorMeasured A request run

theorem notMem_interactionNames {name : String} {scenario : Option (Measured [["interaction"]])}
    (h : name ∉ ["scenario_interaction", "scenario3_stop_command"]) :
  name ∉ interactionNames run scenario
  := by
  unfold interactionNames
  split
  · exact List.not_mem_nil
  · split
    · exact h
    · exact fun hmem => h (List.mem_cons.mpr (.inl (List.mem_singleton.mp hmem)))

theorem notMem_faultNames {name : String} (h : name ∉ "odometry_drift" :: dropoutNames) :
  name ∉ faultNames run
  := by
  unfold faultNames
  split
  · exact fun hmem => h (List.mem_cons_of_mem _ hmem)
  · split
    · exact fun hmem => h (List.mem_cons.mpr (.inl (List.mem_singleton.mp hmem)))
    · exact List.not_mem_nil

/-- The names that every run measures. -/
def commonNames : List String :=
  ["accepted_goal_stamp_ns", "completed_waypoint_count", "completion_time_sim_s",
    "mission_action_status", "nav2_recovery_count", "terminal_action_stamp_ns"] ++ resourceNames ++
  ["actual_path", "actual_path_length_m"] ++ "planned_paths" :: planNames ++
  ["path_efficiency", "path_overrun_ratio"] ++ ["collisions", "collision_count"] ++
  "localization" :: localizationScalars.map Prod.fst ++
  ["real_time_factor", "rtf_median", "rtf_p5"]

theorem initialGaps_eq_nil_iff (run : Run) :
  initialGaps run = [] ↔ item "completed_waypoint_count" run.missionMeasurements ≠ .none
  := by
  unfold initialGaps
  rw [Ne, ← isNone_iff]
  split
  · simp_all
  · simp_all

/-- The measurements of a run are accounted for, without gaps when the evidence is complete. -/
theorem analyzeMeasurements_accounted {components : Components} {failures : Failures}
    {report : Report}
    (h : analyzeMeasurements A request run components failures = .ok report) :
  ∃ names gaps, Accounted names gaps report ∧ (gaps = [] ↔ Complete A request run)
  := by
  unfold analyzeMeasurements at h
  obtain ⟨report₁, hinitial, h⟩ := Except.bind_eq_ok_iff.mp h
  obtain ⟨⟨actual, report₂⟩, hactual, h⟩ := Except.bind_eq_ok_iff.mp h
  obtain ⟨⟨plans, report₃⟩, hplans, h⟩ := Except.bind_eq_ok_iff.mp h
  obtain ⟨report₄, hefficiency, h⟩ := Except.bind_eq_ok_iff.mp h
  obtain ⟨⟨collisions, report₅⟩, hcollisions, h⟩ := Except.bind_eq_ok_iff.mp h
  obtain ⟨report₆, hlocalization, h⟩ := Except.bind_eq_ok_iff.mp h
  obtain ⟨report₇, hrtf, h⟩ := Except.bind_eq_ok_iff.mp h
  obtain ⟨report₈, hinteraction, h⟩ := Except.bind_eq_ok_iff.mp h
  obtain ⟨evidence, hevidence, h⟩ := Except.bind_eq_ok_iff.mp h
  obtain ⟨report₉, hfault, hsupervisor⟩ := Except.bind_eq_ok_iff.mp h
  have h₁ := initialReport_accounted hinitial
  have h₂ := measureActualPath_accounted h₁ (by decide) hactual
  have h₃ := measurePlannedPaths_accounted h₂ (by decide) hplans
  have h₄ := measureEfficiency_accounted h₃ (by decide) hefficiency
  have h₅ := measureCollisions_accounted h₄ (by decide) hcollisions
  have h₆ := measureLocalization_accounted h₅ (by decide) hlocalization
  have h₇ : Accounted commonNames (initialGaps run) report₇ :=
    measureRealTimeFactor_accounted h₆ (by decide) hrtf
  have h₈ := measureInteraction_accounted h₇ (by decide) hinteraction
  have hfresh : ∀ name ∈ "odometry_drift" :: dropoutNames,
      name ∉ commonNames ++ interactionNames run components.scenario := by
    have hcommon : ∀ name ∈ "odometry_drift" :: dropoutNames, name ∉ commonNames ∧
        name ∉ ["scenario_interaction", "scenario3_stop_command"] := by decide
    intro name hname
    rw [List.mem_append, not_or]
    exact ⟨(hcommon name hname).1, notMem_interactionNames (hcommon name hname).2⟩
  have hfresh' : ∀ name ∈ supervisorNames,
      name ∉ commonNames ++ interactionNames run components.scenario ++ faultNames run := by
    have hcommon : ∀ name ∈ supervisorNames, name ∉ commonNames ∧
        name ∉ ["scenario_interaction", "scenario3_stop_command"] ∧
        name ∉ "odometry_drift" :: dropoutNames := by decide
    intro name hname
    rw [List.mem_append, List.mem_append, not_or, not_or]
    obtain ⟨hbase, hinteraction, hfault⟩ := hcommon name hname
    exact ⟨⟨hbase, notMem_interactionNames hinteraction⟩, notMem_faultNames hfault⟩
  have hdropout : (∀ evidence', readFault request run = .ok evidence' →
      DropoutMeasured A run evidence') ↔
      DropoutMeasured A run evidence := by
    constructor
    · intro hall
      exact hall evidence hevidence
    · intro hmeasured evidence' hevidence'
      obtain rfl := Except.ok.inj (hevidence.symm.trans hevidence')
      exact hmeasured
  have hcomplete : Complete A request run ↔ initialGaps run = [] ∧ DropoutMeasured A run evidence ∧
      SupervisorMeasured A request run := by
    rw [← hdropout, initialGaps_eq_nil_iff]
    exact ⟨fun ⟨hcompleted, hall, hsupervised⟩ => ⟨hcompleted, hall, hsupervised⟩,
      fun ⟨hcompleted, hall, hsupervised⟩ => ⟨hcompleted, hall, hsupervised⟩⟩
  rw [hcomplete]
  rcases measureFault_accounted h₈ hfresh hfault with ⟨hmeasured, h₉⟩ | ⟨hmissing, h₉⟩
  all_goals
    obtain ⟨names, ⟨hsupervised, hlast⟩ | ⟨hunsupervised, hlast⟩⟩ :=
      measureSupervisor_accounted h₉ hfresh' hsupervisor
  · exact ⟨names, _, hlast, by simp [hmeasured, hsupervised]⟩
  · exact ⟨names, _, hlast, by simp [hunsupervised]⟩
  · exact ⟨names, _, hlast, by simp [hmissing]⟩
  · exact ⟨names, _, hlast, by simp [hmissing]⟩

/-- Every measurement that is `None`, and no other one, has a reason, and the aggregate reports
it. -/
structure Accounts (result : RunResult) : Prop where
  reasons : ∀ name value, result.report.measurements.get? name = some value →
    (value = .none ↔ ∃ reason, result.report.unavailable.get? (metricPath name) = some reason ∧
      reason.text ≠ "")
  aggregate : ∀ name ∈ result.report.measurements.keys, ∀ text ∈ nullReason result name,
    ∃ reason, result.report.unavailable.get? (metricPath name) = some reason ∧ reason.text = text

/-- The result reports the measurements of the run that was read. -/
theorem analyzeRun_eq_ok {verdict : Run → Components → Report → Except Stop Items}
    {result : RunResult} (hrun : readRun A request = .ok run)
    (h : analyzeRun A verdict request = .ok result) :
  result.run = run ∧ ∃ components failures,
    analyzeMeasurements A request run components failures = .ok result.report
  := by
  unfold analyzeRun at h
  obtain ⟨run', hrun', h⟩ := Except.bind_eq_ok_iff.mp h
  obtain rfl := Except.ok.inj (hrun.symm.trans hrun')
  obtain ⟨⟨components, failures⟩, -, h⟩ := Except.bind_eq_ok_iff.mp h
  obtain ⟨report, hreport, h⟩ := Except.bind_eq_ok_iff.mp h
  obtain ⟨decision, -, h⟩ := Except.bind_eq_ok_iff.mp h
  obtain rfl := Except.ok.inj h
  exact ⟨rfl, components, failures, hreport⟩

/-- Every measurement that is `None` has a reason exactly when the number of the completed waypoints
is given, the dropout of the LiDAR is measured in its scenario, and the recovery of the supervisor
is measured when there are events of it. -/
theorem reasons_complete {verdict : Run → Components → Report → Except Stop Items}
    {result : RunResult}
    (hrun : readRun A request = .ok run) (h : analyzeRun A verdict request = .ok result) :
  Accounts result ↔ Complete A request run
  := by
  obtain ⟨-, components, failures, hreport⟩ := analyzeRun_eq_ok hrun h
  obtain ⟨names, gaps, haccounted, hgaps⟩ := analyzeMeasurements_accounted hreport
  rw [← hgaps, ← haccounted.iff_nil]
  have hreason : ∀ name, (result.report.unavailable.get? (metricPath name)).isSome = true ↔
      ∃ reason, result.report.unavailable.get? (metricPath name) = some reason ∧
        reason.text ≠ "" := by
    intro name
    rw [Option.isSome_iff_exists]
    exact ⟨fun ⟨reason, hget⟩ => ⟨reason, hget, reason.nonempty⟩,
      fun ⟨reason, hget, _⟩ => ⟨reason, hget⟩⟩
  constructor
  · intro haccounts name value hget
    rw [hreason]
    exact haccounts.reasons name value hget
  · intro hall
    refine ⟨?_, ?_⟩
    · intro name value hget
      rw [← hreason]
      exact hall name value hget
    · intro name hname text htext
      obtain ⟨value, hget⟩ := Option.isSome_iff_exists.mp (Dict.mem_keys_iff.mp hname)
      unfold nullReason at htext
      rw [hget, Option.getD_some] at htext
      split at htext
      · rename_i hnone
        obtain ⟨reason, hreason'⟩ := Option.isSome_iff_exists.mp
          ((hall name value hget).mp (isNone_iff.mp hnone))
        rw [Report.reason?, hreason'] at htext
        exact ⟨reason, hreason', Option.some.inj htext⟩
      · cases htext

end Result

/-! ### Measurements without a reason -/

section Sample

/-- A hash in hexadecimal digits. -/
def sampleHash : PyValue := .str (String.ofList (List.replicate 64 'a'))

def sampleIdentity : PyValue :=
  .dict [(.str "run_id", .str "r1"), (.str "candidate_id", .str "c1"), (.str "scenario_id", .int 1),
    (.str "scenario_index", .int 1), (.str "repetition_index", .int 0),
    (.str "suite_index", .int 0),
    (.str "scenario_name", .str "baseline_navigation"), (.str "git_dirty", .bool false),
    (.str "cold_stack", .bool true), (.str "git_sha", .str (String.ofList (List.replicate 40 'a'))),
    (.str "ros_domain_id", .int 1), (.str "gz_partition", .str "robotest_p3_c1_1"),
    (.str "scenario_sha256", sampleHash)]

def sampleTargets : PyValue :=
  .dict [(.str "collector_configuration_sha256", sampleHash),
    (.str "collision_coverage_manifest_sha256", sampleHash),
    (.str "fault_schedule_sha256", sampleHash),
    (.str "metrics_contract_sha256", sampleHash), (.str "positive_control_json_sha256", sampleHash),
    (.str "scenario_sha256", sampleHash), (.str "source_configuration_sha256", sampleHash),
    (.str "target_set_sha256", sampleHash),
    (.str "required_metrics", .list [.str "measurements.collision_count"]),
    (.str "acceptance", .dict [(.str "measurements.collision_count",
      .dict [(.str "maximum", .int 0)])])]

/-- A mission without faults. -/
def sampleMission : PyValue :=
  .dict [(.str "measurements", .dict [(.str "accepted_goal_stamp_ns", .int 1000000000),
      (.str "terminal_action_stamp_ns", .int 2000000000), (.str "goal_status", .str "SUCCEEDED"),
      (.str "accepted_goal_uuid", .str "goal"), (.str "completed_waypoint_count", .int 0)]),
    (.str "targets", .dict [(.str "waypoints", .list [])]),
    (.str "fault", .dict [(.str "schedule", .dict [(.str "faults", .list [])]),
      (.str "events", .list [])])]

/-- The hash of the canonical text of this mission. -/
def sampleMissionHash : String := "fbfa27930bf469100c2b79cf4e55cd9a30659d04381b2c1b052ed1ed523ddc2c"

/-- The streams of a capture with their capacities. -/
def sampleCapacities : Items :=
  [(.str "cmd_vel", .int 4096), (.str "contacts", .int 8192), (.str "fault_events", .int 512),
    (.str "ground_truth", .int 8192), (.str "odom", .int 8192), (.str "raw_odom", .int 8192),
    (.str "raw_scan", .int 2048), (.str "scan", .int 2048), (.str "state_events", .int 1024),
    (.str "tf_map_odom", .int 8192), (.str "tf_odom_base_footprint", .int 8192),
    (.str "world_stats", .int 4096)]

/-- An empty stream. -/
def sampleStream (capacity : PyValue) : PyValue :=
  .dict [(.str "items", .list []), (.str "quality", .dict [(.str "capacity", capacity),
    (.str "ingress_count", .int 0), (.str "retained_count", .int 0),
    (.str "overflow_count", .int 0)])]

def sampleStreams : Items :=
  (sampleCapacities.concat (.str "plans", .int 1024)).map fun item => (item.1, sampleStream item.2)

/-- A capture of nothing but a clock that went back. -/
def sampleCapture : PyValue :=
  .dict [(.str "streams", .dict sampleStreams),
    (.str "limits", .dict [(.str "stream_capacities", .dict sampleCapacities),
      (.str "contact_record_capacity", .int 32768), (.str "plan_message_capacity", .int 1024),
      (.str "plan_pose_capacity", .int 65536), (.str "string_field_max_bytes", .int 4096)]),
    (.str "quality", .dict [(.str "contact_record_count", .int 0),
      (.str "contact_record_overflow_count", .int 0)]),
    (.str "stop_reason", .str "stop_file"), (.str "started_steady_wall_ns", .int 0),
    (.str "finished_steady_wall_ns", .int 1),
    (.str "clock", .dict [(.str "regression_count", .int 1)])]

/-- A run of the first scenario with the given log of the supervisor. -/
def requestWith (supervisorEvents : List PyValue) : Items :=
  [(.str "identity", sampleIdentity), (.str "targets", sampleTargets),
    (.str "mission", .dict [(.str "artifact_sha256", .str sampleMissionHash),
      (.str "result", sampleMission)]),
    (.str "capture", sampleCapture), (.str "fault", .dict [(.str "kind", .str "none")]),
    (.str "supervisor_events", .list supervisorEvents)]

def sampleRequest : Items := requestWith []

/-- An event of the supervisor, in the second of its sequence. -/
def sampleEvent (sequence : Int) (kind : String) (ready : Items := []) : PyValue :=
  .dict ([(.str "schema_version", .int 1), (.str "sequence", .int sequence),
    (.str "steady_wall_ns", .int (sequence * 1000000000)), (.str "kind", .str kind)] ++ ready)

/-- A run with one outage. -/
def outageRequest : Items := requestWith [sampleEvent 1 "supervisor_started",
  sampleEvent 2 "failure_detected",
  sampleEvent 3 "readiness_changed" [(.str "ready", .bool false)],
  sampleEvent 4 "restart_scheduled", sampleEvent 5 "child_started",
  sampleEvent 6 "readiness_changed" [(.str "ready", .bool true)]]

/-- The analyses, as they answer for this run. -/
def sampleAnalyses : Analyses where
  canonicalSha256 _ := .ok sampleMissionHash
  validateCandidateIdentity identity _ := .ok identity
  captureQuality capture := do
    let clock ← mapping (item "clock" capture) "capture.clock"
    .ok { complete := false, clock := clock, overflowed := false, details := [] }
  validateMissionComponent _ _ := .error (.unavailable (.of "mission.identity must be an object"))
  validateFaultComponent _ _ _ _ := .error (.unavailable (.of "mission.identity must be an object"))
  validateScenarioComponent _ _ _ := .error (.unavailable (.of "scenario.result must be an object"))
  validateOrchestratorEvidence _ _ _ :=
    .error (.unavailable (.of "orchestrator schema_version must be 1"))
  actualPathMetrics _ _ _ := .error (.unavailable (.of "pose samples are empty"))
  analyzePlans _ _ _ _ _ := .error (.unavailable (.of "no plan was observed"))
  pathEfficiency _ _ :=
    .error (.unavailable (.of "path lengths must be above path_length_epsilon_m"))
  collisionMetrics _ _ _ _ _ :=
    .error (.unavailable (.of "collision.coverage_manifest must be an object"))
  localizationErrorMetrics _ _ _ _ _ _ :=
    .error (.unavailable (.of "no eligible ground-truth localization samples"))
  realTimeFactorMetrics _ :=
    .error (.unavailable (.of "at least two world-statistics samples are required"))
  scenario3StopCommandMetrics _ _ _ _ := .error (.unavailable (.of "interaction must be an object"))
  analyzeLidarDropout _ _ _ _ _ _ _ _ := .error (.unavailable (.of "raw scan stream is empty"))
  lidarDropoutCommandSafetyMetrics _ _ _ _ _ :=
    .error (.unavailable (.of "command stream is empty"))
  sensorRecoveryMetrics _ _ _ _ _ _ _ _ := .error (.unavailable (.of "scan stream is empty"))
  analyzeOdometryDrift _ _ _ _ _ _ _ := .error (.unavailable (.of "raw odometry stream is empty"))
  supervisorRecoveryMetrics _ := .error (.unavailable (.of "supervisor_started event is missing"))
  trueDivide n d := .ok (some (n / d))
  format _ := ""
  equals _ _ := false

/-- The recovery from the outage. -/
def sampleRecovery : SupervisorMetric where
  items := [(.str "failure_detected_wall_ns", .int 2000000000),
    (.str "latest_supervisor_started_sequence", .int 1),
    (.str "readiness_false_wall_ns", .int 3000000000),
    (.str "ready_restored_wall_ns", .int 6000000000), (.str "restart_count", .int 1),
    (.str "restart_pairs", .list [.dict [(.str "child_started_wall_ns", .int 5000000000),
      (.str "restart_scheduled_wall_ns", .int 4000000000)]]),
    (.str "supervisor_recovery_time_wall_s", .float (some 4))]
  present := by
    intro path hpath
    rcases List.mem_pair.mp hpath with rfl | rfl <;> exact PyValue.noConfusion

/-- The analyses, as they answer for the run with the outage. -/
def outageAnalyses : Analyses :=
  { sampleAnalyses with supervisorRecoveryMetrics := fun _ => .ok sampleRecovery }

/-- The verdict of a run that fails. -/
def sampleVerdict : Run → Components → Report → Except Stop Items :=
  fun _ _ _ => .ok [(.str "automated_status", .str "FAIL")]

/-- The number of restarts is `None` without a reason. -/
theorem sample_unexplained :
  ((analyzeRun sampleAnalyses sampleVerdict sampleRequest).toOption.map fun result =>
    isNone ((result.report.measurements.get? "restart_count").getD (.int 0)) &&
      (result.report.unavailable.get? (metricPath "restart_count")).isNone) = some true
  := by
  decide +kernel

/-- A measurement of the supervisor is `None` without a reason. -/
theorem null_without_reason :
  ¬ ∀ (A : Analyses) (verdict : Run → Components → Report → Except Stop Items) (request : Items)
      (result : RunResult), analyzeRun A verdict request = .ok result → Accounts result
  := by
  intro hall
  obtain ⟨result, hresult, hcheck⟩ := exists_eq_ok sample_unexplained
  rw [Bool.and_eq_true, Option.isNone_iff_eq_none] at hcheck
  obtain ⟨hvalue, hnone⟩ := hcheck
  have haccounts := (hall _ _ _ result hresult).reasons "restart_count" .none
  cases hget : result.report.measurements.get? "restart_count" with
  | none =>
      rw [hget] at hvalue
      cases hvalue
  | some value =>
      rw [hget, Option.getD_some, isNone_iff] at hvalue
      rw [hget, hvalue] at haccounts
      obtain ⟨reason, hreason, -⟩ := (haccounts rfl).mp rfl
      rw [hnone] at hreason
      cases hreason

/-- The mission says how many waypoints were completed, and the recovery of the supervisor is
measured. -/
def measuresRecovery (A : Analyses) (request : Items) (run : Run) : Bool :=
  !isNone (item "completed_waypoint_count" run.missionMeasurements) && !run.isScenario 4 &&
    (supervisorRecovery A run (item "supervisor_events" request)).isOk

theorem complete_of_measuresRecovery {A : Analyses} {request : Items} {run : Run}
    (h : measuresRecovery A request run = true) :
  Complete A request run
  := by
  simp only [measuresRecovery, Bool.and_eq_true, Bool.not_eq_true'] at h
  obtain ⟨⟨hcompleted, hscenario⟩, hrecovery⟩ := h
  constructor
  · intro hnone
    rw [hnone] at hcompleted
    cases hcompleted
  · intro evidence _ hfour
    rw [hscenario] at hfour
    cases hfour
  · intro _
    cases hsupervisor : supervisorRecovery A run (item "supervisor_events" request) with
    | error e =>
        rw [hsupervisor] at hrecovery
        cases hrecovery
    | ok metric => exact ⟨metric, rfl⟩

theorem sample_measured :
  ((analyzeRun outageAnalyses sampleVerdict outageRequest).toOption.map fun result =>
    (measuresRecovery outageAnalyses outageRequest result.run,
      (result.report.measurements.get? "restart_count").bind PyValue.asInteger)) =
    some (true, some 1)
  := by
  decide +kernel

/-- A log that is not measured leaves measurements without a reason, and a run with one outage
accounts for all of them. -/
theorem reasons_complete_sample :
  (∃ run result, readRun sampleAnalyses sampleRequest = .ok run ∧
    analyzeRun sampleAnalyses sampleVerdict sampleRequest = .ok result ∧
    (Accounts result ↔ Complete sampleAnalyses sampleRequest run)) ∧
  ∃ result, analyzeRun outageAnalyses sampleVerdict outageRequest = .ok result ∧
    (result.report.measurements.get? "restart_count").bind PyValue.asInteger = some 1 ∧
    Accounts result
  := by
  constructor
  · obtain ⟨result, hresult, -⟩ := exists_eq_ok sample_unexplained
    obtain ⟨run, hrun, -⟩ := Except.bind_eq_ok_iff.mp hresult
    exact ⟨run, result, hrun, hresult, reasons_complete hrun hresult⟩
  · obtain ⟨result, hresult, hcheck⟩ := exists_eq_ok sample_measured
    obtain ⟨hmeasures, hcount⟩ := Prod.mk.inj hcheck
    obtain ⟨run, hrun, hrest⟩ := Except.bind_eq_ok_iff.mp hresult
    obtain rfl := (analyzeRun_eq_ok hrun hresult).1
    have hcomplete := complete_of_measuresRecovery hmeasures
    exact ⟨result, hresult, hcount, (reasons_complete hrun hresult).mpr hcomplete⟩

end Sample

end RunAnalysis

end Metrics

end RobotestLab
