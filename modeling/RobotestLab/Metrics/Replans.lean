import RobotestLab.Metrics.PlanPartition

/-!
# Replans

The analysis of the plans in terms of the accepted ones. Every plan is counted once, in the leg of
its instant or in a diagnostic, and the replans are the changes of the geometry along the legs. A
plan that is published again, before anything else happens, changes neither the replans nor the
initial lengths.
-/

namespace RobotestLab

namespace Metrics

open PyFloat PyArithmetic PyPathArithmetic

variable {F64 : Type}

/-! ### Results of the legs -/

theorem countReplans_eq {last : String} {plans : List (AcceptedPlan F64)} :
  countReplans last plans = geometryChanges (last :: plans.map AcceptedPlan.geometrySha256)
  := by
  induction plans generalizing last with
  | nil => rfl
  | cons plan plans ih =>
      unfold countReplans
      rw [List.map_cons, geometryChanges_cons_cons]
      split
      · rename_i hne
        rw [ih, if_pos hne.symm]
      · rename_i heq
        rw [ih, not_not.mp heq]
        simp

/-- The length of the first plan. -/
def initialLength (plans : List (AcceptedPlan F64)) : Option F64 :=
    plans.head?.map AcceptedPlan.lengthM

/-- The changes of the geometry along the plans. -/
def replansOf (plans : List (AcceptedPlan F64)) : Nat :=
  geometryChanges (plans.map AcceptedPlan.geometrySha256)

theorem legResults_eq_ok {index : Nat} {legs : List (List (AcceptedPlan F64))}
    {results : List (LegResult F64)} (h : legResults index legs = .ok results) :
  results.map (fun result => some result.initialPlan.lengthM) = legs.map initialLength ∧
    results.map LegResult.replanCount = legs.map replansOf
  := by
  induction legs generalizing index results with
  | nil =>
      obtain rfl := Except.ok.inj h
      exact ⟨rfl, rfl⟩
  | cons plans legs ih =>
      unfold legResults at h
      obtain ⟨result, hresult, h⟩ := Except.bind_eq_ok_iff.mp h
      obtain ⟨rest, hrest, h⟩ := Except.bind_eq_ok_iff.mp h
      obtain rfl := Except.ok.inj h
      obtain ⟨hinitial, hreplans⟩ := ih hrest
      cases plans with
      | nil => cases hresult
      | cons plan plans =>
          obtain rfl := Except.ok.inj hresult
          rw [List.map_cons, List.map_cons, List.map_cons, List.map_cons, hinitial, hreplans]
          refine ⟨rfl, ?_⟩
          dsimp only
          rw [countReplans_eq]
          rfl

/-- Legs that have a plan each have results. -/
theorem exists_legResults {index : Nat} {legs : List (List (AcceptedPlan F64))}
    (h : ∀ plans ∈ legs, plans ≠ []) :
  ∃ results, legResults index legs = .ok results
  := by
  induction legs generalizing index with
  | nil => exact ⟨[], rfl⟩
  | cons plans legs ih =>
      obtain ⟨results, hresults⟩ := @ih (index + 1) fun l hl => h l (List.mem_cons_of_mem _ hl)
      cases plans with
      | nil => exact absurd rfl (h [] List.mem_cons_self)
      | cons plan plans =>
          unfold legResults legResult
          rw [Except.ok_bind, hresults, Except.ok_bind]
          exact ⟨_, rfl⟩

theorem missingLegs_eq_nil_iff {legs : List (List (AcceptedPlan F64))} :
  missingLegs legs = [] ↔ ∀ plans ∈ legs, plans ≠ []
  := by
  unfold missingLegs
  rw [List.filterMap_eq_nil_iff]
  constructor
  · intro h plans hplans
    obtain ⟨i, hi, rfl⟩ := List.mem_iff_getElem.mp hplans
    have hmem : (legs[i], i) ∈ legs.zipIdx := by
      rw [List.mem_zipIdx_iff_getElem?]
      exact List.getElem?_eq_getElem hi
    have hnone := h _ hmem
    intro hnil
    rw [hnil] at hnone
    cases hnone
  · intro h entry hentry
    have hne := h entry.1 (List.fst_mem_of_mem_zipIdx hentry)
    rw [if_neg]
    rw [List.isEmpty_iff]
    exact hne

/-! ### Legs that are republished -/

/-- Two legs with the same initial length and as many replans. -/
def SameLeg (plans plans' : List (AcceptedPlan F64)) : Prop :=
  initialLength plans' = initialLength plans ∧ replansOf plans' = replansOf plans

namespace SameLeg

variable {before after : List (AcceptedPlan F64)} {plan copy : AcceptedPlan F64}

theorem ne_nil {plans plans' : List (AcceptedPlan F64)} (h : SameLeg plans plans')
    (hne : plans ≠ []) :
  plans' ≠ []
  := by
  rintro rfl
  cases plans with
  | nil => exact hne rfl
  | cons plan plans => cases h.1

theorem hashes_shift :
  (after.map AcceptedPlan.shift).map AcceptedPlan.geometrySha256 =
    after.map AcceptedPlan.geometrySha256
  := by
  rw [List.map_map]
  rfl

/-- Plans that only move to other places. -/
theorem moved : SameLeg (before ++ after) (before ++ after.map AcceptedPlan.shift)
  := by
  constructor
  · unfold initialLength
    cases before with
    | nil =>
        cases after with
        | nil => rfl
        | cons a after => rfl
    | cons b before => rfl
  · unfold replansOf
    rw [List.map_append, hashes_shift, ← List.map_append]

/-- A plan of the leg that is accepted twice. -/
theorem twice (hhash : copy.geometrySha256 = plan.geometrySha256) :
  SameLeg (before ++ plan :: after) (before ++ plan :: copy :: after.map AcceptedPlan.shift)
  := by
  constructor
  · unfold initialLength
    cases before with
    | nil => rfl
    | cons b before => rfl
  · unfold replansOf
    rw [List.map_append, List.map_cons, List.map_cons, hashes_shift, hhash, geometryChanges_repeat,
      List.map_append, List.map_cons]

/-- A plan of another leg that is accepted twice. -/
theorem of_filter {k : Nat} {extra : List (AcceptedPlan F64)} (hextra : extra = [] ∨ extra = [copy])
    (hhash : copy.geometrySha256 = plan.geometrySha256)
    (hleg : copy.waypointIndex = plan.waypointIndex) :
  SameLeg ((before ++ plan :: after).filter fun plan => plan.waypointIndex = k)
    ((before ++ plan :: (extra ++ after.map AcceptedPlan.shift)).filter fun plan =>
      plan.waypointIndex = k)
  := by
  have hshift : (after.map AcceptedPlan.shift).filter (fun plan => plan.waypointIndex = k) =
      (after.filter fun plan => plan.waypointIndex = k).map AcceptedPlan.shift := by
    rw [List.filter_map]
    rfl
  rw [List.filter_append, List.filter_append, List.filter_cons, List.filter_cons,
    List.filter_append, hshift]
  by_cases hk : plan.waypointIndex = k
  · rw [if_pos (by simpa using hk), if_pos (by simpa using hk)]
    rcases hextra with rfl | rfl
    · rw [← List.singleton_append, ← List.append_assoc,
        ← @List.singleton_append _ plan (List.filter _ [] ++ _), ← List.append_assoc,
        List.filter_nil,
        List.nil_append]
      apply moved
    · rw [List.filter_cons_of_pos (by simpa [hleg] using hk), List.filter_nil]
      apply twice hhash
  · rw [if_neg (by simpa using hk), if_neg (by simpa using hk)]
    have hnil : extra.filter (fun plan => plan.waypointIndex = k) = [] := by
      rcases hextra with rfl | rfl
      · rfl
      · rw [List.filter_cons_of_neg (by simpa [hleg] using hk), List.filter_nil]
    rw [hnil, List.nil_append]
    apply moved

/-- Legs that are the same one by one. -/
theorem of_binned {n : Nat} {plans plans' : List (AcceptedPlan F64)}
    (h : ∀ k, SameLeg (plans.filter fun plan => plan.waypointIndex = k)
      (plans'.filter fun plan => plan.waypointIndex = k)) :
  (binned n AcceptedPlan.waypointIndex plans').map initialLength =
      (binned n AcceptedPlan.waypointIndex plans).map initialLength ∧
    (binned n AcceptedPlan.waypointIndex plans').map replansOf =
      (binned n AcceptedPlan.waypointIndex plans).map replansOf ∧
    ((∀ leg ∈ binned n AcceptedPlan.waypointIndex plans, leg ≠ []) →
      ∀ leg ∈ binned n AcceptedPlan.waypointIndex plans', leg ≠ [])
  := by
  unfold binned
  simp only [List.map_map]
  refine ⟨?_, ?_, ?_⟩
  · apply List.map_congr_left
    intro k _
    apply (h k).1
  · apply List.map_congr_left
    intro k _
    apply (h k).2
  · intro hne leg hleg
    obtain ⟨k, hk, rfl⟩ := List.mem_map.mp hleg
    apply (h k).ne_nil
    apply hne
    apply List.mem_map_of_mem hk

end SameLeg

/-! ### Summary -/

variable [PyPathArithmetic F64]

/-- The initial length of all the legs together. -/
def initialTotal (legs : List (List (AcceptedPlan F64))) : F64 :=
  ((legs.map initialLength).filterMap id).foldl add zero

theorem summarizePlans_eq_ok {legs : PlanLegs F64} {result : PlanAnalysis F64}
    (h : summarizePlans legs = .ok result) :
  (∀ plans ∈ legs.perLeg, plans ≠ []) ∧
    result.diagnostics = legs.diagnostics ∧ result.plannedPathLengthsM = legs.perLeg.flatten ∧
    result.replanCount = (legs.perLeg.map replansOf).sum ∧
    result.initialPlannedPathLengthM = initialTotal legs.perLeg
  := by
  unfold summarizePlans at h
  dsimp only at h
  split at h
  · cases h
  · rename_i hmissing
    obtain ⟨results, hresults, h⟩ := Except.bind_eq_ok_iff.mp h
    obtain rfl := Except.ok.inj h
    obtain ⟨hinitial, hreplans⟩ := legResults_eq_ok hresults
    refine ⟨?_, rfl, rfl, ?_, ?_⟩
    · apply missingLegs_eq_nil_iff.mp
      simpa using hmissing
    · rw [hreplans]
    · dsimp only
      unfold initialTotal
      have hlengths : (legs.perLeg.map initialLength).filterMap id =
          results.map fun result => result.initialPlan.lengthM := by
        rw [← hinitial, List.filterMap_map]
        exact congrFun List.filterMap_eq_map results
      rw [hlengths, List.foldl_map]

theorem exists_summarizePlans {legs : PlanLegs F64} (h : ∀ plans ∈ legs.perLeg, plans ≠ []) :
  ∃ result, summarizePlans legs = .ok result
  := by
  obtain ⟨results, hresults⟩ := @exists_legResults _ 0 legs.perLeg h
  unfold summarizePlans
  dsimp only
  rw [missingLegs_eq_nil_iff.mpr h, hresults]
  exact ⟨_, rfl⟩

/-! ### The analysis -/

section Analysis

variable {sha256 : List UInt8 → String} {plans feedback : List Evidence} {waypoints : List PyValue}
  {start stop : Int} {result : PlanAnalysis F64}

/-- What an analysis that succeeds has read and assigned. -/
structure Analysed (sha256 : List UInt8 → String) (plans feedback : List Evidence)
    (waypoints : List PyValue) (start stop : Int) (normalized : List (PlanarPose F64))
    (transitions : List Transition) (assignments : List (Assignment F64)) : Prop where
  positive : start < stop
  configured : normalizeConfiguredWaypoints waypoints = .ok normalized
  accepted : feedbackTransitions feedback normalized.length start stop = .ok transitions
  ordered : plans.Pairwise fun plan plan' => orderOf plan < orderOf plan'
  assigned : List.Forall₂ (Assigned sha256 normalized transitions start stop)
    (plans.zipIdx 0) assignments

/-- The legs of an analysis. -/
def analysedLegs (normalized : List (PlanarPose F64)) (assignments : List (Assignment F64)) :
    PlanLegs F64 :=
  ⟨binned normalized.length AcceptedPlan.waypointIndex (acceptedOf assignments),
    diagnosticsOf assignments⟩

theorem analyzePlans_eq_ok_iff :
  analyzePlans sha256 plans feedback waypoints (.int start) (.int stop) = .ok result ↔
    ∃ normalized transitions assignments,
      Analysed sha256 plans feedback waypoints start stop normalized transitions assignments ∧
      summarizePlans (analysedLegs normalized assignments) = .ok result
  := by
  have hfold (normalized : List (PlanarPose F64)) (assignments : List (Assignment F64)) :
      assignments.foldl PlanLegs.place ⟨List.replicate normalized.length [], []⟩ =
        analysedLegs normalized assignments := by
    rw [← @Bins.nil _ _ AcceptedPlan.waypointIndex, foldl_place]
    rfl
  unfold analyzePlans
  rw [requireInt_eq_ok_iff.mpr rfl, requireInt_eq_ok_iff.mpr rfl, Except.ok_bind, Except.ok_bind]
  constructor
  · intro h
    split at h
    · cases h
    · rename_i hpositive
      obtain ⟨normalized, hnormalized, h⟩ := Except.bind_eq_ok_iff.mp h
      obtain ⟨transitions, htransitions, h⟩ := Except.bind_eq_ok_iff.mp h
      obtain ⟨legs, hlegs, h⟩ := Except.bind_eq_ok_iff.mp h
      obtain ⟨-, hordered, assignments, hassigned, rfl⟩ := assignPlans_eq_ok_iff.mp hlegs
      rw [hfold] at h
      exact ⟨normalized, transitions, assignments,
        ⟨not_le.mp hpositive, hnormalized, htransitions, hordered, hassigned⟩, h⟩
  · rintro ⟨normalized, transitions, assignments, hanalysed, h⟩
    have hlegs : assignPlans sha256 normalized transitions start stop none 0
        ⟨List.replicate normalized.length [], []⟩ plans =
          .ok (assignments.foldl PlanLegs.place ⟨List.replicate normalized.length [], []⟩) :=
      assignPlans_eq_ok_iff.mpr ⟨nofun, hanalysed.ordered, assignments, hanalysed.assigned, rfl⟩
    rw [if_neg (not_le.mpr hanalysed.positive), hanalysed.configured, Except.ok_bind,
      hanalysed.accepted, Except.ok_bind, hlegs, Except.ok_bind, hfold, h]

theorem normalizeWaypoints_length {index : Nat} {waypoints : List PyValue}
    {normalized : List (PlanarPose F64)} (h : normalizeWaypoints index waypoints = .ok normalized) :
  normalized.length = waypoints.length
  := by
  induction waypoints generalizing index normalized with
  | nil =>
      obtain rfl := Except.ok.inj h
      rfl
  | cons waypoint waypoints ih =>
      unfold normalizeWaypoints at h
      split at h
      · cases h
      · obtain ⟨x, -, h⟩ := Except.bind_eq_ok_iff.mp h
        obtain ⟨y, -, h⟩ := Except.bind_eq_ok_iff.mp h
        obtain ⟨yaw, -, h⟩ := Except.bind_eq_ok_iff.mp h
        obtain ⟨rest, hrest, h⟩ := Except.bind_eq_ok_iff.mp h
        obtain rfl := Except.ok.inj h
        rw [List.length_cons, List.length_cons, ih hrest]

namespace Analysed

variable {normalized : List (PlanarPose F64)} {transitions : List Transition}
  {assignments : List (Assignment F64)}

theorem length_eq
    (h : Analysed sha256 plans feedback waypoints start stop normalized transitions assignments) :
  normalized.length = waypoints.length
  := normalizeWaypoints_length h.configured

theorem placed
    (h : Analysed sha256 plans feedback waypoints start stop normalized transitions assignments)
    (hrange : ∀ plan ∈ plans, SequenceInRange plan) :
  List.Forall₂ (Placed waypoints.length feedback start stop) (plans.zipIdx 0) assignments
  := by
  rw [← h.length_eq]
  apply forall₂_placed h.accepted hrange h.assigned

/-- The accepted plans are in order. -/
theorem acceptedOf_ordered
    (h : Analysed sha256 plans feedback waypoints start stop normalized transitions assignments)
    (hrange : ∀ plan ∈ plans, SequenceInRange plan) :
  (acceptedOf assignments).Pairwise fun plan plan' => plan.planIndex < plan'.planIndex
  := by
  have hindices : (assignments.map Assignment.index).Pairwise (· < ·) := by
    rw [map_index_eq (h.placed hrange), List.zipIdx_map_snd]
    exact List.pairwise_lt_range'
  apply List.pairwise_filterMap.mpr
  apply (List.pairwise_map.mp hindices).imp
  intro assignment assignment' hlt plan hplan plan' hplan'
  cases assignment with
  | diagnosed => cases hplan
  | accepted =>
      cases assignment' with
      | diagnosed => cases hplan'
      | accepted =>
          obtain rfl := Option.some.inj hplan
          obtain rfl := Option.some.inj hplan'
          exact hlt

end Analysed

/-- The account of the plans in an analysis: the diagnostic about feedback is never made, every plan
is diagnosed or accepted once, an accepted plan is in the leg of its instant, and the replans are
the changes of the geometry along the accepted plans of the legs. -/
structure PlanAccount (plans feedback : List Evidence) (start stop : Int) (legCount : Nat)
    (result : PlanAnalysis F64) : Prop where
  reachable : ∀ diagnostic ∈ result.diagnostics, diagnostic.reason ≠ .noFeedbackLeg
  once : (result.diagnostics.map PlanDiagnostic.planIndex ++
    result.plannedPathLengthsM.map AcceptedPlan.planIndex).Perm (List.range plans.length)
  leg : ∀ accepted ∈ result.plannedPathLengthsM, ∃ plan, plans[accepted.planIndex]? = some plan ∧
    accepted.order = orderOf plan ∧ start ≤ stampOf plan ∧ stampOf plan ≤ stop ∧
    (accepted.waypointIndex : Int) = feedbackLeg feedback start stop (orderOf plan) ∧
    accepted.waypointIndex < legCount
  inOrder : ∀ k, (result.plannedPathLengthsM.filter fun plan => plan.waypointIndex = k).Pairwise
    fun plan plan' => plan.planIndex < plan'.planIndex
  replans : result.replanCount = ((List.range legCount).map fun k =>
    replansOf (result.plannedPathLengthsM.filter fun plan => plan.waypointIndex = k)).sum

theorem planAccount_of_analyzePlans (hrange : ∀ plan ∈ plans, SequenceInRange plan)
    (h : analyzePlans sha256 plans feedback waypoints (.int start) (.int stop) = .ok result) :
  PlanAccount plans feedback start stop waypoints.length result
  := by
  obtain ⟨normalized, transitions, assignments, hanalysed, hsum⟩ := analyzePlans_eq_ok_iff.mp h
  obtain ⟨-, hdiagnostics, hplanned, hreplans, -⟩ := summarizePlans_eq_ok hsum
  have hplaced := hanalysed.placed hrange
  have hbins : ∀ plan ∈ acceptedOf assignments, plan.waypointIndex < normalized.length := by
    intro plan hplan
    obtain ⟨-, -, -, -, -, -, hcount⟩ := mem_acceptedOf hplaced hplan
    rw [hanalysed.length_eq]
    exact hcount
  have hperm : result.plannedPathLengthsM.Perm (acceptedOf assignments) := by
    rw [hplanned]
    apply Bins.flatten_perm hbins
  have hfilter (k : Nat) : result.plannedPathLengthsM.filter (fun plan => plan.waypointIndex = k) =
      if k < normalized.length then (acceptedOf assignments).filter
        (fun plan => plan.waypointIndex = k)
      else [] := by
    rw [hplanned]
    apply Bins.filter_flatten
  constructor
  · intro diagnostic hdiagnostic
    rw [hdiagnostics] at hdiagnostic
    apply mem_diagnosticsOf hplaced hdiagnostic
  · rw [hdiagnostics]
    apply ((hperm.map AcceptedPlan.planIndex).append_left _).trans
    apply indices_perm.trans
    rw [map_index_eq hplaced, List.zipIdx_map_snd, List.range_eq_range']
  · intro accepted haccepted
    obtain ⟨⟨plan, index⟩, hentry, hindex, horder, hinside, hleg, hcount⟩ :=
      mem_acceptedOf hplaced (hperm.subset haccepted)
    refine ⟨plan, ?_, horder, hinside.1, hinside.2, hleg, hcount⟩
    rw [hindex]
    exact List.mem_zipIdx_iff_getElem?.mp hentry
  · intro k
    rw [hfilter]
    split
    · apply (hanalysed.acceptedOf_ordered hrange).filter
    · apply List.Pairwise.nil
  · rw [hreplans]
    congr 1
    unfold analysedLegs binned
    rw [List.map_map, hanalysed.length_eq]
    apply List.map_congr_left
    intro k hk
    rw [hfilter, hanalysed.length_eq, if_pos (List.mem_range.mp hk)]
    rfl

end Analysis

/-! ### Republication -/

/-- The copy is the plan, published again right after it: it comes later, and no feedback of the
action lies in between. -/
structure Republication (feedback : List Evidence) (start stop : Int)
    (plan copy : Evidence) : Prop where
  frame : PyValue.item "frame_id" copy = PyValue.item "frame_id" plan
  poses : PyValue.item "poses" copy = PyValue.item "poses" plan
  instant : HasOrder copy
  range : SequenceInRange copy
  later : orderOf plan < orderOf copy
  undisturbed : ∀ sample ∈ feedback, inInterval start stop sample = true →
    orderOf sample ≤ orderOf plan ∨ orderOf copy < orderOf sample

section Republished

variable {sha256 : List UInt8 → String} {plans feedback : List Evidence} {waypoints : List PyValue}
  {start stop : Int} {result : PlanAnalysis F64} {normalized : List (PlanarPose F64)}
  {transitions : List Transition} {plan copy : Evidence} {index : Nat} {accepted : AcceptedPlan F64}

/-- A plan that is accepted was inside, in a leg, and measured. -/
theorem assignPlan_eq_accepted
    (h : assignPlan sha256 normalized transitions start stop index (orderOf plan) plan =
      .ok (.accepted accepted)) :
  (¬ orderOf plan < toLex (start, -1) ∧ ¬ toLex (stop, TERMINAL_SEQUENCE) < orderOf plan) ∧
    legIndexOf (legsOf transitions start stop) (orderOf plan) = some accepted.waypointIndex ∧
    measurePlan sha256 normalized accepted.waypointIndex plan =
      .ok ⟨accepted.endpointErrorM, accepted.geometrySha256, accepted.lengthM⟩
  := by
  unfold assignPlan at h
  split at h
  · cases h
  · rename_i hout
    rw [not_or] at hout
    cases hleg : legIndexOf (legsOf transitions start stop) (orderOf plan) with
    | none =>
        rw [hleg] at h
        cases h
    | some leg =>
        rw [hleg] at h
        dsimp only at h
        unfold assignInLeg at h
        cases hmeasure : measurePlan sha256 normalized leg plan with
        | error error =>
            rw [hmeasure] at h
            cases error with
            | _ => cases h
        | ok measure =>
            rw [hmeasure] at h
            obtain rfl := Assignment.accepted.inj (Except.ok.inj h)
            exact ⟨hout, rfl, hmeasure⟩

/-- A copy of an accepted plan is too late, or it is accepted in the same leg. -/
theorem assignPlan_copy
    (hfeedback : feedbackTransitions feedback normalized.length start stop = .ok transitions)
    (hrange : SequenceInRange plan) (hcopy : Republication feedback start stop plan copy)
    (h : assignPlan sha256 normalized transitions start stop index (orderOf plan) plan =
      .ok (.accepted accepted)) :
  ∃ assignment : Assignment F64,
    assignPlan sha256 normalized transitions start stop (index + 1) (orderOf copy) copy =
      .ok assignment ∧
    ∃ again : AcceptedPlan F64, (acceptedOf [assignment] = [] ∨ acceptedOf [assignment] = [again]) ∧
      again.geometrySha256 = accepted.geometrySha256 ∧ again.waypointIndex = accepted.waypointIndex
  := by
  obtain ⟨hinside, hindex, hmeasure⟩ := assignPlan_eq_accepted h
  have hstart : ¬ orderOf copy < toLex (start, -1) := by
    intro hlt
    exact hinside.1 (lt_trans hcopy.later hlt)
  by_cases hstop : toLex (stop, TERMINAL_SEQUENCE) < orderOf copy
  · refine ⟨.diagnosed ⟨index + 1, .outsideActionInterval⟩, ?_, accepted, Or.inl rfl, rfl, rfl⟩
    unfold assignPlan
    rw [if_pos (Or.inr hstop)]
  · have hstamps := stamp_of_bounds hstart hstop
    have hplan := stamp_of_bounds hinside.1 hinside.2
    obtain ⟨hfrom, hto⟩ := bounds_of_stamp hstamps.1 hstamps.2 hcopy.range.1 hcopy.range.2
    obtain ⟨hfrom', hto'⟩ := bounds_of_stamp hplan.1 hplan.2 hrange.1 hrange.2
    obtain ⟨leg, hleg, -, hleg', -⟩ := legIndexOf_eq hfeedback hfrom hto
    obtain ⟨leg', hof, -, hof', -⟩ := legIndexOf_eq hfeedback hfrom' hto'
    -- Without feedback in between, the copy is in the leg of the plan.
    have hsame : leg = accepted.waypointIndex := by
      have heq := feedbackLeg_eq (le_of_lt hcopy.later) hcopy.undisturbed
      have hindex := Option.some.inj (hof'.symm.trans hindex)
      omega
    have hmeasure' : measurePlan sha256 normalized leg copy =
        .ok ⟨accepted.endpointErrorM, accepted.geometrySha256, accepted.lengthM⟩ := by
      rw [← hmeasure, hsame]
      unfold measurePlan
      rw [hcopy.frame, hcopy.poses]
    have hassign : assignPlan sha256 normalized transitions start stop (index + 1)
        (orderOf copy) copy =
        .ok (.accepted ⟨sequenceOfOrder (orderOf copy), accepted.endpointErrorM,
          accepted.geometrySha256, accepted.lengthM, index + 1,
          stampOfOrder (orderOf copy), leg⟩) := by
      unfold assignPlan
      rw [if_neg (not_or.mpr ⟨hstart, hstop⟩), hleg']
      dsimp only
      unfold assignInLeg
      rw [hmeasure']
    exact ⟨_, hassign, _, Or.inr rfl, rfl, hsame⟩

theorem ordered_insert {before after : List Evidence}
    (h : (before ++ plan :: after).Pairwise fun plan plan' => orderOf plan < orderOf plan')
    (hlater : orderOf plan < orderOf copy) (hnext : ∀ next ∈ after, orderOf copy < orderOf next) :
  (before ++ plan :: copy :: after).Pairwise fun plan plan' => orderOf plan < orderOf plan'
  := by
  obtain ⟨hbefore, hafter, hcross⟩ := List.pairwise_append.mp h
  obtain ⟨hplan, hafter⟩ := List.pairwise_cons.mp hafter
  have hcopy : ∀ plan' ∈ copy :: after, orderOf plan < orderOf plan' := by
    intro plan' hplan'
    rcases List.mem_cons.mp hplan' with rfl | hplan'
    · apply hlater
    · apply hplan plan' hplan'
  refine List.pairwise_append.mpr ⟨hbefore, ?_, ?_⟩
  · apply List.pairwise_cons.mpr ⟨hcopy, List.pairwise_cons.mpr ⟨hnext, hafter⟩⟩
  · intro b hb plan' hplan'
    have hlt := hcross b hb plan List.mem_cons_self
    rcases List.mem_cons.mp hplan' with rfl | hplan'
    · apply hlt
    · apply lt_trans hlt (hcopy plan' hplan')

/-- The analysis after a plan was published again. -/
theorem analyzePlans_republished {before after : List Evidence}
    (hrange : ∀ plan' ∈ before ++ plan :: after, SequenceInRange plan')
    (h : analyzePlans sha256 (before ++ plan :: after) feedback waypoints (.int start) (.int stop) =
      .ok result)
    (haccepted : accepted ∈ result.plannedPathLengthsM)
    (hindex : accepted.planIndex = before.length)
    (hcopy : Republication feedback start stop plan copy)
    (hnext : ∀ next ∈ after, orderOf copy < orderOf next) :
  ∃ result', analyzePlans sha256 (before ++ plan :: copy :: after) feedback waypoints (.int start)
      (.int stop) = .ok result' ∧
    result'.replanCount = result.replanCount ∧
    result'.initialPlannedPathLengthM = result.initialPlannedPathLengthM
  := by
  obtain ⟨normalized, transitions, assignments, hanalysed, hsum⟩ := analyzePlans_eq_ok_iff.mp h
  obtain ⟨hne, -, hplanned, hreplans, hinitial⟩ := summarizePlans_eq_ok hsum
  have hplaced := hanalysed.placed hrange
  have hassigned := hanalysed.assigned
  rw [List.zipIdx_append, Nat.zero_add, List.zipIdx_cons] at hassigned hplaced
  obtain ⟨first, rest, rfl, hfirst, hrest⟩ := hassigned.exists_append
  obtain ⟨first', rest', heq, hfirst', hrest'⟩ := hplaced.exists_append
  obtain ⟨rfl, rfl⟩ : first = first' ∧ rest = rest' :=
    List.append_inj heq (hfirst.length_eq.symm.trans hfirst'.length_eq)
  cases hrest with
  | @cons _ assignment _ last hassignment hlast =>
      cases hrest' with
      | cons hplace hlast' =>
          obtain rfl : assignment = .accepted accepted := by
            apply eq_accepted hfirst' hplace hlast' _ hindex
            rw [hplanned] at haccepted
            apply Bins.mem_of_mem_flatten haccepted
          obtain ⟨assignment', hassignment', again, hagain, hhash, hleg⟩ :=
            assignPlan_copy hanalysed.accepted (hrange plan (by simp)) hcopy hassignment.2
          have hanalysed' : Analysed sha256 (before ++ plan :: copy :: after) feedback waypoints
              start stop normalized transitions
                (first ++ .accepted accepted :: assignment' :: last.map Assignment.shift) := by
            refine ⟨hanalysed.positive, hanalysed.configured, hanalysed.accepted, ?_, ?_⟩
            · apply ordered_insert hanalysed.ordered hcopy.later hnext
            · rw [List.zipIdx_append, Nat.zero_add, List.zipIdx_cons, List.zipIdx_cons]
              apply List.rel_append hfirst
              exact .cons hassignment (.cons ⟨hcopy.instant, hassignment'⟩ (forall₂_shift hlast))
          have hsame (k : Nat) := @SameLeg.of_filter _ (acceptedOf first)
            (acceptedOf last) accepted again k (acceptedOf [assignment']) hagain hhash hleg
          have haccepted : acceptedOf (first ++ .accepted accepted :: assignment' ::
              last.map Assignment.shift) = acceptedOf first ++
                accepted :: (acceptedOf [assignment'] ++
                  (acceptedOf last).map AcceptedPlan.shift) := by
            rw [acceptedOf_append, acceptedOf_accepted, ← acceptedOf_shift, ← acceptedOf_append]
            rfl
          have hbefore : acceptedOf (first ++ .accepted accepted :: last) =
              acceptedOf first ++ accepted :: acceptedOf last := by
            rw [acceptedOf_append, acceptedOf_accepted]
          obtain ⟨hlengths, hchanges, hnonempty⟩ := @SameLeg.of_binned _ normalized.length _ _ hsame
          rw [← haccepted, ← hbefore] at hlengths hchanges hnonempty
          obtain ⟨result', hresult'⟩ := @exists_summarizePlans _ _ (analysedLegs normalized _)
            (hnonempty hne)
          obtain ⟨-, -, -, hreplans', hinitial'⟩ := summarizePlans_eq_ok hresult'
          refine ⟨result', analyzePlans_eq_ok_iff.mpr ⟨_, _, _, hanalysed', hresult'⟩, ?_, ?_⟩
          · rw [hreplans', hreplans]
            exact congrArg List.sum hchanges
          · rw [hinitial', hinitial]
            unfold initialTotal
            exact congrArg (fun lengths => (lengths.filterMap id).foldl add zero) hlengths

end Republished

/-! ### Partition of the plans -/

/-- In feedback that is accepted, a plan of the action is in exactly one leg, the one of the last
feedback that is not later, and no plan is without a leg. In an analysis that succeeds, every plan
is diagnosed or accepted once and the replans are the changes of the geometry along the legs. They
stay the same, with the initial lengths, when an accepted plan is published again right after it. -/
theorem plans_partition (sha256 : List UInt8 → String) (plans feedback : List Evidence)
    (waypoints : List PyValue) (start stop : Int) (hrange : ∀ plan ∈ plans, SequenceInRange plan) :
  (∀ waypointCount transitions,
    feedbackTransitions feedback waypointCount start stop = .ok transitions →
    ∀ plan ∈ plans,
      (start ≤ stampOf plan → stampOf plan ≤ stop → ∃ leg : Nat,
        (leg : Int) = feedbackLeg feedback start stop (orderOf plan) ∧ leg < waypointCount ∧
        legIndexOf (legsOf transitions start stop) (orderOf plan) = some leg ∧
        ∀ i bounds, (legsOf transitions start stop)[i]? = some bounds → bounds.1 ≤ orderOf plan →
          orderOf plan < bounds.2 → i = leg) ∧
      ∀ (normalized : List (PlanarPose F64)) (index : Nat),
        assignPlan sha256 normalized transitions start stop index (orderOf plan) plan ≠
          .ok (.diagnosed ⟨index, .noFeedbackLeg⟩)) ∧
  ∀ result : PlanAnalysis F64,
    analyzePlans sha256 plans feedback waypoints (.int start) (.int stop) = .ok result →
    PlanAccount plans feedback start stop waypoints.length result ∧
    ∀ before plan after, plans = before ++ plan :: after →
      ∀ accepted ∈ result.plannedPathLengthsM, accepted.planIndex = before.length →
        ∀ copy, Republication feedback start stop plan copy →
          (∀ next ∈ after, orderOf copy < orderOf next) →
          ∃ result', analyzePlans sha256 (before ++ plan :: copy :: after) feedback waypoints
              (.int start) (.int stop) = .ok result' ∧
            result'.replanCount = result.replanCount ∧
            result'.initialPlannedPathLengthM = result.initialPlannedPathLengthM
  := by
  constructor
  · intro waypointCount transitions hfeedback plan hplan
    have hplanRange := hrange plan hplan
    constructor
    · intro hstart hstop
      obtain ⟨hfrom, hto⟩ := bounds_of_stamp hstart hstop hplanRange.1 hplanRange.2
      apply legIndexOf_eq hfeedback hfrom hto
    · intro normalized index hassign
      cases placed_of_assignPlan hfeedback hplanRange hassign with
      | diagnosed reason hreason => exact hreason rfl
  · intro result h
    refine ⟨planAccount_of_analyzePlans hrange h, ?_⟩
    rintro before plan after rfl accepted haccepted hindex copy hcopy hnext
    apply analyzePlans_republished hrange h haccepted hindex hcopy hnext

section Sample

instance samplePathArithmetic : PyPathArithmetic ℚ where
  floor value := value.floor
  sum := List.sum

/-- Bytes as a text. -/
def sampleDigest (bytes : List UInt8) : String :=
    String.ofList (bytes.map fun b => Char.ofNat b.toNat)

def samplePoint (x y : Int) : PyValue := .dict [(.str "x_m", .int x), (.str "y_m", .int y)]

def samplePlan (stampNs sequence : Int) (points : List PyValue) : Evidence :=
  [(.str "stamp_ns", .int stampNs), (.str "collector_sequence", .int sequence),
    (.str "frame_id", .str "map"), (.str "poses", .list points)]

def sampleFeedback (stampNs sequence waypoint : Int) : Evidence :=
  [(.str "stamp_ns", .int stampNs), (.str "collector_sequence", .int sequence),
    (.str "current_waypoint", .int waypoint)]

def sampleWaypoint (x y : Int) : PyValue :=
  .dict [(.str "x", .int x), (.str "y", .int y), (.str "yaw", .int 0)]

/-- A plan to the first waypoint, and one to the second waypoint after the feedback at the same
stamp. -/
def sampleFirstPlan : Evidence := samplePlan 12 2 [samplePoint 0 0, samplePoint 1 0]

def sampleSecondPlan : Evidence := samplePlan 20 7 [samplePoint 1 0, samplePoint 1 1]

def samplePlans : List Evidence := [sampleFirstPlan, sampleSecondPlan]

def sampleFeedbacks : List Evidence := [sampleFeedback 10 1 0, sampleFeedback 20 6 1]

def sampleWaypoints : List PyValue := [sampleWaypoint 1 0, sampleWaypoint 1 1]

def sampleAnalysis : Except MetricError (PlanAnalysis ℚ) :=
  analyzePlans sampleDigest samplePlans sampleFeedbacks sampleWaypoints (.int 10) (.int 30)

/-- The first plan, published again. -/
def sampleCopy : Evidence := samplePlan 13 3 [samplePoint 0 0, samplePoint 1 0]

/-- Each plan belongs to its own leg, and the copy of the first plan is no replan. -/
theorem plans_partition_sample :
  ∃ result, sampleAnalysis = .ok result ∧ result.replanCount = 0 ∧
    PlanAccount samplePlans sampleFeedbacks 10 30 2 result ∧
    ∃ result' : PlanAnalysis ℚ, analyzePlans sampleDigest [sampleFirstPlan, sampleCopy,
      sampleSecondPlan] sampleFeedbacks sampleWaypoints (.int 10) (.int 30) = .ok result' ∧
      result'.replanCount = 0
  := by
  have hrange : ∀ plan ∈ samplePlans, SequenceInRange plan := by
    unfold SequenceInRange
    decide
  have hcopy : Republication sampleFeedbacks 10 30 sampleFirstPlan sampleCopy := by
    refine ⟨rfl, rfl, ⟨⟨13, rfl⟩, 3, rfl⟩, ?_, ?_, ?_⟩
    · unfold SequenceInRange
      decide
    · decide
    · decide
  have hnext : ∀ next ∈ [sampleSecondPlan], orderOf sampleCopy < orderOf next := by decide
  have hrun : sampleAnalysis.toOption.map (fun result => (result.replanCount,
      result.plannedPathLengthsM.map AcceptedPlan.planIndex)) = some (0, [0, 1]) := by
    decide +kernel
  obtain ⟨result, hresult, heq⟩ := exists_eq_ok hrun
  have hreplans := congrArg Prod.fst heq
  have hindices : 0 ∈ result.plannedPathLengthsM.map AcceptedPlan.planIndex := by
    rw [show result.plannedPathLengthsM.map AcceptedPlan.planIndex =
      [0, 1] from congrArg Prod.snd heq]
    exact List.mem_cons_self
  obtain ⟨accepted, haccepted, hindex⟩ := List.mem_map.mp hindices
  obtain ⟨haccount, hrepublished⟩ := (plans_partition sampleDigest samplePlans sampleFeedbacks
    sampleWaypoints 10 30 hrange).2 result hresult
  obtain ⟨result', hresult', hreplans', -⟩ := hrepublished [] sampleFirstPlan [sampleSecondPlan] rfl
    accepted haccepted hindex sampleCopy hcopy hnext
  exact ⟨result, hresult, hreplans, haccount, result', hresult', hreplans'.trans hreplans⟩

end Sample

end Metrics

end RobotestLab
