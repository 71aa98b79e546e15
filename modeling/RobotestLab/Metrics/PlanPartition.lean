import RobotestLab.Library.Bins
import RobotestLab.Library.Related
import RobotestLab.Metrics.PlanLegs

/-!
# Partition of the plans

Every plan is assigned once: to the leg of its instant, or to a diagnostic. The plans of a leg keep
their order, and the replans of the leg are the changes of the geometry along them.
-/

namespace RobotestLab

namespace Metrics

open PyFloat PyArithmetic PyPathArithmetic

/-- The number of neighbours that differ. -/
def geometryChanges (hashes : List String) : Nat :=
  (hashes.zip hashes.tail).countP fun pair => pair.1 ≠ pair.2

theorem geometryChanges_cons_cons {h h' : String} {hashes : List String} :
  geometryChanges (h :: h' :: hashes) = geometryChanges (h' :: hashes) + if h ≠ h' then 1 else 0
  := by
  unfold geometryChanges
  rw [List.tail_cons, List.zip_cons_cons, List.countP_cons]
  simp

/-- A hash that is repeated changes nothing. -/
theorem geometryChanges_repeat {h : String} {hashes hashes' : List String} :
  geometryChanges (hashes ++ h :: h :: hashes') = geometryChanges (hashes ++ h :: hashes')
  := by
  induction hashes with
  | nil =>
      rw [List.nil_append, List.nil_append, geometryChanges_cons_cons]
      simp
  | cons a hashes ih =>
      cases hashes with
      | nil =>
          simp only [List.cons_append, List.nil_append] at ih ⊢
          rw [geometryChanges_cons_cons, ih, ← geometryChanges_cons_cons]
      | cons b hashes =>
          simp only [List.cons_append] at ih ⊢
          rw [geometryChanges_cons_cons, ih, ← geometryChanges_cons_cons]

variable {F64 : Type}

/-! ### Assignments -/

namespace Assignment

def index : Assignment F64 → Nat
  | diagnosed diagnostic => diagnostic.planIndex
  | accepted plan => plan.planIndex

def plan? : Assignment F64 → Option (AcceptedPlan F64)
  | diagnosed _ => none
  | accepted plan => some plan

def diagnostic? : Assignment F64 → Option PlanDiagnostic
  | diagnosed diagnostic => some diagnostic
  | accepted _ => none

/-- The assignment of the same plan, one place further. -/
def shift : Assignment F64 → Assignment F64
  | diagnosed diagnostic => diagnosed { diagnostic with planIndex := diagnostic.planIndex + 1 }
  | accepted plan => accepted { plan with planIndex := plan.planIndex + 1 }

end Assignment

/-- The plan, one place further. -/
def AcceptedPlan.shift (plan : AcceptedPlan F64) : AcceptedPlan F64 :=
  { plan with planIndex := plan.planIndex + 1 }

def acceptedOf (assignments : List (Assignment F64)) : List (AcceptedPlan F64) :=
  assignments.filterMap Assignment.plan?

def diagnosticsOf (assignments : List (Assignment F64)) : List PlanDiagnostic :=
  assignments.filterMap Assignment.diagnostic?

section Cons

variable {diagnostic : PlanDiagnostic} {plan : AcceptedPlan F64}
  {assignments : List (Assignment F64)}

theorem acceptedOf_diagnosed :
  acceptedOf (.diagnosed diagnostic :: assignments) = acceptedOf assignments := rfl

theorem acceptedOf_accepted :
  acceptedOf (.accepted plan :: assignments) = plan :: acceptedOf assignments := rfl

theorem diagnosticsOf_diagnosed :
  diagnosticsOf (.diagnosed diagnostic :: assignments) =
    diagnostic :: diagnosticsOf assignments := rfl

theorem diagnosticsOf_accepted :
  diagnosticsOf (.accepted plan :: assignments) = diagnosticsOf assignments := rfl

theorem acceptedOf_append {assignments' : List (Assignment F64)} :
  acceptedOf (assignments ++ assignments') = acceptedOf assignments ++ acceptedOf assignments'
  := List.filterMap_append

end Cons

theorem acceptedOf_shift {assignments : List (Assignment F64)} :
  acceptedOf (assignments.map Assignment.shift) = (acceptedOf assignments).map AcceptedPlan.shift
  := by
  unfold acceptedOf
  rw [List.filterMap_map, List.map_filterMap]
  congr 1
  funext assignment
  cases assignment with
  | diagnosed d => rfl
  | accepted p => rfl

/-- The diagnostics and the accepted plans together have the indices of the assignments. -/
theorem indices_perm {assignments : List (Assignment F64)} :
  ((diagnosticsOf assignments).map PlanDiagnostic.planIndex ++
    (acceptedOf assignments).map AcceptedPlan.planIndex).Perm (assignments.map Assignment.index)
  := by
  induction assignments with
  | nil => exact List.Perm.nil
  | cons assignment assignments ih =>
      cases assignment with
      | diagnosed d => exact ih.cons d.planIndex
      | accepted p => exact List.perm_middle.trans (ih.cons p.planIndex)

theorem place_accepted {n : Nat} {plan : AcceptedPlan F64} {plans : List (AcceptedPlan F64)}
    {diagnostics : List PlanDiagnostic} :
  PlanLegs.place ⟨binned n AcceptedPlan.waypointIndex plans, diagnostics⟩ (.accepted plan) =
    ⟨binned n AcceptedPlan.waypointIndex (plans ++ [plan]), diagnostics⟩
  := by
  rw [← Bins.modify_eq]
  rfl

/-- The plans are put into the bins of their legs. -/
theorem foldl_place {n : Nat} {assignments : List (Assignment F64)}
    {plans : List (AcceptedPlan F64)} {diagnostics : List PlanDiagnostic} :
  assignments.foldl PlanLegs.place ⟨binned n AcceptedPlan.waypointIndex plans, diagnostics⟩ =
    ⟨binned n AcceptedPlan.waypointIndex (plans ++ acceptedOf assignments),
      diagnostics ++ diagnosticsOf assignments⟩
  := by
  induction assignments generalizing plans diagnostics with
  | nil => simp [acceptedOf, diagnosticsOf]
  | cons assignment assignments ih =>
      rw [List.foldl_cons]
      cases assignment with
      | diagnosed d =>
          apply ih.trans
          rw [acceptedOf_diagnosed, diagnosticsOf_diagnosed, List.append_assoc,
            List.singleton_append]
      | accepted p =>
          rw [place_accepted, ih, acceptedOf_accepted, diagnosticsOf_accepted, List.append_assoc,
            List.singleton_append]

/-! ### Placed plans -/

/-- What an assignment says about its plan: an accepted plan is in the leg of its instant, and there
is always one. -/
inductive Placed (waypointCount : Nat) (feedback : List Evidence) (start stop : Int)
    (entry : Evidence × Nat) : Assignment F64 → Prop
  | diagnosed (reason : DiagnosticReason) (hreason : reason ≠ .noFeedbackLeg) :
      Placed waypointCount feedback start stop entry (.diagnosed ⟨entry.2, reason⟩)
  | accepted (plan : AcceptedPlan F64) (hindex : plan.planIndex = entry.2)
      (horder : plan.order = orderOf entry.1)
      (hinside : start ≤ stampOf entry.1 ∧ stampOf entry.1 ≤ stop)
      (hleg : (plan.waypointIndex : Int) = feedbackLeg feedback start stop (orderOf entry.1))
      (hcount : plan.waypointIndex < waypointCount) :
      Placed waypointCount feedback start stop entry (.accepted plan)

section Placed

variable {feedback : List Evidence} {start stop : Int} {waypointCount : Nat}

theorem Placed.index_eq {entry : Evidence × Nat} {assignment : Assignment F64}
    (h : Placed waypointCount feedback start stop entry assignment) : assignment.index = entry.2
  := by
  cases h with
  | diagnosed reason hreason => rfl
  | accepted plan hindex => exact hindex

variable {entries : List (Evidence × Nat)}

theorem map_index_eq {assignments : List (Assignment F64)}
    (h : List.Forall₂ (Placed waypointCount feedback start stop) entries assignments) :
  assignments.map Assignment.index = entries.map Prod.snd
  := by
  induction h with
  | nil => rfl
  | cons hhead _ ih => rw [List.map_cons, List.map_cons, hhead.index_eq, ih]

/-- An accepted plan is one of the plans, in the leg of its instant. -/
theorem mem_acceptedOf {assignments : List (Assignment F64)}
    (h : List.Forall₂ (Placed waypointCount feedback start stop) entries assignments)
    {plan : AcceptedPlan F64} (hplan : plan ∈ acceptedOf assignments) :
  ∃ entry ∈ entries, plan.planIndex = entry.2 ∧ plan.order = orderOf entry.1 ∧
    (start ≤ stampOf entry.1 ∧ stampOf entry.1 ≤ stop) ∧
    (plan.waypointIndex : Int) = feedbackLeg feedback start stop (orderOf entry.1) ∧
    plan.waypointIndex < waypointCount
  := by
  obtain ⟨assignment, hmem, hsome⟩ := List.mem_filterMap.mp hplan
  obtain ⟨entry, hentry, hplaced⟩ := h.exists_mem hmem
  cases hplaced with
  | diagnosed => cases hsome
  | accepted plan hindex horder hinside hleg hcount =>
      obtain rfl := Option.some.inj hsome
      exact ⟨entry, hentry, hindex, horder, hinside, hleg, hcount⟩

theorem mem_diagnosticsOf {assignments : List (Assignment F64)}
    (h : List.Forall₂ (Placed waypointCount feedback start stop) entries assignments)
    {diagnostic : PlanDiagnostic} (hdiagnostic : diagnostic ∈ diagnosticsOf assignments) :
  diagnostic.reason ≠ .noFeedbackLeg
  := by
  obtain ⟨assignment, hmem, hsome⟩ := List.mem_filterMap.mp hdiagnostic
  obtain ⟨entry, -, hplaced⟩ := h.exists_mem hmem
  cases hplaced with
  | diagnosed reason hreason =>
      obtain rfl := Option.some.inj hsome
      exact hreason
  | accepted => cases hsome

/-- The assignment of the plan that was accepted at a place. -/
theorem eq_accepted {waypointCount : Nat} {before after : List Evidence}
    {plan : Evidence} {first last : List (Assignment F64)} {assignment : Assignment F64}
    {accepted : AcceptedPlan F64}
    (hfirst : List.Forall₂ (Placed waypointCount feedback start stop) (before.zipIdx 0) first)
    (hplace : Placed waypointCount feedback start stop (plan, before.length) assignment)
    (hlast : List.Forall₂ (Placed waypointCount feedback start stop)
      (after.zipIdx (before.length + 1)) last)
    (hmem : accepted ∈ acceptedOf (first ++ assignment :: last))
    (hindex : accepted.planIndex = before.length) :
  assignment = .accepted accepted
  := by
  rw [acceptedOf_append, List.mem_append] at hmem
  rcases hmem with hmem | hmem
  · obtain ⟨entry, hentry, heq, -⟩ := mem_acceptedOf hfirst hmem
    have hlt := List.snd_lt_of_mem_zipIdx hentry
    omega
  · have hlater : accepted ∉ acceptedOf last := by
      intro hmem
      obtain ⟨entry, hentry, heq, -⟩ := mem_acceptedOf hlast hmem
      have hle := List.le_snd_of_mem_zipIdx hentry
      omega
    cases hplace with
    | diagnosed => exact absurd hmem hlater
    | accepted plan =>
        rw [acceptedOf_accepted] at hmem
        rcases List.mem_cons.mp hmem with rfl | hmem
        · rfl
        · exact absurd hmem hlater

end Placed

/-! ### Assigned plans -/

variable [PyPathArithmetic F64]

section Assigned

variable {sha256 : List UInt8 → String} {waypoints : List (PlanarPose F64)}
  {transitions : List Transition} {start stop : Int}

/-- A plan with its index becomes the assignment. -/
def Assigned (sha256 : List UInt8 → String) (waypoints : List (PlanarPose F64))
    (transitions : List Transition) (start stop : Int) (entry : Evidence × Nat)
    (assignment : Assignment F64) : Prop :=
  HasOrder entry.1 ∧
    assignPlan sha256 waypoints transitions start stop entry.2 (orderOf entry.1) entry.1 =
      .ok assignment

/-- The plans are assigned one by one when they are in order. -/
theorem assignPlans_eq_ok_iff {previous : Option (Int ×ₗ Int)} {index : Nat}
    {legs legs' : PlanLegs F64} {plans : List Evidence} :
  assignPlans sha256 waypoints transitions start stop previous index legs plans = .ok legs' ↔
    (∀ order ∈ previous, ∀ plan ∈ plans, order < orderOf plan) ∧
    (plans.Pairwise fun plan plan' => orderOf plan < orderOf plan') ∧
    ∃ assignments,
      List.Forall₂ (Assigned sha256 waypoints transitions start stop)
        (plans.zipIdx index) assignments ∧
      legs' = assignments.foldl PlanLegs.place legs
  := by
  induction plans generalizing previous index legs with
  | nil =>
      constructor
      · intro h
        obtain rfl := Except.ok.inj h
        exact ⟨nofun, List.Pairwise.nil, [], .nil, rfl⟩
      · rintro ⟨-, -, assignments, hassigned, rfl⟩
        cases hassigned
        rfl
  | cons plan plans ih =>
      unfold assignPlans
      constructor
      · intro h
        obtain ⟨order, horder, h⟩ := Except.bind_eq_ok_iff.mp h
        obtain ⟨hhas, rfl⟩ := eventOrder_eq_ok_iff.mp horder
        split at h
        · cases h
        · rename_i hprevious
          obtain ⟨assignment, hassignment, h⟩ := Except.bind_eq_ok_iff.mp h
          obtain ⟨hafter, hordered, assignments, hassigned, hlegs⟩ := ih.mp h
          have hafter := hafter (orderOf plan) rfl
          refine ⟨?_, List.pairwise_cons.mpr ⟨hafter, hordered⟩,
            assignment :: assignments, ?_, hlegs⟩
          · intro order horder plan' hplan'
            have hbefore : order < orderOf plan := by
              rw [Option.mem_def] at horder
              subst horder
              simpa using hprevious
            rcases List.mem_cons.mp hplan' with rfl | hplan'
            · apply hbefore
            · apply lt_trans hbefore (hafter plan' hplan')
          · rw [List.zipIdx_cons]
            exact .cons ⟨hhas, hassignment⟩ hassigned
      · rintro ⟨hprevious, hordered, assignments, hassigned, rfl⟩
        rw [List.zipIdx_cons] at hassigned
        obtain ⟨hafter, hordered⟩ := List.pairwise_cons.mp hordered
        cases hassigned with
        | @cons _ assignment _ assignments hhead hassigned =>
            have hnot : ¬ previous.any (orderOf plan ≤ ·) = true := by
              cases previous with
              | none => simp
              | some order => simpa using hprevious order rfl plan List.mem_cons_self
            rw [eventOrder_eq_ok_iff.mpr ⟨hhead.1, rfl⟩, Except.ok_bind, if_neg hnot, hhead.2,
              Except.ok_bind]
            apply ih.mpr
            refine ⟨?_, hordered, assignments, hassigned, rfl⟩
            intro order horder plan' hplan'
            obtain rfl := Option.some.inj horder
            apply hafter plan' hplan'

/-- What becomes of a plan does not depend on its index. -/
theorem assignPlan_succ {index : Nat} {order : Int ×ₗ Int} {plan : Evidence} :
  assignPlan sha256 waypoints transitions start stop (index + 1) order plan =
    (assignPlan sha256 waypoints transitions start stop index order plan).map Assignment.shift
  := by
  unfold assignPlan
  split
  · rfl
  · split
    · rfl
    · unfold assignInLeg
      split
      · rfl
      · rfl
      · rfl

theorem forall₂_shift {index : Nat} {plans : List Evidence} {assignments : List (Assignment F64)}
    (h : List.Forall₂ (Assigned sha256 waypoints transitions start stop) (plans.zipIdx index)
      assignments) :
  List.Forall₂ (Assigned sha256 waypoints transitions start stop) (plans.zipIdx (index + 1))
    (assignments.map Assignment.shift)
  := by
  induction plans generalizing index assignments with
  | nil =>
      cases h
      exact .nil
  | cons plan plans ih =>
      rw [List.zipIdx_cons] at h
      cases h with
      | cons hhead htail =>
          rw [List.zipIdx_cons, List.map_cons]
          refine .cons ⟨hhead.1, ?_⟩ (ih htail)
          rw [assignPlan_succ, hhead.2]
          rfl

end Assigned

section Placed

variable {sha256 : List UInt8 → String} {waypoints : List (PlanarPose F64)}
  {feedback : List Evidence}
  {transitions : List Transition} {start stop : Int} {waypointCount : Nat}

/-- The collector sequence is a counter of the collector, below the final one. -/
def SequenceInRange (plan : Evidence) : Prop :=
  0 ≤ sequenceOf plan ∧ sequenceOf plan < TERMINAL_SEQUENCE

theorem assignInLeg_eq_ok {index leg : Nat} {order : Int ×ₗ Int} {plan : Evidence}
    {assignment : Assignment F64}
    (h : assignInLeg sha256 waypoints index leg order plan = .ok assignment) :
  (∃ text, assignment = .diagnosed ⟨index, .rejected text⟩) ∨
    ∃ accepted : AcceptedPlan F64, assignment = .accepted accepted ∧ accepted.planIndex = index ∧
      accepted.order = order ∧ accepted.waypointIndex = leg
  := by
  unfold assignInLeg at h
  split at h
  · rename_i text _
    obtain rfl := Except.ok.inj h
    exact Or.inl ⟨text, rfl⟩
  · cases h
  · obtain rfl := Except.ok.inj h
    exact Or.inr ⟨_, rfl, rfl, rfl, rfl⟩

theorem placed_of_assignPlan {plan : Evidence} {index : Nat} {assignment : Assignment F64}
    (hfeedback : feedbackTransitions feedback waypointCount start stop = .ok transitions)
    (hrange : SequenceInRange plan)
    (h : assignPlan sha256 waypoints transitions start stop index (orderOf plan) plan =
      .ok assignment) :
  Placed waypointCount feedback start stop (plan, index) assignment
  := by
  unfold assignPlan at h
  split at h
  · obtain rfl := Except.ok.inj h
    exact .diagnosed _ nofun
  · rename_i hout
    rw [not_or] at hout
    have hinside := stamp_of_bounds hout.1 hout.2
    obtain ⟨hfrom, hto⟩ := bounds_of_stamp hinside.1 hinside.2 hrange.1 hrange.2
    obtain ⟨leg, hleg, hcount, hindex, -⟩ := legIndexOf_eq hfeedback hfrom hto
    rw [hindex] at h
    rcases assignInLeg_eq_ok h with ⟨text, rfl⟩ | ⟨accepted, rfl, hplan, horder, rfl⟩
    · exact .diagnosed _ nofun
    · exact .accepted accepted hplan horder hinside hleg hcount

/-- All the plans are placed. -/
theorem forall₂_placed {index : Nat} {plans : List Evidence} {assignments : List (Assignment F64)}
    (hfeedback : feedbackTransitions feedback waypointCount start stop = .ok transitions)
    (hrange : ∀ plan ∈ plans, SequenceInRange plan)
    (h : List.Forall₂ (Assigned sha256 waypoints transitions start stop) (plans.zipIdx index)
      assignments) :
  List.Forall₂ (Placed waypointCount feedback start stop) (plans.zipIdx index) assignments
  := by
  induction plans generalizing index assignments with
  | nil =>
      cases h
      exact .nil
  | cons plan plans ih =>
      rw [List.zipIdx_cons] at h ⊢
      cases h with
      | cons hhead htail =>
          refine .cons ?_ (ih (fun p hp => hrange p (List.mem_cons_of_mem _ hp)) htail)
          apply placed_of_assignPlan hfeedback (hrange plan List.mem_cons_self) hhead.2

end Placed

end Metrics

end RobotestLab
