import Mathlib.Data.Finset.Basic
import Mathlib.Data.Finset.Insert
import RobotestLab.Metrics.CollisionCount
import RobotestLab.Scenarios.EntityPoses

/-!
# The classification of the contact control

The contact control classifies a pair of collisions by its coverage manifest, which has the
collisions of the robot and the sets of two collisions that are excluded. With the collisions and
the exclusions of the gate it classifies every pair as the gate and the analysis do, whatever the
order of the names.
-/

namespace RobotestLab

namespace Scenarios

open Collisions Collisions.Ros Metrics

/-- The collisions of the robot, and the sets of collisions that are excluded. -/
structure CoverageManifest where
  robotCollisions : Finset String
  supportExclusions : Finset (Finset String)

/-- A pair that is counted. -/
structure CoverageClassification where
  counterpartCollision : String
  counterpartModel : String
  normalizedPair : List String
  robotCollision : String
  deriving DecidableEq, Repr

/-- `collision.partition('::')[0]`. -/
def partitionHead (collision : String) : String :=
  match findSeparator collision.toList with
  | none => collision
  | some (head, _) => String.ofList head

/-- `sorted` of two names. -/
def sortedPair (first second : String) : List String :=
  if second < first then [second, first] else [first, second]

section Classification

variable (repr : String → String)

/-- The first segment of a name with at least three segments, none of them empty. -/
def topLevelModel (scopedCollision : String) : Except Failure String :=
  let segments := scopedSegments scopedCollision
  if segments.length < 3 || segments.any (· = "") then
    .error (.protocolError ("invalid scoped collision name: " ++ repr scopedCollision))
  else .ok (segments.headD "")

/-- Classify a pair, with the given `repr` of a name. -/
def CoverageManifest.classify (manifest : CoverageManifest) (collisionA collisionB : String) :
    Except Failure (Option CoverageClassification) := do
  let _ ← topLevelModel repr collisionA
  let _ ← topLevelModel repr collisionB
  let unknownRobot := [collisionA, collisionB].filter fun collision =>
    partitionHead collision = "robotest" && decide (collision ∉ manifest.robotCollisions)
  match unknownRobot with
  | collision :: _ =>
      .error (.protocolError ("contact names unknown rendered robot collision: " ++ repr collision))
  | [] =>
      let aRobot := decide (collisionA ∈ manifest.robotCollisions)
      let bRobot := decide (collisionB ∈ manifest.robotCollisions)
      if aRobot && bRobot then .ok none
      else if {collisionA, collisionB} ∈ manifest.supportExclusions then .ok none
      else if aRobot = bRobot then .ok none
      else
        let robotCollision := if aRobot then collisionA else collisionB
        let counterpartCollision := if aRobot then collisionB else collisionA
        let counterpartModel ← topLevelModel repr counterpartCollision
        .ok (some
          { counterpartCollision, counterpartModel
            normalizedPair := sortedPair robotCollision counterpartCollision
            robotCollision })

end Classification

/-! ### The manifest of the gate -/

/-- The manifest has the collisions of the robot and the support pairs of the gate. -/
structure GateCoverage (manifest : CoverageManifest) : Prop where
  robotCollisions : ∀ name, name ∈ manifest.robotCollisions ↔ name ∈ kRobotCollisions
  supportExclusions : ∀ pair, pair ∈ manifest.supportExclusions ↔
    ∃ support ∈ kSupportCollisions, pair = {support, kGroundCollision}

/-- What the contact control makes of a pair, by the disposition of the gate: it raises, it drops
the pair, or it counts it. -/
def coverageOf (first second : String) : PairDisposition → Option (Option CoverageClassification)
  | .malformed => none
  | .unknownRobot => none
  | .unexpectedNonRobot => some none
  | .routine => some none
  | .countable => some (some
      { counterpartCollision := counterpartOf first second
        counterpartModel := counterpartModel first second
        normalizedPair := sortedPair (robotOf first second) (counterpartOf first second)
        robotCollision := robotOf first second })

section Names

variable (repr : String → String)

theorem topLevelModel_of_valid {name : String} (h : isValidScopedName name = true) :
  topLevelModel repr name = .ok ((scopedSegments name).headD "")
  := by
  have htop := topModel_eq_ok_iff.mpr ⟨h, rfl⟩
  unfold topModel Metrics.unavailable at htop
  unfold topLevelModel
  dsimp only at htop ⊢
  split at htop
  · cases htop
  · rename_i hsegments
    rw [if_neg hsegments]

theorem topLevelModel_of_not_valid {name : String} (h : isValidScopedName name = false) :
  topLevelModel repr name = .error (.protocolError ("invalid scoped collision name: " ++ repr name))
  := by
  have htop := topModel_of_not_valid h
  unfold topModel Metrics.unavailable at htop
  unfold topLevelModel
  dsimp only at htop ⊢
  split at htop
  · rename_i hsegments
    rw [if_pos hsegments]
  · cases htop

end Names

theorem partitionHead_eq {name : String} (h : isValidScopedName name = true) :
  decide (partitionHead name = "robotest") = isRobotModelName name
  := by
  unfold partitionHead isRobotModelName
  cases hfind : findSeparator name.toList with
  | some found => rfl
  | none =>
      rw [isValidScopedName_eq, scopedSegments, splitScopes_eq, hfind] at h
      simp at h

theorem pair_mem_iff {manifest : CoverageManifest} (hmanifest : GateCoverage manifest)
    (first second : String) :
  {first, second} ∈ manifest.supportExclusions ↔ isSupportPair first second = true
  := by
  rw [hmanifest.supportExclusions, isSupportPair_eq]
  have hpair : ∀ support : String, ({first, second} : Finset String) = {support, kGroundCollision} ↔
      first = support ∧ second = kGroundCollision ∨
        first = kGroundCollision ∧ second = support := by
    intro support
    rw [← Finset.coe_inj]
    simp only [Finset.coe_pair]
    exact Set.pair_eq_pair_iff
  simp only [hpair]
  constructor
  · rintro ⟨support, hmem, ⟨rfl, hground⟩ | ⟨hground, rfl⟩⟩
    · exact .inr ⟨hground, hmem⟩
    · exact .inl ⟨hground, hmem⟩
  · rintro (⟨hground, hmem⟩ | ⟨hground, hmem⟩)
    · exact ⟨second, hmem, .inr ⟨hground, rfl⟩⟩
    · exact ⟨first, hmem, .inl ⟨rfl, hground⟩⟩

/-- The contact control classifies a pair as the gate does. -/
theorem classify_eq (repr : String → String) {manifest : CoverageManifest}
    (hmanifest : GateCoverage manifest) (first second : String) :
  (manifest.classify repr first second).toOption =
    coverageOf first second (classifyPair first second)
  := by
  have hknown : ∀ name, decide (name ∈ manifest.robotCollisions) = isKnownRobotCollision name := by
    intro name
    unfold isKnownRobotCollision
    rw [Bool.eq_iff_iff, decide_eq_true_eq, hmanifest.robotCollisions, List.contains_iff_mem]
  have hunknown : ∀ name, decide (name ∉ manifest.robotCollisions) =
      !isKnownRobotCollision name := by
    intro name
    rw [← hknown, decide_not]
  unfold CoverageManifest.classify
  cases hfirst : isValidScopedName first with
  | false =>
      rw [topLevelModel_of_not_valid repr hfirst, Except.error_bind]
      unfold classifyPair
      rw [hfirst]
      rfl
  | true =>
      rw [topLevelModel_of_valid repr hfirst, Except.ok_bind]
      cases hsecond : isValidScopedName second with
      | false =>
          rw [topLevelModel_of_not_valid repr hsecond, Except.error_bind]
          unfold classifyPair
          rw [hfirst, hsecond]
          rfl
      | true =>
          rw [topLevelModel_of_valid repr hsecond, Except.ok_bind]
          unfold classifyPair
          rw [hfirst, hsecond]
          simp only [List.filter_cons, List.filter_nil, partitionHead_eq hfirst,
            partitionHead_eq hsecond, hunknown, hknown, pair_mem_iff hmanifest]
          cases hrobot : isKnownRobotCollision first with
          | true =>
              cases hrobot' : isKnownRobotCollision second with
              | true => simp [coverageOf, Except.toOption]
              | false =>
                  cases isRobotModelName second with
                  | true => simp [coverageOf, Except.toOption]
                  | false =>
                      cases isSupportPair first second with
                      | true => simp [coverageOf, Except.toOption]
                      | false =>
                          simp [topLevelModel_of_valid repr hsecond, coverageOf, robotOf,
                            counterpartOf, counterpartModel, hrobot, Except.toOption]
          | false =>
              cases hrobot' : isKnownRobotCollision second with
              | true =>
                  cases isRobotModelName first with
                  | true => simp [coverageOf, Except.toOption]
                  | false =>
                      cases isSupportPair first second with
                      | true => simp [coverageOf, Except.toOption]
                      | false =>
                          simp [topLevelModel_of_valid repr hfirst, coverageOf, robotOf,
                            counterpartOf, counterpartModel, hrobot, Except.toOption]
              | false =>
                  rw [isSupportPair_of_unknown hrobot hrobot']
                  cases isRobotModelName first with
                  | true => simp [coverageOf, Except.toOption]
                  | false =>
                      cases isRobotModelName second with
                      | true => simp [coverageOf, Except.toOption]
                      | false => simp [coverageOf, Except.toOption]

/-! ### The three classifications -/

/-- The gate, the analysis and the contact control classify a pair alike, and the order of its names
does not matter. -/
structure ClassifiedAlike (repr : String → String) (names : CollisionNames)
    (manifest : CoverageManifest) (first second : String) : Prop where
  countable : classifyPair first second = .countable ↔
    ∃ robot counterpart model, classifyContactPairResolved names (.str first) (.str second) =
      .ok (.counted robot counterpart model)
  counted : (∃ robot counterpart model,
    classifyContactPairResolved names (.str first) (.str second) =
      .ok (.counted robot counterpart model)) ↔
    ∃ classification, manifest.classify repr first second = .ok (some classification)
  same : ∀ robot counterpart model classification,
    classifyContactPairResolved names (.str first) (.str second) =
      .ok (.counted robot counterpart model) →
    manifest.classify repr first second = .ok (some classification) →
    classification.robotCollision = robot ∧ classification.counterpartCollision = counterpart ∧
      classification.counterpartModel = model
  routine : classifyPair first second = .routine ↔
    ∃ reason, classifyContactPairResolved names (.str first) (.str second) = .ok (.excluded reason)
  unavailable : (classifyPair first second ≠ .countable ∧ classifyPair first second ≠ .routine) ↔
    ∃ text, classifyContactPairResolved names (.str first) (.str second) =
      .error (.unavailable text)
  gateSymmetric : classifyPair first second = classifyPair second first
  analysisSymmetric : classifyContactPairResolved names (.str first) (.str second) =
    classifyContactPairResolved names (.str second) (.str first)
  controlSymmetric : (manifest.classify repr first second).toOption =
    (manifest.classify repr second first).toOption

/-- One name of a countable pair is a collision of the robot. -/
theorem robotOf_comm {first second : String} (h : classifyPair first second = .countable) :
  robotOf first second = robotOf second first ∧
    counterpartOf first second = counterpartOf second first ∧
    counterpartModel first second = counterpartModel second first
  := by
  obtain ⟨-, -, -, -, hone, -⟩ := classifyPair_eq_countable_iff.mp h
  unfold robotOf counterpartOf counterpartModel
  rw [hone]
  cases isKnownRobotCollision second with
  | true => exact ⟨rfl, rfl, rfl⟩
  | false => exact ⟨rfl, rfl, rfl⟩

/-- The gate, the analysis and the contact control classify every pair of names alike. -/
theorem classified_alike (repr : String → String) {names : CollisionNames}
    (hnames : GateNames names)
    {manifest : CoverageManifest} (hmanifest : GateCoverage manifest) (first second : String) :
  ClassifiedAlike repr names manifest first second
  := by
  have hanalysis := classifyContactPairResolved_eq hnames first second
  have hcontrol := classify_eq repr hmanifest first second
  have hswap := classifyPair_comm first second
  constructor
  · rw [hanalysis]
    cases classifyPair first second with
    | countable => simp [ContactClassification.ofDisposition]
    | _ => simp [ContactClassification.ofDisposition, Metrics.unavailable]
  · simp only [Except.eq_ok_iff_toOption (x := manifest.classify repr first second)]
    rw [hanalysis, hcontrol]
    cases classifyPair first second with
    | countable => simp [ContactClassification.ofDisposition, coverageOf]
    | _ => simp [ContactClassification.ofDisposition, Metrics.unavailable, coverageOf]
  · intro robot counterpart model classification hcounted hclassified
    rw [hanalysis] at hcounted
    rw [Except.eq_ok_iff_toOption, hcontrol] at hclassified
    cases hdisposition : classifyPair first second with
    | countable =>
        rw [hdisposition] at hcounted hclassified
        cases hcounted
        cases hclassified
        exact ⟨rfl, rfl, rfl⟩
    | _ =>
        rw [hdisposition] at hcounted
        cases hcounted
  · rw [hanalysis]
    cases classifyPair first second with
    | routine => simp [ContactClassification.ofDisposition]
    | _ => simp [ContactClassification.ofDisposition, Metrics.unavailable]
  · rw [hanalysis]
    cases classifyPair first second with
    | countable => simp [ContactClassification.ofDisposition]
    | routine => simp [ContactClassification.ofDisposition]
    | _ => simp [ContactClassification.ofDisposition, Metrics.unavailable]
  · exact hswap
  · rw [hanalysis, classifyContactPairResolved_eq hnames second first, ← hswap]
    cases hdisposition : classifyPair first second with
    | countable =>
        obtain ⟨hrobot, hcounterpart, hmodel⟩ := robotOf_comm hdisposition
        unfold ContactClassification.ofDisposition
        dsimp only
        rw [hrobot, hcounterpart, hmodel]
    | routine =>
        unfold ContactClassification.ofDisposition
        dsimp only
        rw [Bool.and_comm]
    | _ => rfl
  · rw [hcontrol, classify_eq repr hmanifest second first, ← hswap]
    cases hdisposition : classifyPair first second with
    | countable =>
        obtain ⟨hrobot, hcounterpart, hmodel⟩ := robotOf_comm hdisposition
        unfold coverageOf
        dsimp only
        rw [hrobot, hcounterpart, hmodel]
    | _ => rfl

section Sample

/-- The manifest of the gate. -/
def gateCoverage : CoverageManifest where
  robotCollisions := kRobotCollisions.toFinset
  supportExclusions := (kSupportCollisions.map fun support => {support, kGroundCollision}).toFinset

theorem gateCoverage_matches :
  GateCoverage gateCoverage
  where
  robotCollisions name := List.mem_toFinset
  supportExclusions pair := by
    unfold gateCoverage
    rw [List.mem_toFinset, List.mem_map]
    simp only [eq_comm]

/-- The lidar of the robot against the wall of the contact control. -/
theorem classified_alike_sample :
  ClassifiedAlike (fun name => "'" ++ name ++ "'") gateNames gateCoverage
    "robotest::lidar_link::lidar_link_collision_collision"
    "phase3_contact_control_wall::wall_link::wall_collision"
  := classified_alike _ gateNames_gateNames gateCoverage_matches _ _

end Sample

end Scenarios

end RobotestLab
