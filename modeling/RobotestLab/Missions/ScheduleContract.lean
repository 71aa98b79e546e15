import RobotestLab.Missions.Agreement

/-!
# The contract of fault schedules

Which schedules the fault proxy accepts, said of the specifications themselves: each one is valid on
its own, their identifiers are distinct, and no instant lies in the intervals of two faults of one
target. The proxy looks only at neighbours in the order of the starts, and accepts exactly these
schedules, in whatever order the specifications come (`canonicalizeSchedule_contract`).
-/

namespace RobotestLab

namespace Missions

/-! ### Parameters -/

/-- The members of the object with the parameters of a mode. The rates of a drift come in either
order. -/
def ModeParameters (mode : UInt8) (members : List (String × Json)) : Prop :=
  (mode = RobotestLab.FaultSpec.MODE_PASS_THROUGH ∨
      mode = RobotestLab.FaultSpec.MODE_LIDAR_DROPOUT) ∧ members = [] ∨
    mode = RobotestLab.FaultSpec.MODE_ODOM_DRIFT ∧ ∃ xRate yawRate : Int,
      (members = [("x_rate_nm_per_s", .int xRate), ("yaw_rate_nrad_per_s", .int yawRate)] ∨
        members = [("yaw_rate_nrad_per_s", .int yawRate), ("x_rate_nm_per_s", .int xRate)]) ∧
      (-MAX_RATE ≤ xRate ∧ xRate ≤ MAX_RATE) ∧ (-MAX_RATE ≤ yawRate ∧ yawRate ≤ MAX_RATE) ∧
      ¬ (xRate = 0 ∧ yawRate = 0)

section Parameters

variable {lib : Libraries} {spec : RobotestLab.FaultSpec} {members : List (String × Json)}

/-- The members of the parameters of a mode have distinct keys. -/
theorem ModeParameters.duplicateKey {mode : UInt8} (h : ModeParameters mode members) :
  ((parseEvents (.obj members)).foldl parserCallback {}).duplicateKey = false
  := by
  rcases h with ⟨-, rfl⟩ | ⟨-, xRate, yawRate, rfl | rfl, -⟩
  · rfl
  · rfl
  · rfl

/-- The parameters are read exactly when they are the parameters of the mode. -/
theorem parseParameters_iff :
  (∃ parameters, parseParameters lib spec = .ok parameters) ↔
    spec.parametersJson.isEmpty = false ∧ ∃ members,
      lib.parseJson spec.parametersJson = some (.obj members) ∧ ModeParameters spec.mode members
  := by
  constructor
  · rintro ⟨parameters, h⟩
    refine ⟨?_, ?_⟩
    · rw [← Bool.not_eq_true]
      intro hempty
      rw [parseParameters, if_pos hempty] at h
      cases h
    · obtain ⟨members, hvalue, ⟨hmode, hmembers, -⟩ | ⟨hmode, hdrift⟩⟩ := parseParameters_eq_ok h
      · exact ⟨members, hvalue, Or.inl ⟨hmode, hmembers⟩⟩
      · obtain ⟨xRate, yawRate, hlength, hx, hyaw, hxRate, hyawRate, hnonzero, -⟩ :=
          parseDrift_eq_ok hdrift
        exact ⟨members, hvalue, Or.inr ⟨hmode, xRate, yawRate, members_of_lookup hlength hx hyaw,
          hxRate, hyawRate, hnonzero⟩⟩
  · rintro ⟨hempty, members, hvalue, hmembers⟩
    have hduplicate := hmembers.duplicateKey
    rw [parseParameters, if_neg (by rw [hempty]; exact Bool.false_ne_true), hvalue]
    simp only [hduplicate, Bool.false_eq_true, if_false]
    rcases hmembers with ⟨hmode, rfl⟩ | ⟨hmode, xRate, yawRate, hrates, hx, hyaw, hnonzero⟩
    · rw [if_pos hmode, if_neg (not_not.mpr rfl)]
      exact ⟨_, rfl⟩
    · rw [hmode, if_neg (by decide), if_neg (by decide),
        parseDrift_rates hrates hx hyaw hnonzero]
      exact ⟨_, rfl⟩

end Parameters

/-! ### Specifications -/

/-- A supported pair of a target and a mode. -/
def SupportedPair (target mode : UInt8) : Prop :=
  mode = RobotestLab.FaultSpec.MODE_PASS_THROUGH ∧
      (target = RobotestLab.FaultSpec.TARGET_SCAN ∨ target = RobotestLab.FaultSpec.TARGET_ODOM ∨
        target = RobotestLab.FaultSpec.TARGET_IMU) ∨
    mode = RobotestLab.FaultSpec.MODE_LIDAR_DROPOUT ∧ target = RobotestLab.FaultSpec.TARGET_SCAN ∨
    mode = RobotestLab.FaultSpec.MODE_ODOM_DRIFT ∧ target = RobotestLab.FaultSpec.TARGET_ODOM

/-- A duration with a fraction below one second. -/
def Normalized (d : Duration) : Prop := 0 ≤ d.sec.toInt ∧ d.nanosec.toNat < 1000000000

/-- A specification is valid on its own. -/
structure SpecContract (lib : Libraries) (spec : RobotestLab.FaultSpec) : Prop where
  schema : spec.schemaVersion = 1
  id : matchesFaultId spec.faultId = true
  pair : SupportedPair spec.target spec.mode
  startNormalized : Normalized spec.startOffset
  durationNormalized : Normalized spec.duration
  start : 500000000 ≤ spec.startOffset.ns
  positive : 0 < spec.duration.ns
  horizon : spec.startOffset.ns + spec.duration.ns ≤ 3600000000000
  parameters : spec.parametersJson.isEmpty = false ∧ ∃ members,
    lib.parseJson spec.parametersJson = some (.obj members) ∧ ModeParameters spec.mode members

/-- The instant lies in the half-open interval of the fault. -/
def ActiveAt (spec : RobotestLab.FaultSpec) (t : Int) : Prop :=
  spec.startOffset.ns ≤ t ∧ t < spec.startOffset.ns + spec.duration.ns

/-- The intervals of two faults of one target intersect. -/
def Intersecting (spec spec' : RobotestLab.FaultSpec) : Prop :=
  spec.target = spec'.target ∧ ∃ t, ActiveAt spec t ∧ ActiveAt spec' t

/-- The schedules that the fault proxy is to accept. -/
structure ScheduleContract (lib : Libraries) (specs : List RobotestLab.FaultSpec) : Prop where
  count : specs.length ≤ 16
  each : ∀ spec ∈ specs, SpecContract lib spec
  ids : (specs.map RobotestLab.FaultSpec.faultId).Nodup
  disjoint : specs.Pairwise fun spec spec' => ¬ Intersecting spec spec'

section Specifications

variable {lib : Libraries} {spec : RobotestLab.FaultSpec}

theorem validTargetMode_iff {target mode : UInt8} :
  validTargetMode target mode = true ↔ SupportedPair target mode
  := by
  unfold validTargetMode SupportedPair
  split_ifs with hpass hdropout hdrift
  · rw [hpass]
    simp [RobotestLab.FaultSpec.MODE_PASS_THROUGH, RobotestLab.FaultSpec.MODE_LIDAR_DROPOUT,
      RobotestLab.FaultSpec.MODE_ODOM_DRIFT, or_assoc]
  · rw [hdropout]
    simp [RobotestLab.FaultSpec.MODE_PASS_THROUGH, RobotestLab.FaultSpec.MODE_LIDAR_DROPOUT,
      RobotestLab.FaultSpec.MODE_ODOM_DRIFT]
  · rw [hdrift]
    simp [RobotestLab.FaultSpec.MODE_PASS_THROUGH, RobotestLab.FaultSpec.MODE_LIDAR_DROPOUT,
      RobotestLab.FaultSpec.MODE_ODOM_DRIFT]
  · simp [hpass, hdropout, hdrift]

theorem valid_iff :
  spec.Valid ∧ (∃ parameters, parseParameters lib spec = .ok parameters) ↔ SpecContract lib spec
  := by
  rw [parseParameters_iff]
  constructor
  · rintro ⟨h, hparameters⟩
    refine ⟨h.schema, ?_, validTargetMode_iff.mp h.targetMode,
      (normalizedDuration_iff _).mp h.startNormalized,
      (normalizedDuration_iff _).mp h.durationNormalized, h.start, h.positive, h.horizon,
      hparameters⟩
    rw [matchesFaultId_eq]
    exact h.id
  · intro h
    refine ⟨⟨h.schema, ?_, validTargetMode_iff.mpr h.pair,
      (normalizedDuration_iff _).mpr h.startNormalized,
      (normalizedDuration_iff _).mpr h.durationNormalized, h.start, h.positive, h.horizon⟩,
      h.parameters⟩
    rw [← matchesFaultId_eq]
    exact h.id

/-- A specification has a canonical form exactly when it is valid on its own. -/
theorem canonicalizeFault_iff :
  (∃ fault, canonicalizeFault lib [] spec = .ok fault) ↔ SpecContract lib spec
  := by
  rw [← valid_iff]
  constructor
  · rintro ⟨fault, h⟩
    obtain ⟨-, hvalid, parameters, hparameters, -⟩ := canonicalizeFault_eq_ok.mp h
    exact ⟨hvalid, parameters, hparameters⟩
  · rintro ⟨hvalid, parameters, hparameters⟩
    exact ⟨_, canonicalizeFault_eq_ok.mpr ⟨List.not_mem_nil, hvalid, parameters, hparameters, rfl⟩⟩

theorem canonicalizeFault_all {specs : List RobotestLab.FaultSpec} :
  (∃ faults, List.Forall₂ (fun spec fault => canonicalizeFault lib [] spec = .ok fault)
    specs faults) ↔
    ∀ spec ∈ specs, SpecContract lib spec
  := by
  induction specs with
  | nil => exact iff_of_true ⟨[], List.Forall₂.nil⟩ nofun
  | cons spec specs ih =>
      rw [List.forall_mem_cons, ← ih, ← canonicalizeFault_iff]
      constructor
      · rintro ⟨faults, h⟩
        cases h with
        | cons hfault hrest => exact ⟨⟨_, hfault⟩, _, hrest⟩
      · rintro ⟨⟨fault, hfault⟩, faults, hrest⟩
        exact ⟨fault :: faults, List.Forall₂.cons hfault hrest⟩

end Specifications

/-! ### Intervals -/

/-- Two canonical faults of one target do not follow each other in either order. -/
def Overlapping (left right : CanonicalFault) : Prop :=
  ¬ left.Disjoint right ∧ ¬ right.Disjoint left

section Intervals

variable {lib : Libraries} {specs : List RobotestLab.FaultSpec} {faults : List CanonicalFault}

/-- In the order of the starts, faults that do not overlap follow each other. -/
theorem disjoint_iff_of_sorted {left right : CanonicalFault} (hright : right.Wf)
    (hsorted : left.sortKey ≤ right.sortKey) :
  left.Disjoint right ↔ ¬ Overlapping left right
  := by
  have hstart := CanonicalFault.start_le_of_sortKey_le hsorted
  have hpositive := hright.positive
  unfold Overlapping CanonicalFault.Disjoint
  constructor
  · intro h hoverlap
    exact hoverlap.1 h
  · intro h htarget
    by_contra hbefore
    apply h
    constructor
    · intro hdisjoint
      exact hbefore (hdisjoint htarget)
    · intro hdisjoint
      have hafter := hdisjoint htarget.symm
      omega

theorem pairwise_congr {α : Type} {r r' : α → α → Prop} {l : List α} {s : α → α → Prop}
    (hs : l.Pairwise s) (h : ∀ a ∈ l, ∀ b ∈ l, s a b → (r a b ↔ r' a b)) :
  l.Pairwise r ↔ l.Pairwise r'
  := by
  constructor
  · intro hr
    exact (hr.and hs).imp_of_mem fun ha hb hab => (h _ ha _ hb hab.2).mp hab.1
  · intro hr
    exact (hr.and hs).imp_of_mem fun ha hb hab => (h _ ha _ hb hab.2).mpr hab.1

/-- Neighbours that follow each other make all pairs disjoint, in whatever order they come. -/
theorem pairwise_sortFaults (hwf : ∀ fault ∈ faults, fault.Wf) :
  (sortFaults faults).Pairwise CanonicalFault.Disjoint ↔
    faults.Pairwise fun left right => ¬ Overlapping left right
  := by
  have hmem : ∀ fault ∈ sortFaults faults, fault.Wf := fun fault hfault =>
    hwf fault ((sortFaults_perm faults).mem_iff.mp hfault)
  rw [pairwise_congr (sortFaults_pairwise faults) fun _ _ right hright hle =>
    disjoint_iff_of_sorted (hmem right hright) hle]
  apply (sortFaults_perm faults).pairwise_iff
  rintro left right h ⟨hright, hleft⟩
  exact h ⟨hleft, hright⟩

theorem overlapping_iff {spec spec' : RobotestLab.FaultSpec} {ps ps' : ParsedParameters}
    (h : 0 < spec.duration.ns) (h' : 0 < spec'.duration.ns) :
  Overlapping (canonicalForm spec ps) (canonicalForm spec' ps') ↔ Intersecting spec spec'
  := by
  unfold Overlapping CanonicalFault.Disjoint Intersecting ActiveAt
  simp only [canonicalForm, Classical.not_imp, not_le]
  constructor
  · rintro ⟨⟨htarget, hlt⟩, -, hlt'⟩
    refine ⟨htarget, max spec.startOffset.ns spec'.startOffset.ns, ?_, ?_⟩
    · omega
    · omega
  · rintro ⟨htarget, t, ⟨hstart, hend⟩, hstart', hend'⟩
    refine ⟨⟨htarget, ?_⟩, htarget.symm, ?_⟩
    · omega
    · omega

/-- The canonical forms overlap where the specifications intersect. -/
theorem pairwise_overlapping
    (h : List.Forall₂ (fun spec fault => canonicalizeFault lib [] spec = .ok fault) specs faults) :
  (faults.Pairwise fun left right => ¬ Overlapping left right) ↔
    specs.Pairwise fun spec spec' => ¬ Intersecting spec spec'
  := by
  induction h with
  | nil => exact iff_of_true List.Pairwise.nil List.Pairwise.nil
  | @cons spec fault specs faults hfault hrest ih =>
      rw [List.pairwise_cons, List.pairwise_cons, ih]
      obtain ⟨-, hvalid, ps, -, rfl⟩ := canonicalizeFault_eq_ok.mp hfault
      have hall : (∀ right ∈ faults, ¬ Overlapping (canonicalForm spec ps) right) ↔
          ∀ spec' ∈ specs, ¬ Intersecting spec spec' := by
        clear ih
        induction hrest with
        | nil => exact iff_of_true nofun nofun
        | cons hfault' _ ih =>
            obtain ⟨-, hvalid', ps', -, rfl⟩ := canonicalizeFault_eq_ok.mp hfault'
            rw [List.forall_mem_cons, List.forall_mem_cons, ih,
              overlapping_iff hvalid.positive hvalid'.positive]
      rw [hall]

end Intervals

/-! ### Schedules -/

/-- The digest interface of OpenSSL computes a digest of every text. -/
def ComputesDigests (lib : Libraries) : Prop :=
  ∀ text, ∃ digest, lib.evpSha256 text = .digest digest ∧ digest.length = 32

theorem ComputesDigests.sha256Hex {lib : Libraries} (h : ComputesDigests lib) (text : String) :
  ∃ sha256, sha256Hex lib text = .ok sha256
  := by
  obtain ⟨digest, hdigest, hlength⟩ := h text
  refine ⟨hexadecimal digest, ?_⟩
  rw [RobotestLab.sha256Hex, hdigest]
  exact if_neg (not_not.mpr hlength)

/-- The proxy accepts exactly the schedules of the contract, and what it makes of them does not
depend on the order of the specifications. -/
theorem canonicalizeSchedule_contract {lib : Libraries} (hlib : ComputesDigests lib)
    (specs : List RobotestLab.FaultSpec) :
  ((∃ schedule, canonicalizeSchedule lib specs = .ok schedule) ↔ ScheduleContract lib specs) ∧
    ∀ specs', specs.Perm specs' → ∀ schedule,
      canonicalizeSchedule lib specs = .ok schedule ↔ canonicalizeSchedule lib specs' = .ok schedule
  := by
  constructor
  · constructor
    · rintro ⟨schedule, h⟩
      obtain ⟨hcount, faults, hfaults, hids, hdisjoint, -⟩ := canonicalizeSchedule_eq_ok.mp h
      refine ⟨hcount, canonicalizeFault_all.mp ⟨faults, hfaults⟩, hids, ?_⟩
      rw [← pairwise_overlapping hfaults, ← pairwise_sortFaults (wf_of_forall₂ hfaults)]
      exact hdisjoint
    · intro h
      obtain ⟨faults, hfaults⟩ := canonicalizeFault_all.mpr h.each
      obtain ⟨sha256, hsha256⟩ := hlib.sha256Hex (scheduleBytes (sortFaults faults))
      refine ⟨_, canonicalizeSchedule_eq_ok.mpr ⟨h.count, faults, hfaults, h.ids, ?_, sha256,
        hsha256, rfl⟩⟩
      rw [pairwise_sortFaults (wf_of_forall₂ hfaults), pairwise_overlapping hfaults]
      exact h.disjoint
  · intro specs' hperm schedule
    exact ⟨canonicalizeSchedule_perm hperm, canonicalizeSchedule_perm hperm.symm⟩

/-- A dropout of the scans and a drift of the odometry at the same time. -/
def sampleSpecs : List RobotestLab.FaultSpec := [
  { schemaVersion := 1
    faultId := "scan_drop"
    target := 1
    mode := 1
    startOffset := { sec := 10, nanosec := 0 }
    duration := { sec := 2, nanosec := 0 }
    seed := 42
    parametersJson := "{}" },
  { schemaVersion := 1
    faultId := "odom_drift"
    target := 2
    mode := 4
    startOffset := { sec := 10, nanosec := 0 }
    duration := { sec := 20, nanosec := 0 }
    seed := 42
    parametersJson := "\x7b\"x_rate_nm_per_s\":10000000,\"yaw_rate_nrad_per_s\":5000000\x7d" }]

/-- Faults of different targets may be active at the same time. -/
theorem canonicalizeSchedule_contract_sample :
  (canonicalizeSchedule Sample.libraries sampleSpecs).isOk = true ∧
    ((∃ schedule, canonicalizeSchedule Sample.libraries sampleSpecs = .ok schedule) ↔
      ScheduleContract Sample.libraries sampleSpecs) ∧
    ∀ specs', List.Perm sampleSpecs specs' → ∀ schedule,
      canonicalizeSchedule Sample.libraries sampleSpecs = .ok schedule ↔
        canonicalizeSchedule Sample.libraries specs' = .ok schedule
  := by
  constructor
  · decide +kernel
  · apply canonicalizeSchedule_contract
    intro text
    exact ⟨_, rfl, rfl⟩

end Missions

end RobotestLab
