import RobotestLab.Missions.Conformance
import RobotestLab.Missions.ScheduleContract

/-!
# The bytes of a schedule

The canonical text of an accepted schedule determines the schedule, and the normalized forms of its
specifications up to their order (`scheduleBytes_injective`). The text is that of a JSON value, and
such texts are read back unambiguously.
-/

namespace RobotestLab

namespace Missions

/-! ### Normalized specifications -/

/-- What a specification says, whatever the order of its parameters. -/
structure NormalizedFault where
  faultId : String
  target : UInt8
  mode : UInt8
  startOffsetNs : Int
  durationNs : Int
  seed : UInt64
  xRateNmPerS : Int
  yawRateNradPerS : Int
  deriving DecidableEq, Repr

/-- The rates of a specification, which are zero without a drift. -/
def ratesOf (lib : Libraries) (spec : RobotestLab.FaultSpec) : Int × Int :=
  match parseParameters lib spec with
  | .ok parameters => (parameters.xRateNmPerS, parameters.yawRateNradPerS)
  | .error _ => (0, 0)

def normalizedFault (lib : Libraries) (spec : RobotestLab.FaultSpec) : NormalizedFault where
  faultId := spec.faultId
  target := spec.target
  mode := spec.mode
  startOffsetNs := spec.startOffset.ns
  durationNs := spec.duration.ns
  seed := spec.seed
  xRateNmPerS := (ratesOf lib spec).1
  yawRateNradPerS := (ratesOf lib spec).2

namespace NormalizedFault

/-- The canonical text of the parameters. -/
def parametersJson (fault : NormalizedFault) : String :=
  if fault.mode = RobotestLab.FaultSpec.MODE_ODOM_DRIFT then
    driftJson fault.xRateNmPerS fault.yawRateNradPerS
  else "{}"

/-- The canonical fault that says the same. -/
def canonical (fault : NormalizedFault) : CanonicalFault where
  specification := {
    schemaVersion := RobotestLab.FaultSpec.SCHEMA_VERSION
    faultId := fault.faultId
    target := fault.target
    mode := fault.mode
    startOffset := durationFromNs fault.startOffsetNs
    duration := durationFromNs fault.durationNs
    seed := fault.seed
    parametersJson := fault.parametersJson }
  startOffsetNs := fault.startOffsetNs
  durationNs := fault.durationNs
  xRateNmPerS := fault.xRateNmPerS
  yawRateNradPerS := fault.yawRateNradPerS

end NormalizedFault

/-- What a canonical fault says. -/
def normalizedOf (c : CanonicalFault) : NormalizedFault where
  faultId := c.specification.faultId
  target := c.specification.target
  mode := c.specification.mode
  startOffsetNs := c.startOffsetNs
  durationNs := c.durationNs
  seed := c.specification.seed
  xRateNmPerS := c.xRateNmPerS
  yawRateNradPerS := c.yawRateNradPerS

theorem normalizedOf_canonical (fault : NormalizedFault) :
  normalizedOf fault.canonical = fault
  := rfl

section Canonical

variable {lib : Libraries} {spec : RobotestLab.FaultSpec} {c : CanonicalFault}

/-- A normalized duration is determined by its nanoseconds. -/
theorem duration_ns_injective {d d' : Duration} (h : normalizedDuration d = true)
    (h' : normalizedDuration d' = true) (hns : d.ns = d'.ns) :
  d = d'
  := by
  obtain ⟨-, hn⟩ := (normalizedDuration_iff d).mp h
  obtain ⟨-, hn'⟩ := (normalizedDuration_iff d').mp h'
  obtain ⟨sec, nanosec⟩ := d
  obtain ⟨sec', nanosec'⟩ := d'
  simp only [Duration.ns] at hns hn hn'
  rw [Duration.mk.injEq]
  constructor
  · apply Int32.toInt_inj.mp
    omega
  · apply UInt32.toNat_inj.mp
    omega

/-- A normalized duration is the one of its nanoseconds. -/
theorem durationFromNs_ns {d : Duration} (h : normalizedDuration d = true) (hlow : 0 ≤ d.ns)
    (hhigh : d.ns ≤ 3600000000000) :
  durationFromNs d.ns = d
  := by
  obtain ⟨hnormalized, hns⟩ := durationFromNs_spec hlow hhigh
  exact duration_ns_injective hnormalized h hns

/-- The canonical form of the parameters of a specification. -/
theorem parameters_canonical {ps : ParsedParameters} (h : parseParameters lib spec = .ok ps) :
  ps.canonicalJson = (normalizedFault lib spec).parametersJson
  := by
  have hrates : ratesOf lib spec = (ps.xRateNmPerS, ps.yawRateNradPerS) := by
    rw [ratesOf, h]
  unfold NormalizedFault.parametersJson normalizedFault
  rw [hrates]
  obtain ⟨members, -, ⟨hmode, -, hjson⟩ | ⟨hmode, hdrift⟩⟩ := parseParameters_eq_ok h
  · rw [hjson, if_neg]
    intro hdrift
    change spec.mode = _ at hdrift
    rw [hdrift] at hmode
    revert hmode
    decide
  · rw [if_pos hmode]
    unfold parseDrift at hdrift
    split at hdrift
    · split_ifs at hdrift
      split at hdrift
      · split_ifs at hdrift
        rw [← Except.ok.inj hdrift]
      · cases hdrift
    · cases hdrift

/-- An accepted specification has the canonical form of its normalized form. -/
theorem canonical_normalizedFault (h : canonicalizeFault lib [] spec = .ok c) :
  c = (normalizedFault lib spec).canonical
  := by
  obtain ⟨-, hvalid, ps, hps, rfl⟩ := canonicalizeFault_eq_ok.mp h
  have hrates : ratesOf lib spec = (ps.xRateNmPerS, ps.yawRateNradPerS) := by
    rw [ratesOf, hps]
  have hstart := hvalid.start
  have hpositive := hvalid.positive
  have hhorizon := hvalid.horizon
  have hstartOffset : durationFromNs spec.startOffset.ns = spec.startOffset :=
    durationFromNs_ns hvalid.startNormalized (by omega) (by omega)
  have hduration : durationFromNs spec.duration.ns = spec.duration :=
    durationFromNs_ns hvalid.durationNormalized (by omega) (by omega)
  unfold canonicalForm NormalizedFault.canonical
  rw [parameters_canonical hps]
  simp only [normalizedFault, hrates, hstartOffset, hduration, ← hvalid.schema]

theorem canonicals_normalizedFault {specs : List RobotestLab.FaultSpec}
    {canonicals : List CanonicalFault}
    (h : List.Forall₂ (fun spec c => canonicalizeFault lib [] spec = .ok c) specs canonicals) :
  canonicals = (specs.map (normalizedFault lib)).map NormalizedFault.canonical
  := by
  induction h with
  | nil => rfl
  | cons hfault _ ih => rw [List.map_cons, List.map_cons, ← ih, ← canonical_normalizedFault hfault]

end Canonical

/-! ### Reading the text back -/

/-- Only a drift has rates. -/
def NormalizedFault.Rated (fault : NormalizedFault) : Prop :=
  fault.mode ≠ RobotestLab.FaultSpec.MODE_ODOM_DRIFT →
    fault.xRateNmPerS = 0 ∧ fault.yawRateNradPerS = 0

theorem rated_normalizedFault (lib : Libraries) (spec : RobotestLab.FaultSpec) :
  (normalizedFault lib spec).Rated
  := by
  intro hmode
  change (ratesOf lib spec).1 = 0 ∧ (ratesOf lib spec).2 = 0
  unfold ratesOf
  cases h : parseParameters lib spec with
  | error message => exact ⟨rfl, rfl⟩
  | ok ps =>
      unfold parseParameters at h
      split at h
      · cases h
      · split at h
        · cases h
        · split at h
          · cases h
          · split at h
            · split_ifs at h with hempty hmembers hdrift
              · obtain rfl := Except.ok.inj h
                exact ⟨rfl, rfl⟩
              · exact absurd (not_not.mp hdrift) hmode
            · cases h

/-- The text of the rates determines them. -/
theorem driftJson_injective {x yaw x' yaw' : Int} (h : driftJson x yaw = driftJson x' yaw') :
  x = x' ∧ yaw = yaw'
  := by
  have hplain : ∀ x yaw : Int,
      Json.Plain (.obj [("x_rate_nm_per_s", .int x), ("yaw_rate_nrad_per_s", .int yaw)]) := by
    intro x yaw
    simp only [Json.Plain, Json.PlainMembers, true_and, and_true]
    exact ⟨plainString_of_all (by decide), plainString_of_all (by decide)⟩
  rw [← dumps_drift, ← dumps_drift] at h
  have hparse := Json.parse_dumps (hplain x yaw)
  rw [h, Json.parse_dumps (hplain x' yaw')] at hparse
  simpa [eq_comm] using hparse

/-- The normalized fault is determined by what its text says. -/
theorem normalized_of_asDict {f f' : FaultSpec} {n n' : NormalizedFault}
    (h : Matches f n.canonical) (h' : Matches f' n'.canonical) (hn : n.Rated) (hn' : n'.Rated)
    (hdict : f.asDict = f'.asDict) :
  n = n'
  := by
  simp only [FaultSpec.asDict, Json.obj.injEq, List.cons.injEq, Prod.mk.injEq, Json.int.injEq,
    Json.str.injEq, true_and, and_true] at hdict
  obtain ⟨-, hid, htarget, hmode, hstart, hduration, hseed, hparameters⟩ := hdict
  have hfaultId : n.faultId = n'.faultId := h.faultId.symm.trans (hid.trans h'.faultId)
  have htarget : n.target = n'.target := by
    apply UInt8.toNat_inj.mp
    exact Int.ofNat_inj.mp (h.target.symm.trans (htarget.trans h'.target))
  have hmode : n.mode = n'.mode := by
    apply UInt8.toNat_inj.mp
    exact Int.ofNat_inj.mp (h.mode.symm.trans (hmode.trans h'.mode))
  have hstart : n.startOffsetNs = n'.startOffsetNs := h.start.symm.trans (hstart.trans h'.start)
  have hduration : n.durationNs = n'.durationNs :=
    h.duration.symm.trans (hduration.trans h'.duration)
  have hseed : n.seed = n'.seed := by
    apply UInt64.toNat_inj.mp
    exact Int.ofNat_inj.mp (h.seed.symm.trans (hseed.trans h'.seed))
  have hrates : n.xRateNmPerS = n'.xRateNmPerS ∧ n.yawRateNradPerS = n'.yawRateNradPerS := by
    by_cases hdrift : n.mode = RobotestLab.FaultSpec.MODE_ODOM_DRIFT
    · have htext : n.parametersJson = n'.parametersJson :=
        h.parameters.symm.trans ((congrArg Json.dumps hparameters).trans h'.parameters)
      unfold NormalizedFault.parametersJson at htext
      rw [if_pos hdrift, if_pos (hmode ▸ hdrift)] at htext
      exact driftJson_injective htext
    · obtain ⟨hx, hyaw⟩ := hn hdrift
      obtain ⟨hx', hyaw'⟩ := hn' fun heq => hdrift (hmode.trans heq)
      exact ⟨hx.trans hx'.symm, hyaw.trans hyaw'.symm⟩
  cases n
  cases n'
  simp only [NormalizedFault.mk.injEq]
  exact ⟨hfaultId, htarget, hmode, hstart, hduration, hseed, hrates⟩

/-- Faults with the same text are the same. -/
theorem canonicals_of_asDict {faults faults' : List FaultSpec} {ns ns' : List NormalizedFault}
    (h : List.Forall₂ Matches faults (ns.map NormalizedFault.canonical))
    (h' : List.Forall₂ Matches faults' (ns'.map NormalizedFault.canonical))
    (hns : ∀ n ∈ ns, n.Rated) (hns' : ∀ n ∈ ns', n.Rated)
    (hdict : faults.map FaultSpec.asDict = faults'.map FaultSpec.asDict) :
  ns = ns'
  := by
  induction ns generalizing faults faults' ns' with
  | nil =>
      cases h
      obtain rfl := List.map_eq_nil_iff.mp hdict.symm
      cases ns' with
      | nil => rfl
      | cons n' ns' => cases h'
  | cons n ns ih =>
      cases h with
      | cons hn hrest =>
          rw [List.map_cons] at hdict
          obtain ⟨f', faults', rfl, hf', htail⟩ := List.map_eq_cons_iff.mp hdict.symm
          cases ns' with
          | nil => cases h'
          | cons n' ns' =>
              cases h' with
              | cons hn' hrest' =>
                  rw [List.forall_mem_cons] at hns hns'
                  rw [normalized_of_asDict hn hn' hns.1 hns'.1 hf'.symm,
                    ih hrest hrest' hns.2 hns'.2 htail.symm]

/-! ### Schedules -/

section Schedules

variable {lib : Libraries} {specs specs' : List RobotestLab.FaultSpec}
  {schedule schedule' : CanonicalSchedule}

/-- The faults of a schedule are the canonical forms of its specifications, in some order. -/
theorem faults_of_schedule (h : canonicalizeSchedule lib specs = .ok schedule) :
  ∃ ns : List NormalizedFault, ns.Perm (specs.map (normalizedFault lib)) ∧
    schedule.faults = ns.map NormalizedFault.canonical
  := by
  obtain ⟨-, canonicals, hcanonicals, -, -, digest, -, rfl⟩ := canonicalizeSchedule_eq_ok.mp h
  have hperm := sortFaults_perm canonicals
  rw [canonicals_normalizedFault hcanonicals] at hperm
  refine ⟨(sortFaults canonicals).map normalizedOf, ?_, ?_⟩
  · have hnormalized := hperm.map normalizedOf
    rw [List.map_map] at hnormalized
    simpa [Function.comp_def, normalizedOf_canonical, canonicals_normalizedFault hcanonicals]
      using hnormalized
  · have heach : ∀ c ∈ sortFaults canonicals,
        (NormalizedFault.canonical ∘ normalizedOf) c = id c := by
      intro c hc
      rw [canonicals_normalizedFault hcanonicals] at hc
      obtain ⟨n, -, rfl⟩ := List.mem_map.mp (hperm.mem_iff.mp hc)
      rfl
    change sortFaults canonicals = _
    rw [List.map_map, List.map_congr_left heach, List.map_id]

/-- Specifications that are normalized alike have the same schedule. -/
theorem schedule_of_perm (h : canonicalizeSchedule lib specs = .ok schedule)
    (h' : canonicalizeSchedule lib specs' = .ok schedule')
    (hperm : (specs.map (normalizedFault lib)).Perm (specs'.map (normalizedFault lib))) :
  schedule = schedule'
  := by
  obtain ⟨-, canonicals, hcanonicals, hnodup, -, sha256, hsha256, rfl⟩ :=
    canonicalizeSchedule_eq_ok.mp h
  obtain ⟨-, canonicals', hcanonicals', -, -, sha256', hsha256', rfl⟩ :=
    canonicalizeSchedule_eq_ok.mp h'
  have hcanonical := hperm.map NormalizedFault.canonical
  rw [← canonicals_normalizedFault hcanonicals, ← canonicals_normalizedFault hcanonicals']
    at hcanonical
  rw [← faultIds_of_forall₂ hcanonicals] at hnodup
  have hsort := sortFaults_congr hcanonical hnodup
  rw [hsort, hsha256'] at hsha256
  rw [RobotestLab.scheduleOf, RobotestLab.scheduleOf, hsort, Except.ok.inj hsha256]

/-- Two accepted schedules have the same bytes exactly when their specifications have the same
normalized forms, up to their order. Then the schedules are the same. -/
theorem scheduleBytes_injective (h : canonicalizeSchedule lib specs = .ok schedule)
    (h' : canonicalizeSchedule lib specs' = .ok schedule') :
  (schedule.bytes = schedule'.bytes ↔
      (specs.map (normalizedFault lib)).Perm (specs'.map (normalizedFault lib))) ∧
    (schedule.bytes = schedule'.bytes → schedule = schedule')
  := by
  have hread : schedule.bytes = schedule'.bytes →
      (specs.map (normalizedFault lib)).Perm (specs'.map (normalizedFault lib)) := by
    intro hbytes
    obtain ⟨faults, hvalid, hmatches, htext⟩ := matches_of_canonicalizeSchedule h
    obtain ⟨faults', hvalid', hmatches', htext'⟩ := matches_of_canonicalizeSchedule h'
    obtain ⟨ns, hperm, hns⟩ := faults_of_schedule h
    obtain ⟨ns', hperm', hns'⟩ := faults_of_schedule h'
    rw [hns] at hmatches
    rw [hns'] at hmatches'
    have hdict := asDict_of_dumps hvalid hvalid' (by rw [← htext, ← htext', hbytes])
    have hrated : ∀ specs : List RobotestLab.FaultSpec, ∀ ns : List NormalizedFault,
        ns.Perm (specs.map (normalizedFault lib)) → ∀ n ∈ ns, n.Rated := by
      intro specs ns hperm n hn
      obtain ⟨spec, -, rfl⟩ := List.mem_map.mp (hperm.mem_iff.mp hn)
      exact rated_normalizedFault lib spec
    have heq := canonicals_of_asDict hmatches hmatches' (hrated specs ns hperm)
      (hrated specs' ns' hperm') hdict
    exact hperm.symm.trans (heq ▸ hperm')
  refine ⟨⟨hread, ?_⟩, ?_⟩
  · intro hperm
    rw [schedule_of_perm h h' hperm]
  · intro hbytes
    exact schedule_of_perm h h' (hread hbytes)

/-- The two orders of the same two faults. -/
theorem scheduleBytes_injective_sample :
  ∃ schedule schedule', canonicalizeSchedule Sample.libraries sampleSpecs = .ok schedule ∧
    canonicalizeSchedule Sample.libraries sampleSpecs.reverse = .ok schedule' ∧
    (schedule.bytes = schedule'.bytes ↔ (sampleSpecs.map (normalizedFault Sample.libraries)).Perm
      (sampleSpecs.reverse.map (normalizedFault Sample.libraries))) ∧
    (schedule.bytes = schedule'.bytes → schedule = schedule')
  := by
  have haccepted : (canonicalizeSchedule Sample.libraries sampleSpecs).isOk = true ∧
      (canonicalizeSchedule Sample.libraries sampleSpecs.reverse).isOk = true := by
    decide +kernel
  cases h : canonicalizeSchedule Sample.libraries sampleSpecs with
  | error e =>
      rw [h] at haccepted
      cases haccepted.1
  | ok schedule =>
      cases h' : canonicalizeSchedule Sample.libraries sampleSpecs.reverse with
      | error e =>
          rw [h'] at haccepted
          cases haccepted.2
      | ok schedule' => exact ⟨schedule, schedule', rfl, rfl, scheduleBytes_injective h h'⟩

end Schedules

end Missions

end RobotestLab
