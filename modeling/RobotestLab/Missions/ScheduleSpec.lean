import RobotestLab.Library.Machine
import RobotestLab.Missions.FaultSchedule

/-!
# What the mission runner accepts

The checks of the mission runner, read as conditions: a fault is accepted exactly with the
values its fields hold (`fault_eq_ok`), an accepted fault is valid (`FaultSpec.Valid`), and the
loop over the sorted faults passes exactly when the intervals of each target follow each other
(`checkIntervals_eq_ok`).
-/

namespace RobotestLab

namespace Missions

theorem ensure_eq_ok {condition : Bool} {message : String} {u : Unit} :
  ensure condition message = .ok u ↔ condition = true
  := by
  cases condition <;> simp [ensure]

variable {value : PyValue}

theorem integer_eq_ok {name : String} {minimum maximum n : Int} :
  integer value name minimum maximum = .ok n ↔
    value.asInteger = some n ∧ minimum ≤ n ∧ n ≤ maximum
  := by
  unfold integer
  cases value.asInteger with
  | none => simp
  | some m =>
      simp only [Except.bind_eq_ok_iff, ensure_eq_ok, exists_const, Bool.and_eq_true,
        decide_eq_true_eq, Except.ok.injEq, Option.some.injEq]
      constructor
      · rintro ⟨hbounds, rfl⟩
        exact ⟨rfl, hbounds⟩
      · rintro ⟨rfl, hbounds⟩
        exact ⟨hbounds, rfl⟩

theorem faultIdOf_eq_ok {faultId : String} :
  faultIdOf value = .ok faultId ↔ value.asText = some faultId ∧ matchesFaultId faultId = true
  := by
  unfold faultIdOf
  cases value.asText with
  | none => simp
  | some text =>
      simp only [Option.some.injEq]
      split_ifs with hmatches
      · rw [Except.ok.injEq]
        constructor
        · rintro rfl
          exact ⟨rfl, hmatches⟩
        · rintro ⟨rfl, -⟩
          rfl
      · constructor
        · rintro ⟨⟩
        · rintro ⟨rfl, hmatches'⟩
          exact absurd hmatches' hmatches

/-- The parameters of a fault with the given target and mode. -/
inductive Parameters : Int → Int → List (String × Int) → Prop
  | empty {target mode : Int} (h : mode = MODE_PASS_THROUGH ∨ mode = MODE_LIDAR_DROPOUT) :
      Parameters target mode []
  | drift {xRate yawRate : Int} (hx : -MAX_RATE ≤ xRate ∧ xRate ≤ MAX_RATE)
      (hyaw : -MAX_RATE ≤ yawRate ∧ yawRate ≤ MAX_RATE) (h : ¬ (xRate = 0 ∧ yawRate = 0)) :
      Parameters TARGET_ODOM MODE_ODOM_DRIFT
        [("x_rate_nm_per_s", xRate), ("yaw_rate_nrad_per_s", yawRate)]

/-- What a fault satisfies apart from the other faults. -/
structure FaultSpec.Valid (fault : FaultSpec) : Prop where
  schema : fault.schemaVersion = 1
  id : matchesFaultId fault.faultId = true
  target : TARGET_SCAN ≤ fault.target ∧ fault.target ≤ TARGET_IMU
  pair : fault.mode = MODE_PASS_THROUGH ∨
    (fault.target = TARGET_SCAN ∧ fault.mode = MODE_LIDAR_DROPOUT) ∨
    (fault.target = TARGET_ODOM ∧ fault.mode = MODE_ODOM_DRIFT)
  start : MIN_START_OFFSET_NS ≤ fault.startOffsetNs
  positive : 1 ≤ fault.durationNs
  horizon : fault.startOffsetNs + fault.durationNs ≤ MAX_TIME_NS
  seed : 0 ≤ fault.seed ∧ fault.seed ≤ UINT64_MAX
  parameters : Parameters fault.target fault.mode fault.parameters

theorem Parameters.of_ok {target mode : Int} {ps : List (String × Int)}
    (h : Missions.parameters target mode value = .ok ps) :
  Parameters target mode ps
  := by
  unfold Missions.parameters at h
  cases hitems : value.asMapping with
  | none =>
      rw [hitems] at h
      cases h
  | some items =>
      rw [hitems] at h
      simp only at h
      split_ifs at h with hempty hdrift
      · obtain ⟨-, -, h⟩ := Except.bind_eq_ok_iff.mp h
        obtain rfl := Except.ok.inj h
        apply Parameters.empty hempty
      · obtain ⟨rfl, rfl⟩ := hdrift
        simp only [Except.bind_eq_ok_iff, ensure_eq_ok, exists_const, integer_eq_ok] at h
        obtain ⟨-, xRate, ⟨-, hx⟩, yawRate, ⟨-, hyaw⟩, hnonzero, h⟩ := h
        obtain rfl := Except.ok.inj h
        apply Parameters.drift hx hyaw
        rintro ⟨rfl, rfl⟩
        cases hnonzero

/-- The items of a mapping hold the values of the fault. -/
structure FaultSpec.Holds (fault : FaultSpec) (items : List (PyValue × PyValue)) : Prop where
  keys : PyValue.hasKeys faultFields items = true
  schema : (PyValue.item "schema_version" items).equalsInt 1 = true
  faultId : (PyValue.item "fault_id" items).asText = some fault.faultId
  target : (PyValue.item "target" items).asInteger = some fault.target
  mode : (PyValue.item "mode" items).asInteger = some fault.mode
  start : (PyValue.item "start_offset_ns" items).asInteger = some fault.startOffsetNs
  duration : (PyValue.item "duration_ns" items).asInteger = some fault.durationNs
  seed : (PyValue.item "seed" items).asInteger = some fault.seed
  parameters : Missions.parameters fault.target fault.mode (PyValue.item "parameters" items)
    = .ok fault.parameters

/-- A fault is accepted exactly when it is valid and its fields hold its values. -/
theorem fault_eq_ok {f : FaultSpec} :
  fault value = .ok f ↔ ∃ items, value.asMapping = some items ∧ f.Holds items ∧ f.Valid
  := by
  unfold fault
  cases value.asMapping with
  | none => simp
  | some items =>
      simp only [Except.bind_eq_ok_iff, ensure_eq_ok, exists_const, integer_eq_ok,
        faultIdOf_eq_ok, Bool.or_eq_true, Bool.and_eq_true, beq_iff_eq, decide_eq_true_eq,
        Except.ok.injEq, Option.some.injEq, exists_eq_left']
      constructor
      · rintro ⟨hkeys, hschema, faultId, ⟨hid, hmatches⟩, target, ⟨htarget, htargets⟩, mode,
          ⟨hmode, -⟩, hpair, start, ⟨hstart, -⟩, duration, ⟨hduration, hpositive, -⟩, hmin,
          hhorizon, seed, ⟨hseed, hseeds⟩, parameters, hparameters, rfl⟩
        exact ⟨⟨hkeys, hschema, hid, htarget, hmode, hstart, hduration, hseed, hparameters⟩,
          ⟨rfl, hmatches, htargets, or_assoc.mp hpair, hmin, hpositive, hhorizon, hseeds,
            Parameters.of_ok hparameters⟩⟩
      · rintro ⟨hholds, hvalid⟩
        have hmin := hvalid.start
        have hpositive := hvalid.positive
        have hhorizon := hvalid.horizon
        have hmodes : MODE_PASS_THROUGH ≤ f.mode ∧ f.mode ≤ MODE_ODOM_DRIFT := by
          rcases hvalid.pair with hmode | ⟨-, hmode⟩ | ⟨-, hmode⟩ <;> rw [hmode] <;> decide
        unfold MIN_START_OFFSET_NS at hmin
        unfold MAX_TIME_NS at hhorizon
        refine ⟨hholds.keys, hholds.schema, f.faultId, ⟨hholds.faultId, hvalid.id⟩, f.target,
          ⟨hholds.target, hvalid.target⟩, f.mode, ⟨hholds.mode, hmodes⟩,
          or_assoc.mpr hvalid.pair, f.startOffsetNs, ⟨hholds.start, ?_, ?_⟩, f.durationNs,
          ⟨hholds.duration, hpositive, ?_⟩, hvalid.start, hvalid.horizon, f.seed,
          ⟨hholds.seed, hvalid.seed⟩, f.parameters, hholds.parameters, ?_⟩
        · omega
        · unfold MAX_TIME_NS
          omega
        · unfold MAX_TIME_NS
          omega
        · rw [← hvalid.schema]

/-! ### Schedules -/

/-- Two faults of one target follow each other. -/
def FaultSpec.Disjoint (left right : FaultSpec) : Prop :=
  left.target = right.target → left.startOffsetNs + left.durationNs ≤ right.startOffsetNs

/-- The loop over the sorted faults passes exactly when every fault starts after the last one of
its target and the faults are pairwise disjoint. -/
theorem checkIntervals_eq_ok {faults : List FaultSpec} (hpositive : ∀ f ∈ faults, 1 ≤ f.durationNs)
    {byTarget : Int → List FaultSpec} {u : Unit} :
  checkIntervals byTarget faults = .ok u ↔
    (∀ f ∈ faults, ∀ last ∈ (byTarget f.target).getLast?,
      last.startOffsetNs + last.durationNs ≤ f.startOffsetNs) ∧
    faults.Pairwise FaultSpec.Disjoint
  := by
  induction faults generalizing byTarget with
  | nil => simp [checkIntervals]
  | cons first rest ih =>
      have hfirst := hpositive first List.mem_cons_self
      simp only [checkIntervals, Except.bind_eq_ok_iff, ensure_eq_ok, exists_const,
        ih (fun f hf => hpositive f (List.mem_cons_of_mem _ hf)), Option.all_eq_true,
        decide_eq_true_eq, List.pairwise_cons]
      constructor
      · rintro ⟨hprevious, hnext, hpairwise⟩
        have hdisjoint : ∀ f ∈ rest, first.Disjoint f := by
          intro f hf htarget
          apply hnext f hf first
          rw [← htarget, Function.update_self, List.getLast?_concat]
          rfl
        refine ⟨?_, hdisjoint, hpairwise⟩
        intro f hf last hlast
        rcases List.mem_cons.mp hf with rfl | hf
        · apply hprevious last hlast
        · by_cases htarget : f.target = first.target
          · rw [htarget] at hlast
            have hbefore := hprevious last hlast
            have hafter := hdisjoint f hf htarget.symm
            omega
          · apply hnext f hf last
            rwa [Function.update_of_ne htarget]
      · rintro ⟨hprevious, hdisjoint, hpairwise⟩
        refine ⟨hprevious first List.mem_cons_self, ?_, hpairwise⟩
        intro f hf last hlast
        by_cases htarget : f.target = first.target
        · rw [htarget, Function.update_self, List.getLast?_concat] at hlast
          obtain rfl := Option.mem_some.mp hlast
          apply hdisjoint f hf htarget.symm
        · rw [Function.update_of_ne htarget] at hlast
          apply hprevious f (List.mem_cons_of_mem _ hf) last hlast

/-- The schedule of the sorted faults. -/
def scheduleOf (sha256 : String → List UInt8) (faults : List FaultSpec) : FaultSchedule where
  schemaVersion := 1
  faults := faults
  canonicalJson := (content faults).dumps
  sha256 := hexdigest (sha256 (content faults).dumps)

theorem sortedFaults_perm (faults : List FaultSpec) :
  (sortedFaults faults).Perm faults
  := List.perm_insertionSort _ faults

theorem valid_of_forall₂ {raw : List PyValue} {faults : List FaultSpec}
    (h : List.Forall₂ (fun value f => fault value = .ok f) raw faults) :
  ∀ f ∈ faults, f.Valid
  := by
  induction h with
  | nil => simp
  | cons hfault _ ih =>
      obtain ⟨-, -, -, hvalid⟩ := fault_eq_ok.mp hfault
      intro f hf
      rcases List.mem_cons.mp hf with rfl | hf
      · exact hvalid
      · apply ih f hf

/-- A schedule is accepted exactly when there are at most 16 faults, each is accepted, their
identifiers are distinct, the sorted faults are pairwise disjoint and the claimed hash, if there
is one, is the computed one. -/
theorem buildFaultSchedule_eq_ok {sha256 : String → List UInt8} {rawFaults claimed : PyValue}
    {schedule : FaultSchedule} :
  buildFaultSchedule sha256 rawFaults claimed = .ok schedule ↔
    ∃ raw, rawFaults.asSequence = some raw ∧ raw.length ≤ 16 ∧ ∃ faults,
      List.Forall₂ (fun value f => fault value = .ok f) raw faults ∧
      (faults.map FaultSpec.faultId).Nodup ∧
      (sortedFaults faults).Pairwise FaultSpec.Disjoint ∧
      checkClaim claimed (scheduleOf sha256 (sortedFaults faults)).sha256 = .ok () ∧
      schedule = scheduleOf sha256 (sortedFaults faults)
  := by
  unfold buildFaultSchedule
  cases rawFaults.asSequence with
  | none => simp
  | some raw =>
      have hidentifiers : ∀ faults : List FaultSpec,
          ((sortedFaults faults).map FaultSpec.faultId).length
              = ((sortedFaults faults).map FaultSpec.faultId).dedup.length ↔
            (faults.map FaultSpec.faultId).Nodup := by
        intro faults
        rw [← ((sortedFaults_perm faults).map FaultSpec.faultId).nodup_iff]
        constructor
        · intro hlength
          rw [← List.dedup_eq_self]
          apply (List.dedup_sublist _).eq_of_length hlength.symm
        · intro hnodup
          rw [List.dedup_eq_self.mpr hnodup]
      have hintervals : ∀ {faults}, List.Forall₂ (fun value f => fault value = .ok f) raw faults →
          (checkIntervals (fun _ => []) (sortedFaults faults) = .ok () ↔
            (sortedFaults faults).Pairwise FaultSpec.Disjoint) := by
        intro faults hforall
        rw [checkIntervals_eq_ok]
        · simp
        · intro f hf
          exact (valid_of_forall₂ hforall f ((sortedFaults_perm faults).mem_iff.mp hf)).positive
      simp only [Except.bind_eq_ok_iff, ensure_eq_ok, exists_const, Except.mapM_eq_ok_iff,
        beq_iff_eq, hidentifiers, Option.some.injEq, exists_eq_left', Except.ok.injEq]
      rw [decide_eq_true_eq, MAX_FAULTS]
      constructor
      · rintro ⟨hlength, faults, hforall, hnodup, ⟨⟩, hchecked, ⟨⟩, hclaim, rfl⟩
        exact ⟨hlength, faults, hforall, hnodup, (hintervals hforall).mp hchecked, hclaim, rfl⟩
      · rintro ⟨hlength, faults, hforall, hnodup, hdisjoint, hclaim, rfl⟩
        exact ⟨hlength, faults, hforall, hnodup, (), (hintervals hforall).mpr hdisjoint, (), hclaim,
          rfl⟩

end Missions

end RobotestLab
