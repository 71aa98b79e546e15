import RobotestLab.Faults.Invariant

/-!
# Times of an armed protocol

The chain of checks behind the arithmetic on nanoseconds: the horizon of a schedule, the range
of a stamp and the margin between the commit and the earliest fault. In a reachable state no
operation overflows, and the bounds of every interval are exact stamps (`armedTimes`).
-/

namespace RobotestLab

/-! ### Stamps -/

/-- The conversion to a stamp loses nothing: the fields are in range, and converting back gives
the same nanoseconds. -/
structure ExactStamp (ns : Int) : Prop where
  sec_nonneg : 0 ≤ (nanosecondsToTime ns).sec.toInt
  sec_le : (nanosecondsToTime ns).sec.toInt ≤ 2147483647
  nanosec_lt : (nanosecondsToTime ns).nanosec.toNat < 1000000000
  roundTrip : timeToNanoseconds (nanosecondsToTime ns) = .ok ns

theorem exactStamp_of_le {ns : Int} (hnonneg : 0 ≤ ns)
    (hle : ns ≤ FaultProtocol.maximumRosTimeNs) :
  ExactStamp ns
  := by
  unfold FaultProtocol.maximumRosTimeNs at hle
  have hsec : (nanosecondsToTime ns).sec.toInt = ns / 1000000000 := by
    rw [nanosecondsToTime, kNanosecondsPerSecond, Int.tdiv_eq_ediv_of_nonneg hnonneg,
      Int32.toInt_ofInt_of_le (by omega) (by omega)]
  have hnanosec : ((nanosecondsToTime ns).nanosec.toNat : Int) = ns % 1000000000 := by
    rw [nanosecondsToTime, kNanosecondsPerSecond, Int.tmod_eq_emod_of_nonneg hnonneg,
      UInt32.ofInt, UInt32.toNat_ofNat_of_lt' (by rw [UInt32.size]; omega)]
    omega
  constructor
  · omega
  · omega
  · omega
  · rw [timeToNanoseconds_eq, Time.ns, hsec, hnanosec]
    congr 1
    omega

namespace FaultProtocol

/-- The bound time, the commit and the margin of an armed protocol, and the bounds of its
intervals. -/
structure ArmedTimes (p : FaultProtocol) : Prop where
  positive : 0 < p.acceptedGoalStamp.ns
  order : p.acceptedGoalStamp.ns ≤ p.armCommitStamp.ns
  margin_of_empty : p.schedule.faults = [] → p.armMarginNs = 0
  margin : p.schedule.faults ≠ [] →
    ∃ earliest, (p.schedule.faults.map (·.startOffsetNs)).min? = some earliest ∧
      p.armMarginNs = p.acceptedGoalStamp.ns + earliest - p.armCommitStamp.ns ∧
      500000000 ≤ p.armMarginNs
  activation : ∀ fault ∈ p.schedule.faults,
    p.armCommitStamp.ns + 500000000 ≤ p.acceptedGoalStamp.ns + fault.startOffsetNs
  bounds : ∀ fault ∈ p.schedule.faults, ∃ activationNs deactivationNs,
    addI64 p.acceptedGoalStamp.ns fault.startOffsetNs = .ok activationNs ∧
      addI64 activationNs fault.durationNs = .ok deactivationNs ∧
      activationNs = p.acceptedGoalStamp.ns + fault.startOffsetNs ∧
      deactivationNs = p.acceptedGoalStamp.ns + fault.startOffsetNs + fault.durationNs ∧
      ExactStamp activationNs ∧ ExactStamp deactivationNs

/-- No signed operation overflows in the given state, whatever the request or message. -/
structure NoOverflow (lib : Libraries) (p : FaultProtocol) : Prop where
  canonicalize : ∀ specifications,
    canonicalizeSchedule lib specifications ≠ .error (.threw .signedOverflow)
  arm : ∀ request stamp, p.arm request stamp ≠ .error .signedOverflow
  begin : p.state = .armed → ∀ (τ : Target) stamp,
    p.beginTargetInputLocked τ.wire stamp τ.index ≠ .error .signedOverflow
  event : p.state = .armed → ∀ eventType stamp (fault : RuntimeFault) counters detail,
    fault.canonical ∈ p.schedule.faults →
      p.makeDataEventLocked eventType stamp fault counters detail ≠ .error .signedOverflow

/-! ### Reachable states -/

variable {p : FaultProtocol}

theorem marginOf_eq_ok {earliest t0 commit margin : Int}
    (h : marginOf (some earliest) t0 commit = .ok margin) :
  margin = t0 + earliest - commit ∧ 500000000 ≤ margin
  := by
  unfold marginOf at h
  simp only at h
  split_ifs at h with hlatest hmargin
  unfold kMinimumArmingMarginNanoseconds at hmargin
  have hvalue := Except.ok.inj h
  constructor <;> omega

/-- The earliest offset of a schedule is the least one. -/
theorem min?_eq_earliest {schedule : CanonicalSchedule} (hwf : schedule.Wf) {earliest : Int}
    (h : schedule.earliestStartOffsetNs = some earliest) :
  (schedule.faults.map (·.startOffsetNs)).min? = some earliest
  := by
  obtain ⟨⟨fault, hmem, hfault⟩, hle⟩ := hwf.earliest_le h
  rw [List.min?_eq_some_iff]
  constructor
  · rw [← hfault]
    apply List.mem_map_of_mem hmem
  · intro start hstart
    obtain ⟨other, hother, rfl⟩ := List.mem_map.mp hstart
    apply hle other hother

theorem Inv.armedTimes (hp : p.Inv) (hstate : p.state = .armed) :
  p.ArmedTimes
  := by
  have ha := hp.armed hstate
  have hmarginOf := ha.margin
  have hearliest : p.schedule.faults ≠ [] → ∃ earliest,
      p.schedule.earliestStartOffsetNs = some earliest := by
    intro hfaults
    apply Option.ne_none_iff_exists'.mp
    intro hnone
    exact hfaults (hp.schedule.earliest_eq_none_iff.mp hnone)
  constructor
  · exact ((positiveTime_iff _).mp ha.t0).2
  · exact ha.order
  · intro hfaults
    rw [hp.schedule.earliest_eq_none_iff.mpr hfaults] at hmarginOf
    exact (Except.ok.inj hmarginOf).symm
  · intro hfaults
    obtain ⟨earliest, hearliest⟩ := hearliest hfaults
    rw [hearliest] at hmarginOf
    obtain ⟨hvalue, hle⟩ := marginOf_eq_ok hmarginOf
    exact ⟨earliest, min?_eq_earliest hp.schedule hearliest, hvalue, hle⟩
  · intro fault hmem
    obtain ⟨earliest, hearliest⟩ := hearliest (List.ne_nil_of_mem hmem)
    rw [hearliest] at hmarginOf
    obtain ⟨hvalue, hle⟩ := marginOf_eq_ok hmarginOf
    have hfirst := (hp.schedule.earliest_le hearliest).2 fault hmem
    change p.armCommitStamp.ns + 500000000 ≤ p.t0Ns + fault.startOffsetNs
    omega
  · intro fault hmem
    obtain ⟨ht0, hstart, hlt, hle⟩ := ha.bounds hp hmem
    have hrange := fun ns (hnonneg : 0 ≤ ns) (hns : ns ≤ maximumRosTimeNs) => by
      have : Int64Arith.InRange ns := by
        unfold maximumRosTimeNs at hns
        unfold Int64Arith.InRange Int64Arith.least Int64Arith.greatest
        omega
      exact this
    refine ⟨fault.activationNs p.t0Ns, fault.deactivationNs p.t0Ns, ?_, ?_, rfl, rfl, ?_, ?_⟩
    · apply addI64_of_inRange (hrange _ _ _)
      · change 0 ≤ fault.activationNs p.t0Ns
        omega
      · change fault.activationNs p.t0Ns ≤ _
        omega
    · apply addI64_of_inRange (hrange _ _ hle)
      change 0 ≤ fault.deactivationNs p.t0Ns
      omega
    · apply exactStamp_of_le <;> omega
    · apply exactStamp_of_le <;> omega

theorem Inv.noOverflow (hp : p.Inv) (lib : Libraries) :
  p.NoOverflow lib
  := by
  constructor
  · intro specifications
    apply canonicalizeSchedule_noThrow
  · intro request stamp
    rw [arm_eq hp.schedule]
    intro h
    cases (answered_eq_error.mp h).2
  · intro hstate τ stamp h
    have hsound := hp.sound hstate τ
    cases hblocked : p.blocked τ stamp.ns with
    | some reason =>
        rw [beginTargetInputLocked_of_blocked hblocked] at h
        cases h
    | none =>
        rw [beginTargetInputLocked_eq hsound hblocked, emit_eq] at h
        · split_ifs at h <;> cases h
        · intro e he
          obtain ⟨fault, hmem, -, hcanonical⟩ := fault_of_mem_entries he
          rw [hcanonical]
          apply hsound.inRange fault hmem
  · intro hstate eventType stamp fault counters detail hmem h
    obtain ⟨other, hother, hcanonical⟩ : ∃ other ∈ p.runtimeFaults,
        other.canonical = fault.canonical := by
      rw [← hp.runtime] at hmem
      apply List.mem_map.mp hmem
    have hrange := (hp.sound hstate .scan).inRange other hother
    rw [hcanonical] at hrange
    rw [makeDataEventLocked_eq hrange] at h
    split_ifs at h
    cases h

variable {F32 F64 : Type} [Binary32 F32] [Binary64 F64] [Tf2 F64]

/-- In every reachable state no signed operation overflows, no call ends in an overflow, and an
armed protocol keeps the margin and has exact bounds. -/
theorem armedTimes_of_reachable {lib : Libraries} {n : UInt64}
    (h : Reachable (C := Call F32 F64) (FaultProtocol.step lib) (FaultProtocol.new n) p) :
  (p.state = .armed → p.ArmedTimes) ∧ p.NoOverflow lib ∧
    ∀ c : Call F32 F64, p.step lib c ≠ .error .signedOverflow
  := by
  have hp := inv_of_reachable h
  refine ⟨hp.armedTimes, hp.noOverflow lib, ?_⟩
  intro c hc
  cases ((step_eq_error hp).mp hc).2

/-- The sample schedule keeps the margin. -/
theorem armedTimes_of_sample :
  (Sample.after [Sample.preload, Sample.arm]).ArmedTimes
  := (armedTimes_of_reachable (Sample.reachable_after [Sample.preload, Sample.arm])).1
    Sample.armed_after

end FaultProtocol

end RobotestLab
