import RobotestLab.Faults.ControlSpec
import RobotestLab.Library.Run

/-!
# The protocol over whole runs

`FaultProtocol.respond` answers every call by a total function: an outcome, the number of
events it makes and the next state. `step_eq` states that a call of the protocol gives this
response in every state that satisfies the invariant `FaultProtocol.Inv`, unless its events
cannot be numbered any more. The invariant holds in every reachable state (`inv_of_reachable`).
-/

namespace RobotestLab

namespace FaultProtocol

/-! ### The invariant -/

/-- What holds of an armed protocol. -/
structure Armed (p : FaultProtocol) : Prop where
  t0 : positiveTime p.acceptedGoalStamp = true
  commit : normalizedTime p.armCommitStamp = true
  order : p.t0Ns ≤ p.armCommitStamp.ns
  ends : ∀ fault ∈ p.schedule.faults, fault.deactivationNs p.t0Ns ≤ maximumRosTimeNs
  margin : marginOf p.schedule.earliestStartOffsetNs p.t0Ns p.armCommitStamp.ns = .ok p.armMarginNs
  raw : ∀ τ : Target, (p.streamCounters τ.index).inputSequence
    = (p.streamCounters τ.index).rawInputCount
  validated : ∀ τ : Target, (p.streamCounters τ.index).validatedOutputCount.toNat
    ≤ (p.streamCounters τ.index).rawInputCount.toNat
  affected : ∀ τ : Target, ∀ fault ∈ p.runtimeFaults, fault.target = τ.wire →
    fault.affectedMessageCount.toNat ≤ (p.streamCounters τ.index).rawInputCount.toNat
  closed : ∀ τ : Target, ∀ fault ∈ p.runtimeFaults, fault.target = τ.wire →
    fault.deactivated = true → ∃ last, (p.streamCounters τ.index).lastInputStampNs = some last ∧
      fault.canonical.deactivationNs p.t0Ns ≤ last

/-- What holds of every protocol: its schedule is an accepted one, its runtime faults are those
of the schedule, and an armed protocol satisfies `Armed`. -/
structure Inv (p : FaultProtocol) : Prop where
  schedule : p.schedule.Wf
  runtime : p.runtimeFaults.map RuntimeFault.canonical = p.schedule.faults
  armed : p.state = .armed → p.Armed

section

variable {p : FaultProtocol}

theorem Inv.mem_schedule (hp : p.Inv) {fault : RuntimeFault} (hmem : fault ∈ p.runtimeFaults) :
  fault.canonical ∈ p.schedule.faults
  := by
  rw [← hp.runtime]
  apply List.mem_map_of_mem hmem

/-- The bounds of the intervals of an armed protocol are stamps. -/
theorem Armed.bounds (ha : p.Armed) (hp : p.Inv) {fault : CanonicalFault}
    (hmem : fault ∈ p.schedule.faults) :
  0 < p.t0Ns ∧ p.t0Ns + 500000000 ≤ fault.activationNs p.t0Ns ∧
    fault.activationNs p.t0Ns < fault.deactivationNs p.t0Ns ∧
    fault.deactivationNs p.t0Ns ≤ maximumRosTimeNs
  := by
  have hends := ha.ends fault hmem
  have hstart := (hp.schedule.faults fault hmem).start
  have hpositive := (hp.schedule.faults fault hmem).positive
  obtain ⟨-, ht0⟩ := (positiveTime_iff p.acceptedGoalStamp).mp ha.t0
  unfold CanonicalFault.deactivationNs CanonicalFault.activationNs at *
  refine ⟨ht0, ?_, ?_, hends⟩ <;> omega

theorem Inv.sound (hp : p.Inv) (hstate : p.state = .armed) (τ : Target) :
  p.Sound τ
  := by
  have ha := hp.armed hstate
  constructor
  · intro fault hmem
    obtain ⟨ht0, hstart, hlt, hle⟩ := ha.bounds hp (hp.mem_schedule hmem)
    unfold maximumRosTimeNs at hle
    constructor
    · unfold Int64Arith.InRange Int64Arith.least Int64Arith.greatest
      omega
    · unfold Int64Arith.InRange Int64Arith.least Int64Arith.greatest
      omega
  · intro fault hmem
    obtain ⟨ht0, hstart, -, -⟩ := ha.bounds hp (hp.mem_schedule hmem)
    omega
  · have hdisjoint := hp.schedule.disjoint
    rw [← hp.runtime, List.pairwise_map] at hdisjoint
    exact hdisjoint
  · apply ha.raw
  · apply ha.validated
  · apply ha.affected

end

/-! ### Responses -/

/-- The response to a call: an outcome, the number of its events, and the next state with the
events not yet counted. -/
structure Response (α : Type) where
  outcome : α
  count : Nat
  next : FaultProtocol

/-- The response with another outcome. -/
def Response.map {α β : Type} (f : α → β) (r : Response α) : Response β where
  outcome := f r.outcome
  count := r.count
  next := r.next

/-- The response to a sensor message of the stream `τ`, given why its validation refuses it and
what is sent on when it is let in. -/
def sense {M : Type} (p : FaultProtocol) (τ : Target) (stamp : Time) (refusal : Option String)
    (input : M) (output : Option M) : Response (FaultProcessOutcome M) :=
  match refusal with
  | some reason => { outcome := { reason := reason }, count := 0, next := p }
  | none =>
      if p.state ≠ .armed then
        { outcome := { accepted := true, publish := true, message := some input }
          count := 0
          next := p }
      else match p.blocked τ stamp.ns with
        | some reason => { outcome := { reason := reason }, count := 0, next := p }
        | none =>
            { outcome := {
                accepted := true
                publish := !(p.modified τ stamp.ns && τ.suppresses)
                message := output
                events := p.numbered stamp p.eventSequence.toNat (p.emissions τ stamp.ns) }
              count := (p.emissions τ stamp.ns).length
              next := p.observed τ stamp.ns }

variable {F32 F64 : Type} [Binary32 F32] [Binary64 F64] [Tf2 F64]

/-- Why a validation refuses a message. -/
def refusal {α : Type} : Except String α → Option String
  | .error reason => some reason
  | .ok _ => none

/-- The response to a call. -/
def respond (lib : Libraries) (p : FaultProtocol) : Call F32 F64 → Response (Outcome F32 F64)
  | .preload request stamp =>
      { outcome := .preload (p.preloadOutcome (p.preloadVerdict lib request stamp) request stamp)
        count := 1
        next := (p.preloadVerdict lib request stamp).next p }
  | .arm request stamp =>
      { outcome := .arm (p.armOutcome (p.armVerdict request stamp) request stamp)
        count := 1
        next := (p.armVerdict request stamp).next p }
  | .reset stamp =>
      { outcome := .reset (p.resetOutcome stamp), count := 1, next := p.clearedState }
  | .scan input frame =>
      (p.sense .scan input.header.stamp (refusal (validateAndCopyScan input frame)) input
        (if p.modified .scan input.header.stamp.ns then none else some input)).map .scan
  | .odom input frame childFrame =>
      (p.sense .odom input.header.stamp (refusal (validateAndCopyOdom input frame childFrame)) input
        (some (p.delivered input input.header.stamp.ns))).map .odom
  | .imu input frame =>
      (p.sense .imu input.header.stamp (refusal (validateAndCopyImu input frame)) input
        (some input)).map .imu

/-- A response, given while its events can be numbered. -/
def give {α : Type} (p : FaultProtocol) (r : Response α) : Except Throw (α × FaultProtocol) :=
  p.answered r.count r.outcome r.next

/-- A response without events is always given. -/
theorem answered_zero {α : Type} (p : FaultProtocol) (outcome : α) :
  p.answered 0 outcome p = .ok (outcome, p)
  := by
  rw [answered, if_pos, counted_zero]
  have := p.eventSequence.toNat_lt
  omega

theorem processScan_eq {p : FaultProtocol} (hp : p.Inv) (input : LaserScan F32) (frame : String) :
  p.processScan input frame = p.give (p.sense .scan input.header.stamp
    (refusal (validateAndCopyScan input frame)) input
    (if p.modified .scan input.header.stamp.ns then none else some input))
  := by
  unfold give sense
  cases hcopy : validateAndCopyScan input frame with
  | error reason =>
      rw [processScan, hcopy, refusal, answered_zero]
  | ok validated =>
      obtain ⟨rfl, -⟩ := validateAndCopyScan_eq_ok hcopy
      rw [refusal]
      simp only
      by_cases hstate : p.state = .armed
      · rw [if_neg (not_not.mpr hstate)]
        cases hblocked : p.blocked .scan validated.header.stamp.ns with
        | some reason =>
            rw [processScan_blocked hstate hcopy hblocked, answered_zero]
        | none =>
            rw [processScan_armed (hp.sound hstate .scan) hstate hcopy rfl hblocked]
            simp [Target.suppresses]
      · rw [if_pos hstate, processScan, hcopy, answered_zero]
        simp only
        rw [if_pos hstate]

theorem processOdom_eq {p : FaultProtocol} (hp : p.Inv) (input : Odometry F64)
    (frame childFrame : String) :
  p.processOdom input frame childFrame = p.give (p.sense .odom input.header.stamp
    (refusal (validateAndCopyOdom input frame childFrame)) input
    (some (p.delivered input input.header.stamp.ns)))
  := by
  unfold give sense
  cases hcopy : validateAndCopyOdom input frame childFrame with
  | error reason =>
      rw [processOdom, hcopy, refusal, answered_zero]
  | ok validated =>
      obtain ⟨rfl, -⟩ := validateAndCopyOdom_eq_ok hcopy
      rw [refusal]
      simp only
      by_cases hstate : p.state = .armed
      · rw [if_neg (not_not.mpr hstate)]
        cases hblocked : p.blocked .odom validated.header.stamp.ns with
        | some reason =>
            rw [processOdom_blocked hstate hcopy hblocked, answered_zero]
        | none =>
            rw [processOdom_armed (hp.sound hstate .odom) hstate hcopy rfl hblocked]
            simp [Target.suppresses]
      · rw [if_pos hstate, processOdom, hcopy, answered_zero]
        simp only
        rw [if_pos hstate]

omit [Tf2 F64] in
theorem processImu_eq {p : FaultProtocol} (hp : p.Inv) (input : Imu F64) (frame : String) :
  p.processImu input frame = p.give (p.sense .imu input.header.stamp
    (refusal (validateAndCopyImu input frame)) input
    (some input))
  := by
  unfold give sense
  cases hcopy : validateAndCopyImu input frame with
  | error reason =>
      rw [processImu, hcopy, refusal, answered_zero]
  | ok validated =>
      obtain ⟨rfl, -⟩ := validateAndCopyImu_eq_ok hcopy
      rw [refusal]
      simp only
      by_cases hstate : p.state = .armed
      · rw [if_neg (not_not.mpr hstate)]
        cases hblocked : p.blocked .imu validated.header.stamp.ns with
        | some reason =>
            rw [processImu_blocked hstate hcopy hblocked, answered_zero]
        | none =>
            rw [processImu_armed (hp.sound hstate .imu) hstate hcopy rfl hblocked]
            simp [Target.suppresses]
      · rw [if_pos hstate, processImu, hcopy, answered_zero]
        simp only
        rw [if_pos hstate]

/-- A call of the protocol gives its response. -/
theorem step_eq (lib : Libraries) {p : FaultProtocol} (hp : p.Inv) (c : Call F32 F64) :
  p.step lib c = p.give (p.respond lib c)
  := by
  have hmap : ∀ {α : Type} (r : Response α) (f : α → Outcome F32 F64), (do
      let (outcome, p) ← p.give r
      (.ok (f outcome, p) : Except Throw (Outcome F32 F64 × FaultProtocol)))
        = p.give (r.map f) := by
    rintro α ⟨outcome, count, next⟩ f
    change (p.answered count outcome next >>= _) = p.answered count (f outcome) next
    unfold answered
    split_ifs <;> rfl
  cases c with
  | preload request stamp =>
      rw [step, preload_eq]
      exact hmap ⟨_, _, _⟩ .preload
  | arm request stamp =>
      rw [step, arm_eq hp.schedule]
      exact hmap ⟨_, _, _⟩ .arm
  | reset stamp =>
      rw [step, reset_eq]
      exact hmap ⟨_, _, _⟩ .reset
  | scan input frame =>
      rw [step, processScan_eq hp]
      apply hmap
  | odom input frame childFrame =>
      rw [step, processOdom_eq hp]
      apply hmap
  | imu input frame =>
      rw [step, processImu_eq hp]
      apply hmap

/-! ### Preservation -/

section

variable {p : FaultProtocol}

theorem Inv.new (n : UInt64) :
  (FaultProtocol.new n).Inv
  where
  schedule := CanonicalSchedule.Wf.empty
  runtime := rfl
  armed := by rintro ⟨⟩

/-- The number of events does not matter. -/
theorem Inv.counted (hp : p.Inv) (n : Nat) :
  (p.counted n).Inv
  where
  schedule := hp.schedule
  runtime := hp.runtime
  armed h := { hp.armed h with }

theorem Inv.clearedState (p : FaultProtocol) :
  p.clearedState.Inv
  where
  schedule := CanonicalSchedule.Wf.empty
  runtime := rfl
  armed := by rintro ⟨⟩

theorem Inv.preparedState (p : FaultProtocol) {canonical : CanonicalSchedule} (h : canonical.Wf)
    (generation : UInt64) :
  (p.preparedState canonical generation).Inv
  where
  schedule := h
  runtime := by
    simp [FaultProtocol.preparedState, resetRuntimeLocked, Function.comp_def]
  armed := by rintro ⟨⟩

variable {fault : RuntimeFault}

/-- An untouched fault has neither closed its interval nor changed a message. -/
theorem fault_of_mem_resetRuntimeLocked (h : fault ∈ p.resetRuntimeLocked.runtimeFaults) :
  fault.deactivated = false ∧ fault.affectedMessageCount = 0
  := by
  obtain ⟨canonical, -, rfl⟩ := List.mem_map.mp h
  exact ⟨rfl, rfl⟩

variable {stamp : Time}

/-- What the checks of an arm request guarantee. -/
theorem armVerdict_eq_committed {request : ArmRequest} {next : FaultProtocol}
    (h : p.armVerdict request stamp = .committed next) :
  p.state = .prepared ∧ normalizedTime stamp = true ∧
    positiveTime request.acceptedGoalStamp = true ∧ zeroUuid request.goalUuid = false ∧
    request.scheduleHash = p.schedule.sha256 ∧ request.generation = p.generation ∧
    request.acceptedGoalStamp.ns ≤ stamp.ns ∧
    exceeds p.schedule.faults request.acceptedGoalStamp.ns = false ∧
    ∃ marginNs, marginOf p.schedule.earliestStartOffsetNs request.acceptedGoalStamp.ns stamp.ns
        = .ok marginNs ∧
      next = p.armedState request stamp marginNs
  := by
  unfold armVerdict armPrepared at h
  split_ifs at h with hstamp hbinding hprepared hhash huuid ht0 hcommit hexceeds
  split at h
  · cases h
  · rename_i marginNs hmargin
    simp only [Bool.not_eq_true, Bool.not_eq_false', Bool.or_eq_false_iff, bne_eq_false_iff_eq]
      at hstamp hprepared hhash huuid ht0 hexceeds
    obtain ⟨⟨-, hhash⟩, hgeneration⟩ := hhash
    exact ⟨hprepared, hstamp, ht0, huuid, hhash, hgeneration, Int.not_lt.mp hcommit, hexceeds,
      marginNs, hmargin, (Verdict.committed.inj h).symm⟩

theorem Inv.armVerdict_next (hp : p.Inv) (request : ArmRequest) (stamp : Time) :
  ((p.armVerdict request stamp).next p).Inv
  := by
  cases hverdict : p.armVerdict request stamp with
  | rejected message => exact hp
  | replayed => exact hp
  | committed next =>
      obtain ⟨-, hstamp, ht0, -, -, -, horder, hexceeds, marginNs, hmargin, rfl⟩ :=
        armVerdict_eq_committed hverdict
      constructor
      · exact hp.schedule
      · simp [Verdict.next, armedState, resetRuntimeLocked, Function.comp_def]
      · intro _
        constructor
        · exact ht0
        · exact hstamp
        · exact horder
        · intro fault hmem
          have hle := List.any_eq_false.mp hexceeds fault hmem
          simp only [decide_eq_true_eq] at hle
          change request.acceptedGoalStamp.ns + fault.startOffsetNs + fault.durationNs
            ≤ maximumRosTimeNs
          omega
        · exact hmargin
        · intro τ
          rfl
        · intro τ
          exact le_refl _
        · intro τ fault hmem htarget
          rw [(fault_of_mem_resetRuntimeLocked hmem).2]
          exact Nat.zero_le _
        · intro τ fault hmem htarget hdeactivated
          rw [(fault_of_mem_resetRuntimeLocked hmem).1] at hdeactivated
          cases hdeactivated

/-- What the checks of a preload guarantee. -/
theorem preloadVerdict_eq_committed {lib : Libraries} {request : PreloadRequest}
    {next : FaultProtocol} (h : p.preloadVerdict lib request stamp = .committed next) :
  ∃ canonical generation, normalizedTime stamp = true ∧
    canonicalizeSchedule lib request.faults = .ok canonical ∧
    lowercaseSha256 request.scheduleHash = true ∧
    request.scheduleHash = canonical.sha256 ∧ p.state ≠ .armed ∧
    p.sameSchedule canonical = false ∧
    incrementCounter p.lastAllocatedGeneration = some generation ∧
    next = p.preparedState canonical generation
  := by
  unfold preloadVerdict at h
  split_ifs at h with hstamp
  split at h
  · cases h
  · cases h
  · rename_i canonical hcanonical
    unfold preloadCanonical at h
    split_ifs at h with hhash harmed hsame
    split at h
    · cases h
    · rename_i generation hgeneration
      simp only [Bool.not_eq_true, Bool.not_eq_false', Bool.or_eq_false_iff, bne_eq_false_iff_eq]
        at hstamp hhash hsame
      refine ⟨canonical, generation, hstamp, hcanonical, hhash.1, hhash.2, ?_, hsame, hgeneration,
        (Verdict.committed.inj h).symm⟩
      intro hstate
      apply harmed
      rw [hstate, hsame]
      rfl

/-- What a replayed preload shares with the committed schedule. -/
theorem preloadVerdict_eq_replayed {lib : Libraries} {request : PreloadRequest} :
  p.preloadVerdict lib request stamp = .replayed ↔
    normalizedTime stamp = true ∧ lowercaseSha256 request.scheduleHash = true ∧
    ∃ canonical, canonicalizeSchedule lib request.faults = .ok canonical ∧
      request.scheduleHash = canonical.sha256 ∧ p.state ≠ .reset ∧
      p.schedule.bytes = canonical.bytes ∧ p.schedule.sha256 = canonical.sha256
  := by
  have hsame : ∀ canonical, p.sameSchedule canonical = true ↔ p.state ≠ .reset ∧
      p.schedule.bytes = canonical.bytes ∧ p.schedule.sha256 = canonical.sha256 := by
    intro canonical
    simp [sameSchedule, and_assoc]
  constructor
  · intro h
    unfold preloadVerdict at h
    split_ifs at h with hstamp
    split at h
    · cases h
    · cases h
    · rename_i canonical hcanonical
      unfold preloadCanonical at h
      split_ifs at h with hhash harmed hreplay
      · simp only [Bool.not_eq_true, Bool.not_eq_false', Bool.or_eq_false_iff, bne_eq_false_iff_eq]
          at hstamp hhash
        exact ⟨hstamp, hhash.1, canonical, hcanonical, hhash.2, (hsame canonical).mp hreplay⟩
      · split at h <;> cases h
  · rintro ⟨hstamp, hlowercase, canonical, hcanonical, hhash, hreplay⟩
    have hreplay := (hsame canonical).mpr hreplay
    unfold preloadVerdict preloadCanonical
    rw [hcanonical]
    simp [hstamp, hlowercase, ← hhash, hreplay]

/-- What a replayed arm request shares with the committed binding. -/
theorem armVerdict_eq_replayed {request : ArmRequest} :
  p.armVerdict request stamp = .replayed ↔
    normalizedTime stamp = true ∧ p.state = .armed ∧ request.scheduleHash = p.schedule.sha256 ∧
    request.generation = p.generation ∧ request.goalUuid = p.boundGoalUuid ∧
    request.acceptedGoalStamp = p.acceptedGoalStamp
  := by
  have hsame : p.sameBinding request = true ↔
      p.state = .armed ∧ request.scheduleHash = p.schedule.sha256 ∧
      request.generation = p.generation ∧ request.goalUuid = p.boundGoalUuid ∧
      request.acceptedGoalStamp = p.acceptedGoalStamp := by
    simp only [sameBinding, sameUuid, sameTime, Bool.and_eq_true, beq_iff_eq, and_assoc]
    rw [← UUID.mk.injEq, ← Time.mk.injEq]
  constructor
  · intro h
    unfold armVerdict armPrepared at h
    split_ifs at h with hstamp hbinding hprepared hhash huuid ht0 hcommit hexceeds
    · rw [Bool.not_eq_true, Bool.not_eq_false'] at hstamp
      exact ⟨hstamp, hsame.mp hbinding⟩
    · split at h <;> cases h
  · rintro ⟨hstamp, hbinding⟩
    unfold armVerdict
    rw [if_neg (by simp [hstamp]), if_pos (hsame.mpr hbinding)]

theorem Inv.preloadVerdict_next (hp : p.Inv) (lib : Libraries) (request : PreloadRequest)
    (stamp : Time) :
  ((p.preloadVerdict lib request stamp).next p).Inv
  := by
  cases hverdict : p.preloadVerdict lib request stamp with
  | rejected message => exact hp
  | replayed => exact hp
  | committed next =>
      obtain ⟨canonical, generation, -, hcanonical, -, -, -, -, -, rfl⟩ :=
        preloadVerdict_eq_committed hverdict
      apply Inv.preparedState p (canonicalizeSchedule_wf hcanonical)

variable {τ : Target}

/-- What `blocked` checks. -/
theorem blocked_eq_none {t : Int} (h : p.blocked τ t = none) :
  (∀ last, (p.streamCounters τ.index).lastInputStampNs = some last → last ≤ t) ∧
    (p.streamCounters τ.index).inputSequence.toNat < 18446744073709551615
  := by
  unfold blocked at h
  simp only at h
  split_ifs at h with hregressed hexhausted
  constructor
  · intro last hlast
    rw [hlast] at hregressed
    simpa using hregressed
  · rw [UInt64.increment?_eq_none_iff] at hexhausted
    have := (p.streamCounters τ.index).inputSequence.toNat_lt
    omega

theorem toNat_add_one {v : UInt64} (h : v.toNat < 18446744073709551615) :
  (v + 1).toNat = v.toNat + 1
  := by
  have hincrement := increment?_eq_some_add_one h
  exact (v.increment?_eq_some_iff _).mp hincrement

/-- The counters of another stream stay as they are. -/
theorem observed_streamCounters_of_ne {τ τ' : Target} (h : τ' ≠ τ) (t : Int) :
  (p.observed τ t).streamCounters τ'.index = p.streamCounters τ'.index
  := by
  apply Function.update_of_ne
  exact fun hindex => h (Target.index_injective hindex)

theorem observed_streamCounters_self (τ : Target) (t : Int) :
  (p.observed τ t).streamCounters τ.index = p.passed τ t
  := Function.update_self ..

theorem passed_inputSequence (τ : Target) (t : Int) :
  (p.passed τ t).inputSequence = (p.streamCounters τ.index).inputSequence + 1
  := by
  unfold passed
  simp only
  split_ifs <;> rfl

theorem passed_rawInputCount (τ : Target) (t : Int) :
  (p.passed τ t).rawInputCount = (p.streamCounters τ.index).rawInputCount + 1
  := by
  unfold passed
  simp only
  split_ifs <;> rfl

theorem passed_lastInputStampNs (τ : Target) (t : Int) :
  (p.passed τ t).lastInputStampNs = some t
  := by
  unfold passed
  simp only
  split_ifs <;> rfl

variable {modified : Bool}

/-- A message counts at most one changed message for each fault. -/
theorem observe_affectedMessageCount_le {t0 t : Int}
    (h : fault.affectedMessageCount.toNat < 18446744073709551615) :
  (fault.observe τ t0 t modified).affectedMessageCount.toNat
    ≤ fault.affectedMessageCount.toNat + 1
  := by
  unfold RuntimeFault.observe
  split_ifs
  · omega
  · rw [RuntimeFault.affect, RuntimeFault.visit_affectedMessageCount, toNat_add_one h]
  · rw [RuntimeFault.visit_affectedMessageCount]
    omega
  · unfold RuntimeFault.restore
    split_ifs <;> simp

/-- A fault closes its interval only at a stamp after its end. -/
theorem observe_deactivated {t0 t : Int} (htarget : fault.target = τ.wire) :
  (fault.observe τ t0 t modified).deactivated
    = (fault.deactivated || decide (fault.canonical.deactivationNs t0 ≤ t))
  := by
  have hvisit : (fault.visit t0 t).deactivated
      = (fault.deactivated || decide (fault.canonical.deactivationNs t0 ≤ t)) := by
    unfold RuntimeFault.visit RuntimeFault.closes
    cases hdeactivated : fault.deactivated with
    | true => simp [RuntimeFault.active, hdeactivated]
    | false =>
        by_cases hle : fault.canonical.deactivationNs t0 ≤ t
        · simp [hle]
        · simp only [hle, decide_false, Bool.and_false, Bool.or_false, Bool.false_eq_true, if_false]
          split_ifs
          · rfl
          · exact hdeactivated
  have hrestore : ∀ other : RuntimeFault, other.restore.deactivated = other.deactivated := by
    intro other
    unfold RuntimeFault.restore
    split_ifs <;> rfl
  unfold RuntimeFault.observe
  rw [if_neg (not_not.mpr htarget)]
  split_ifs
  · exact hvisit
  · exact hvisit
  · rw [hrestore]
    exact hvisit

theorem observe_of_ne {t0 t : Int} (htarget : fault.target ≠ τ.wire) :
  fault.observe τ t0 t modified = fault
  := if_pos htarget

/-- A message that is let in keeps the invariant. -/
theorem Inv.observed (hp : p.Inv) (hstate : p.state = .armed) {t : Int}
    (hblocked : p.blocked τ t = none) :
  (p.observed τ t).Inv
  := by
  have ha := hp.armed hstate
  obtain ⟨hlast, hroom⟩ := blocked_eq_none hblocked
  rw [ha.raw τ] at hroom
  have hraw := toNat_add_one hroom
  have htarget : ∀ fault : RuntimeFault, ∀ modified,
      (fault.observe τ p.t0Ns t modified).target = fault.target := by
    intro fault modified
    rw [RuntimeFault.target, RuntimeFault.observe_canonical]
    rfl
  constructor
  · exact hp.schedule
  · rw [← show p.runtimeFaults.map RuntimeFault.canonical = (p.observed τ t).schedule.faults from
      hp.runtime]
    simp [FaultProtocol.observed, Function.comp_def]
  · intro _
    constructor
    · exact ha.t0
    · exact ha.commit
    · exact ha.order
    · exact ha.ends
    · exact ha.margin
    · intro τ'
      by_cases hτ : τ' = τ
      · subst hτ
        rw [observed_streamCounters_self, passed_inputSequence, passed_rawInputCount, ha.raw]
      · rw [observed_streamCounters_of_ne hτ, ha.raw]
    · intro τ'
      by_cases hτ : τ' = τ
      · subst hτ
        have hle := ha.validated τ'
        rw [observed_streamCounters_self, passed_rawInputCount, hraw]
        unfold passed
        simp only
        split_ifs
        · apply Nat.le_succ_of_le hle
        · change ((p.streamCounters τ'.index).validatedOutputCount + 1).toNat ≤ _
          rw [toNat_add_one (lt_of_le_of_lt hle hroom)]
          omega
      · rw [observed_streamCounters_of_ne hτ]
        apply ha.validated
    · intro τ' observedFault hmem hobserved
      obtain ⟨fault, hfault, rfl⟩ := List.mem_map.mp hmem
      rw [htarget] at hobserved
      have hle := ha.affected τ' fault hfault hobserved
      by_cases hτ : τ' = τ
      · subst hτ
        rw [observed_streamCounters_self, passed_rawInputCount, hraw]
        apply le_trans (observe_affectedMessageCount_le (lt_of_le_of_lt hle hroom))
        omega
      · rw [observed_streamCounters_of_ne hτ, observe_of_ne]
        · exact hle
        · rw [hobserved]
          exact fun hwire => hτ (Target.wire_injective hwire)
    · intro τ' observedFault hmem hobserved hdeactivated
      obtain ⟨fault, hfault, rfl⟩ := List.mem_map.mp hmem
      rw [htarget] at hobserved
      rw [RuntimeFault.observe_canonical]
      by_cases hτ : τ' = τ
      · subst hτ
        rw [observed_streamCounters_self, passed_lastInputStampNs]
        rw [observe_deactivated hobserved, Bool.or_eq_true, decide_eq_true_eq] at hdeactivated
        refine ⟨t, rfl, ?_⟩
        rcases hdeactivated with hdeactivated | hle
        · obtain ⟨last, hsome, hle⟩ := ha.closed τ' fault hfault hobserved hdeactivated
          apply le_trans hle (hlast last hsome)
        · exact hle
      · rw [observed_streamCounters_of_ne hτ]
        rw [observe_of_ne] at hdeactivated
        · apply ha.closed τ' fault hfault hobserved hdeactivated
        · rw [hobserved]
          exact fun hwire => hτ (Target.wire_injective hwire)

end

/-! ### Reachable states -/

theorem Inv.sense_next {M : Type} {p : FaultProtocol} (hp : p.Inv) (τ : Target) (stamp : Time)
    (refusal : Option String) (input : M) (output : Option M) :
  (p.sense τ stamp refusal input output).next.Inv
  := by
  unfold sense
  split
  · exact hp
  · split_ifs with hstate
    · exact hp
    · split
      · exact hp
      · apply hp.observed (not_not.mp hstate) ‹_›

/-- Every response keeps the invariant. -/
theorem Inv.respond_next {p : FaultProtocol} (hp : p.Inv) (lib : Libraries) (c : Call F32 F64) :
  (p.respond lib c).next.Inv
  := by
  cases c with
  | preload request stamp => apply hp.preloadVerdict_next
  | arm request stamp => apply hp.armVerdict_next
  | reset stamp => apply Inv.clearedState
  | scan input frame => apply hp.sense_next
  | odom input frame childFrame => apply hp.sense_next
  | imu input frame => apply hp.sense_next

variable {lib : Libraries}

/-- A call that is answered gives its response, and its events are numbered on. -/
theorem step_eq_ok {p p' : FaultProtocol} (hp : p.Inv) {c : Call F32 F64} {o : Outcome F32 F64} :
  p.step lib c = .ok (o, p') ↔
    p.eventSequence.toNat + (p.respond lib c).count < 2 ^ 64 ∧
      (p.respond lib c).outcome = o ∧ p' = (p.respond lib c).next.counted (p.respond lib c).count
  := by
  rw [step_eq lib hp, give, answered_eq_ok]

/-- A call that throws has no number left for its events. -/
theorem step_eq_error {p : FaultProtocol} (hp : p.Inv) {c : Call F32 F64} {exception : Throw} :
  p.step lib c = .error exception ↔
    2 ^ 64 ≤ p.eventSequence.toNat + (p.respond lib c).count ∧ exception = exhausted
  := by
  rw [step_eq lib hp, give, answered_eq_error]

/-- An accepted arm request that repeats no earlier one arms the protocol. -/
theorem armedState_of_step {p p' : FaultProtocol} (hp : p.Inv)
    {request : ArmRequest} {stamp : Time} {o : ArmOutcome}
    (h : p.step lib (.arm request stamp : Call F32 F64) = .ok (.arm o, p'))
    (haccepted : o.accepted = true) (hfresh : o.replayed = false) :
  ∃ marginNs, p' = (p.armedState request stamp marginNs).counted 1
  := by
  obtain ⟨-, ho, rfl⟩ := (step_eq_ok hp).mp h
  obtain rfl := Outcome.arm.inj ho
  cases hverdict : p.armVerdict request stamp with
  | rejected message =>
      rw [hverdict] at haccepted
      cases haccepted
  | replayed =>
      rw [hverdict] at hfresh
      cases hfresh
  | committed next =>
      obtain ⟨-, -, -, -, -, -, -, -, marginNs, -, rfl⟩ := armVerdict_eq_committed hverdict
      refine ⟨marginNs, ?_⟩
      rw [respond, hverdict]
      rfl

theorem Inv.step {lib : Libraries} {p p' : FaultProtocol} (hp : p.Inv) {c : Call F32 F64}
    {o : Outcome F32 F64} (h : p.step lib c = .ok (o, p')) :
  p'.Inv
  := by
  obtain ⟨-, -, rfl⟩ := (step_eq_ok hp).mp h
  apply Inv.counted
  apply hp.respond_next

theorem Inv.run {p p' : FaultProtocol} (hp : p.Inv)
    {tr : List (Call F32 F64 × Outcome F32 F64)} (h : Run (FaultProtocol.step lib) p tr p') :
  p'.Inv
  := h.invariant (fun _ _ _ _ hs hstep => hs.step hstep) hp

/-- The invariant holds in every reachable state. -/
theorem inv_of_reachable {n : UInt64} {p : FaultProtocol}
    (h : Reachable (C := Call F32 F64) (FaultProtocol.step lib) (FaultProtocol.new n) p) :
  p.Inv
  := h.invariant (Inv.new n) (fun _ _ _ _ hs hstep => hs.step hstep)

end FaultProtocol

/-! ### A sample run

The LiDAR dropout of the known-answer test of the repository, with its digest, and a protocol
that preloads it and arms it. Rational numbers stand for the floating-point ones. -/

namespace Sample

def fault : FaultSpec where
  schemaVersion := FaultSpec.SCHEMA_VERSION
  faultId := "scan_drop"
  target := FaultSpec.TARGET_SCAN
  mode := FaultSpec.MODE_LIDAR_DROPOUT
  startOffset := { sec := 10, nanosec := 0 }
  duration := { sec := 2, nanosec := 0 }
  seed := 42
  parametersJson := "{}"

/-- The canonical text of the schedule with the one fault. -/
def bytes : String :=
  "\x7b\"schema_version\":1,\"faults\":[\x7b\"schema_version\":1,\"fault_id\":\"scan_drop\"," ++
    "\"target\":1,\"mode\":1,\"start_offset_ns\":10000000000,\"duration_ns\":2000000000," ++
    "\"seed\":42,\"parameters\":\x7b\x7d\x7d]\x7d"

/-- The SHA-256 digest of `bytes`. -/
def digest : List UInt8 :=
  [0x5f, 0x93, 0x83, 0x8c, 0xa7, 0xc0, 0xbe, 0x21, 0x48, 0x58, 0xff, 0xe8, 0xf6, 0x2f, 0xa3, 0x51,
    0xb8, 0x2d, 0x26, 0x0f, 0x62, 0x23, 0xf1, 0x39, 0xdf, 0xaf, 0x6b, 0xd3, 0xdc, 0xd2, 0x24, 0xc8]

def scheduleHash : String := "5f93838ca7c0be214858ffe8f62fa351b82d260f6223f139dfaf6bd3dcd224c8"

/-- The libraries, with the one digest that the sample needs. -/
def libraries : Libraries where
  parseJson := Json.parse
  evpSha256 text := if text = bytes then .digest digest else .finalFailed

instance : Binary32 ℚ where
  isFinite _ := true
  le a b := a ≤ b
  lt a b := a < b
  zero := 0

-- the sample has no odometry, so the transcendental functions are never called
instance : Binary64 ℚ where
  isFinite _ := true
  le a b := a ≤ b
  eq a b := a = b
  ofRat q := q
  add := (· + ·)
  sub := (· - ·)
  mul := (· * ·)
  div := (· / ·)
  abs q := if q < 0 then -q else q
  cos _ := 1
  sin q := q

instance : Tf2 ℚ where
  setRPY _ _ yaw := ⟨0, 0, yaw / 2, 1⟩
  mul q _ := q
  normalize q := q

def goalUuid : UUID where
  uuid := #v[1, 0, 0, 0, 0, 0, 0, 0, 0, 0, 0, 0, 0, 0, 0, 2]

/-- A scan at the given second. -/
def scan (sec : Int32) : LaserScan ℚ where
  header := { stamp := { sec := sec, nanosec := 0 }, frameId := "lidar" }
  angleMin := 0
  angleMax := 1
  angleIncrement := 1
  timeIncrement := 0
  scanTime := 0
  rangeMin := 1
  rangeMax := 2
  ranges := [1, 1]
  intensities := []

/-- An IMU message at the given second. -/
def imu (sec : Int32) : Imu ℚ where
  header := { stamp := { sec := sec, nanosec := 0 }, frameId := "imu" }
  orientation := ⟨0, 0, 0, 1⟩
  orientationCovariance := Vector.replicate 9 0
  angularVelocity := ⟨0, 0, 0⟩
  angularVelocityCovariance := Vector.replicate 9 0
  linearAcceleration := ⟨0, 0, 0⟩
  linearAccelerationCovariance := Vector.replicate 9 0

def preloadRequest : PreloadRequest where
  scheduleHash := scheduleHash
  faults := [fault]

def armRequest : ArmRequest where
  scheduleHash := scheduleHash
  generation := 1
  goalUuid := goalUuid
  acceptedGoalStamp := { sec := 100, nanosec := 0 }

def preload : Call ℚ ℚ := .preload preloadRequest { sec := 99, nanosec := 0 }

def arm : Call ℚ ℚ := .arm armRequest { sec := 101, nanosec := 0 }

/-- The protocol after the given calls. -/
def after (calls : List (Call ℚ ℚ)) : FaultProtocol :=
  Run.last (FaultProtocol.step libraries) (FaultProtocol.new 0) calls

theorem reachable_after (calls : List (Call ℚ ℚ)) :
  Reachable (C := Call ℚ ℚ) (FaultProtocol.step libraries) (FaultProtocol.new 0) (after calls)
  := Reachable.last ..

theorem armed_after :
  (after [preload, arm]).state = .armed
  := by decide +kernel

end Sample

end RobotestLab
