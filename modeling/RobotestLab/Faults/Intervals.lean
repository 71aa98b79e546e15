import RobotestLab.Faults.Invariant
import Mathlib.Data.List.Pairwise

/-!
# Half-open intervals

The loops of the protocol keep flags, skip faults that are over, and look at one message at a
time. What they do to a message is nevertheless decided by its stamp alone: the message is
changed exactly when the stamp lies in the half-open interval of a fault of its stream
(`modifies_iff`). The flags never disagree with the interval because the stamps of a stream do
not go back, and the fault is unique because the intervals of a stream do not overlap.
-/

namespace RobotestLab

/-- The fault is a LiDAR dropout whose interval contains the stamp `t`. -/
def CanonicalFault.Drops (t0 t : Int) (fault : CanonicalFault) : Prop :=
  fault.specification.target = FaultSpec.TARGET_SCAN ∧
    fault.specification.mode = FaultSpec.MODE_LIDAR_DROPOUT ∧
    t0 + fault.startOffsetNs ≤ t ∧ t < t0 + fault.startOffsetNs + fault.durationNs

/-- The fault is an odometry drift whose interval contains the stamp `t`. -/
def CanonicalFault.Drifts (t0 t : Int) (fault : CanonicalFault) : Prop :=
  fault.specification.target = FaultSpec.TARGET_ODOM ∧
    fault.specification.mode = FaultSpec.MODE_ODOM_DRIFT ∧
    t0 + fault.startOffsetNs ≤ t ∧ t < t0 + fault.startOffsetNs + fault.durationNs

/-- The fault changes the messages of the stream `τ` at the stamp `t`. -/
def CanonicalFault.Changes (τ : Target) (t0 t : Int) (fault : CanonicalFault) : Prop :=
  fault.specification.target = τ.wire ∧ τ.affects fault.specification.mode = true ∧
    fault.Inside t0 t

instance (τ : Target) (t0 t : Int) (fault : CanonicalFault) : Decidable (fault.Changes τ t0 t) :=
  inferInstanceAs (Decidable (_ ∧ _ ∧ _))

variable {fault : CanonicalFault}

theorem CanonicalFault.changes_scan {t0 t : Int} :
  fault.Changes .scan t0 t ↔ fault.Drops t0 t
  := by
  simp only [Changes, Drops, Target.affects, Target.wire, beq_iff_eq, Inside, activationNs,
    deactivationNs]

theorem CanonicalFault.changes_odom {t0 t : Int} :
  fault.Changes .odom t0 t ↔ fault.Drifts t0 t
  := by
  simp only [Changes, Drifts, Target.affects, Target.wire, beq_iff_eq, Inside, activationNs,
    deactivationNs]

theorem CanonicalFault.not_changes_imu {t0 t : Int} :
  ¬ fault.Changes .imu t0 t
  := by
  rintro ⟨-, haffects, -⟩
  cases haffects

namespace FaultProtocol

variable {p p' : FaultProtocol} {τ : Target} {t : Int}

/-! ### Flags and intervals -/

/-- A fault whose interval contains the stamp of a message that is let in is not yet over. -/
theorem Armed.not_deactivated (ha : p.Armed) (hblocked : p.blocked τ t = none)
    {fault : RuntimeFault} (hmem : fault ∈ p.runtimeFaults) (htarget : fault.target = τ.wire)
    (hinside : fault.canonical.Inside p.t0Ns t) :
  fault.deactivated = false
  := by
  apply eq_false_of_ne_true
  intro hdeactivated
  obtain ⟨last, hlast, hle⟩ := ha.closed τ fault hmem htarget hdeactivated
  have hlt := hinside.2
  have := (blocked_eq_none hblocked).1 last hlast
  omega

theorem Armed.modifies_iff (ha : p.Armed) (hblocked : p.blocked τ t = none)
    {fault : RuntimeFault} (hmem : fault ∈ p.runtimeFaults) :
  fault.modifies τ p.t0Ns t = true ↔ fault.canonical.Changes τ p.t0Ns t
  := by
  simp only [RuntimeFault.modifies, RuntimeFault.active, Bool.and_eq_true, beq_iff_eq,
    Bool.not_eq_eq_eq_not, Bool.not_true, decide_eq_true_eq]
  constructor
  · rintro ⟨⟨htarget, -, hinside⟩, haffects⟩
    exact ⟨htarget, haffects, hinside⟩
  · rintro ⟨htarget, haffects, hinside⟩
    exact ⟨⟨htarget, ha.not_deactivated hblocked hmem htarget hinside, hinside⟩, haffects⟩

/-- Some fault of the schedule changes the message exactly when the protocol finds one. -/
theorem Inv.modified_iff (hp : p.Inv) (hstate : p.state = .armed)
    (hblocked : p.blocked τ t = none) :
  p.modified τ t = true ↔ ∃ fault ∈ p.schedule.faults, fault.Changes τ p.t0Ns t
  := by
  have ha := hp.armed hstate
  rw [modified, List.any_eq_true, ← hp.runtime]
  constructor
  · rintro ⟨fault, hmem, hmodifies⟩
    exact ⟨fault.canonical, List.mem_map_of_mem hmem, (ha.modifies_iff hblocked hmem).mp hmodifies⟩
  · rintro ⟨canonical, hcanonical, hchanges⟩
    obtain ⟨fault, hmem, rfl⟩ := List.mem_map.mp hcanonical
    exact ⟨fault, hmem, (ha.modifies_iff hblocked hmem).mpr hchanges⟩

/-- At most one fault of a schedule changes a message. -/
theorem changes_unique {schedule : CanonicalSchedule} (hwf : schedule.Wf) {t0 : Int}
    {left right : CanonicalFault} (hleft : left ∈ schedule.faults)
    (hright : right ∈ schedule.faults) (h : left.Changes τ t0 t) (h' : right.Changes τ t0 t) :
  left = right
  := by
  have hexclude : schedule.faults.Pairwise
      (fun a b => ¬ (a.Changes τ t0 t ∧ b.Changes τ t0 t)) := by
    apply hwf.disjoint.imp
    rintro a b hdisjoint ⟨⟨htarget, -, -, hlt⟩, ⟨htarget', -, hle, -⟩⟩
    have hends := hdisjoint (htarget.trans htarget'.symm)
    unfold CanonicalFault.deactivationNs at hlt
    unfold CanonicalFault.activationNs at hle
    omega
  have : Std.Symm fun a b : CanonicalFault => ¬ (a.Changes τ t0 t ∧ b.Changes τ t0 t) :=
    ⟨fun _ _ hab hba => hab hba.symm⟩
  by_contra hne
  exact hexclude.forall hleft hright hne ⟨h, h'⟩

/-- The counts of changed messages grow by one at the faults that satisfy `D`, and stay
elsewhere. -/
def Counts (p p' : FaultProtocol) (D : CanonicalFault → Prop) : Prop :=
  List.Forall₂ (fun fault fault' => fault'.canonical = fault.canonical ∧
      (D fault.canonical →
        fault'.affectedMessageCount.toNat = fault.affectedMessageCount.toNat + 1) ∧
      (¬ D fault.canonical → fault'.affectedMessageCount = fault.affectedMessageCount))
    p.runtimeFaults p'.runtimeFaults

theorem observe_affectedMessageCount {t0 : Int} {modified : Bool} {fault : RuntimeFault} :
  (fault.observe τ t0 t modified).affectedMessageCount
    = if fault.modifies τ t0 t then fault.affectedMessageCount + 1 else fault.affectedMessageCount
  := by
  have hrestore : ∀ other : RuntimeFault,
      other.restore.affectedMessageCount = other.affectedMessageCount := by
    intro other
    unfold RuntimeFault.restore
    split_ifs <;> rfl
  unfold RuntimeFault.observe
  split_ifs with htarget hmodifies
  · simp [RuntimeFault.modifies, htarget] at hmodifies
  · rfl
  · rw [RuntimeFault.affect, RuntimeFault.visit_affectedMessageCount]
  · rw [RuntimeFault.visit_affectedMessageCount]
  · rw [hrestore, RuntimeFault.visit_affectedMessageCount]

theorem Inv.counts (hp : p.Inv) (hstate : p.state = .armed) (hblocked : p.blocked τ t = none)
    (n : Nat) :
  p.Counts ((p.observed τ t).counted n) (CanonicalFault.Changes τ p.t0Ns t)
  := by
  have ha := hp.armed hstate
  unfold Counts
  change List.Forall₂ _ p.runtimeFaults
    (p.runtimeFaults.map (RuntimeFault.observe τ p.t0Ns t (p.modified τ t)))
  rw [List.forall₂_map_right_iff, List.forall₂_same]
  intro fault hmem
  rw [observe_affectedMessageCount]
  refine ⟨RuntimeFault.observe_canonical .., ?_, ?_⟩
  · intro hchanges
    rw [if_pos ((ha.modifies_iff hblocked hmem).mpr hchanges)]
    apply toNat_add_one
    apply lt_of_le_of_lt (ha.affected τ fault hmem hchanges.1)
    apply room_of_not_blocked (hp.sound hstate τ) hblocked
  · intro hchanges
    rw [if_neg (fun h => hchanges ((ha.modifies_iff hblocked hmem).mp h))]

/-! ### What is published -/

section

variable {M : Type} {stamp : Time} {input : M} {output : Option M} {o : FaultProcessOutcome M}

/-- A message that an armed protocol accepts is valid and let in. -/
theorem give_sense_armed (hstate : p.state = .armed) {refusal : Option String}
    (h : p.give (p.sense τ stamp refusal input output) = .ok (o, p'))
    (haccepted : o.accepted = true) :
  p.blocked τ stamp.ns = none ∧ o.publish = !(p.modified τ stamp.ns && τ.suppresses) ∧
    o.message = output ∧
    p' = (p.observed τ stamp.ns).counted (p.emissions τ stamp.ns).length
  := by
  obtain ⟨-, houtcome, hnext⟩ := answered_eq_ok.mp h
  unfold sense at houtcome hnext
  cases refusal with
  | some reason =>
      subst houtcome
      cases haccepted
  | none =>
      simp only at houtcome hnext
      rw [if_neg (not_not.mpr hstate)] at houtcome hnext
      cases hblocked : p.blocked τ stamp.ns with
      | some reason =>
          rw [hblocked] at houtcome
          subst houtcome
          cases haccepted
      | none =>
          rw [hblocked] at houtcome hnext
          subst houtcome
          exact ⟨rfl, rfl, rfl, hnext⟩

/-- A valid message passes a protocol that is not armed unchanged. -/
theorem give_sense_idle (hstate : p.state ≠ .armed) :
  p.give (p.sense τ stamp none input output)
    = .ok ({ accepted := true, publish := true, message := some input }, p)
  := by
  unfold give sense
  simp only
  rw [if_pos hstate, answered_zero]

end

variable {F32 F64 : Type} [Binary32 F32] [Binary64 F64] [Tf2 F64]

/-- The drift of an odometry message is that of the fault whose interval contains its stamp. -/
theorem Inv.delivered_of_drifts (hp : p.Inv) (hstate : p.state = .armed)
    (hblocked : p.blocked .odom t = none) {fault : CanonicalFault}
    (hmem : fault ∈ p.schedule.faults) (hdrifts : fault.Drifts p.t0Ns t) (input : Odometry F64) :
  p.delivered input t = applyOdomDrift input fault (t - (p.t0Ns + fault.startOffsetNs))
  := by
  have hchanges := CanonicalFault.changes_odom.mpr hdrifts
  have hmodified := (hp.modified_iff hstate hblocked).mpr ⟨fault, hmem, hchanges⟩
  obtain ⟨index, culprit, hculprit⟩ :=
    exists_culprit (hp.sound hstate .odom) (fun m => rfl) hmodified
  have hchanges' := ((hp.armed hstate).modifies_iff hblocked hculprit.mem).mp hculprit.modifies
  have hsame : culprit.canonical = fault :=
    changes_unique hp.schedule (hp.mem_schedule hculprit.mem) hmem hchanges' hchanges
  rw [delivered, hculprit.find, ← hsame]
  rfl

theorem Inv.delivered_of_not_drifts (hp : p.Inv) (hstate : p.state = .armed)
    (hblocked : p.blocked .odom t = none)
    (h : ∀ fault ∈ p.schedule.faults, ¬ fault.Drifts p.t0Ns t) (input : Odometry F64) :
  p.delivered input t = input
  := by
  rw [delivered, List.find?_eq_none.mpr]
  intro fault hmem hmodifies
  apply h fault.canonical (hp.mem_schedule hmem)
  exact CanonicalFault.changes_odom.mp
    (((hp.armed hstate).modifies_iff hblocked hmem).mp hmodifies)

/-- What an armed protocol does to a scan it accepts. -/
structure ScanInterval (p : FaultProtocol) (input : LaserScan F32)
    (o : FaultProcessOutcome (LaserScan F32)) (p' : FaultProtocol) : Prop where
  suppressed : o.publish = false ↔
    ∃ fault ∈ p.schedule.faults, fault.Drops p.t0Ns input.header.stamp.ns
  unchanged : o.publish = true → o.message = some input
  unique : ∀ left ∈ p.schedule.faults, ∀ right ∈ p.schedule.faults,
    left.Drops p.t0Ns input.header.stamp.ns → right.Drops p.t0Ns input.header.stamp.ns →
      left = right
  counts : p.Counts p' (CanonicalFault.Drops p.t0Ns input.header.stamp.ns)

/-- What an armed protocol does to an odometry message it accepts. -/
structure OdomInterval (p : FaultProtocol) (input : Odometry F64)
    (o : FaultProcessOutcome (Odometry F64)) (p' : FaultProtocol) : Prop where
  published : o.publish = true
  drifted : ∀ fault ∈ p.schedule.faults, fault.Drifts p.t0Ns input.header.stamp.ns →
    ∃ elapsedNs, elapsedNs = input.header.stamp.ns - (p.t0Ns + fault.startOffsetNs) ∧
      0 ≤ elapsedNs ∧ elapsedNs < fault.durationNs ∧
      o.message = some (applyOdomDrift input fault elapsedNs)
  unchanged : (∀ fault ∈ p.schedule.faults, ¬ fault.Drifts p.t0Ns input.header.stamp.ns) →
    o.message = some input
  unique : ∀ left ∈ p.schedule.faults, ∀ right ∈ p.schedule.faults,
    left.Drifts p.t0Ns input.header.stamp.ns → right.Drifts p.t0Ns input.header.stamp.ns →
      left = right
  counts : p.Counts p' (CanonicalFault.Drifts p.t0Ns input.header.stamp.ns)

/-- What an armed protocol does to an IMU message it accepts. -/
structure ImuInterval (p : FaultProtocol) (input : Imu F64) (o : FaultProcessOutcome (Imu F64))
    (p' : FaultProtocol) : Prop where
  published : o.publish = true
  unchanged : o.message = some input
  counts : p.Counts p' (fun _ => False)

theorem Counts.congr {D D' : CanonicalFault → Prop} (h : p.Counts p' D)
    (hD : ∀ fault, D fault ↔ D' fault) :
  p.Counts p' D'
  := by
  rwa [show D' = D from funext fun fault => propext (hD fault).symm]

theorem Inv.scanInterval (hp : p.Inv) (hstate : p.state = .armed) {input : LaserScan F32}
    {frame : String} {o : FaultProcessOutcome (LaserScan F32)}
    (h : p.processScan input frame = .ok (o, p')) (haccepted : o.accepted = true) :
  p.ScanInterval input o p'
  := by
  rw [processScan_eq hp] at h
  obtain ⟨hblocked, hpublish, hmessage, rfl⟩ := give_sense_armed hstate h haccepted
  have hmodified := hp.modified_iff hstate hblocked
  simp only [CanonicalFault.changes_scan] at hmodified
  rw [Target.suppresses, Bool.and_true] at hpublish
  constructor
  · rw [hpublish, ← hmodified]
    simp
  · intro hpublished
    rw [hpublish, Bool.not_eq_true'] at hpublished
    rw [hmessage, if_neg (ne_true_of_eq_false hpublished)]
  · intro left hleft right hright hdrops hdrops'
    apply changes_unique hp.schedule hleft hright (CanonicalFault.changes_scan.mpr hdrops)
      (CanonicalFault.changes_scan.mpr hdrops')
  · apply (hp.counts hstate hblocked _).congr
    intro fault
    apply CanonicalFault.changes_scan

theorem Inv.odomInterval (hp : p.Inv) (hstate : p.state = .armed) {input : Odometry F64}
    {frame childFrame : String} {o : FaultProcessOutcome (Odometry F64)}
    (h : p.processOdom input frame childFrame = .ok (o, p')) (haccepted : o.accepted = true) :
  p.OdomInterval input o p'
  := by
  rw [processOdom_eq hp] at h
  obtain ⟨hblocked, hpublish, hmessage, rfl⟩ := give_sense_armed hstate h haccepted
  constructor
  · simp [hpublish, Target.suppresses]
  · intro fault hmem hdrifts
    refine ⟨_, rfl, ?_, ?_, ?_⟩
    · have := hdrifts.2.2.1
      omega
    · have := hdrifts.2.2.2
      omega
    · rw [hmessage, hp.delivered_of_drifts hstate hblocked hmem hdrifts]
  · intro hdrifts
    rw [hmessage, hp.delivered_of_not_drifts hstate hblocked hdrifts]
  · intro left hleft right hright hdrifts hdrifts'
    apply changes_unique hp.schedule hleft hright (CanonicalFault.changes_odom.mpr hdrifts)
      (CanonicalFault.changes_odom.mpr hdrifts')
  · apply (hp.counts hstate hblocked _).congr
    intro fault
    apply CanonicalFault.changes_odom

omit [Tf2 F64] in
theorem Inv.imuInterval (hp : p.Inv) (hstate : p.state = .armed) {input : Imu F64}
    {frame : String} {o : FaultProcessOutcome (Imu F64)}
    (h : p.processImu input frame = .ok (o, p')) (haccepted : o.accepted = true) :
  p.ImuInterval input o p'
  := by
  rw [processImu_eq hp] at h
  obtain ⟨hblocked, hpublish, hmessage, rfl⟩ := give_sense_armed hstate h haccepted
  constructor
  · simp [hpublish, Target.suppresses]
  · exact hmessage
  · apply (hp.counts hstate hblocked _).congr
    intro fault
    rw [iff_false]
    apply CanonicalFault.not_changes_imu

/-- In every reachable state the stamp decides what happens to a message. An armed protocol
changes a message exactly inside the interval of a fault, and any other protocol sends every
valid message on as it is. -/
theorem interval_semantics {lib : Libraries} {n : UInt64}
    (h : Reachable (C := Call F32 F64) (FaultProtocol.step lib) (FaultProtocol.new n) p) :
  (p.state = .armed →
    (∀ (input : LaserScan F32) frame o p', p.processScan input frame = .ok (o, p') →
      o.accepted = true → p.ScanInterval input o p') ∧
    (∀ (input : Odometry F64) frame childFrame o p',
      p.processOdom input frame childFrame = .ok (o, p') →
        o.accepted = true → p.OdomInterval input o p') ∧
    (∀ (input : Imu F64) frame o p', p.processImu input frame = .ok (o, p') →
      o.accepted = true → p.ImuInterval input o p')) ∧
  (p.state ≠ .armed →
    (∀ (input : LaserScan F32) frame, validateAndCopyScan input frame = .ok input →
      p.processScan input frame
        = .ok ({ accepted := true, publish := true, message := some input }, p)) ∧
    (∀ (input : Odometry F64) frame childFrame,
      validateAndCopyOdom input frame childFrame = .ok input →
        p.processOdom input frame childFrame
          = .ok ({ accepted := true, publish := true, message := some input }, p)) ∧
    (∀ (input : Imu F64) frame, validateAndCopyImu input frame = .ok input →
      p.processImu input frame
        = .ok ({ accepted := true, publish := true, message := some input }, p)))
  := by
  have hp := inv_of_reachable h
  constructor
  · intro hstate
    refine ⟨?_, ?_, ?_⟩
    · intro input frame o p' hprocess haccepted
      apply hp.scanInterval hstate hprocess haccepted
    · intro input frame childFrame o p' hprocess haccepted
      apply hp.odomInterval hstate hprocess haccepted
    · intro input frame o p' hprocess haccepted
      apply hp.imuInterval hstate hprocess haccepted
  · intro hstate
    refine ⟨?_, ?_, ?_⟩
    · intro input frame hcopy
      rw [processScan_eq hp, hcopy]
      apply give_sense_idle hstate
    · intro input frame childFrame hcopy
      rw [processOdom_eq hp, hcopy]
      apply give_sense_idle hstate
    · intro input frame hcopy
      rw [processImu_eq hp, hcopy]
      apply give_sense_idle hstate

/-- The sample protocol suppresses a scan at the start of its dropout. -/
theorem interval_semantics_sample :
  ∃ o p', (Sample.after [Sample.preload, Sample.arm]).processScan (Sample.scan 110) "lidar"
      = .ok (o, p') ∧ o.accepted = true ∧ o.publish = false
  := by
  have hreachable := Sample.reachable_after [Sample.preload, Sample.arm]
  have haccepted : ((Sample.after [Sample.preload, Sample.arm]).processScan (Sample.scan 110)
      "lidar").toOption.map (fun r => r.1.accepted) = some true := by decide +kernel
  cases h : (Sample.after [Sample.preload, Sample.arm]).processScan (Sample.scan 110) "lidar" with
  | error e =>
      rw [h] at haccepted
      cases haccepted
  | ok r =>
      rw [h] at haccepted
      have haccepted := Option.some.inj haccepted
      refine ⟨r.1, r.2, rfl, haccepted, ?_⟩
      apply (((interval_semantics hreachable).1 Sample.armed_after).1 _ _ _ _ h
        haccepted).suppressed.mpr
      unfold CanonicalFault.Drops
      decide +kernel

end FaultProtocol

end RobotestLab
