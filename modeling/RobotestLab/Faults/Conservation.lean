import RobotestLab.Faults.Generations
import RobotestLab.Faults.Lifecycle
import Mathlib.Data.List.DropRight

/-!
# Conservation of messages

The counters of an armed protocol account for the messages accepted since it was armed: each
one is counted once as it comes in, and once more either as it is sent on or, when a dropout
suppresses it, at the fault that does. The account is kept against the trace of the run, cut
at the arm request that armed the protocol (`Conserved`).
-/

namespace RobotestLab

open FaultProtocol

instance (t0 t : Int) (fault : CanonicalFault) : Decidable (fault.Drifts t0 t) :=
  inferInstanceAs (Decidable (_ ∧ _ ∧ _ ∧ _))

variable {F32 F64 : Type}

/-! ### The calls since the protocol was armed -/

/-- The call arms the protocol, rather than repeating the request that armed it. -/
def arms : Call F32 F64 × Outcome F32 F64 → Bool
  | (_, .arm o) => o.accepted && !o.replayed
  | _ => false

/-- The calls after the last one that armed the protocol. -/
def sinceArm (tr : List (Call F32 F64 × Outcome F32 F64)) :
    List (Call F32 F64 × Outcome F32 F64) :=
  tr.rtakeWhile fun e => !arms e

/-- The stamps of the accepted messages of the stream `τ`. -/
def inputStamps (τ : Target) (tr : List (Call F32 F64 × Outcome F32 F64)) : List Int :=
  (tr.filterMap acceptedInput).filterMap fun input => if input.1 = τ then some input.2 else none

variable {e : Call F32 F64 × Outcome F32 F64}

theorem sinceArm_arms {tr : List (Call F32 F64 × Outcome F32 F64)} (h : arms e = true) :
  sinceArm (tr ++ [e]) = []
  := by
  apply List.rtakeWhile_concat_neg
  simp [h]

theorem sinceArm_concat {tr : List (Call F32 F64 × Outcome F32 F64)} (h : arms e = false) :
  sinceArm (tr ++ [e]) = sinceArm tr ++ [e]
  := by
  apply List.rtakeWhile_concat_pos
  simp [h]

theorem inputStamps_idle {τ : Target} {tr : List (Call F32 F64 × Outcome F32 F64)}
    (h : acceptedInput e = none) :
  inputStamps τ (tr ++ [e]) = inputStamps τ tr
  := by
  simp [inputStamps, h]

theorem inputStamps_self {τ : Target} {t : Int} {tr : List (Call F32 F64 × Outcome F32 F64)}
    (h : acceptedInput e = some (τ, t)) :
  inputStamps τ (tr ++ [e]) = inputStamps τ tr ++ [t]
  := by
  simp [inputStamps, h]

theorem inputStamps_of_ne {τ τ' : Target} {t : Int} {tr : List (Call F32 F64 × Outcome F32 F64)}
    (h : acceptedInput e = some (τ, t)) (hne : τ' ≠ τ) :
  inputStamps τ' (tr ++ [e]) = inputStamps τ' tr
  := by
  simp [inputStamps, h, hne.symm]

/-! ### Counting changed messages -/

namespace FaultProtocol

/-- The messages that the faults of the stream `τ` have changed: the scans its dropouts have
suppressed, or the odometry its drifts have moved. -/
def affectedTotal (p : FaultProtocol) (τ : Target) : Nat :=
  ((p.runtimeFaults.filter fun fault => fault.target == τ.wire && τ.affects fault.mode).map
    fun fault => fault.affectedMessageCount.toNat).sum

section Counting

variable {p : FaultProtocol} {τ τ' : Target} {t : Int}

/-- A message is changed by at most one fault. -/
theorem Sound.countP_modifies (hp : p.Sound τ) (t : Int) :
  p.runtimeFaults.countP (RuntimeFault.modifies τ p.t0Ns t)
    = if p.modified τ t then 1 else 0
  := by
  split_ifs with hmodified
  · obtain ⟨before, fault, after, hfaults, hmodifies, hothers⟩ := hp.split_of_modified hmodified
    have hnone : ∀ other ∈ before ++ after, ¬ other.modifies τ p.t0Ns t = true := by
      intro other hother hmodifies'
      have hmissed := hothers other hother
      rw [hit_of_modifies hmodifies'] at hmissed
      cases hmissed
    have hbefore := List.countP_eq_zero.mpr
      fun other hother => hnone other (List.mem_append_left _ hother)
    have hafter := List.countP_eq_zero.mpr
      fun other hother => hnone other (List.mem_append_right _ hother)
    rw [hfaults, List.countP_append, List.countP_cons_of_pos hmodifies, hbefore, hafter]
  · apply List.countP_eq_zero.mpr
    intro fault hmem hmodifies
    apply hmodified
    apply List.any_eq_true.mpr ⟨fault, hmem, hmodifies⟩

/-- Faults that each count the messages they change count them together. -/
theorem sum_observe {t0 : Int} {modified : Bool} {faults : List RuntimeFault}
    (h : ∀ fault ∈ faults, fault.modifies τ t0 t = true →
      fault.affectedMessageCount.toNat < 18446744073709551615) :
  (faults.map fun fault => (fault.observe τ t0 t modified).affectedMessageCount.toNat).sum
    = (faults.map fun fault => fault.affectedMessageCount.toNat).sum
      + faults.countP (RuntimeFault.modifies τ t0 t)
  := by
  induction faults with
  | nil => rfl
  | cons fault faults ih =>
      have hrest := ih fun other hother => h other (List.mem_cons_of_mem _ hother)
      rw [List.map_cons, List.sum_cons, hrest, List.map_cons, List.sum_cons, List.countP_cons,
        observe_affectedMessageCount]
      split_ifs with hmodifies
      · rw [toNat_add_one (h fault List.mem_cons_self hmodifies)]
        omega
      · omega

theorem filter_observe (τ' : Target) (p : FaultProtocol) (τ : Target) (t : Int) :
  (p.observed τ t).runtimeFaults.filter
      (fun fault => fault.target == τ'.wire && τ'.affects fault.mode)
    = (p.runtimeFaults.filter fun fault => fault.target == τ'.wire && τ'.affects fault.mode).map
      (RuntimeFault.observe τ p.t0Ns t (p.modified τ t))
  := by
  rw [observed, List.filter_map]
  congr 2
  funext fault
  simp [RuntimeFault.target, RuntimeFault.mode]

theorem Inv.affectedTotal_observed (hp : p.Inv) (hstate : p.state = .armed)
    (hblocked : p.blocked τ t = none) :
  (p.observed τ t).affectedTotal τ = p.affectedTotal τ + if p.modified τ t then 1 else 0
  := by
  have hsound := hp.sound hstate τ
  rw [affectedTotal, filter_observe, List.map_map, ← hsound.countP_modifies, affectedTotal]
  have hsame : (p.runtimeFaults.filter
        fun fault => fault.target == τ.wire && τ.affects fault.mode).countP
          (RuntimeFault.modifies τ p.t0Ns t)
      = p.runtimeFaults.countP (RuntimeFault.modifies τ p.t0Ns t) := by
    rw [List.countP_filter]
    apply List.countP_congr
    intro fault _
    simp only [RuntimeFault.modifies, Bool.and_eq_true]
    tauto
  rw [← hsame]
  apply sum_observe
  intro fault hmem hmodifies
  have htarget : fault.target = τ.wire := by
    simp only [RuntimeFault.modifies, Bool.and_eq_true, beq_iff_eq] at hmodifies
    exact hmodifies.1.1
  apply lt_of_le_of_lt (hsound.affected fault (List.mem_of_mem_filter hmem) htarget)
  apply room_of_not_blocked hsound hblocked

theorem affectedTotal_observed_of_ne (h : τ' ≠ τ) :
  (p.observed τ t).affectedTotal τ' = p.affectedTotal τ'
  := by
  rw [affectedTotal, filter_observe, List.map_map, affectedTotal]
  congr 1
  apply List.map_congr_left
  intro fault hmem
  have htarget : fault.target = τ'.wire := by
    have := List.of_mem_filter hmem
    simp only [Bool.and_eq_true, beq_iff_eq] at this
    exact this.1
  rw [Function.comp_apply, observe_of_ne]
  rw [htarget]
  exact fun hwire => h (Target.wire_injective hwire)

/-- A message that is let in is sent on or suppressed. -/
theorem passed_validatedOutputCount (hp : p.Sound τ) (hblocked : p.blocked τ t = none) :
  (p.passed τ t).validatedOutputCount.toNat
    = (p.streamCounters τ.index).validatedOutputCount.toNat
      + if p.modified τ t && τ.suppresses then 0 else 1
  := by
  unfold passed
  simp only
  split_ifs
  · rfl
  · apply toNat_add_one
    apply lt_of_le_of_lt hp.validated (room_of_not_blocked hp hblocked)

end Counting

/-! ### The account of an armed protocol -/

/-- The counters of each stream against the stamps of its accepted messages. -/
structure Accounted (p : FaultProtocol) (τ : Target) (stamps : List Int) : Prop where
  raw : (p.streamCounters τ.index).rawInputCount.toNat = stamps.length
  validated : (p.streamCounters τ.index).validatedOutputCount.toNat
      + (if τ.suppresses then p.affectedTotal τ else 0)
    = (p.streamCounters τ.index).rawInputCount.toNat
  affected : p.affectedTotal τ
    = stamps.countP fun t => ∃ fault ∈ p.schedule.faults, fault.Changes τ p.t0Ns t
  last : (p.streamCounters τ.index).lastInputStampNs = stamps.max?

section Accounted

variable {p : FaultProtocol} {τ τ' : Target} {t : Int} {stamps : List Int}

theorem max?_concat {last : Int} {stamps : List Int} (h : ∀ t ∈ stamps.max?, t ≤ last) :
  (stamps ++ [last]).max? = some last
  := by
  rw [List.max?_eq_some_iff]
  constructor
  · simp
  · intro t ht
    rcases List.mem_append.mp ht with ht | ht
    · obtain ⟨m, hm⟩ := Option.isSome_iff_exists.mp (List.isSome_max?_of_mem ht)
      apply le_trans ((List.max?_eq_some_iff.mp hm).2 t ht) (h m hm)
    · rw [List.mem_singleton.mp ht]

/-- A protocol that was just armed has an empty account. -/
theorem Accounted.armedState (p : FaultProtocol) (request : ArmRequest) (stamp : Time)
    (marginNs : Int) (τ : Target) :
  (p.armedState request stamp marginNs).Accounted τ []
  := by
  have hnone : (p.armedState request stamp marginNs).affectedTotal τ = 0 := by
    apply List.sum_eq_zero
    intro n hn
    obtain ⟨fault, hmem, rfl⟩ := List.mem_map.mp hn
    rw [(fault_of_mem_resetRuntimeLocked (List.mem_of_mem_filter hmem)).2]
    rfl
  constructor
  · rfl
  · rw [hnone, ite_self]
    rfl
  · rw [hnone, List.countP_nil]
  · rfl

/-- A message that is let in is entered into the account of its stream. -/
theorem Accounted.observed (h : p.Accounted τ stamps) (hp : p.Inv) (hstate : p.state = .armed)
    (hblocked : p.blocked τ t = none) :
  (p.observed τ t).Accounted τ (stamps ++ [t])
  := by
  have hsound := hp.sound hstate τ
  have htotal := hp.affectedTotal_observed hstate hblocked
  have hraw := toNat_add_one (room_of_not_blocked hsound hblocked)
  constructor
  · rw [observed_streamCounters_self, passed_rawInputCount, hraw, h.raw, List.length_append,
      List.length_singleton]
  · rw [observed_streamCounters_self, passed_rawInputCount, hraw, ← h.validated,
      passed_validatedOutputCount hsound hblocked, htotal]
    cases p.modified τ t <;> cases τ.suppresses <;> simp <;> omega
  · rw [htotal, h.affected, List.countP_append, List.countP_singleton]
    congr 1
    apply if_congr _ rfl rfl
    rw [hp.modified_iff hstate hblocked, decide_eq_true_eq]
    rfl
  · rw [observed_streamCounters_self, passed_lastInputStampNs, max?_concat]
    intro last hlast
    apply (blocked_eq_none hblocked).1 last
    rw [h.last, hlast]

/-- A message that is let in does not enter into the account of another stream. -/
theorem Accounted.observed_of_ne (h : p.Accounted τ' stamps) (hne : τ' ≠ τ) :
  (p.observed τ t).Accounted τ' stamps
  := by
  obtain ⟨hraw, hvalidated, haffected, hlast⟩ := h
  constructor
  · rw [observed_streamCounters_of_ne hne, hraw]
  · rw [observed_streamCounters_of_ne hne, affectedTotal_observed_of_ne hne, hvalidated]
  · rw [affectedTotal_observed_of_ne hne, haffected]
    rfl
  · rw [observed_streamCounters_of_ne hne, hlast]

theorem Accounted.counted (h : p.Accounted τ stamps) (n : Nat) :
  (p.counted n).Accounted τ stamps
  := ⟨h.raw, h.validated, h.affected, h.last⟩

end Accounted

/-- The counters of an armed protocol account for the calls since it was armed. -/
def Accounts (tr : List (Call F32 F64 × Outcome F32 F64)) (p : FaultProtocol) : Prop :=
  p.state = .armed → ∀ τ, p.Accounted τ (inputStamps τ (sinceArm tr))

section Runs

variable [Binary32 F32] [Binary64 F64] [Tf2 F64] {lib : Libraries} {p p' : FaultProtocol}
  {c : Call F32 F64} {o : Outcome F32 F64} {tr : List (Call F32 F64 × Outcome F32 F64)}

/-- A call that arms the protocol finds it prepared. -/
theorem prepared_of_arms (hp : p.Inv) (h : p.step lib c = .ok (o, p'))
    (harms : arms (c, o) = true) :
  p.state = .prepared ∧ ∃ request stamp marginNs,
    p' = (p.armedState request stamp marginNs).counted 1
  := by
  obtain ⟨-, rfl, rfl⟩ := (step_eq_ok hp).mp h
  cases c with
  | preload request stamp => cases harms
  | arm request stamp =>
      cases hverdict : p.armVerdict request stamp with
      | rejected message =>
          rw [respond, hverdict] at harms
          cases harms
      | replayed =>
          rw [respond, hverdict] at harms
          cases harms
      | committed next =>
          obtain ⟨hstate, -, -, -, -, -, -, -, marginNs, -, rfl⟩ := armVerdict_eq_committed hverdict
          refine ⟨hstate, request, stamp, marginNs, ?_⟩
          rw [respond, hverdict]
          rfl
  | reset stamp => cases harms
  | scan input frame => cases harms
  | odom input frame childFrame => cases harms
  | imu input frame => cases harms

/-- A call after which the protocol is newly armed arms it. -/
theorem arms_of_armed (hp : p.Inv) (h : p.step lib c = .ok (o, p')) (hstate : p.state ≠ .armed)
    (hstate' : p'.state = .armed) :
  arms (c, o) = true
  := by
  have hsense : ∀ {M : Type} (τ : Target) (stamp : Time) (refusal : Option String) (input : M)
      (output : Option M), (p.sense τ stamp refusal input output).next.state = p.state := by
    intro M τ stamp refusal input output
    exact congrArg Control.state (p.sense_next_control τ stamp refusal input output)
  obtain ⟨-, rfl, rfl⟩ := (step_eq_ok hp).mp h
  cases c with
  | preload request stamp =>
      cases hverdict : p.preloadVerdict lib request stamp with
      | rejected message =>
          rw [respond, hverdict] at hstate'
          exact absurd hstate' hstate
      | replayed =>
          rw [respond, hverdict] at hstate'
          exact absurd hstate' hstate
      | committed next =>
          obtain ⟨canonical, generation, -, -, -, -, -, -, -, rfl⟩ :=
            preloadVerdict_eq_committed hverdict
          rw [respond, hverdict] at hstate'
          cases hstate'
  | arm request stamp =>
      cases hverdict : p.armVerdict request stamp with
      | rejected message =>
          rw [respond, hverdict] at hstate'
          exact absurd hstate' hstate
      | replayed => exact absurd (armVerdict_eq_replayed.mp hverdict).2.1 hstate
      | committed next =>
          rw [respond, hverdict]
          rfl
  | reset stamp => cases hstate'
  | scan input frame => exact absurd ((hsense ..).symm.trans hstate') hstate
  | odom input frame childFrame => exact absurd ((hsense ..).symm.trans hstate') hstate
  | imu input frame => exact absurd ((hsense ..).symm.trans hstate') hstate

/-- Every call keeps the account. -/
theorem Accounts.step (h : Accounts tr p) (hp : p.Inv) (hstep : p.step lib c = .ok (o, p')) :
  Accounts (tr ++ [(c, o)]) p'
  := by
  intro hstate' τ
  by_cases hstate : p.state = .armed
  · have hnot : arms (c, o) = false := by
      apply eq_false_of_ne_true
      intro harms
      have hprepared := (prepared_of_arms hp hstep harms).1
      rw [hstate] at hprepared
      cases hprepared
    have hreset : c.isReset = false := by
      apply eq_false_of_ne_true
      intro hreset
      cases c with
      | reset stamp =>
          obtain ⟨-, -, rfl⟩ := (step_eq_ok hp).mp hstep
          cases hstate'
      | _ => cases hreset
    rw [sinceArm_concat hnot]
    rcases armed_step_cases hp hstate hstep hreset with hidle | ⟨τ', stamp, hs⟩
    · obtain ⟨k, rfl⟩ := hidle.next
      rw [inputStamps_idle hidle.input]
      apply (h hstate τ).counted
    · rw [hs.next]
      apply Accounted.counted
      by_cases hτ : τ = τ'
      · subst hτ
        rw [inputStamps_self hs.input]
        apply (h hstate τ).observed hp hstate hs.admitted
      · rw [inputStamps_of_ne hs.input hτ]
        apply (h hstate τ).observed_of_ne hτ
  · have harms := arms_of_armed hp hstep hstate hstate'
    obtain ⟨-, request, stamp, marginNs, rfl⟩ := prepared_of_arms hp hstep harms
    rw [sinceArm_arms harms]
    apply (Accounted.armedState ..).counted

/-- The counters of the protocol account for every run. -/
theorem accounts_of_run {n : UInt64} (h : Run (FaultProtocol.step lib) (FaultProtocol.new n) tr p) :
  Accounts tr p
  := by
  have hhistory := h.history (fun _ => True) (fun pre s => s.Inv ∧ Accounts pre s)
    (fun _ _ _ _ _ hs _ hstep => ⟨hs.1.step hstep, hs.2.step hs.1 hstep⟩) []
    ⟨Inv.new n, by rintro ⟨⟩⟩ (fun _ _ => trivial)
  exact hhistory.2

/-! ### Refused messages -/

/-- The stream and the stamp of a sensor message. -/
def sensorInput : Call F32 F64 → Option (Target × Time)
  | .scan input _ => some (.scan, input.header.stamp)
  | .odom input _ _ => some (.odom, input.header.stamp)
  | .imu input _ => some (.imu, input.header.stamp)
  | _ => none

/-- The validation of a sensor message fails. -/
def invalidInput : Call F32 F64 → Bool
  | .scan input frame => (refusal (validateAndCopyScan input frame)).isSome
  | .odom input frame childFrame => (refusal (validateAndCopyOdom input frame childFrame)).isSome
  | .imu input frame => (refusal (validateAndCopyImu input frame)).isSome
  | _ => false

/-- The outcome of a sensor message that is not accepted. -/
def refuses : Outcome F32 F64 → Bool
  | .scan o => !o.accepted
  | .odom o => !o.accepted
  | .imu o => !o.accepted
  | _ => false

variable {stamp : Time}

/-- A sensor message that is not accepted leaves the protocol as it is, and has no events. -/
theorem sense_of_refused {M : Type} {τ : Target} {refusal : Option String} {input : M}
    {output : Option M} (h : (p.sense τ stamp refusal input output).outcome.accepted = false) :
  (p.sense τ stamp refusal input output).next = p ∧
    (p.sense τ stamp refusal input output).count = 0
  := by
  unfold sense at h ⊢
  split
  · exact ⟨rfl, rfl⟩
  · split_ifs with hstate
    · exact ⟨rfl, rfl⟩
    · split
      · exact ⟨rfl, rfl⟩
      · simp_all

/-- An invalid message, or one whose stamp goes back, is not accepted by an armed protocol. -/
theorem sense_refuses {M : Type} {τ : Target} {refusal : Option String} {input : M}
    {output : Option M} (hstate : p.state = .armed) (h : refusal.isSome = true ∨
      ∃ last, (p.streamCounters τ.index).lastInputStampNs = some last ∧ stamp.ns < last) :
  (p.sense τ stamp refusal input output).outcome.accepted = false
  := by
  rcases sense_of_armed hstate τ stamp refusal input output with hrefused | ⟨hblocked, hsense⟩
  · exact hrefused.1
  · rcases h with hinvalid | ⟨last, hlast, hlt⟩
    · cases refusal with
      | none => cases hinvalid
      | some reason => rfl
    · have hle := (blocked_eq_none hblocked).1 last hlast
      omega

/-- A sensor message that is not accepted changes nothing. -/
theorem unchanged_of_refuses (hp : p.Inv) (h : p.step lib c = .ok (o, p'))
    (hrefuses : refuses o = true) :
  p' = p
  := by
  have hgiven : ∀ {M : Type} {τ : Target} {stamp : Time} {refusal : Option String} {input : M}
      {output : Option M}, (!(p.sense τ stamp refusal input output).outcome.accepted) = true →
        (p.sense τ stamp refusal input output).next.counted
          (p.sense τ stamp refusal input output).count = p := by
    intro M τ stamp refusal input output hnot
    rw [Bool.not_eq_true'] at hnot
    obtain ⟨hnext, hcount⟩ := sense_of_refused hnot
    rw [hnext, hcount, counted_zero]
  obtain ⟨-, rfl, rfl⟩ := (step_eq_ok hp).mp h
  cases c with
  | preload request stamp => cases hrefuses
  | arm request stamp => cases hrefuses
  | reset stamp => cases hrefuses
  | scan input frame => apply hgiven hrefuses
  | odom input frame childFrame => apply hgiven hrefuses
  | imu input frame => apply hgiven hrefuses

/-- An armed protocol refuses an invalid message and one whose stamp goes back. -/
theorem refused_of_invalid_or_regressing (hp : p.Inv) (hstate : p.state = .armed) {τ : Target}
    (hinput : sensorInput c = some (τ, stamp)) (h : invalidInput c = true ∨
      ∃ last, (p.streamCounters τ.index).lastInputStampNs = some last ∧ stamp.ns < last) :
  ∃ o, p.step lib c = .ok (o, p) ∧ refuses o = true
  := by
  have hgiven : ∀ {M : Type} {refusal : Option String} {input : M} {output : Option M}
      (f : FaultProcessOutcome M → Outcome F32 F64),
      p.respond lib c = (p.sense τ stamp refusal input output).map f →
      (p.sense τ stamp refusal input output).outcome.accepted = false →
      (∀ o : FaultProcessOutcome M, o.accepted = false → refuses (f o) = true) →
        ∃ o, p.step lib c = .ok (o, p) ∧ refuses o = true := by
    intro M refusal input output f hrespond hnot hf
    obtain ⟨hnext, hcount⟩ := sense_of_refused hnot
    refine ⟨_, ?_, hf _ hnot⟩
    rw [step_eq lib hp, hrespond, Response.map, give, hnext, hcount, answered_zero]
  have hf : ∀ {b : Bool}, b = false → (!b) = true := fun hb => Bool.not_eq_true' _ ▸ hb
  cases c with
  | preload request stamp => cases hinput
  | arm request stamp => cases hinput
  | reset stamp => cases hinput
  | scan input frame =>
      obtain ⟨rfl, rfl⟩ := Prod.mk.inj (Option.some.inj hinput)
      apply hgiven .scan rfl (sense_refuses hstate h) (fun _ => hf)
  | odom input frame childFrame =>
      obtain ⟨rfl, rfl⟩ := Prod.mk.inj (Option.some.inj hinput)
      apply hgiven .odom rfl (sense_refuses hstate h) (fun _ => hf)
  | imu input frame =>
      obtain ⟨rfl, rfl⟩ := Prod.mk.inj (Option.some.inj hinput)
      apply hgiven .imu rfl (sense_refuses hstate h) (fun _ => hf)

/-! ### Conservation -/

/-- The counters of the protocol account for the messages accepted in the trace. -/
structure Conserved (p : FaultProtocol) (tr : List (Call F32 F64 × Outcome F32 F64)) : Prop where
  inputs : ∀ τ, (p.streamCounters τ.index).inputSequence.toNat = (inputStamps τ tr).length
  raw : ∀ τ, (p.streamCounters τ.index).rawInputCount.toNat = (inputStamps τ tr).length
  scan : (p.streamCounters Target.scan.index).validatedOutputCount.toNat + p.affectedTotal .scan
    = (p.streamCounters Target.scan.index).rawInputCount.toNat
  odom : (p.streamCounters Target.odom.index).validatedOutputCount
    = (p.streamCounters Target.odom.index).rawInputCount
  imu : (p.streamCounters Target.imu.index).validatedOutputCount
    = (p.streamCounters Target.imu.index).rawInputCount
  drifted : p.affectedTotal .odom
    = (inputStamps .odom tr).countP fun t => ∃ fault ∈ p.schedule.faults, fault.Drifts p.t0Ns t
  last : ∀ τ, (p.streamCounters τ.index).lastInputStampNs = (inputStamps τ tr).max?

omit [Binary32 F32] [Binary64 F64] [Tf2 F64] in
theorem Accounted.conserved (h : ∀ τ, p.Accounted τ (inputStamps τ tr)) (ha : p.Armed) :
  p.Conserved tr
  where
  inputs τ := by rw [ha.raw, (h τ).raw]
  raw τ := (h τ).raw
  scan := (h .scan).validated
  odom := UInt64.toNat_inj.mp (h .odom).validated
  imu := UInt64.toNat_inj.mp (h .imu).validated
  drifted := by simpa only [CanonicalFault.changes_odom] using (h .odom).affected
  last τ := (h τ).last

/-- In every armed state the counters of each stream account for the messages accepted since the
protocol was armed, and a message that is invalid or goes back in time changes nothing. -/
theorem messages_conserved {n : UInt64}
    (h : Run (FaultProtocol.step lib) (FaultProtocol.new n) tr p) (hstate : p.state = .armed) :
  p.Conserved (sinceArm tr) ∧
    (∀ (c : Call F32 F64) o p', p.step lib c = .ok (o, p') → refuses o = true → p' = p) ∧
    (∀ (c : Call F32 F64) τ stamp, sensorInput c = some (τ, stamp) →
      (invalidInput c = true ∨
        ∃ last, (p.streamCounters τ.index).lastInputStampNs = some last ∧ stamp.ns < last) →
      ∃ o, p.step lib c = .ok (o, p) ∧ refuses o = true)
  := by
  have hp := (Inv.new n).run h
  refine ⟨?_, ?_, ?_⟩
  · apply Accounted.conserved (accounts_of_run h hstate) (hp.armed hstate)
  · intro c o p' hstep hrefuses
    apply unchanged_of_refuses hp hstep hrefuses
  · intro c τ stamp hinput hrejected
    apply refused_of_invalid_or_regressing hp hstate hinput hrejected

end Runs

/-- The sample run, with a scan inside its dropout, one after it, and one that goes back. -/
theorem messages_conserved_sample :
  ∃ tr : List (Call ℚ ℚ × Outcome ℚ ℚ),
    tr.map Prod.fst = [Sample.preload, Sample.arm, .scan (Sample.scan 110) "lidar",
      .scan (Sample.scan 112) "lidar", .scan (Sample.scan 111) "lidar"] ∧
    (Sample.after (tr.map Prod.fst)).Conserved (sinceArm tr) ∧
    ∃ o : Outcome ℚ ℚ, (Sample.after (tr.map Prod.fst)).step Sample.libraries
        (.scan (Sample.scan 111) "lidar") = .ok (o, Sample.after (tr.map Prod.fst)) ∧
      refuses o = true
  := by
  have hanswered : (Run.exec (FaultProtocol.step Sample.libraries) (FaultProtocol.new 0)
      [Sample.preload, Sample.arm, .scan (Sample.scan 110) "lidar",
        .scan (Sample.scan 112) "lidar", .scan (Sample.scan 111) "lidar"]).isOk = true := by
    decide +kernel
  obtain ⟨tr, hrun, hcalls⟩ := Run.exists_of_exec hanswered
  rw [← Sample.after] at hrun
  have hstate : (Sample.after [Sample.preload, Sample.arm, .scan (Sample.scan 110) "lidar",
      .scan (Sample.scan 112) "lidar", .scan (Sample.scan 111) "lidar"]).state = .armed := by
    decide +kernel
  have hlast : ((Sample.after [Sample.preload, Sample.arm, .scan (Sample.scan 110) "lidar",
      .scan (Sample.scan 112) "lidar", .scan (Sample.scan 111) "lidar"]).streamCounters
        Target.scan.index).lastInputStampNs = some 112000000000 := by
    decide +kernel
  obtain ⟨hconserved, -, hrefused⟩ := messages_conserved hrun hstate
  refine ⟨tr, hcalls, ?_, ?_⟩
  · rw [hcalls]
    exact hconserved
  · rw [hcalls]
    have hback : (Sample.scan 111).header.stamp.ns < 112000000000 := by decide +kernel
    apply hrefused _ .scan (Sample.scan 111).header.stamp rfl (Or.inr ⟨_, hlast, hback⟩)

end FaultProtocol

end RobotestLab
