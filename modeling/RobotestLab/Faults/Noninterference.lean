import RobotestLab.Faults.Invariant
import RobotestLab.Library.Unwinding

/-!
# Streams do not interfere

All streams share one list of runtime faults and one counter of events, and the loops walk over
the faults of all streams. What one stream is answered depends on that stream only: on its own
messages, on its own faults and on the binding of the armed schedule. Two armed protocols that
agree on a stream answer the same messages of that stream alike, whatever happens on the others.
-/

namespace RobotestLab

open FaultProtocol

variable {F32 F64 : Type}

/-- The stream of a sensor message. -/
def Call.stream : Call F32 F64 → Option Target
  | .scan _ _ => some .scan
  | .odom _ _ _ => some .odom
  | .imu _ _ => some .imu
  | _ => none

/-- The event without its sequence number and the data of the schedule as a whole: its hash,
generation, fault count and arming margin. -/
def FaultEvent.ofStream (event : FaultEvent) : FaultEvent :=
  { event with
    eventSequence := 0
    committedScheduleHash := ""
    committedGeneration := 0
    committedFaultCount := 0
    armMarginNs := 0 }

def FaultProcessOutcome.ofStream {M : Type} (o : FaultProcessOutcome M) : FaultProcessOutcome M :=
  { o with events := o.events.map FaultEvent.ofStream }

/-- What the outcome of a sensor message says about its stream. -/
def Outcome.ofStream : Outcome F32 F64 → Outcome F32 F64
  | .scan o => .scan o.ofStream
  | .odom o => .odom o.ofStream
  | .imu o => .imu o.ofStream
  | o => o

namespace FaultProtocol

/-- The two protocols agree on the stream `τ`: they are bound to the same goal, time and commit,
and have the same runtime faults and counters there. -/
structure AgreesOn (τ : Target) (p q : FaultProtocol) : Prop where
  state : p.state = q.state
  goal : p.boundGoalUuid = q.boundGoalUuid
  t0 : p.acceptedGoalStamp = q.acceptedGoalStamp
  commit : p.armCommitStamp = q.armCommitStamp
  faults : ofTarget τ.wire p.runtimeFaults = ofTarget τ.wire q.runtimeFaults
  counters : p.streamCounters τ.index = q.streamCounters τ.index

section Agree

variable {τ : Target} {p q : FaultProtocol} {t : Int}

theorem AgreesOn.t0Ns (h : p.AgreesOn τ q) :
  p.t0Ns = q.t0Ns
  := congrArg Time.ns h.t0

theorem AgreesOn.blocked (h : p.AgreesOn τ q) :
  p.blocked τ t = q.blocked τ t
  := by
  unfold FaultProtocol.blocked
  rw [h.counters]

/-- Only the faults of a stream change its messages. -/
theorem find?_modifies (p : FaultProtocol) (τ : Target) (t : Int) :
  p.runtimeFaults.find? (RuntimeFault.modifies τ p.t0Ns t)
    = (ofTarget τ.wire p.runtimeFaults).find? (RuntimeFault.modifies τ p.t0Ns t)
  := by
  rw [ofTarget, List.find?_filter]
  congr 1
  funext fault
  unfold RuntimeFault.modifies
  cases fault.target == τ.wire <;> simp

theorem modified_eq_isSome (p : FaultProtocol) (τ : Target) (t : Int) :
  p.modified τ t = (p.runtimeFaults.find? (RuntimeFault.modifies τ p.t0Ns t)).isSome
  := by
  rw [modified, List.isSome_find?]

theorem AgreesOn.find? (h : p.AgreesOn τ q) :
  p.runtimeFaults.find? (RuntimeFault.modifies τ p.t0Ns t)
    = q.runtimeFaults.find? (RuntimeFault.modifies τ q.t0Ns t)
  := by
  rw [find?_modifies, find?_modifies, h.faults, h.t0Ns]

theorem AgreesOn.modified (h : p.AgreesOn τ q) :
  p.modified τ t = q.modified τ t
  := by
  rw [modified_eq_isSome, modified_eq_isSome, h.find?]

theorem AgreesOn.begun (h : p.AgreesOn τ q) :
  p.begun τ t = q.begun τ t
  := by
  unfold FaultProtocol.begun
  rw [h.counters]

theorem AgreesOn.passed (h : p.AgreesOn τ q) :
  p.passed τ t = q.passed τ t
  := by
  unfold FaultProtocol.passed
  rw [h.begun, h.modified]

theorem AgreesOn.emissions (h : p.AgreesOn τ q) :
  p.emissions τ t = q.emissions τ t
  := by
  have hfaults : p.runtimeFaults.filter (fun fault => fault.target == τ.wire)
      = q.runtimeFaults.filter (fun fault => fault.target == τ.wire) := h.faults
  unfold FaultProtocol.emissions
  rw [hfaults, h.begun, h.passed, h.modified, h.t0Ns]

/-- The events of equal emissions agree on the stream. -/
theorem AgreesOn.map_numbered (h : p.AgreesOn τ q) (stamp : Time) (n m : Nat)
    (es : List Emission) :
  (p.numbered stamp n es).map FaultEvent.ofStream
    = (q.numbered stamp m es).map FaultEvent.ofStream
  := by
  induction es generalizing n m with
  | nil => rfl
  | cons e es ih =>
      rw [numbered, numbered, List.map_cons, List.map_cons, ih (n + 1) (m + 1)]
      congr 1
      unfold dataEvent FaultEvent.ofStream
      rw [h.state, h.goal, h.t0, h.commit, h.t0Ns]

/-- The faults of a stream after a message. -/
theorem ofTarget_observed (p : FaultProtocol) (τ τ' : Target) (t : Int) :
  ofTarget τ.wire (p.observed τ' t).runtimeFaults
    = (ofTarget τ.wire p.runtimeFaults).map
        (RuntimeFault.observe τ' p.t0Ns t (p.modified τ' t))
  := by
  have htarget : ((fun fault : RuntimeFault => fault.target == τ.wire) ∘
      RuntimeFault.observe τ' p.t0Ns t (p.modified τ' t))
        = fun fault => fault.target == τ.wire := by
    funext fault
    rw [Function.comp_apply, RuntimeFault.target, RuntimeFault.observe_canonical]
    rfl
  unfold ofTarget
  change (p.runtimeFaults.map _).filter _ = _
  rw [List.filter_map, htarget]

/-- A message of the stream keeps the agreement. -/
theorem AgreesOn.observed (h : p.AgreesOn τ q) :
  (p.observed τ t).AgreesOn τ (q.observed τ t)
  where
  state := h.state
  goal := h.goal
  t0 := h.t0
  commit := h.commit
  faults := by rw [ofTarget_observed, ofTarget_observed, h.faults, h.t0Ns, h.modified]
  counters := by rw [observed_streamCounters_self, observed_streamCounters_self, h.passed]

/-- A message of another stream keeps the agreement. -/
theorem AgreesOn.observed_of_ne (h : p.AgreesOn τ q) {τ' : Target} (hτ : τ' ≠ τ) :
  (p.observed τ' t).AgreesOn τ q
  where
  state := h.state
  goal := h.goal
  t0 := h.t0
  commit := h.commit
  faults := by
    have hid : ∀ fault ∈ ofTarget τ.wire p.runtimeFaults,
        fault.observe τ' p.t0Ns t (p.modified τ' t) = id fault := by
      intro fault hmem
      have htarget : fault.target = τ.wire := beq_iff_eq.mp (List.mem_filter.mp hmem).2
      apply observe_of_ne
      rw [htarget]
      exact fun hwire => hτ (Target.wire_injective hwire).symm
    rw [← h.faults, ofTarget_observed, List.map_congr_left hid, List.map_id]
  counters := by
    rw [observed_streamCounters_of_ne hτ.symm]
    exact h.counters

theorem AgreesOn.refl (p : FaultProtocol) :
  p.AgreesOn τ p
  := ⟨rfl, rfl, rfl, rfl, rfl, rfl⟩

theorem AgreesOn.symm (h : p.AgreesOn τ q) :
  q.AgreesOn τ p
  where
  state := h.state.symm
  goal := h.goal.symm
  t0 := h.t0.symm
  commit := h.commit.symm
  faults := h.faults.symm
  counters := h.counters.symm

theorem AgreesOn.counted (h : p.AgreesOn τ q) (k : Nat) :
  (p.counted k).AgreesOn τ q
  where
  state := h.state
  goal := h.goal
  t0 := h.t0
  commit := h.commit
  faults := h.faults
  counters := h.counters

end Agree

/-! ### Responses of a stream -/

section Responses

variable {τ : Target} {p q : FaultProtocol} {M : Type} {stamp : Time} {refusal : Option String}
  {input : M} {output : Option M}

/-- Protocols that agree on a stream answer its messages alike. -/
theorem AgreesOn.sense (h : p.AgreesOn τ q) :
  (p.sense τ stamp refusal input output).outcome.ofStream
      = (q.sense τ stamp refusal input output).outcome.ofStream ∧
    (p.sense τ stamp refusal input output).next.AgreesOn τ
      (q.sense τ stamp refusal input output).next
  := by
  unfold FaultProtocol.sense
  cases refusal with
  | some reason => exact ⟨rfl, h⟩
  | none =>
      simp only
      rw [h.state, h.blocked]
      split_ifs
      · exact ⟨rfl, h⟩
      · cases q.blocked τ stamp.ns with
        | some reason => exact ⟨rfl, h⟩
        | none =>
            refine ⟨?_, h.observed⟩
            unfold FaultProcessOutcome.ofStream
            simp only
            rw [h.emissions, h.map_numbered stamp _ q.eventSequence.toNat, h.modified]

/-- The messages of other streams do not matter. -/
theorem AgreesOn.sense_of_ne (h : p.AgreesOn τ q) {τ' : Target} (hτ : τ' ≠ τ) :
  (p.sense τ' stamp refusal input output).next.AgreesOn τ q
  := by
  unfold FaultProtocol.sense
  split
  · exact h
  · split_ifs
    · exact h
    · split
      · exact h
      · apply h.observed_of_ne hτ

end Responses

variable [Binary32 F32] [Binary64 F64] [Tf2 F64] {lib : Libraries} {τ : Target}
  {p q : FaultProtocol}

theorem AgreesOn.respond (h : p.AgreesOn τ q) (lib : Libraries) {c : Call F32 F64}
    (hc : c.stream = some τ) :
  (p.respond lib c).outcome.ofStream = (q.respond lib c).outcome.ofStream ∧
    (p.respond lib c).next.AgreesOn τ (q.respond lib c).next
  := by
  cases c with
  | preload request stamp => cases hc
  | arm request stamp => cases hc
  | reset stamp => cases hc
  | scan input frame =>
      obtain rfl : Target.scan = τ := Option.some.inj hc
      simp only [FaultProtocol.respond, h.modified]
      obtain ⟨houtcome, hnext⟩ := h.sense
      exact ⟨congrArg Outcome.scan houtcome, hnext⟩
  | odom input frame childFrame =>
      obtain rfl : Target.odom = τ := Option.some.inj hc
      have hdelivered : p.delivered input input.header.stamp.ns
          = q.delivered input input.header.stamp.ns := by
        unfold delivered
        rw [h.find?, h.t0Ns]
      simp only [FaultProtocol.respond, hdelivered]
      obtain ⟨houtcome, hnext⟩ := h.sense
      exact ⟨congrArg Outcome.odom houtcome, hnext⟩
  | imu input frame =>
      obtain rfl : Target.imu = τ := Option.some.inj hc
      simp only [FaultProtocol.respond]
      obtain ⟨houtcome, hnext⟩ := h.sense
      exact ⟨congrArg Outcome.imu houtcome, hnext⟩

theorem AgreesOn.respond_of_ne (h : p.AgreesOn τ q) {c : Call F32 F64} (hsensor : c.stream ≠ none)
    (hc : c.stream ≠ some τ) :
  (p.respond lib c).next.AgreesOn τ q
  := by
  have hne : ∀ {τ' : Target}, some τ' ≠ some τ → τ' ≠ τ := fun hsome heq => hsome (heq ▸ rfl)
  cases c with
  | preload request stamp => exact absurd rfl hsensor
  | arm request stamp => exact absurd rfl hsensor
  | reset stamp => exact absurd rfl hsensor
  | scan input frame => apply h.sense_of_ne (hne hc)
  | odom input frame childFrame => apply h.sense_of_ne (hne hc)
  | imu input frame => apply h.sense_of_ne (hne hc)

/-! ### Runs -/

/-- The call, when it is a message of the stream `τ`. -/
def inputOn (τ : Target) (e : Call F32 F64 × Outcome F32 F64) : Option (Call F32 F64) :=
  if e.1.stream = some τ then some e.1 else none

/-- The messages of the stream `τ` in a run. -/
def inputsOn (τ : Target) (tr : List (Call F32 F64 × Outcome F32 F64)) : List (Call F32 F64) :=
  tr.filterMap (inputOn τ)

/-- What a run answers to the messages of the stream `τ`. -/
def outcomesOn (τ : Target) (tr : List (Call F32 F64 × Outcome F32 F64)) :
    List (Outcome F32 F64) :=
  Run.views (inputOn τ) (fun e => e.2.ofStream) tr

/-- The messages of other streams unwind. -/
theorem unwinds_stream (lib : Libraries) (τ : Target) :
  Run.Unwinds (fun e : Call F32 F64 × Outcome F32 F64 => e.1.stream ≠ none)
    (fun s t => s.Inv ∧ t.Inv ∧ s.AgreesOn τ t) (inputOn τ) (fun e => e.2.ofStream)
    (FaultProtocol.step lib)
  := by
  have hother : ∀ e : Call F32 F64 × Outcome F32 F64, inputOn τ e = none →
      e.1.stream ≠ some τ := by
    intro e he hstream
    rw [inputOn, if_pos hstream] at he
    cases he
  have hcall : ∀ (e : Call F32 F64 × Outcome F32 F64) c, inputOn τ e = some c →
      e.1 = c ∧ c.stream = some τ := by
    intro e c he
    unfold inputOn at he
    split_ifs at he with hstream
    obtain rfl := Option.some.inj he
    exact ⟨rfl, hstream⟩
  constructor
  · rintro s t c o s' ⟨hs, ht, hagree⟩ hsensor hstep hkey
    refine ⟨hs.step hstep, ht, ?_⟩
    obtain ⟨-, -, rfl⟩ := (step_eq_ok hs).mp hstep
    apply AgreesOn.counted
    apply hagree.respond_of_ne hsensor (hother _ hkey)
  · rintro s t c o t' ⟨hs, ht, hagree⟩ hsensor hstep hkey
    refine ⟨hs, ht.step hstep, ?_⟩
    obtain ⟨-, -, rfl⟩ := (step_eq_ok ht).mp hstep
    apply AgreesOn.symm
    apply AgreesOn.counted
    apply hagree.symm.respond_of_ne hsensor (hother _ hkey)
  · rintro s t c o s' c' o' t' call ⟨hs, ht, hagree⟩ hstep hstep' hkey hkey'
    obtain ⟨rfl, hstream⟩ : c = call ∧ _ := hcall _ _ hkey
    obtain ⟨rfl, -⟩ : c' = c ∧ _ := hcall _ _ hkey'
    have hs' := hs.step hstep
    have ht' := ht.step hstep'
    obtain ⟨-, rfl, rfl⟩ := (step_eq_ok hs).mp hstep
    obtain ⟨-, rfl, rfl⟩ := (step_eq_ok ht).mp hstep'
    obtain ⟨houtcome, hnext⟩ := hagree.respond lib hstream
    refine ⟨houtcome, hs', ht', ?_⟩
    apply AgreesOn.counted
    apply AgreesOn.symm
    apply AgreesOn.counted
    exact hnext.symm

/-- Newly armed protocols agree on every stream on which their schedules have the same faults. -/
theorem agreesOn_armedState {request request' : ArmRequest} {stamp : Time}
    {marginNs marginNs' : Int}
    (hgoal : request.goalUuid = request'.goalUuid)
    (ht0 : request.acceptedGoalStamp = request'.acceptedGoalStamp)
    (hfaults : p.schedule.faults.filter (fun fault => fault.specification.target == τ.wire)
      = q.schedule.faults.filter (fun fault => fault.specification.target == τ.wire)) :
  (p.armedState request stamp marginNs).AgreesOn τ (q.armedState request' stamp marginNs')
  where
  state := rfl
  goal := hgoal
  t0 := ht0
  commit := rfl
  faults := by
    have hof : ∀ faults : List CanonicalFault,
        ofTarget τ.wire (faults.map fun canonical => { canonical := canonical })
          = (faults.filter (fun fault => fault.specification.target == τ.wire)).map
              fun canonical => { canonical := canonical } := by
      intro faults
      rw [ofTarget, List.filter_map]
      rfl
    change ofTarget τ.wire (p.schedule.faults.map fun canonical => { canonical := canonical })
      = ofTarget τ.wire (q.schedule.faults.map fun canonical => { canonical := canonical })
    rw [hof, hof, hfaults]
  counters := rfl

/-- Armed protocols that agree on a stream answer equal messages of that stream alike, in any
interleaving with any messages of the other streams. Protocols armed alike agree on every stream
on which their schedules have the same faults. -/
theorem noninterference (lib : Libraries) (τ : Target) :
  (∀ {n m : UInt64} {p q p' q' : FaultProtocol} {tr tr' : List (Call F32 F64 × Outcome F32 F64)},
    Reachable (C := Call F32 F64) (FaultProtocol.step lib) (FaultProtocol.new n) p →
    Reachable (C := Call F32 F64) (FaultProtocol.step lib) (FaultProtocol.new m) q →
    p.state = .armed → p.AgreesOn τ q →
    Run (FaultProtocol.step lib) p tr p' → Run (FaultProtocol.step lib) q tr' q' →
    (∀ e ∈ tr, e.1.stream ≠ none) → (∀ e ∈ tr', e.1.stream ≠ none) →
    inputsOn τ tr = inputsOn τ tr' →
    outcomesOn τ tr = outcomesOn τ tr' ∧ p'.AgreesOn τ q') ∧
  (∀ {n m : UInt64} {p q p' q' : FaultProtocol} {request request' : ArmRequest} {stamp : Time}
      {o o' : ArmOutcome},
    Reachable (C := Call F32 F64) (FaultProtocol.step lib) (FaultProtocol.new n) p →
    Reachable (C := Call F32 F64) (FaultProtocol.step lib) (FaultProtocol.new m) q →
    p.step lib (.arm request stamp : Call F32 F64) = .ok (.arm o, p') →
    q.step lib (.arm request' stamp : Call F32 F64) = .ok (.arm o', q') →
    o.accepted = true → o.replayed = false → o'.accepted = true → o'.replayed = false →
    request.goalUuid = request'.goalUuid →
    request.acceptedGoalStamp = request'.acceptedGoalStamp →
    p.schedule.faults.filter (fun fault => fault.specification.target == τ.wire)
      = q.schedule.faults.filter (fun fault => fault.specification.target == τ.wire) →
    p'.state = .armed ∧ p'.AgreesOn τ q')
  := by
  constructor
  · intro n m p q p' q' tr tr' hp hq _ hagree hrun hrun' hsensors hsensors' hinputs
    obtain ⟨hviews, -, -, hagree'⟩ := (unwinds_stream lib τ).run hrun hrun' hsensors hsensors'
      ⟨inv_of_reachable hp, inv_of_reachable hq, hagree⟩ hinputs
    exact ⟨hviews, hagree'⟩
  · intro n m p q p' q' request request' stamp o o' hp hq hstep hstep' haccepted hfresh
      haccepted' hfresh' hgoal ht0 hfaults
    obtain ⟨marginNs, rfl⟩ :=
      armedState_of_step (inv_of_reachable hp) hstep haccepted hfresh
    obtain ⟨marginNs', rfl⟩ :=
      armedState_of_step (inv_of_reachable hq) hstep' haccepted' hfresh'
    refine ⟨rfl, ?_⟩
    apply AgreesOn.counted
    apply AgreesOn.symm
    apply AgreesOn.counted
    apply AgreesOn.symm
    apply agreesOn_armedState hgoal ht0 hfaults

end FaultProtocol

/-! ### The sample -/

namespace Sample

/-- Two scans, before and inside the dropout. -/
def scans : List (Call ℚ ℚ) := [.scan (scan 105) "lidar", .scan (scan 110) "lidar"]

/-- The two scans among IMU messages. -/
def scansAndImus : List (Call ℚ ℚ) :=
  [.imu (imu 120) "imu", .scan (scan 105) "lidar", .imu (imu 121) "imu", .scan (scan 110) "lidar"]

end Sample

namespace FaultProtocol

/-- The armed sample answers two scans alike with and without IMU messages between them. -/
theorem noninterference_sample :
  ∃ p' q' tr tr',
    Run (FaultProtocol.step Sample.libraries) (Sample.after [Sample.preload, Sample.arm]) tr p' ∧
    Run (FaultProtocol.step Sample.libraries) (Sample.after [Sample.preload, Sample.arm]) tr' q' ∧
    tr.map Prod.fst = Sample.scans ∧ tr'.map Prod.fst = Sample.scansAndImus ∧
    outcomesOn .scan tr = outcomesOn .scan tr' ∧ p'.AgreesOn .scan q'
  := by
  have hreachable := Sample.reachable_after [Sample.preload, Sample.arm]
  have hinputs : ∀ tr : List (Call ℚ ℚ × Outcome ℚ ℚ), inputsOn .scan tr
      = (tr.map Prod.fst).filterMap fun c => if c.stream = some .scan then some c else none := by
    intro tr
    rw [List.filterMap_map]
    rfl
  have hsensors : ∀ {calls : List (Call ℚ ℚ)} {tr : List (Call ℚ ℚ × Outcome ℚ ℚ)},
      tr.map Prod.fst = calls → (calls.all fun c => c.stream.isSome) = true →
        ∀ e ∈ tr, e.1.stream ≠ none := by
    rintro calls tr rfl hall e he hnone
    have hsome := List.all_eq_true.mp hall e.1 (List.mem_map_of_mem he)
    rw [hnone] at hsome
    cases hsome
  have hscans : (Run.exec (FaultProtocol.step Sample.libraries)
      (Sample.after [Sample.preload, Sample.arm]) Sample.scans).isOk = true := by
    decide +kernel
  have hmixed : (Run.exec (FaultProtocol.step Sample.libraries)
      (Sample.after [Sample.preload, Sample.arm]) Sample.scansAndImus).isOk = true := by
    decide +kernel
  obtain ⟨tr, hrun, hcalls⟩ := Run.exists_of_exec hscans
  obtain ⟨tr', hrun', hcalls'⟩ := Run.exists_of_exec hmixed
  refine ⟨_, _, tr, tr', hrun, hrun', hcalls, hcalls', ?_⟩
  apply (noninterference Sample.libraries .scan).1 hreachable hreachable Sample.armed_after
    (AgreesOn.refl _) hrun hrun' (hsensors hcalls rfl) (hsensors hcalls' rfl)
  rw [hinputs, hinputs, hcalls, hcalls']
  rfl

end FaultProtocol

end RobotestLab
