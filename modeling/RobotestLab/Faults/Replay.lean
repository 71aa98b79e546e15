import RobotestLab.Faults.Generations
import RobotestLab.Library.Unwinding

/-!
# Rejections and replays

A control request that is rejected or replayed leaves nothing behind but its event. So a
request that was accepted once can be repeated as long as no reset and no other schedule comes
in between, and runs that differ by such requests only cannot be told apart by what they
publish, up to the sequence numbers of the events.
-/

namespace RobotestLab

open FaultProtocol

variable {F32 F64 : Type}

/-! ### Forgetting sequence numbers -/

/-- The event without its sequence number. -/
def FaultEvent.unnumbered (event : FaultEvent) : FaultEvent :=
  { event with eventSequence := 0 }

/-- The outcome with the sequence numbers of its events forgotten. -/
def FaultProcessOutcome.unnumbered {M : Type} (o : FaultProcessOutcome M) : FaultProcessOutcome M :=
  { o with events := o.events.map FaultEvent.unnumbered }

/-- The outcome of a call with the sequence numbers of its events forgotten. -/
def Outcome.unnumbered : Outcome F32 F64 → Outcome F32 F64
  | .preload o => .preload { o with event := o.event.unnumbered }
  | .arm o => .arm { o with event := o.event.unnumbered }
  | .reset o => .reset { o with event := o.event.unnumbered }
  | .scan o => .scan o.unnumbered
  | .odom o => .odom o.unnumbered
  | .imu o => .imu o.unnumbered

namespace FaultProtocol

/-- The state with another number of events. -/
def renumbered (p : FaultProtocol) (eventSequence : UInt64) : FaultProtocol :=
  { p with eventSequence := eventSequence }

/-- The two states differ at most in the number of events. -/
def SameUpToEvents (p q : FaultProtocol) : Prop :=
  q = p.renumbered q.eventSequence

theorem SameUpToEvents.refl (p : FaultProtocol) :
  p.SameUpToEvents p
  := rfl

theorem SameUpToEvents.symm {p q : FaultProtocol} (h : p.SameUpToEvents q) :
  q.SameUpToEvents p
  := by
  rw [SameUpToEvents, h]
  rfl

theorem SameUpToEvents.trans {p q r : FaultProtocol} (h : p.SameUpToEvents q)
    (h' : q.SameUpToEvents r) :
  p.SameUpToEvents r
  := by
  rw [SameUpToEvents, h', h]
  rfl

theorem sameUpToEvents_counted (p : FaultProtocol) (n : Nat) :
  p.SameUpToEvents (p.counted n)
  := rfl

/-- The events of a message do not depend on the number of events before, but for their own
numbers. -/
theorem map_unnumbered_numbered (p : FaultProtocol) (stamp : Time) (n : Nat) (es : List Emission) :
  (p.numbered stamp n es).map FaultEvent.unnumbered = es.map (p.dataEvent stamp 0)
  := by
  induction es generalizing n with
  | nil => rfl
  | cons e es ih =>
      rw [numbered, List.map_cons, List.map_cons, ih]
      rfl

/-! ### Answers up to sequence numbers -/

/-- The answer in a state with another number of events. -/
def Verdict.renumbered (k : UInt64) : Verdict → Verdict
  | .rejected message => .rejected message
  | .replayed => .replayed
  | .committed next => .committed (next.renumbered k)

variable (p : FaultProtocol) (k : UInt64)

theorem Verdict.renumbered_next (v : Verdict) :
  (v.renumbered k).next (p.renumbered k) = (v.next p).renumbered k
  := by
  cases v <;> rfl

theorem preloadCanonical_renumbered (canonical : CanonicalSchedule) (scheduleHash : String) :
  (p.renumbered k).preloadCanonical canonical scheduleHash
    = (p.preloadCanonical canonical scheduleHash).renumbered k
  := by
  have hstate : (p.renumbered k).state = p.state := rfl
  have hsame : (p.renumbered k).sameSchedule canonical = p.sameSchedule canonical := rfl
  have hlast : (p.renumbered k).lastAllocatedGeneration = p.lastAllocatedGeneration := rfl
  unfold preloadCanonical
  rw [hstate, hsame, hlast]
  split_ifs
  · rfl
  · rfl
  · rfl
  · cases incrementCounter p.lastAllocatedGeneration <;> rfl

theorem preloadVerdict_renumbered (lib : Libraries) (request : PreloadRequest) (stamp : Time) :
  (p.renumbered k).preloadVerdict lib request stamp
    = (p.preloadVerdict lib request stamp).renumbered k
  := by
  unfold preloadVerdict
  split_ifs
  · rfl
  · cases canonicalizeSchedule lib request.faults with
    | error failure => cases failure <;> rfl
    | ok canonical => apply preloadCanonical_renumbered

theorem armPrepared_renumbered (request : ArmRequest) (stamp : Time) :
  (p.renumbered k).armPrepared request stamp = (p.armPrepared request stamp).renumbered k
  := by
  have hschedule : (p.renumbered k).schedule = p.schedule := rfl
  unfold armPrepared
  rw [hschedule]
  split_ifs
  · rfl
  · rfl
  · cases marginOf p.schedule.earliestStartOffsetNs request.acceptedGoalStamp.ns stamp.ns <;> rfl

theorem armVerdict_renumbered (request : ArmRequest) (stamp : Time) :
  (p.renumbered k).armVerdict request stamp = (p.armVerdict request stamp).renumbered k
  := by
  have hstate : (p.renumbered k).state = p.state := rfl
  have hsame : (p.renumbered k).sameBinding request = p.sameBinding request := rfl
  have hschedule : (p.renumbered k).schedule = p.schedule := rfl
  have hgeneration : (p.renumbered k).generation = p.generation := rfl
  unfold armVerdict
  rw [hstate, hsame, hschedule, hgeneration]
  split_ifs
  · rfl
  · rfl
  · rfl
  · rfl
  · rfl
  · rfl
  · apply armPrepared_renumbered

/-- Responses that agree up to the numbers of events. -/
structure SameResponse {α : Type} (unnumbered : α → α) (r r' : Response α) : Prop where
  outcome : unnumbered r.outcome = unnumbered r'.outcome
  count : r.count = r'.count
  next : r.next.SameUpToEvents r'.next

theorem sense_renumbered {M : Type} (τ : Target) (stamp : Time) (refusal : Option String)
    (input : M) (output : Option M) :
  SameResponse FaultProcessOutcome.unnumbered (p.sense τ stamp refusal input output)
    ((p.renumbered k).sense τ stamp refusal input output)
  := by
  have hstate : (p.renumbered k).state = p.state := rfl
  have hblocked : (p.renumbered k).blocked τ stamp.ns = p.blocked τ stamp.ns := rfl
  unfold sense
  cases refusal with
  | some reason => exact ⟨rfl, rfl, rfl⟩
  | none =>
      simp only
      rw [hstate, hblocked]
      split_ifs
      · exact ⟨rfl, rfl, rfl⟩
      · cases p.blocked τ stamp.ns with
        | some reason => exact ⟨rfl, rfl, rfl⟩
        | none =>
            refine ⟨?_, rfl, rfl⟩
            unfold FaultProcessOutcome.unnumbered
            simp only
            rw [map_unnumbered_numbered, map_unnumbered_numbered]
            rfl

variable [Binary32 F32] [Binary64 F64] [Tf2 F64]

/-- The response to a call does not depend on the number of events before. -/
theorem respond_renumbered (lib : Libraries) (c : Call F32 F64) :
  SameResponse Outcome.unnumbered (p.respond lib c) ((p.renumbered k).respond lib c)
  := by
  cases c with
  | preload request stamp =>
      unfold respond
      simp only
      rw [preloadVerdict_renumbered, Verdict.renumbered_next]
      refine ⟨?_, rfl, rfl⟩
      cases p.preloadVerdict lib request stamp <;> rfl
  | arm request stamp =>
      unfold respond
      simp only
      rw [armVerdict_renumbered, Verdict.renumbered_next]
      refine ⟨?_, rfl, rfl⟩
      cases p.armVerdict request stamp <;> rfl
  | reset stamp => exact ⟨rfl, rfl, rfl⟩
  | scan input frame =>
      obtain ⟨houtcome, hcount, hnext⟩ := p.sense_renumbered k .scan input.header.stamp
        (refusal (validateAndCopyScan input frame)) input
        (if p.modified .scan input.header.stamp.ns then none else some input)
      exact ⟨congrArg Outcome.scan houtcome, hcount, hnext⟩
  | odom input frame childFrame =>
      obtain ⟨houtcome, hcount, hnext⟩ := p.sense_renumbered k .odom input.header.stamp
        (refusal (validateAndCopyOdom input frame childFrame)) input
        (some (p.delivered input input.header.stamp.ns))
      exact ⟨congrArg Outcome.odom houtcome, hcount, hnext⟩
  | imu input frame =>
      obtain ⟨houtcome, hcount, hnext⟩ := p.sense_renumbered k .imu input.header.stamp
        (refusal (validateAndCopyImu input frame)) input (some input)
      exact ⟨congrArg Outcome.imu houtcome, hcount, hnext⟩

/-! ### Rejected and replayed requests -/

/-- The outcome is that of a preload or an arm request that was rejected or replayed. -/
def invisible : Outcome F32 F64 → Bool
  | .preload o => !o.accepted || o.replayed
  | .arm o => !o.accepted || o.replayed
  | _ => false

/-- The state did not move, but for one more event. -/
def Unmoved (p p' : FaultProtocol) : Prop :=
  p' = p.renumbered p'.eventSequence ∧ p'.eventSequence.toNat = p.eventSequence.toNat + 1

variable {p} {k} {lib : Libraries}

theorem unmoved_counted {p : FaultProtocol} (hroom : p.eventSequence.toNat + 1 < 2 ^ 64) :
  p.Unmoved (p.counted 1)
  := ⟨rfl, counted_toNat hroom⟩

variable {p' : FaultProtocol}

theorem unmoved_of_invisible (hp : p.Inv) {c : Call F32 F64}
    {o : Outcome F32 F64} (hstep : p.step lib c = .ok (o, p')) (h : invisible o = true) :
  p.Unmoved p'
  := by
  obtain ⟨hroom, rfl, rfl⟩ := (step_eq_ok hp).mp hstep
  have hnext : ∀ v : Verdict, (!v.accepted || v.replays) = true → v.next p = p := by
    intro v hv
    apply Verdict.next_eq
    simpa using hv
  cases c with
  | preload request stamp =>
      have hsame := hnext _ h
      simp only [respond, hsame]
      apply unmoved_counted hroom
  | arm request stamp =>
      have hsame := hnext _ h
      simp only [respond, hsame]
      apply unmoved_counted hroom
  | reset stamp => cases h
  | scan input frame => cases h
  | odom input frame childFrame => cases h
  | imu input frame => cases h

/-- The call of a visible outcome. -/
def visibleCall (e : Call F32 F64 × Outcome F32 F64) : Option (Call F32 F64) :=
  if invisible e.2 then none else some e.1

/-- The outcomes of a run that are neither rejections nor replays, without sequence numbers. -/
def visibleOutcomes (tr : List (Call F32 F64 × Outcome F32 F64)) : List (Outcome F32 F64) :=
  Run.views visibleCall (fun e => e.2.unnumbered) tr

/-- Rejected and replayed requests unwind. -/
theorem unwinds_invisible (lib : Libraries) :
  Run.Unwinds (fun _ => True) (fun s t : FaultProtocol => s.Inv ∧ t.Inv ∧ s.SameUpToEvents t)
    visibleCall (fun e : Call F32 F64 × Outcome F32 F64 => e.2.unnumbered)
    (FaultProtocol.step lib)
  := by
  have hinvisible : ∀ e : Call F32 F64 × Outcome F32 F64, visibleCall e = none →
      invisible e.2 = true := by
    intro e he
    unfold visibleCall at he
    split_ifs at he with hinvisible
    exact hinvisible
  have hcall : ∀ (e : Call F32 F64 × Outcome F32 F64) c, visibleCall e = some c → e.1 = c := by
    intro e c he
    unfold visibleCall at he
    split_ifs at he
    exact Option.some.inj he
  constructor
  · rintro s t c o s' ⟨hs, ht, hsame⟩ - hstep hkey
    have hunmoved := unmoved_of_invisible hs hstep (hinvisible _ hkey)
    exact ⟨hs.step hstep, ht, SameUpToEvents.trans (SameUpToEvents.symm hunmoved.1) hsame⟩
  · rintro s t c o t' ⟨hs, ht, hsame⟩ - hstep hkey
    have hunmoved := unmoved_of_invisible ht hstep (hinvisible _ hkey)
    exact ⟨hs, ht.step hstep, hsame.trans hunmoved.1⟩
  · rintro s t c o s' c' o' t' call ⟨hs, ht, hsame⟩ hstep hstep' hkey hkey'
    obtain rfl : c = call := hcall _ _ hkey
    obtain rfl : c' = c := hcall _ _ hkey'
    have hs' := hs.step hstep
    have ht' := ht.step hstep'
    obtain ⟨-, rfl, rfl⟩ := (step_eq_ok hs).mp hstep
    obtain ⟨-, rfl, rfl⟩ := (step_eq_ok ht).mp hstep'
    rw [SameUpToEvents] at hsame
    rw [hsame] at ht' ⊢
    obtain ⟨houtcome, -, hnext⟩ := s.respond_renumbered t.eventSequence lib c'
    refine ⟨houtcome, hs', ht', ?_⟩
    apply SameUpToEvents.trans (SameUpToEvents.symm (sameUpToEvents_counted _ _))
    apply hnext.trans (sameUpToEvents_counted _ _)

/-! ### Repeating a request -/

/-- The outcome is neither a reset nor a newly prepared schedule. -/
def Keeps : Outcome F32 F64 → Prop
  | .preload o => ¬ (o.accepted = true ∧ o.replayed = false)
  | .reset _ => False
  | _ => True

/-- What such a call leaves as it was. -/
structure Kept (p p' : FaultProtocol) : Prop where
  schedule : p'.schedule = p.schedule
  generation : p'.generation = p.generation
  reset : p.state ≠ .reset → p'.state ≠ .reset
  armed : p.state = .armed → p'.control = p.control

theorem Kept.of_control {p p' : FaultProtocol} (h : p'.control = p.control) :
  p.Kept p'
  := by
  have hstate : p'.state = p.state := congrArg Control.state h
  constructor
  · exact congrArg Control.schedule h
  · exact congrArg Control.generation h
  · rw [hstate]
    exact id
  · exact fun _ => h

theorem kept_of_step (hp : p.Inv) {c : Call F32 F64} {o : Outcome F32 F64}
    (hstep : p.step lib c = .ok (o, p')) (hkeeps : Keeps o) :
  p.Kept p'
  := by
  obtain ⟨-, rfl, rfl⟩ := (step_eq_ok hp).mp hstep
  cases c with
  | preload request stamp =>
      cases hverdict : p.preloadVerdict lib request stamp with
      | rejected message =>
          rw [respond, hverdict]
          apply Kept.of_control
          rfl
      | replayed =>
          rw [respond, hverdict]
          apply Kept.of_control
          rfl
      | committed next =>
          rw [respond, hverdict] at hkeeps
          exact absurd ⟨rfl, rfl⟩ hkeeps
  | arm request stamp =>
      cases hverdict : p.armVerdict request stamp with
      | rejected message =>
          rw [respond, hverdict]
          apply Kept.of_control
          rfl
      | replayed =>
          rw [respond, hverdict]
          apply Kept.of_control
          rfl
      | committed next =>
          obtain ⟨hstate, -, -, -, -, -, -, -, marginNs, -, rfl⟩ := armVerdict_eq_committed hverdict
          rw [respond, hverdict]
          constructor
          · rfl
          · rfl
          · intro _
            rintro ⟨⟩
          · intro harmed
            rw [hstate] at harmed
            cases harmed
  | reset stamp => exact hkeeps.elim
  | scan input frame =>
      apply Kept.of_control
      rw [counted_control]
      apply sense_next_control
  | odom input frame childFrame =>
      apply Kept.of_control
      rw [counted_control]
      apply sense_next_control
  | imu input frame =>
      apply Kept.of_control
      rw [counted_control]
      apply sense_next_control

variable {tr : List (Call F32 F64 × Outcome F32 F64)}

theorem kept_of_run (hp : p.Inv) (h : Run (FaultProtocol.step lib) p tr p')
    (hkeeps : ∀ e ∈ tr, Keeps e.2) :
  p.Kept p'
  := by
  have hhistory := h.history (fun e => Keeps e.2) (fun _ s => s.Inv ∧ p.Kept s) ?_
    [] ⟨hp, Kept.of_control rfl⟩ hkeeps
  · exact hhistory.2
  · rintro _ s c o s' ⟨hs, hkept⟩ hallowed hstep
    have hkept' := kept_of_step hs hstep hallowed
    refine ⟨hs.step hstep, ?_, ?_, ?_, ?_⟩
    · rw [hkept'.schedule, hkept.schedule]
    · rw [hkept'.generation, hkept.generation]
    · exact fun hopen => hkept'.reset (hkept.reset hopen)
    · intro harmed
      have hcontrol := hkept.armed harmed
      have hstate : s.state = .armed := (congrArg Control.state hcontrol).trans harmed
      rw [hkept'.armed hstate, hcontrol]

variable {stamp : Time}

/-- What an accepted preload commits to. -/
theorem preload_accepted {p p' : FaultProtocol} {request : PreloadRequest}
    {o : PreloadOutcome} (h : p.preload lib request stamp = .ok (o, p'))
    (haccepted : o.accepted = true) :
  o.scheduleHash = p'.schedule.sha256 ∧ o.generation = p'.generation ∧
    lowercaseSha256 request.scheduleHash = true ∧
    ∃ canonical, canonicalizeSchedule lib request.faults = .ok canonical ∧
      request.scheduleHash = canonical.sha256 ∧ p'.state ≠ .reset ∧
      p'.schedule.bytes = canonical.bytes ∧ p'.schedule.sha256 = canonical.sha256
  := by
  rw [preload_eq, answered_eq_ok] at h
  obtain ⟨-, rfl, rfl⟩ := h
  refine ⟨rfl, rfl, ?_⟩
  cases hverdict : p.preloadVerdict lib request stamp with
  | rejected message =>
      rw [hverdict] at haccepted
      cases haccepted
  | replayed =>
      obtain ⟨-, hlowercase, hreplay⟩ := preloadVerdict_eq_replayed.mp hverdict
      exact ⟨hlowercase, hreplay⟩
  | committed next =>
      obtain ⟨canonical, generation, -, hcanonical, hlowercase, hhash, -, -, -, rfl⟩ :=
        preloadVerdict_eq_committed hverdict
      exact ⟨hlowercase, canonical, hcanonical, hhash, by rintro ⟨⟩, rfl, rfl⟩

/-- What an accepted arm request commits to. -/
theorem arm_accepted {p p' : FaultProtocol} (hp : p.Inv) {request : ArmRequest}
    {o : ArmOutcome} (h : p.arm request stamp = .ok (o, p')) (haccepted : o.accepted = true) :
  o.binding = p'.control.binding ∧ o.generation = p'.generation ∧ p'.state = .armed ∧
    request.scheduleHash = p'.schedule.sha256 ∧ request.generation = p'.generation ∧
    request.goalUuid = p'.boundGoalUuid ∧ request.acceptedGoalStamp = p'.acceptedGoalStamp
  := by
  rw [arm_eq hp.schedule, answered_eq_ok] at h
  obtain ⟨-, rfl, rfl⟩ := h
  refine ⟨rfl, rfl, ?_⟩
  cases hverdict : p.armVerdict request stamp with
  | rejected message =>
      rw [hverdict] at haccepted
      cases haccepted
  | replayed => exact (armVerdict_eq_replayed.mp hverdict).2
  | committed next =>
      obtain ⟨-, -, -, -, hhash, hgeneration, -, -, marginNs, -, rfl⟩ :=
        armVerdict_eq_committed hverdict
      exact ⟨rfl, hhash, hgeneration, rfl, rfl⟩

/-- The preload is answered as a replay, with the given hash and generation, unless no event can
be numbered any more. -/
def ReplaysPreload (lib : Libraries) (q : FaultProtocol) (request : PreloadRequest)
    (o : PreloadOutcome) : Prop :=
  ∀ stamp, normalizedTime stamp = true →
    (q.eventSequence.toNat + 1 < 2 ^ 64 → (q.preload lib request stamp).isOk = true) ∧
    ∀ o' q', q.preload lib request stamp = .ok (o', q') → o'.accepted = true ∧
      o'.replayed = true ∧ o'.scheduleHash = o.scheduleHash ∧ o'.generation = o.generation

/-- The arm request is answered as a replay, with the given generation and binding, unless no
event can be numbered any more. -/
def ReplaysArm (q : FaultProtocol) (request : ArmRequest) (o : ArmOutcome) : Prop :=
  ∀ stamp, normalizedTime stamp = true →
    (q.eventSequence.toNat + 1 < 2 ^ 64 → (q.arm request stamp).isOk = true) ∧
    ∀ o' q', q.arm request stamp = .ok (o', q') → o'.accepted = true ∧ o'.replayed = true ∧
      o'.generation = o.generation ∧ o'.binding = o.binding

theorem replaysPreload_of_run {p p' q : FaultProtocol} (hp' : p'.Inv) {request : PreloadRequest}
    {o : PreloadOutcome} (h : p.preload lib request stamp = .ok (o, p'))
    (haccepted : o.accepted = true)
    (hrun : Run (FaultProtocol.step lib) p' tr q) (hkeeps : ∀ e ∈ tr, Keeps e.2) :
  q.ReplaysPreload lib request o
  := by
  obtain ⟨hhash, hgeneration, hlowercase, canonical, hcanonical, hrequest, hopen, hbytes, hsha⟩ :=
    preload_accepted h haccepted
  have hkept := kept_of_run hp' hrun hkeeps
  intro stamp' hstamp
  have hverdict : q.preloadVerdict lib request stamp' = .replayed := by
    rw [preloadVerdict_eq_replayed, hkept.schedule]
    exact ⟨hstamp, hlowercase, canonical, hcanonical, hrequest, hkept.reset hopen, hbytes, hsha⟩
  rw [preload_eq, hverdict]
  constructor
  · intro hroom
    rw [answered, if_pos hroom]
    rfl
  · intro o' q' hreplay
    obtain ⟨-, rfl, -⟩ := answered_eq_ok.mp hreplay
    refine ⟨rfl, rfl, ?_, ?_⟩
    · rw [hhash, ← hkept.schedule]
      rfl
    · rw [hgeneration, ← hkept.generation]
      rfl

theorem replaysArm_of_run {p p' q : FaultProtocol} (hp : p.Inv) (hp' : p'.Inv)
    {request : ArmRequest} {o : ArmOutcome}
    (h : p.arm request stamp = .ok (o, p')) (haccepted : o.accepted = true)
    (hrun : Run (FaultProtocol.step lib) p' tr q) (hkeeps : ∀ e ∈ tr, Keeps e.2) :
  q.ReplaysArm request o
  := by
  obtain ⟨hbinding, hgeneration, harmed, hrequest⟩ := arm_accepted hp h haccepted
  have hcontrol := (kept_of_run hp' hrun hkeeps).armed harmed
  have hstate : q.state = .armed := (congrArg Control.state hcontrol).trans harmed
  have hsame : q.control.binding = p'.control.binding := congrArg Control.binding hcontrol
  have hsameGeneration : q.generation = p'.generation := congrArg Control.generation hcontrol
  intro stamp' hstamp
  have hverdict : q.armVerdict request stamp' = .replayed := by
    rw [armVerdict_eq_replayed]
    have hhash : q.schedule.sha256 = p'.schedule.sha256 := congrArg Binding.scheduleHash hsame
    have huuid : q.boundGoalUuid = p'.boundGoalUuid := congrArg Binding.goalUuid hsame
    have ht0 : q.acceptedGoalStamp = p'.acceptedGoalStamp :=
      congrArg Binding.acceptedGoalStamp hsame
    rw [hhash, huuid, ht0, hsameGeneration]
    exact ⟨hstamp, hstate, hrequest⟩
  rw [arm_eq (hp'.run hrun).schedule, hverdict]
  constructor
  · intro hroom
    rw [answered, if_pos hroom]
    rfl
  · intro o' q' hreplay
    obtain ⟨-, rfl, -⟩ := answered_eq_ok.mp hreplay
    refine ⟨rfl, rfl, ?_, ?_⟩
    · rw [hgeneration, ← hsameGeneration]
      rfl
    · rw [hbinding, ← hsame]
      rfl

/-- From every reachable state, rejected and replayed requests leave the state as it is, accepted
requests can be repeated, and runs whose other calls agree show the same outcomes up to the
numbers of events. -/
theorem rejections_and_replays {n : UInt64} {p : FaultProtocol}
    (h : Reachable (C := Call F32 F64) (FaultProtocol.step lib) (FaultProtocol.new n) p) :
  (∀ request stamp o p', p.preload lib request stamp = .ok (o, p') →
    o.accepted = false ∨ o.replayed = true → p.Unmoved p') ∧
  (∀ request stamp o p', p.arm request stamp = .ok (o, p') →
    o.accepted = false ∨ o.replayed = true → p.Unmoved p') ∧
  (∀ request stamp o p', p.preload lib request stamp = .ok (o, p') → o.accepted = true →
    ∀ (tr : List (Call F32 F64 × Outcome F32 F64)) q, Run (FaultProtocol.step lib) p' tr q →
      (∀ e ∈ tr, Keeps e.2) → q.ReplaysPreload lib request o) ∧
  (∀ request stamp o p', p.arm request stamp = .ok (o, p') → o.accepted = true →
    ∀ (tr : List (Call F32 F64 × Outcome F32 F64)) q, Run (FaultProtocol.step lib) p' tr q →
      (∀ e ∈ tr, Keeps e.2) → q.ReplaysArm request o) ∧
  (∀ (tr tr' : List (Call F32 F64 × Outcome F32 F64)) q q',
    Run (FaultProtocol.step lib) p tr q → Run (FaultProtocol.step lib) p tr' q' →
      tr.filterMap visibleCall = tr'.filterMap visibleCall →
        visibleOutcomes tr = visibleOutcomes tr' ∧ q.SameUpToEvents q')
  := by
  have hp := inv_of_reachable h
  have hpreload : ∀ {request stamp o p'}, p.preload lib request stamp = .ok (o, p') →
      p.step lib (.preload request stamp : Call F32 F64) = .ok (.preload o, p') := by
    intro request stamp o p' hok
    rw [step, hok]
    rfl
  have harm : ∀ {request stamp o p'}, p.arm request stamp = .ok (o, p') →
      p.step lib (.arm request stamp : Call F32 F64) = .ok (.arm o, p') := by
    intro request stamp o p' hok
    rw [step, hok]
    rfl
  refine ⟨?_, ?_, ?_, ?_, ?_⟩
  · intro request stamp o p' hok hinvisible
    apply unmoved_of_invisible hp (hpreload hok)
    simpa [invisible] using hinvisible
  · intro request stamp o p' hok hinvisible
    apply unmoved_of_invisible hp (harm hok)
    simpa [invisible] using hinvisible
  · intro request stamp o p' hok haccepted tr q hrun hkeeps
    apply replaysPreload_of_run (hp.step (hpreload hok)) hok haccepted hrun hkeeps
  · intro request stamp o p' hok haccepted tr q hrun hkeeps
    apply replaysArm_of_run hp (hp.step (harm hok)) hok haccepted hrun hkeeps
  · intro tr tr' q q' hrun hrun' hcalls
    obtain ⟨hviews, -, -, hsame⟩ := (unwinds_invisible lib).run hrun hrun'
      (fun _ _ => trivial) (fun _ _ => trivial) ⟨hp, hp, SameUpToEvents.refl p⟩ hcalls
    exact ⟨hviews, hsame⟩

/-- A repeated arm request leaves the armed sample as it is. -/
theorem rejections_and_replays_sample :
  ∃ o p', (Sample.after [Sample.preload, Sample.arm]).arm Sample.armRequest
      { sec := 200, nanosec := 0 } = .ok (o, p') ∧ o.replayed = true ∧
    (Sample.after [Sample.preload, Sample.arm]).Unmoved p'
  := by
  have hreachable := Sample.reachable_after [Sample.preload, Sample.arm]
  have hreplayed : ((Sample.after [Sample.preload, Sample.arm]).arm Sample.armRequest
      { sec := 200, nanosec := 0 }).toOption.map (fun r => r.1.replayed) = some true := by
    decide +kernel
  cases h : (Sample.after [Sample.preload, Sample.arm]).arm Sample.armRequest
      { sec := 200, nanosec := 0 } with
  | error e =>
      rw [h] at hreplayed
      cases hreplayed
  | ok r =>
      rw [h] at hreplayed
      have hreplayed := Option.some.inj hreplayed
      refine ⟨r.1, r.2, rfl, hreplayed, ?_⟩
      apply (rejections_and_replays hreachable).2.1 _ _ _ _ h (Or.inr hreplayed)

end FaultProtocol

end RobotestLab
