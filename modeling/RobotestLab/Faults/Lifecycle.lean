import RobotestLab.Faults.Evidence

/-!
# The life of a fault

The flags of a runtime fault say which messages its stream has carried since the schedule was
armed (`Lived`), so that each of its events has its place at the first message of its kind
(`Placed`). A protocol that is armed and not reset remembers these places for all its faults
(`FaultProtocol.Remembers`).
-/

namespace RobotestLab

open FaultProtocol

/-! ### Messages of a run -/

variable {F32 F64 : Type}

/-- The stream and the stamp of an accepted sensor message. -/
def acceptedInput : Call F32 F64 × Outcome F32 F64 → Option (Target × Int)
  | (.scan input _, .scan o) => if o.accepted then some (.scan, input.header.stamp.ns) else none
  | (.odom input _ _, .odom o) => if o.accepted then some (.odom, input.header.stamp.ns) else none
  | (.imu input _, .imu o) => if o.accepted then some (.imu, input.header.stamp.ns) else none
  | _ => none

/-- The sensor message is published as it came in. -/
def Unaltered : Call F32 F64 × Outcome F32 F64 → Prop
  | (.scan input _, .scan o) => o.publish = true ∧ o.message = some input
  | (.odom input _ _, .odom o) => o.publish = true ∧ o.message = some input
  | (.imu input _, .imu o) => o.publish = true ∧ o.message = some input
  | _ => False

/-- The events of the outcome of a sensor message. -/
def dataEvents : Outcome F32 F64 → List FaultEvent
  | .scan o => o.events
  | .odom o => o.events
  | .imu o => o.events
  | _ => []

/-- The call is a reset. -/
def Call.isReset : Call F32 F64 → Bool
  | .reset _ => true
  | _ => false

namespace FaultProtocol

/-- What an armed protocol does with a sensor message. -/
theorem sense_of_armed {p : FaultProtocol} (hstate : p.state = .armed) {M : Type} (τ : Target)
    (stamp : Time) (refusal : Option String) (input : M) (output : Option M) :
  ((p.sense τ stamp refusal input output).outcome.accepted = false ∧
      (p.sense τ stamp refusal input output).outcome.events = [] ∧
      (p.sense τ stamp refusal input output).next = p) ∨
  (p.blocked τ stamp.ns = none ∧
    p.sense τ stamp refusal input output = {
      outcome := {
        accepted := true
        publish := !(p.modified τ stamp.ns && τ.suppresses)
        message := output
        events := p.numbered stamp p.eventSequence.toNat (p.emissions τ stamp.ns) }
      count := (p.emissions τ stamp.ns).length
      next := p.observed τ stamp.ns })
  := by
  unfold sense
  cases refusal with
  | some reason => exact Or.inl ⟨rfl, rfl, rfl⟩
  | none =>
      simp only
      rw [if_neg (not_not.mpr hstate)]
      cases p.blocked τ stamp.ns with
      | some reason => exact Or.inl ⟨rfl, rfl, rfl⟩
      | none => exact Or.inr ⟨rfl, rfl⟩

/-- The message is let in and observed. -/
structure Sensed (p : FaultProtocol) (e : Call F32 F64 × Outcome F32 F64) (p' : FaultProtocol)
    (τ : Target) (stamp : Time) : Prop where
  input : acceptedInput e = some (τ, stamp.ns)
  admitted : p.blocked τ stamp.ns = none
  events : dataEvents e.2
    = p.numbered stamp p.eventSequence.toNat (p.emissions τ stamp.ns)
  next : p' = (p.observed τ stamp.ns).counted (p.emissions τ stamp.ns).length
  unaltered : p.modified τ stamp.ns = false → Unaltered e

/-- The call leaves an armed protocol as it is. -/
structure Idle (p : FaultProtocol) (e : Call F32 F64 × Outcome F32 F64) (p' : FaultProtocol) :
    Prop where
  input : acceptedInput e = none
  events : dataEvents e.2 = []
  next : ∃ k, p' = p.counted k

variable [Binary32 F32] [Binary64 F64] [Tf2 F64] {lib : Libraries} {p p' : FaultProtocol}
  {c : Call F32 F64} {o : Outcome F32 F64}

/-- A response to a sensor message leaves an armed protocol as it is, or lets the message in. -/
theorem idle_or_sensed {M : Type} (hstate : p.state = .armed) (τ : Target) (stamp : Time)
    (refusal : Option String) (input : M) (output : Option M)
    {f : FaultProcessOutcome M → Outcome F32 F64}
    (hinput : ∀ o, acceptedInput (c, f o) = if o.accepted then some (τ, stamp.ns) else none)
    (hevents : ∀ o, dataEvents (f o) = o.events)
    (hunaltered : ∀ o, p.modified τ stamp.ns = false → o.publish = true → o.message = output →
      Unaltered (c, f o))
    (hrespond : p.respond lib c = (p.sense τ stamp refusal input output).map f) :
  p.Idle (c, (p.respond lib c).outcome)
      ((p.respond lib c).next.counted (p.respond lib c).count) ∨
    p.Sensed (c, (p.respond lib c).outcome)
      ((p.respond lib c).next.counted (p.respond lib c).count) τ stamp
  := by
  rw [hrespond]
  rcases sense_of_armed hstate τ stamp refusal input output
    with ⟨haccepted, hnone, hnext⟩ | ⟨hadmitted, hsense⟩
  · left
    constructor
    · change acceptedInput (c, f _) = none
      rw [hinput, haccepted]
      rfl
    · change dataEvents (f _) = []
      rw [hevents, hnone]
    · exact ⟨_, congrArg (counted · _) hnext⟩
  · right
    rw [hsense]
    constructor
    · apply hinput
    · exact hadmitted
    · apply hevents
    · rfl
    · intro hmodified
      apply hunaltered _ hmodified
      · change (!(p.modified τ stamp.ns && τ.suppresses)) = true
        rw [hmodified]
        rfl
      · rfl

/-- Without a reset, only sensor messages move an armed protocol. -/
theorem armed_step_cases (hp : p.Inv) (hstate : p.state = .armed)
    (h : p.step lib c = .ok (o, p')) (hc : c.isReset = false) :
  p.Idle (c, o) p' ∨ ∃ τ stamp, p.Sensed (c, o) p' τ stamp
  := by
  obtain ⟨-, rfl, rfl⟩ := (step_eq_ok hp).mp h
  cases c with
  | preload request stamp =>
      left
      refine ⟨rfl, rfl, 1, ?_⟩
      cases hverdict : p.preloadVerdict lib request stamp with
      | rejected message =>
          rw [respond, hverdict]
          rfl
      | replayed =>
          rw [respond, hverdict]
          rfl
      | committed next =>
          obtain ⟨_, _, _, _, _, _, hne, _⟩ := preloadVerdict_eq_committed hverdict
          exact absurd hstate hne
  | arm request stamp =>
      left
      refine ⟨rfl, rfl, 1, ?_⟩
      cases hverdict : p.armVerdict request stamp with
      | rejected message =>
          rw [respond, hverdict]
          rfl
      | replayed =>
          rw [respond, hverdict]
          rfl
      | committed next =>
          rw [(armVerdict_eq_committed hverdict).1] at hstate
          cases hstate
  | reset stamp => cases hc
  | scan input frame =>
      have hunaltered : ∀ o : FaultProcessOutcome (LaserScan F32),
          p.modified .scan input.header.stamp.ns = false → o.publish = true →
            o.message = (if p.modified .scan input.header.stamp.ns then none else some input) →
              Unaltered ((.scan input frame, .scan o) : Call F32 F64 × Outcome F32 F64) := by
        intro o hmodified hpublish hmessage
        rw [hmodified] at hmessage
        exact ⟨hpublish, hmessage⟩
      apply (idle_or_sensed hstate .scan _ _ input _ (fun _ => rfl) (fun _ => rfl) hunaltered
        rfl).imp_right
      exact fun hsensed => ⟨_, _, hsensed⟩
  | odom input frame childFrame =>
      have hunaltered : ∀ o : FaultProcessOutcome (Odometry F64),
          p.modified .odom input.header.stamp.ns = false → o.publish = true →
            o.message = some (p.delivered input input.header.stamp.ns) →
              Unaltered ((.odom input frame childFrame, .odom o) :
                Call F32 F64 × Outcome F32 F64) := by
        intro o hmodified hpublish hmessage
        rw [delivered, List.find?_eq_none.mpr] at hmessage
        · exact ⟨hpublish, hmessage⟩
        · apply List.any_eq_false.mp hmodified
      apply (idle_or_sensed hstate .odom _ _ input _ (fun _ => rfl) (fun _ => rfl) hunaltered
        rfl).imp_right
      exact fun hsensed => ⟨_, _, hsensed⟩
  | imu input frame =>
      have hunaltered : ∀ o : FaultProcessOutcome (Imu F64),
          p.modified .imu input.header.stamp.ns = false → o.publish = true →
            o.message = some input →
              Unaltered ((.imu input frame, .imu o) : Call F32 F64 × Outcome F32 F64) :=
        fun o _ hpublish hmessage => ⟨hpublish, hmessage⟩
      apply (idle_or_sensed hstate .imu _ _ input _ (fun _ => rfl) (fun _ => rfl) hunaltered
        rfl).imp_right
      exact fun hsensed => ⟨_, _, hsensed⟩

end FaultProtocol

/-! ### The past of a fault -/

section Past

variable (faults : List CanonicalFault) (t0 : Int) (f : CanonicalFault)

/-- An accepted message of the stream of the fault, inside its interval. -/
def InsideAt (e : Call F32 F64 × Outcome F32 F64) : Prop :=
  ∃ τ t, acceptedInput e = some (τ, t) ∧ f.specification.target = τ.wire ∧ f.Inside t0 t

/-- An accepted message of the stream of the fault, at or after the end of its interval. -/
def PastAt (e : Call F32 F64 × Outcome F32 F64) : Prop :=
  ∃ τ t, acceptedInput e = some (τ, t) ∧ f.specification.target = τ.wire ∧
    f.deactivationNs t0 ≤ t

/-- An accepted message of the stream of the fault that no fault changes. -/
def CleanAt (e : Call F32 F64 × Outcome F32 F64) : Prop :=
  ∃ τ t, acceptedInput e = some (τ, t) ∧ f.specification.target = τ.wire ∧
    ∀ g ∈ faults, ¬ g.Changes τ t0 t

/-- An unchanged message at or after the first one past the end of the interval. -/
def RestoredAt (pre : List (Call F32 F64 × Outcome F32 F64)) (e : Call F32 F64 × Outcome F32 F64) :
    Prop :=
  CleanAt faults t0 f e ∧ ∃ d ∈ pre ++ [e], PastAt t0 f d

/-- The types of the events that name the fault. -/
def eventTypesOf (tr : List (Call F32 F64 × Outcome F32 F64)) : List UInt8 :=
  ((tr.flatMap fun e => dataEvents e.2).filter (·.names f)).map FaultEvent.eventType

/-- The flags of a runtime fault say what its stream has carried. -/
structure Lived (tr : List (Call F32 F64 × Outcome F32 F64)) (fault : RuntimeFault) : Prop where
  coherent : fault.Coherent
  evidence : eventTypesOf fault.canonical tr = fault.evidence
  activated : fault.activated = true ↔ ∃ e ∈ tr, InsideAt t0 fault.canonical e
  deactivated : fault.deactivated = true ↔ ∃ e ∈ tr, PastAt t0 fault.canonical e
  restored : fault.firstRestored = true ↔
    fault.affected = true ∧ Occurs (RestoredAt faults t0 fault.canonical) tr

variable {faults t0 f} {tr : List (Call F32 F64 × Outcome F32 F64)}
  {e : Call F32 F64 × Outcome F32 F64} {fault : RuntimeFault}

theorem eventTypesOf_concat :
  eventTypesOf f (tr ++ [e]) = eventTypesOf f tr ++ eventTypesOf f [e]
  := by
  simp only [eventTypesOf, List.flatMap_append, List.filter_append, List.map_append]

theorem exists_mem_concat {P : Call F32 F64 × Outcome F32 F64 → Prop} :
  (∃ d ∈ tr ++ [e], P d) ↔ (∃ d ∈ tr, P d) ∨ P e
  := by
  simp only [List.mem_append, List.mem_singleton, or_and_right, exists_or, exists_eq_left]

/-- A fault that was just armed has no past. -/
theorem Lived.init (canonical : CanonicalFault) :
  Lived faults t0 ([] : List (Call F32 F64 × Outcome F32 F64)) { canonical := canonical }
  where
  coherent := ⟨rfl, rfl, by rintro ⟨⟩⟩
  evidence := rfl
  activated := by simp
  deactivated := by simp
  restored := by simp [Occurs.not_nil]

/-- A call that is no message of the stream of the fault. -/
theorem Lived.skip (h : Lived faults t0 tr fault) (hevents : eventTypesOf fault.canonical [e] = [])
    (hinside : ¬ InsideAt t0 fault.canonical e) (hpast : ¬ PastAt t0 fault.canonical e)
    (hclean : ¬ CleanAt faults t0 fault.canonical e) :
  Lived faults t0 (tr ++ [e]) fault
  where
  coherent := h.coherent
  evidence := by rw [eventTypesOf_concat, hevents, List.append_nil, h.evidence]
  activated := by rw [exists_mem_concat, or_iff_left hinside, h.activated]
  deactivated := by rw [exists_mem_concat, or_iff_left hpast, h.deactivated]
  restored := by
    rw [Occurs.concat_iff, or_iff_left (fun hrestored => hclean hrestored.1), h.restored]

/-- Some message past the end of the interval precedes a restoring one. -/
theorem past_of_occurs (h : Occurs (RestoredAt faults t0 f) tr) :
  ∃ e ∈ tr, PastAt t0 f e
  := by
  obtain ⟨pre, e, post, rfl, -, d, hd, hpast⟩ := h
  refine ⟨d, ?_, hpast⟩
  rw [List.append_cons]
  apply List.mem_append_left _ hd

section Input

variable {τ : Target} {t : Int}

theorem insideAt_iff (h : acceptedInput e = some (τ, t)) :
  InsideAt t0 f e ↔ f.specification.target = τ.wire ∧ f.Inside t0 t
  := by
  simp [InsideAt, h]

theorem pastAt_iff (h : acceptedInput e = some (τ, t)) :
  PastAt t0 f e ↔ f.specification.target = τ.wire ∧ f.deactivationNs t0 ≤ t
  := by
  simp [PastAt, h]

theorem cleanAt_iff (h : acceptedInput e = some (τ, t)) :
  CleanAt faults t0 f e ↔ f.specification.target = τ.wire ∧ ∀ g ∈ faults, ¬ g.Changes τ t0 t
  := by
  simp [CleanAt, h]

/-- An accepted message of the stream of the fault. -/
structure Watched (faults : List CanonicalFault) (t0 : Int) (e : Call F32 F64 × Outcome F32 F64)
    (τ : Target) (t : Int) (modified : Bool) (fault : RuntimeFault) : Prop where
  input : acceptedInput e = some (τ, t)
  target : fault.target = τ.wire
  changing : τ.affects fault.mode = fault.canonical.changing
  room : fault.affectedMessageCount.toNat < 18446744073709551615
  changed : fault.modifies τ t0 t = true → modified = true
  active : fault.active t0 t = true ↔ fault.canonical.Inside t0 t
  clean : modified = false ↔ ∀ g ∈ faults, ¬ g.Changes τ t0 t
  events : eventTypesOf fault.canonical [e] = fault.eventTypes τ t0 t modified

section Watched

variable {modified : Bool}

theorem Watched.insideAt (h : Watched faults t0 e τ t modified fault) :
  InsideAt t0 fault.canonical e ↔ fault.active t0 t = true
  := by
  rw [insideAt_iff h.input, h.active]
  exact and_iff_right h.target

theorem Watched.pastAt (h : Watched faults t0 e τ t modified fault) :
  PastAt t0 fault.canonical e ↔ fault.canonical.deactivationNs t0 ≤ t
  := by
  rw [pastAt_iff h.input]
  exact and_iff_right h.target

theorem Watched.cleanAt (h : Watched faults t0 e τ t modified fault) :
  CleanAt faults t0 fault.canonical e ↔ modified = false
  := by
  rw [cleanAt_iff h.input, h.clean]
  exact and_iff_right h.target

/-- Whether a message at or after the end of the interval restores the fault. -/
theorem Lived.restoredAt (h : Lived faults t0 tr fault)
    (hw : Watched faults t0 e τ t modified fault) :
  RestoredAt faults t0 fault.canonical tr e ↔
    modified = false ∧ (fault.deactivated || fault.closes t0 t) = true
  := by
  rw [RestoredAt, hw.cleanAt, exists_mem_concat, ← h.deactivated, hw.pastAt,
    RuntimeFault.closes_or_deactivated, Bool.or_eq_true, decide_eq_true_eq]

/-- Whether the fault is restored by the message. -/
theorem Lived.restores_iff (h : Lived faults t0 tr fault)
    (hw : Watched faults t0 e τ t modified fault) :
  fault.restores t0 t modified = true ↔
    fault.affected = true ∧ FirstAt (RestoredAt faults t0 fault.canonical) tr e
  := by
  have hrestored := h.restored
  rw [h.coherent.restores_eq, FirstAt, h.restoredAt hw]
  simp only [Bool.and_eq_true, Bool.not_eq_true', ← Bool.not_eq_true, hrestored]
  tauto

/-- A message of the stream of the fault. -/
theorem Lived.observe (h : Lived faults t0 tr fault) (hw : Watched faults t0 e τ t modified fault) :
  Lived faults t0 (tr ++ [e]) (fault.observe τ t0 t modified)
  := by
  constructor
  · apply h.coherent.observe hw.target hw.changing hw.room hw.changed
  · rw [RuntimeFault.observe_canonical, eventTypesOf_concat, h.evidence, hw.events,
      h.coherent.evidence_observe hw.target hw.changing hw.room hw.changed]
  · rw [RuntimeFault.observe_canonical, RuntimeFault.observe_activated hw.target,
      exists_mem_concat, hw.insideAt, ← h.activated, Bool.or_eq_true]
  · rw [RuntimeFault.observe_canonical, observe_deactivated hw.target, exists_mem_concat,
      hw.pastAt, ← h.deactivated, Bool.or_eq_true, decide_eq_true_eq]
  · rw [RuntimeFault.observe_canonical, RuntimeFault.observe_firstRestored hw.target hw.changed,
      RuntimeFault.observe_affected hw.room, Occurs.concat_iff, Bool.or_eq_true, Bool.or_eq_true,
      h.restores_iff hw, h.restored, FirstAt]
    cases hmodifies : fault.modifies τ t0 t with
    | true =>
        -- the interval is open, so nothing has restored the fault
        obtain ⟨-, hdeactivated, -⟩ := RuntimeFault.open_of_modifies hmodifies
        have hoccurs : ¬ Occurs (RestoredAt faults t0 fault.canonical) tr := by
          intro hoccurs
          rw [h.deactivated.mpr (past_of_occurs hoccurs)] at hdeactivated
          cases hdeactivated
        have hclean : ¬ RestoredAt faults t0 fault.canonical tr e := by
          rintro ⟨hclean, -⟩
          rw [hw.cleanAt, hw.changed hmodifies] at hclean
          cases hclean
        simp only [hoccurs, hclean, and_false, or_false, false_and]
    | false =>
        rw [or_iff_left Bool.false_ne_true]
        tauto

end Watched

end Input

end Past

/-! ### The places of the events -/

section Places

variable (faults : List CanonicalFault) (t0 : Int) (f : CanonicalFault)

/-- The call makes an event of the given type for the fault. -/
def Emits (eventType : UInt8) (e : Call F32 F64 × Outcome F32 F64) : Prop :=
  ∃ event ∈ dataEvents e.2, event.faultId = f.specification.faultId ∧ event.eventType = eventType

/-- The events of the fault that a call makes after the calls `pre`. -/
structure Placed (pre : List (Call F32 F64 × Outcome F32 F64))
    (e : Call F32 F64 × Outcome F32 F64) : Prop where
  activated : Emits f FaultEvent.EVENT_ACTIVATED e ↔ FirstAt (fun _ => InsideAt t0 f) pre e
  affected : Emits f FaultEvent.EVENT_FIRST_AFFECTED e ↔
    f.changing = true ∧ FirstAt (fun _ => InsideAt t0 f) pre e
  deactivated : Emits f FaultEvent.EVENT_DEACTIVATED e ↔ FirstAt (fun _ => PastAt t0 f) pre e
  restored : Emits f FaultEvent.EVENT_FIRST_RESTORED e ↔
    (f.changing = true ∧ ∃ d ∈ pre, InsideAt t0 f d) ∧ FirstAt (RestoredAt faults t0 f) pre e
  unaltered : CleanAt faults t0 f e → Unaltered e

/-- The evidence of the fault in a run of calls. -/
structure Lifecycle (tr : List (Call F32 F64 × Outcome F32 F64)) : Prop where
  order : (eventTypesOf f tr).Sublist [FaultEvent.EVENT_ACTIVATED,
    FaultEvent.EVENT_FIRST_AFFECTED, FaultEvent.EVENT_DEACTIVATED,
    FaultEvent.EVENT_FIRST_RESTORED]
  placed : ∀ pre e post, tr = pre ++ e :: post → Placed faults t0 f pre e

variable {faults t0 f} {tr : List (Call F32 F64 × Outcome F32 F64)}
  {e : Call F32 F64 × Outcome F32 F64} {fault : RuntimeFault} {τ : Target} {t : Int}
  {modified : Bool}

theorem emits_iff {eventType : UInt8} :
  Emits f eventType e ↔ eventType ∈ eventTypesOf f [e]
  := by
  simp [Emits, eventTypesOf, FaultEvent.names, and_assoc]

/-- A call that is no message of the stream of the fault. -/
theorem Placed.skip (hevents : eventTypesOf f [e] = []) (hinside : ¬ InsideAt t0 f e)
    (hpast : ¬ PastAt t0 f e) (hclean : ¬ CleanAt faults t0 f e) :
  Placed faults t0 f tr e
  := by
  have hnone : ∀ eventType, ¬ Emits f eventType e := by
    intro eventType hemits
    rw [emits_iff, hevents] at hemits
    cases hemits
  constructor
  · exact iff_of_false (hnone _) (fun h => hinside h.1)
  · exact iff_of_false (hnone _) (fun h => hinside h.2.1)
  · exact iff_of_false (hnone _) (fun h => hpast h.1)
  · exact iff_of_false (hnone _) (fun h => hclean h.2.1.1)
  · exact fun h => absurd h hclean

/-- A message of the stream of the fault. -/
theorem Lived.placed (h : Lived faults t0 tr fault) (hw : Watched faults t0 e τ t modified fault)
    (hunaltered : modified = false → Unaltered e) :
  Placed faults t0 fault.canonical tr e
  := by
  obtain ⟨hactivated, haffected, hdeactivated, hrestored⟩ :=
    RuntimeFault.mem_eventTypes hw.target hw.changed
  have hinside : FirstAt (fun _ => InsideAt t0 fault.canonical) tr e ↔
      (fault.active t0 t && !fault.activated) = true := by
    rw [FirstAt, Occurs.iff_mem, ← h.activated, hw.insideAt, Bool.and_eq_true, Bool.not_eq_true',
      Bool.not_eq_true]
  have hmodifies : fault.modifies τ t0 t = (fault.active t0 t && fault.canonical.changing) := by
    rw [RuntimeFault.modifies, hw.target, beq_self_eq_true, Bool.true_and, hw.changing]
  constructor
  · rw [emits_iff, hw.events, hactivated, hinside]
  · rw [emits_iff, hw.events, haffected, hinside, hmodifies, h.coherent.affected]
    cases fault.active t0 t <;> cases fault.canonical.changing <;> simp
  · rw [emits_iff, hw.events, hdeactivated, FirstAt, Occurs.iff_mem, ← h.deactivated, hw.pastAt,
      RuntimeFault.closes, Bool.and_eq_true, Bool.not_eq_true', Bool.not_eq_true,
      decide_eq_true_eq, and_comm]
  · rw [emits_iff, hw.events, hrestored, h.restores_iff hw, h.coherent.affected,
      Bool.and_eq_true, h.activated, and_comm (a := ∃ d ∈ tr, _)]
  · exact fun hclean => hunaltered (hw.cleanAt.mp hclean)

end Places

/-! ### Runs of an armed protocol -/

namespace FaultProtocol

/-- The runtime faults of an armed protocol remember the calls since it was armed. -/
structure Remembers (faults : List CanonicalFault) (t0 : Int)
    (tr : List (Call F32 F64 × Outcome F32 F64)) (p : FaultProtocol) : Prop where
  inv : p.Inv
  state : p.state = .armed
  bound : p.t0Ns = t0
  schedule : p.schedule.faults = faults
  lived : ∀ fault ∈ p.runtimeFaults, Lived faults t0 tr fault
  named : ∀ e ∈ tr, ∀ event ∈ dataEvents e.2,
    event.faultId ∈ faults.map (·.specification.faultId)

section Remembers

variable {faults : List CanonicalFault} {t0 : Int} {tr : List (Call F32 F64 × Outcome F32 F64)}
  {p p' : FaultProtocol} {e : Call F32 F64 × Outcome F32 F64} {τ : Target} {stamp : Time}

theorem Inv.faultIds (hp : p.Inv) :
  (p.runtimeFaults.map (fun fault => fault.canonical.specification.faultId)).Nodup
  := by
  have hids := hp.schedule.faultIds
  rw [← hp.runtime, List.map_map] at hids
  exact hids

/-- The events of a call for one of the faults. -/
theorem Sensed.types (h : p.Sensed e p' τ stamp) (hp : p.Inv) {fault : RuntimeFault}
    (hmem : fault ∈ p.runtimeFaults) :
  eventTypesOf fault.canonical [e]
    = fault.eventTypes τ p.t0Ns stamp.ns (p.modified τ stamp.ns)
  := by
  have hsingle : eventTypesOf fault.canonical [e]
      = ((dataEvents e.2).filter (·.names fault.canonical)).map FaultEvent.eventType := by
    simp [eventTypesOf]
  rw [hsingle, h.events, eventType_numbered, eventType_emissions hp.faultIds hmem]

/-- A message that is let in is watched by the faults of its stream. -/
theorem Sensed.watched (h : p.Sensed e p' τ stamp) (hp : p.Inv) (hstate : p.state = .armed)
    {fault : RuntimeFault} (hmem : fault ∈ p.runtimeFaults) (htarget : fault.target = τ.wire) :
  Watched p.schedule.faults p.t0Ns e τ stamp.ns (p.modified τ stamp.ns) fault
  := by
  have ha := hp.armed hstate
  constructor
  · exact h.input
  · exact htarget
  · apply (hp.schedule.faults _ (hp.mem_schedule hmem)).affects htarget
  · apply lt_of_le_of_lt (ha.affected τ fault hmem htarget)
    apply room_of_not_blocked (hp.sound hstate τ) h.admitted
  · intro hmodifies
    apply List.any_eq_true.mpr ⟨fault, hmem, hmodifies⟩
  · rw [RuntimeFault.active, Bool.and_eq_true, Bool.not_eq_true', decide_eq_true_eq]
    apply and_iff_right_of_imp
    apply ha.not_deactivated h.admitted hmem htarget
  · rw [← Bool.not_eq_true, hp.modified_iff hstate h.admitted]
    simp only [not_exists, not_and]
  · apply h.types hp hmem

/-- A message of another stream is nothing to the fault. -/
theorem Sensed.off_target (h : p.Sensed e p' τ stamp) (hp : p.Inv) {fault : RuntimeFault}
    (hmem : fault ∈ p.runtimeFaults) (htarget : fault.target ≠ τ.wire) :
  eventTypesOf fault.canonical [e] = [] ∧ ¬ InsideAt t0 fault.canonical e ∧
    ¬ PastAt t0 fault.canonical e ∧ ¬ CleanAt faults t0 fault.canonical e
  := by
  refine ⟨?_, ?_, ?_, ?_⟩
  · rw [h.types hp hmem, RuntimeFault.eventTypes, if_pos htarget]
  · rw [insideAt_iff h.input]
    exact fun hinside => htarget hinside.1
  · rw [pastAt_iff h.input]
    exact fun hpast => htarget hpast.1
  · rw [cleanAt_iff h.input]
    exact fun hclean => htarget hclean.1

theorem Idle.nothing (h : p.Idle e p') (f : CanonicalFault) :
  eventTypesOf f [e] = [] ∧ ¬ InsideAt t0 f e ∧ ¬ PastAt t0 f e ∧ ¬ CleanAt faults t0 f e
  := by
  simp [eventTypesOf, h.events, InsideAt, PastAt, CleanAt, h.input]

/-- The events of a message that is let in name faults of the schedule. -/
theorem Sensed.named (h : p.Sensed e p' τ stamp) (hp : p.Inv) :
  ∀ event ∈ dataEvents e.2, event.faultId ∈ p.schedule.faults.map (·.specification.faultId)
  := by
  have hnumbered : ∀ (n : Nat) (es : List Emission), ∀ event ∈ p.numbered stamp n es,
      ∃ em ∈ es, event.faultId = em.fault.canonical.specification.faultId := by
    intro n es
    induction es generalizing n with
    | nil =>
        intro event hevent
        cases hevent
    | cons em es ih =>
        intro event hevent
        rcases List.mem_cons.mp hevent with rfl | hevent
        · exact ⟨em, List.mem_cons_self, rfl⟩
        · obtain ⟨em', hem', hid⟩ := ih (n + 1) event hevent
          exact ⟨em', List.mem_cons_of_mem _ hem', hid⟩
  intro event hevent
  rw [h.events] at hevent
  obtain ⟨em, hem, hid⟩ := hnumbered _ _ event hevent
  obtain ⟨fault, hmem, -, hcanonical⟩ := fault_of_mem_emissions hem
  rw [hid, hcanonical]
  apply List.mem_map_of_mem (hp.mem_schedule hmem)

/-- A fault remembers every call. -/
theorem Remembers.lived_of_sensed (h : Remembers faults t0 tr p) (hs : p.Sensed e p' τ stamp)
    {fault : RuntimeFault} (hmem : fault ∈ p.runtimeFaults) :
  Lived faults t0 (tr ++ [e]) (fault.observe τ p.t0Ns stamp.ns (p.modified τ stamp.ns))
  := by
  obtain ⟨hp, hstate, rfl, rfl, hlived, -⟩ := h
  by_cases htarget : fault.target = τ.wire
  · apply (hlived fault hmem).observe (hs.watched hp hstate hmem htarget)
  · obtain ⟨hevents, hinside, hpast, hclean⟩ := hs.off_target hp hmem htarget
    rw [observe_of_ne htarget]
    apply (hlived fault hmem).skip hevents hinside hpast hclean

/-- The call makes its events in their places. -/
theorem Remembers.placed_of_sensed (h : Remembers faults t0 tr p) (hs : p.Sensed e p' τ stamp)
    {f : CanonicalFault} (hf : f ∈ faults) :
  Placed faults t0 f tr e
  := by
  obtain ⟨hp, hstate, rfl, rfl, hlived, -⟩ := h
  rw [← hp.runtime] at hf
  obtain ⟨fault, hmem, rfl⟩ := List.mem_map.mp hf
  by_cases htarget : fault.target = τ.wire
  · apply (hlived fault hmem).placed (hs.watched hp hstate hmem htarget) hs.unaltered
  · obtain ⟨hevents, hinside, hpast, hclean⟩ := hs.off_target hp hmem htarget
    apply Placed.skip hevents hinside hpast hclean

variable [Binary32 F32] [Binary64 F64] [Tf2 F64] {lib : Libraries} {c : Call F32 F64}
  {o : Outcome F32 F64}

/-- Every call but a reset is remembered. -/
theorem Remembers.step (h : Remembers faults t0 tr p) (hstep : p.step lib c = .ok (o, p'))
    (hc : c.isReset = false) :
  Remembers faults t0 (tr ++ [(c, o)]) p'
  := by
  have hp' := h.inv.step hstep
  rcases armed_step_cases h.inv h.state hstep hc with hidle | ⟨τ, stamp, hs⟩
  · obtain ⟨k, rfl⟩ := hidle.next
    refine ⟨hp', h.state, h.bound, h.schedule, ?_, ?_⟩
    · intro fault hmem
      obtain ⟨hevents, hinside, hpast, hclean⟩ := hidle.nothing fault.canonical
      apply (h.lived fault hmem).skip hevents hinside hpast hclean
    · intro e he event hevent
      rcases List.mem_append.mp he with he | he
      · apply h.named e he event hevent
      · rw [List.mem_singleton.mp he, hidle.events] at hevent
        cases hevent
  · obtain rfl := hs.next
    refine ⟨hp', h.state, h.bound, h.schedule, ?_, ?_⟩
    · intro observed hobserved
      obtain ⟨fault, hmem, rfl⟩ := List.mem_map.mp hobserved
      apply h.lived_of_sensed hs hmem
    · intro e he event hevent
      rcases List.mem_append.mp he with he | he
      · apply h.named e he event hevent
      · rw [List.mem_singleton.mp he] at hevent
        rw [← h.schedule]
        apply hs.named h.inv event hevent

theorem Remembers.placed (h : Remembers faults t0 tr p) (hstep : p.step lib c = .ok (o, p'))
    (hc : c.isReset = false) {f : CanonicalFault} (hf : f ∈ faults) :
  Placed faults t0 f tr (c, o)
  := by
  rcases armed_step_cases h.inv h.state hstep hc with hidle | ⟨τ, stamp, hs⟩
  · obtain ⟨hevents, hinside, hpast, hclean⟩ := hidle.nothing f
    apply Placed.skip hevents hinside hpast hclean
  · apply h.placed_of_sensed hs hf

theorem Remembers.run (h : Remembers faults t0 ([] : List (Call F32 F64 × Outcome F32 F64)) p)
    (hrun : Run (FaultProtocol.step lib) p tr p') (hreset : ∀ e ∈ tr, e.1.isReset = false) :
  Remembers faults t0 tr p'
  := by
  have hhistory := hrun.history (fun e => e.1.isReset = false) (Remembers faults t0)
    (fun _ _ _ _ _ hs hc hstep => hs.step hstep hc) [] h hreset
  exact hhistory

theorem Remembers.lifecycle (h : Remembers faults t0 ([] : List (Call F32 F64 × Outcome F32 F64)) p)
    (hrun : Run (FaultProtocol.step lib) p tr p') (hreset : ∀ e ∈ tr, e.1.isReset = false)
    {f : CanonicalFault} (hf : f ∈ faults) :
  Lifecycle faults t0 f tr
  := by
  constructor
  · obtain ⟨hp', -, -, rfl, hlived, -⟩ := h.run hrun hreset
    rw [← hp'.runtime] at hf
    obtain ⟨fault, hmem, rfl⟩ := List.mem_map.mp hf
    rw [(hlived fault hmem).evidence]
    apply RuntimeFault.evidence_sublist
  · rintro pre ⟨c, o⟩ post rfl
    obtain ⟨s, hpre, hrest⟩ := Run.append_iff.mp hrun
    obtain ⟨s', hstep, -⟩ := Run.cons_iff.mp hrest
    have hpast := h.run hpre (fun e he => hreset e (List.mem_append_left _ he))
    apply hpast.placed hstep _ hf
    apply hreset (c, o)
    simp

/-- At most four events for each of at most sixteen faults. -/
theorem Remembers.length_le (h : Remembers faults t0 ([] : List (Call F32 F64 × Outcome F32 F64)) p)
    (hrun : Run (FaultProtocol.step lib) p tr p') (hreset : ∀ e ∈ tr, e.1.isReset = false) :
  (tr.flatMap fun e => dataEvents e.2).length ≤ 64
  := by
  have hend := h.run hrun hreset
  have hcount : faults.length ≤ 16 := by
    rw [← hend.schedule]
    exact hend.inv.schedule.count
  have hnamed : ∀ event ∈ tr.flatMap fun e => dataEvents e.2,
      event.faultId ∈ faults.map (·.specification.faultId) := by
    intro event hevent
    obtain ⟨e, he, hmem⟩ := List.mem_flatMap.mp hevent
    apply hend.named e he event hmem
  have hlength := List.length_le_of_keys FaultEvent.faultId 4 hnamed ?_
  · rw [List.length_map] at hlength
    omega
  · intro k hk
    obtain ⟨f, hf, rfl⟩ := List.mem_map.mp hk
    have horder := (h.lifecycle hrun hreset hf).order.length_le
    rw [eventTypesOf, List.length_map] at horder
    exact horder

/-- A protocol that was just armed remembers nothing. -/
theorem Remembers.init {request : ArmRequest} {out : ArmOutcome} (hp : p.Inv)
    (h : p.step lib (.arm request stamp : Call F32 F64) = .ok (.arm out, p'))
    (haccepted : out.accepted = true) (hfresh : out.replayed = false) :
  Remembers p.schedule.faults request.acceptedGoalStamp.ns
    ([] : List (Call F32 F64 × Outcome F32 F64)) p'
  := by
  have hp' := hp.step h
  obtain ⟨marginNs, rfl⟩ := armedState_of_step hp h haccepted hfresh
  refine ⟨hp', rfl, rfl, rfl, ?_, ?_⟩
  · intro fault hmem
    obtain ⟨canonical, -, rfl⟩ := List.mem_map.mp hmem
    apply Lived.init
  · intro e he
    cases he

/-- From a newly armed generation to the next reset, each fault of the schedule has its events
once, in order and in their places, and there are at most 64 of them. -/
theorem fault_lifecycle {n : UInt64} {request : ArmRequest} {out : ArmOutcome}
    (hreachable : Reachable (C := Call F32 F64) (FaultProtocol.step lib) (FaultProtocol.new n) p)
    {p₀ : FaultProtocol}
    (harm : p.step lib (.arm request stamp : Call F32 F64) = .ok (.arm out, p₀))
    (haccepted : out.accepted = true) (hfresh : out.replayed = false)
    (hrun : Run (FaultProtocol.step lib) p₀ tr p') (hreset : ∀ e ∈ tr, e.1.isReset = false) :
  (∀ f ∈ p.schedule.faults,
    Lifecycle p.schedule.faults request.acceptedGoalStamp.ns f tr ∧
      (eventTypesOf f tr).length ≤ 4) ∧
    (tr.flatMap fun e => dataEvents e.2).length ≤ 64
  := by
  have hinit := Remembers.init (inv_of_reachable hreachable) harm haccepted hfresh
  constructor
  · intro f hf
    have hlifecycle := hinit.lifecycle hrun hreset hf
    exact ⟨hlifecycle, hlifecycle.order.length_le⟩
  · apply hinit.length_le hrun hreset

end Remembers

/-- The dropout of the sample, armed and then met by a scan inside and a scan after it. -/
theorem fault_lifecycle_sample :
  ∃ out p₀ p', ∃ tr : List (Call ℚ ℚ × Outcome ℚ ℚ),
    (Sample.after [Sample.preload]).step Sample.libraries Sample.arm = .ok (.arm out, p₀) ∧
    Run (FaultProtocol.step Sample.libraries) p₀ tr p' ∧
    tr.map Prod.fst = [.scan (Sample.scan 110) "lidar", .scan (Sample.scan 112) "lidar"] ∧
    ∀ f ∈ (Sample.after [Sample.preload]).schedule.faults,
      Lifecycle (Sample.after [Sample.preload]).schedule.faults
        Sample.armRequest.acceptedGoalStamp.ns f tr
  := by
  have hreachable := Sample.reachable_after [Sample.preload]
  have hok : (Run.exec (FaultProtocol.step Sample.libraries) (Sample.after [Sample.preload])
      [Sample.arm, .scan (Sample.scan 110) "lidar", .scan (Sample.scan 112) "lidar"]).isOk
        = true := by decide +kernel
  obtain ⟨tr, hrun, hcalls⟩ := Run.exists_of_exec hok
  obtain ⟨⟨c, o⟩, tr, rfl⟩ : ∃ head rest, tr = head :: rest := by
    apply List.exists_cons_of_ne_nil
    rintro rfl
    cases hcalls
  obtain ⟨hc, hscans⟩ := List.cons.inj hcalls
  obtain ⟨p₀, hstep, hrun⟩ := Run.cons_iff.mp hrun
  obtain rfl : c = Sample.arm := hc
  obtain ⟨⟨out, s⟩, harm, ho⟩ := Except.bind_eq_ok_iff.mp hstep
  obtain ⟨rfl, rfl⟩ := Prod.mk.inj (Except.ok.inj ho)
  have hfresh : ((Sample.after [Sample.preload]).arm Sample.armRequest
      { sec := 101, nanosec := 0 }).toOption.map (fun r => (r.1.accepted, r.1.replayed))
        = some (true, false) := by decide +kernel
  rw [harm] at hfresh
  obtain ⟨haccepted, hreplayed⟩ := Prod.mk.inj (Option.some.inj hfresh)
  refine ⟨out, s, _, tr, hstep, hrun, hscans, ?_⟩
  intro f hf
  have hreset : ∀ e ∈ tr, e.1.isReset = false := by
    have hall : (tr.map Prod.fst).all (fun c => !c.isReset) = true := by
      rw [hscans]
      rfl
    intro e he
    have := List.all_eq_true.mp hall e.1 (List.mem_map_of_mem he)
    rwa [Bool.not_eq_true'] at this
  exact ((fault_lifecycle hreachable hstep haccepted hreplayed hrun hreset).1 f hf).1

end FaultProtocol

end RobotestLab
