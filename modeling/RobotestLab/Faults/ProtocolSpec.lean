import RobotestLab.Faults.Stream

/-!
# What the operations do

One statement for each operation of the protocol. The loops over the runtime faults are maps,
with the events they make in the order of the faults (`sweepFaults_eq`, `restoreFaults_eq`).
From these, a sensor message that is let in makes the events of its stream and moves the
protocol to `FaultProtocol.observed` (`processScan_armed`, `processOdom_armed`,
`processImu_armed`).
-/

namespace RobotestLab

namespace FaultProtocol

/-! ### The loops -/

/-- The test of the loop for an active fault. -/
theorem active_eq (t0 t : Int) (fault : RuntimeFault) :
  fault.active t0 t = (!fault.deactivated && fault.canonical.activationNs t0 ≤ t
    && t < fault.canonical.deactivationNs t0)
  := by
  rw [Bool.eq_iff_iff]
  simp only [RuntimeFault.active, Bool.and_eq_true, decide_eq_true_eq, and_assoc]
  rfl

/-- A fault that closes its interval is not active. -/
theorem not_active_of_closes {t0 t : Int} {fault : RuntimeFault} (h : fault.closes t0 t = true) :
  fault.active t0 t = false
  := by
  simp only [RuntimeFault.closes, Bool.and_eq_true, decide_eq_true_eq] at h
  rw [RuntimeFault.active, Bool.and_eq_false_iff, decide_eq_false_iff_not]
  right
  rintro ⟨-, hlt⟩
  omega

section Sweep

variable {target : UInt8} {stamp : Time} {t t0 : Int} {counters : StreamCounters}

/-- The fault is an active fault of the target. -/
def hit (target : UInt8) (t0 t : Int) (fault : RuntimeFault) : Bool :=
  fault.target == target && fault.active t0 t

/-- The fault after the loop: visited when it belongs to the target. -/
def swept (target : UInt8) (t0 t : Int) (fault : RuntimeFault) : RuntimeFault :=
  if fault.target = target then fault.visit t0 t else fault

theorem swept_target (target : UInt8) (t0 t : Int) (fault : RuntimeFault) :
  (swept target t0 t fault).target = fault.target
  := by
  unfold swept
  split_ifs
  · apply RuntimeFault.visit_target
  · rfl

/-- The faults of a target. -/
def ofTarget (target : UInt8) (faults : List RuntimeFault) : List RuntimeFault :=
  faults.filter (fun fault => fault.target == target)

variable {fault : RuntimeFault}

/-- One event made and passed on with a value. -/
theorem emit_singleton {α : Type} {p : FaultProtocol} {eventType : UInt8}
    {detail : String} (a : α) :
  (do let (event, p) ← p.makeDataEventLocked eventType stamp fault counters detail
      (.ok (a, [event], p) : Except Throw (α × List FaultEvent × FaultProtocol))) = (do
    let (events, p) ← p.emit stamp [⟨eventType, fault, counters, detail⟩]
    .ok (a, events, p))
  := by
  simp only [emit]
  cases p.makeDataEventLocked eventType stamp fault counters detail <;> rfl

theorem closeInterval_of_closes {p : FaultProtocol} (h : fault.closes t0 t = true) :
  p.closeInterval stamp t (fault.canonical.deactivationNs t0) counters fault = (do
    let (events, p) ← p.emit stamp (fault.visitEmissions t0 t counters)
    .ok (fault.visit t0 t, events, p))
  := by
  have hcond : (!fault.deactivated && fault.canonical.deactivationNs t0 ≤ t) = true := h
  rw [closeInterval, if_pos hcond, RuntimeFault.visitEmissions, if_pos h, RuntimeFault.visit,
    if_pos h]
  apply emit_singleton

theorem closeInterval_of_not_closes {p : FaultProtocol} (h : fault.closes t0 t = false) :
  p.closeInterval stamp t (fault.canonical.deactivationNs t0) counters fault = .ok (fault, [], p)
  := by
  rw [closeInterval, if_neg]
  exact ne_true_of_eq_false h

theorem openInterval_of_active {p : FaultProtocol} (h : fault.active t0 t = true) :
  p.openInterval stamp counters fault = (do
    let (events, p) ← p.emit stamp (fault.visitEmissions t0 t counters)
    .ok (fault.visit t0 t, events, p))
  := by
  have hcloses : ¬ fault.closes t0 t = true := by
    intro hcloses
    rw [not_active_of_closes hcloses] at h
    cases h
  rw [RuntimeFault.visitEmissions, if_neg hcloses, RuntimeFault.visit, if_neg hcloses, if_pos h, h,
    Bool.true_and, openInterval]
  by_cases hactivated : (!fault.activated) = true
  · rw [if_pos hactivated, if_pos hactivated]
    apply emit_singleton
  · rw [if_neg hactivated, if_neg hactivated]
    have hidle : { fault with activated := true } = fault := by
      cases fault
      simp_all
    rw [hidle]
    rfl

/-- What the loop makes of one fault, when no other fault of the target is active with it. -/
theorem sweepFaults_cons {rest : List RuntimeFault} {index : Nat}
    {sweep : Sweep} {p : FaultProtocol} (hrange : fault.canonical.InRange t0)
    (hfree : hit target t0 t fault = true → sweep.activeFault = none) :
  sweepFaults target stamp t t0 counters (fault :: rest) index sweep p = (do
    let (events, p) ← p.emit stamp
      ((ofTarget target [fault]).flatMap (RuntimeFault.visitEmissions t0 t counters))
    let (rest, sweep, p) ← sweepFaults target stamp t t0 counters rest (index + 1)
      { sweep with
        events := sweep.events ++ events
        activeFault := if hit target t0 t fault then some index else sweep.activeFault } p
    .ok (swept target t0 t fault :: rest, sweep, p))
  := by
  have hadd : addI64 t0 fault.canonical.startOffsetNs
      = .ok (fault.canonical.activationNs t0) := addI64_of_inRange hrange.1
  have hadd' : addI64 (fault.canonical.activationNs t0) fault.canonical.durationNs
      = .ok (fault.canonical.deactivationNs t0) := addI64_of_inRange hrange.2
  rw [sweepFaults]
  by_cases htarget : fault.target = target
  · have hof : (ofTarget target [fault]).flatMap (RuntimeFault.visitEmissions t0 t counters) =
        fault.visitEmissions t0 t counters := by
      simp [ofTarget, htarget]
    have hhit : hit target t0 t fault = fault.active t0 t := by
      simp [hit, htarget]
    rw [if_neg (not_not.mpr htarget), hadd, Except.ok_bind, hadd', Except.ok_bind, hof, swept,
      if_pos htarget, hhit]
    by_cases hcloses : fault.closes t0 t = true
    · have hdeactivated : (fault.visit t0 t).deactivated = true := by
        rw [RuntimeFault.visit, if_pos hcloses]
      rw [closeInterval_of_closes hcloses, not_active_of_closes hcloses]
      cases p.emit stamp (fault.visitEmissions t0 t counters) with
      | error e => rfl
      | ok first =>
          simp only [Except.ok_bind, hdeactivated, Bool.not_true, Bool.false_and,
            Bool.false_eq_true, if_false]
    · rw [closeInterval_of_not_closes (eq_false_of_ne_true hcloses), Except.ok_bind]
      simp only [← active_eq]
      by_cases hact : fault.active t0 t = true
      · rw [if_pos hact, hfree (hhit.trans hact), openInterval_of_active hact, if_pos hact]
        simp only [Option.isSome_none, Bool.false_eq_true, if_false, List.append_nil]
        cases p.emit stamp (fault.visitEmissions t0 t counters) with
        | error e => rfl
        | ok first => rfl
      · have hsame : fault.visit t0 t = fault := by
          rw [RuntimeFault.visit, if_neg hcloses, if_neg hact]
        have hquiet : fault.visitEmissions t0 t counters = [] := by
          rw [RuntimeFault.visitEmissions, if_neg hcloses, if_neg]
          simp [hact]
        rw [if_neg hact, if_neg hact, hquiet, hsame]
        rfl
  · have hof : ofTarget target [fault] = [] := by
      simp [ofTarget, htarget]
    have hhit : ¬ hit target t0 t fault = true := by
      simp [hit, htarget]
    rw [if_pos htarget, hof, swept, if_neg htarget, if_neg hhit]
    simp only [List.flatMap_nil, emit, Except.ok_bind, List.append_nil]

/-- When at most one fault of the target is active, the loop visits every fault of the
target, makes their events in order, and finds the active one. -/
theorem sweepFaults_eq {faults : List RuntimeFault}
    (hrange : ∀ fault ∈ faults, fault.canonical.InRange t0)
    (hunique : faults.Pairwise (fun left right => ¬ (hit target t0 t left ∧ hit target t0 t right)))
    (index : Nat) (sweep : Sweep) (p : FaultProtocol)
    (hactive : sweep.activeFault.isSome → ∀ fault ∈ faults, hit target t0 t fault = false) :
  sweepFaults target stamp t t0 counters faults index sweep p = (do
    let (events, p) ← p.emit stamp
      ((ofTarget target faults).flatMap (RuntimeFault.visitEmissions t0 t counters))
    .ok (faults.map (swept target t0 t),
      { sweep with
        events := sweep.events ++ events
        activeFault := sweep.activeFault.or
          ((faults.findIdx? (hit target t0 t)).map (index + ·)) }, p))
  := by
  induction faults generalizing index sweep p with
  | nil =>
      simp [sweepFaults, ofTarget, emit]
  | cons fault rest ih =>
      obtain ⟨hfirst, hunique'⟩ := List.pairwise_cons.mp hunique
      have hrange' : ∀ other ∈ rest, other.canonical.InRange t0 := fun other hmem =>
        hrange other (List.mem_cons_of_mem _ hmem)
      have hfree : hit target t0 t fault = true → sweep.activeFault = none := by
        intro hhit
        cases hsome : sweep.activeFault with
        | none => rfl
        | some i =>
            rw [hactive (by simp [hsome]) fault List.mem_cons_self] at hhit
            cases hhit
      have hlater : (if hit target t0 t fault then some index else sweep.activeFault).isSome →
          ∀ other ∈ rest, hit target t0 t other = false := by
        intro hsome other hmem
        by_cases hhit : hit target t0 t fault = true
        · have hboth := hfirst other hmem
          rw [hhit] at hboth
          simpa using hboth
        · rw [if_neg hhit] at hsome
          exact hactive hsome other (List.mem_cons_of_mem _ hmem)
      have hof : ofTarget target (fault :: rest) =
          ofTarget target [fault] ++ ofTarget target rest :=
        List.filter_append [fault] rest
      rw [sweepFaults_cons (hrange fault List.mem_cons_self) hfree, hof, List.flatMap_append,
        emit_append]
      cases p.emit stamp
          ((ofTarget target [fault]).flatMap (RuntimeFault.visitEmissions t0 t counters)) with
      | error e => rfl
      | ok first =>
          simp only [Except.ok_bind]
          rw [ih hrange' hunique' (index + 1) _ first.2 hlater]
          cases first.2.emit stamp
              ((ofTarget target rest).flatMap (RuntimeFault.visitEmissions t0 t counters)) with
          | error e => rfl
          | ok second =>
              by_cases hhit : hit target t0 t fault = true
              · simp [hhit, hfree hhit, List.findIdx?_cons]
              · have hshift : (rest.findIdx? (hit target t0 t)).map (fun i => index + 1 + i) =
                    (rest.findIdx? (hit target t0 t)).map (fun i => index + (i + 1)) := by
                  congr 1
                  funext i
                  omega
                simp [hhit, hshift, List.findIdx?_cons, Function.comp_def]

/-- The fault after an unchanged message, when it belongs to the target. -/
def restored (target : UInt8) (fault : RuntimeFault) : RuntimeFault :=
  if fault.target = target then fault.restore else fault

/-- The loop after an unchanged message restores every fault of the target that waits for it,
and makes their events in order. -/
theorem restoreFaults_eq (faults : List RuntimeFault) (events : List FaultEvent)
    (p : FaultProtocol) :
  restoreFaults target stamp counters faults events p = (do
    let (events', p) ← p.emit stamp
      ((ofTarget target faults).flatMap (RuntimeFault.restoreEmissions counters))
    .ok (faults.map (restored target), events ++ events', p))
  := by
  induction faults generalizing events p with
  | nil => simp [restoreFaults, ofTarget, emit]
  | cons fault rest ih =>
      rw [restoreFaults]
      by_cases hrestorable : fault.target = target ∧ fault.restorable = true
      · obtain ⟨htarget, hrestorable⟩ := hrestorable
        have hcond : fault.target = target ∧ fault.restorationPending = true ∧
            ¬ fault.firstRestored = true := by
          simpa [RuntimeFault.restorable, htarget] using hrestorable
        have hof : ofTarget target (fault :: rest) = fault :: ofTarget target rest := by
          simp [ofTarget, htarget]
        rw [if_pos hcond, hof, List.flatMap_cons, RuntimeFault.restoreEmissions,
          if_pos hrestorable, List.singleton_append, emit, RuntimeFault.restore,
          if_pos hrestorable]
        simp only
        cases p.makeDataEventLocked FaultEvent.EVENT_FIRST_RESTORED stamp _ counters _ with
        | error e => rfl
        | ok first =>
            simp only [Except.ok_bind, ih]
            cases first.2.emit stamp ((ofTarget target rest).flatMap
                (RuntimeFault.restoreEmissions counters)) with
            | error e => rfl
            | ok second => simp [restored, htarget, RuntimeFault.restore, hrestorable]
      · have hcond : ¬ (fault.target = target ∧ fault.restorationPending = true ∧
            ¬ fault.firstRestored = true) := by
          simpa [RuntimeFault.restorable] using hrestorable
        have hsame : restored target fault = fault := by
          unfold restored RuntimeFault.restore
          split_ifs with htarget hwaiting
          · exact absurd ⟨htarget, hwaiting⟩ hrestorable
          · rfl
          · rfl
        have hof : (ofTarget target (fault :: rest)).flatMap
            (RuntimeFault.restoreEmissions counters) =
              (ofTarget target rest).flatMap (RuntimeFault.restoreEmissions counters) := by
          by_cases htarget : fault.target = target
          · have hwaiting : ¬ fault.restorable = true := fun h => hrestorable ⟨htarget, h⟩
            simp [ofTarget, htarget, RuntimeFault.restoreEmissions, hwaiting]
          · simp [ofTarget, htarget]
        rw [if_neg hcond, ih, hof]
        cases p.emit stamp ((ofTarget target rest).flatMap
            (RuntimeFault.restoreEmissions counters)) with
        | error e => rfl
        | ok second => simp [hsame]

end Sweep

/-! ### The runtime part of the state -/

/-- The protocol with other runtime faults and counters. -/
def withRuntime (p : FaultProtocol) (runtimeFaults : List RuntimeFault)
    (streamCounters : Fin 4 → StreamCounters) : FaultProtocol :=
  { p with runtimeFaults := runtimeFaults, streamCounters := streamCounters }

/-- An event reports nothing of the runtime part, and leaves it as it is. -/
theorem makeDataEventLocked_withRuntime (p : FaultProtocol) (runtimeFaults : List RuntimeFault)
    (streamCounters : Fin 4 → StreamCounters) (eventType : UInt8) (stamp : Time)
    (fault : RuntimeFault) (counters : StreamCounters) (detail : String) :
  (p.withRuntime runtimeFaults streamCounters).makeDataEventLocked eventType stamp fault counters
    detail = (do
      let (event, p') ← p.makeDataEventLocked eventType stamp fault counters detail
      .ok (event, p'.withRuntime runtimeFaults streamCounters))
  := by
  unfold makeDataEventLocked nextEventSequence
  simp only [withRuntime]
  cases incrementCounter p.eventSequence with
  | none => rfl
  | some eventSequence =>
      simp only [Except.ok_bind]
      cases timeToNanoseconds p.acceptedGoalStamp with
      | error e => rfl
      | ok t0 =>
          simp only [Except.ok_bind]
          cases addI64 t0 fault.canonical.startOffsetNs with
          | error e => rfl
          | ok activationNs =>
              simp only [Except.ok_bind]
              cases addI64 activationNs fault.canonical.durationNs <;> rfl

theorem emit_withRuntime (p : FaultProtocol) (runtimeFaults : List RuntimeFault)
    (streamCounters : Fin 4 → StreamCounters) (stamp : Time) (es : List Emission) :
  (p.withRuntime runtimeFaults streamCounters).emit stamp es = (do
    let (events, p') ← p.emit stamp es
    .ok (events, p'.withRuntime runtimeFaults streamCounters))
  := by
  induction es generalizing p with
  | nil => rfl
  | cons e es ih =>
      rw [emit, emit, makeDataEventLocked_withRuntime]
      cases p.makeDataEventLocked e.eventType stamp e.fault e.counters e.detail with
      | error e => rfl
      | ok first =>
          simp only [Except.ok_bind, ih]
          cases first.2.emit stamp es <;> rfl

/-- What the operations on the stream `τ` rely on: bounds that do not overflow, faults of one
target that follow each other, and counters that run together. -/
structure Sound (p : FaultProtocol) (τ : Target) : Prop where
  inRange : ∀ fault ∈ p.runtimeFaults, fault.canonical.InRange p.t0Ns
  nonneg : ∀ fault ∈ p.runtimeFaults, 0 ≤ fault.canonical.activationNs p.t0Ns
  disjoint : p.runtimeFaults.Pairwise (fun left right => left.canonical.Disjoint right.canonical)
  raw : (p.streamCounters τ.index).inputSequence = (p.streamCounters τ.index).rawInputCount
  validated : (p.streamCounters τ.index).validatedOutputCount.toNat
    ≤ (p.streamCounters τ.index).rawInputCount.toNat
  affected : ∀ fault ∈ p.runtimeFaults, fault.target = τ.wire →
    fault.affectedMessageCount.toNat ≤ (p.streamCounters τ.index).rawInputCount.toNat

/-- Why a message of the stream `τ` with the stamp `t` is not let in. -/
def blocked (p : FaultProtocol) (τ : Target) (t : Int) : Option String :=
  let counters := p.streamCounters τ.index
  if counters.lastInputStampNs.any (fun last => t < last) then
    some "raw input stamp regressed within the armed generation"
  else if counters.inputSequence.increment? = none then some "target stream counter exhausted"
  else none

/-- A message that is not let in leaves the protocol as it is. -/
theorem beginTargetInputLocked_of_blocked {p : FaultProtocol} {τ : Target} {stamp : Time}
    {reason : String} (h : p.blocked τ stamp.ns = some reason) :
  p.beginTargetInputLocked τ.wire stamp τ.index = .ok ({ rejection := some reason }, p)
  := by
  unfold blocked at h
  unfold beginTargetInputLocked incrementCounter
  rw [timeToNanoseconds_eq, Except.ok_bind]
  simp only at h ⊢
  split_ifs at h with hregressed hexhausted
  · rw [if_pos hregressed, Option.some.inj h]
  · rw [if_neg hregressed, hexhausted, Option.some.inj h]

theorem increment?_eq_some_add_one {v : UInt64} (h : v.toNat < 18446744073709551615) :
  v.increment? = some (v + 1)
  := by
  unfold UInt64.increment?
  rw [if_neg]
  intro hmax
  rw [v.toNat_eq_max_iff] at hmax
  omega

theorem room_of_not_blocked {p : FaultProtocol} {τ : Target} {t : Int} (hp : p.Sound τ)
    (h : p.blocked τ t = none) :
  (p.streamCounters τ.index).rawInputCount.toNat < 18446744073709551615
  := by
  unfold blocked at h
  simp only at h
  split_ifs at h with hregressed hexhausted
  rw [UInt64.increment?_eq_none_iff, hp.raw] at hexhausted
  have := (p.streamCounters τ.index).rawInputCount.toNat_lt
  omega

/-- Two faults of one stream are not active at the same time. -/
theorem Sound.not_both_hit {p : FaultProtocol} {τ : Target} (hp : p.Sound τ) (t : Int) :
  p.runtimeFaults.Pairwise
    (fun left right => ¬ (hit τ.wire p.t0Ns t left ∧ hit τ.wire p.t0Ns t right))
  := by
  apply hp.disjoint.imp
  rintro left right hdisjoint ⟨hleft, hright⟩
  simp only [hit, Bool.and_eq_true, beq_iff_eq, RuntimeFault.active,
    decide_eq_true_eq] at hleft hright
  obtain ⟨htarget, -, -, hlt⟩ := hleft
  obtain ⟨htarget', -, hle, -⟩ := hright
  have hends := hdisjoint (htarget.trans htarget'.symm)
  unfold CanonicalFault.deactivationNs at hlt
  unfold CanonicalFault.activationNs at hle
  omega

/-- The emissions of the loop over the faults of the stream. -/
def entries (p : FaultProtocol) (τ : Target) (t : Int) : List Emission :=
  (ofTarget τ.wire p.runtimeFaults).flatMap (RuntimeFault.visitEmissions p.t0Ns t (p.begun τ t))

/-- The protocol `p'` with the runtime part that the loop over the faults of `p` leaves. -/
def entered (p : FaultProtocol) (τ : Target) (t : Int) (p' : FaultProtocol) : FaultProtocol :=
  p'.withRuntime (p.runtimeFaults.map (swept τ.wire p.t0Ns t))
    (Function.update p.streamCounters τ.index (p.begun τ t))

/-- The protocol `p'` with the runtime part that the message leaves. -/
def left (p : FaultProtocol) (τ : Target) (t : Int) (p' : FaultProtocol) : FaultProtocol :=
  p'.withRuntime (p.observed τ t).runtimeFaults (p.observed τ t).streamCounters

/-- What the loop over the faults hands to the rest of the operation. -/
def sweepOf (p : FaultProtocol) (τ : Target) (t : Int) (events : List FaultEvent) : Sweep where
  events := events
  activeFault := p.runtimeFaults.findIdx? (hit τ.wire p.t0Ns t)

/-- A message that is let in visits the faults of its stream. -/
theorem beginTargetInputLocked_eq {p : FaultProtocol} {τ : Target} {stamp : Time}
    (hp : p.Sound τ) (h : p.blocked τ stamp.ns = none) :
  p.beginTargetInputLocked τ.wire stamp τ.index = (do
    let (events, p') ← p.emit stamp (p.entries τ stamp.ns)
    .ok (p.sweepOf τ stamp.ns events, p.entered τ stamp.ns p'))
  := by
  have hroom := room_of_not_blocked hp h
  have hraw := increment?_eq_some_add_one hroom
  have hinput := hraw
  rw [← hp.raw] at hinput
  have hregressed : ¬ (p.streamCounters τ.index).lastInputStampNs.any (fun last => stamp.ns < last)
      = true := by
    intro hregressed
    unfold blocked at h
    rw [if_pos hregressed] at h
    cases h
  unfold beginTargetInputLocked incrementCounter
  rw [timeToNanoseconds_eq, Except.ok_bind]
  simp only
  rw [if_neg hregressed, hinput, hraw]
  simp only
  rw [timeToNanoseconds_eq, Except.ok_bind]
  have hset : p.setCounters τ.index (p.begun τ stamp.ns) = p.withRuntime p.runtimeFaults
      (Function.update p.streamCounters τ.index (p.begun τ stamp.ns)) := rfl
  have hsweep : sweepFaults τ.wire stamp stamp.ns p.acceptedGoalStamp.ns (p.begun τ stamp.ns)
      p.runtimeFaults 0 {} (p.setCounters τ.index (p.begun τ stamp.ns)) = _ :=
    sweepFaults_eq hp.inRange (hp.not_both_hit stamp.ns) 0 {} _ (by simp)
  rw [hset, emit_withRuntime] at hsweep
  change (sweepFaults τ.wire stamp stamp.ns p.acceptedGoalStamp.ns (p.begun τ stamp.ns)
      p.runtimeFaults 0 {} (p.withRuntime p.runtimeFaults
        (Function.update p.streamCounters τ.index (p.begun τ stamp.ns))) >>= _) = _
  rw [hsweep, entries, t0Ns]
  cases p.emit stamp ((ofTarget τ.wire p.runtimeFaults).flatMap
      (RuntimeFault.visitEmissions p.acceptedGoalStamp.ns stamp.ns (p.begun τ stamp.ns))) with
  | error e => rfl
  | ok first => simp [withRuntime, entered, sweepOf, t0Ns]

/-! ### The fault that changes a message -/

theorem hit_of_modifies {τ : Target} {t0 t : Int} {fault : RuntimeFault}
    (h : fault.modifies τ t0 t = true) :
  hit τ.wire t0 t fault = true
  := by
  simp only [RuntimeFault.modifies, Bool.and_eq_true] at h
  simp only [hit, Bool.and_eq_true]
  apply h.1

/-- A changed message has one active fault on its stream. -/
theorem Sound.split_of_modified {p : FaultProtocol} {τ : Target} {t : Int} (hp : p.Sound τ)
    (h : p.modified τ t = true) :
  ∃ before fault after, p.runtimeFaults = before ++ fault :: after ∧
    fault.modifies τ p.t0Ns t = true ∧
    ∀ other ∈ before ++ after, hit τ.wire p.t0Ns t other = false
  := by
  obtain ⟨fault, hmem, hmodifies⟩ := List.any_eq_true.mp h
  obtain ⟨before, after, hfaults⟩ := List.append_of_mem hmem
  refine ⟨before, fault, after, hfaults, hmodifies, ?_⟩
  have hpairwise := hp.not_both_hit t
  rw [hfaults, List.pairwise_append, List.pairwise_cons] at hpairwise
  obtain ⟨-, ⟨hafter, -⟩, hbefore⟩ := hpairwise
  have hhit := hit_of_modifies hmodifies
  intro other hother
  rcases List.mem_append.mp hother with hother | hother
  · have := hbefore other hother fault List.mem_cons_self
    rw [hhit] at this
    simpa using this
  · have := hafter other hother
    rw [hhit] at this
    simpa using this

theorem findIdx?_append_cons {α : Type} {f : α → Bool} {before : List α} {a : α} (after : List α)
    (hbefore : ∀ b ∈ before, f b = false) (ha : f a = true) :
  (before ++ a :: after).findIdx? f = some before.length
  := by
  induction before with
  | nil => rw [List.nil_append, List.findIdx?_cons, ha, if_pos rfl, List.length_nil]
  | cons b before ih =>
      rw [List.cons_append, List.findIdx?_cons, hbefore b List.mem_cons_self,
        ih (fun c hc => hbefore c (List.mem_cons_of_mem _ hc))]
      simp

section Armed

variable {p : FaultProtocol} {τ : Target} {t : Int} {mode : UInt8}

/-- No active fault has the mode of the stream when no fault changes the message. -/
theorem activeFaultOfMode_of_not_modified (hmode : ∀ m, τ.affects m = (m == mode))
    (h : p.modified τ t = false) (p' : FaultProtocol) (events : List FaultEvent) :
  (p.entered τ t p').activeFaultOfMode (p.sweepOf τ t events) mode = none
  := by
  unfold activeFaultOfMode sweepOf entered withRuntime
  cases hfind : p.runtimeFaults.findIdx? (hit τ.wire p.t0Ns t) with
  | none => rfl
  | some index =>
      obtain ⟨hlt, hhit, -⟩ := List.findIdx?_eq_some_iff_getElem.mp hfind
      have hidle := List.any_eq_false.mp h _ (List.getElem_mem hlt)
      have htarget : p.runtimeFaults[index].target = τ.wire := by
        simp only [hit, Bool.and_eq_true, beq_iff_eq] at hhit
        exact hhit.1
      have hne : ¬ p.runtimeFaults[index].mode = mode := by
        intro heq
        apply hidle
        simp only [hit, Bool.and_eq_true] at hhit
        simp only [RuntimeFault.modifies, Bool.and_eq_true, hmode, heq, beq_self_eq_true, and_true]
        exact hhit
      simp [List.getElem?_eq_getElem hlt, swept, htarget, RuntimeFault.visit_mode, hne]

/-- The fault `fault`, at `index`, is the one that changes the message. -/
structure Culprit (p : FaultProtocol) (τ : Target) (t : Int) (mode : UInt8) (index : Nat)
    (fault : RuntimeFault) : Prop where
  mem : fault ∈ p.runtimeFaults
  modifies : fault.modifies τ p.t0Ns t = true
  find : p.runtimeFaults.find? (RuntimeFault.modifies τ p.t0Ns t) = some fault
  active : ∀ p' events, (p.entered τ t p').activeFaultOfMode (p.sweepOf τ t events) mode
    = some (index, fault.visit p.t0Ns t)
  set : (p.runtimeFaults.map (swept τ.wire p.t0Ns t)).set index (fault.visit p.t0Ns t).affect
    = p.runtimeFaults.map (RuntimeFault.observe τ p.t0Ns t true)
  affect : ∀ counters, (ofTarget τ.wire p.runtimeFaults).flatMap
      (RuntimeFault.affectEmissions τ p.t0Ns t counters)
    = fault.affectEmissions τ p.t0Ns t counters

/-- A changed message has exactly one fault that changes it, and the loop finds it. -/
theorem exists_culprit (hp : p.Sound τ) (hmode : ∀ m, τ.affects m = (m == mode))
    (h : p.modified τ t = true) :
  ∃ index fault, p.Culprit τ t mode index fault
  := by
  obtain ⟨before, fault, after, hfaults, hmodifies, hothers⟩ := hp.split_of_modified h
  have hhit := hit_of_modifies hmodifies
  have hidle : ∀ other ∈ before ++ after, other.modifies τ p.t0Ns t = false := by
    intro other hother
    apply eq_false_of_ne_true
    intro hmod
    have := hothers other hother
    rw [hit_of_modifies hmod] at this
    cases this
  have htarget : fault.target = τ.wire := by
    simp only [hit, Bool.and_eq_true, beq_iff_eq] at hhit
    exact hhit.1
  have hfaultMode : fault.mode = mode := by
    simp only [RuntimeFault.modifies, Bool.and_eq_true, hmode, beq_iff_eq] at hmodifies
    exact hmodifies.2
  have hfind : p.runtimeFaults.findIdx? (hit τ.wire p.t0Ns t) = some before.length := by
    rw [hfaults]
    apply findIdx?_append_cons after _ hhit
    intro other hother
    apply hothers other (List.mem_append_left _ hother)
  have hswept : swept τ.wire p.t0Ns t fault = fault.visit p.t0Ns t := if_pos htarget
  have hobserve : ∀ other ∈ before ++ after,
      swept τ.wire p.t0Ns t other = other.observe τ p.t0Ns t true := by
    intro other hother
    unfold swept RuntimeFault.observe
    rw [hidle other hother]
    split_ifs <;> simp_all
  have hquiet : ∀ counters, ∀ other ∈ before ++ after,
      other.affectEmissions τ p.t0Ns t counters = [] := by
    intro counters other hother
    rw [RuntimeFault.affectEmissions, hidle other hother]
    rfl
  refine ⟨before.length, fault, ?_, hmodifies, ?_, ?_, ?_, ?_⟩
  · rw [hfaults]
    simp
  · rw [hfaults, List.find?_append, List.find?_eq_none.mpr, Option.none_or, List.find?_cons,
      hmodifies]
    intro other hother
    rw [hidle other (List.mem_append_left _ hother)]
    simp
  · intro p' events
    unfold activeFaultOfMode sweepOf entered withRuntime
    rw [hfind, hfaults]
    simp [hswept, RuntimeFault.visit_mode, hfaultMode]
  · rw [hfaults, List.map_append, List.map_cons, List.set_append_right _ _ (by simp),
      List.map_append, List.map_cons]
    simp only [List.length_map, Nat.sub_self, List.set_cons_zero]
    congr 1
    · apply List.map_congr_left
      intro other hother
      apply hobserve other (List.mem_append_left _ hother)
    · congr 1
      · rw [RuntimeFault.observe, if_neg (not_not.mpr htarget), if_pos hmodifies]
      · apply List.map_congr_left
        intro other hother
        apply hobserve other (List.mem_append_right _ hother)
  · intro counters
    unfold ofTarget
    rw [hfaults, List.filter_append, List.filter_cons, if_pos (by simp [htarget]),
      List.flatMap_append, List.flatMap_cons]
    have hempty : ∀ others : List RuntimeFault, (∀ other ∈ others, other ∈ before ++ after) →
        (others.filter (fun other => other.target == τ.wire)).flatMap
          (RuntimeFault.affectEmissions τ p.t0Ns t counters) = [] := by
      intro others hsub
      rw [List.flatMap_eq_nil_iff]
      intro other hother
      apply hquiet counters other (hsub other (List.mem_of_mem_filter hother))
    rw [hempty before (fun other h => List.mem_append_left _ h),
      hempty after (fun other h => List.mem_append_right _ h), List.nil_append, List.append_nil]

variable {fault : RuntimeFault} {index : Nat}

theorem Culprit.target (h : p.Culprit τ t mode index fault) :
  fault.target = τ.wire
  := by
  have hmodifies := h.modifies
  simp only [RuntimeFault.modifies, Bool.and_eq_true, beq_iff_eq] at hmodifies
  exact hmodifies.1.1

/-- The fault that changes the message, with one more message. -/
theorem visit_with_affected (fault : RuntimeFault) :
  { fault.visit p.t0Ns t with affectedMessageCount := fault.affectedMessageCount + 1 }
    = (fault.visit p.t0Ns t).affect
  := by
  rw [RuntimeFault.affect, RuntimeFault.visit_affectedMessageCount]

theorem Culprit.incrementCounter
    (h : p.Culprit τ t mode index fault) (hp : p.Sound τ) (hblocked : p.blocked τ t = none) :
  incrementCounter fault.affectedMessageCount = some (fault.affectedMessageCount + 1)
  := by
  apply increment?_eq_some_add_one
  apply lt_of_le_of_lt (hp.affected fault h.mem h.target)
  apply room_of_not_blocked hp hblocked

/-- The state once the fault counted the message. -/
theorem Culprit.setFault (h : p.Culprit τ t mode index fault)
    (hmodified : p.modified τ t = true) (p' : FaultProtocol) :
  ((p.entered τ t p').setFault index (fault.visit p.t0Ns t).affect).setCounters τ.index
    (p.passed τ t) = p.left τ t p'
  := by
  simp [FaultProtocol.setFault, setCounters, entered, withRuntime, left, observed, h.set, hmodified]

/-! ### What follows the loop -/

/-- The emissions of a changed message: those of the loop and that of the fault. -/
theorem emissions_of_modified (h : p.modified τ t = true) :
  p.emissions τ t = p.entries τ t ++ (ofTarget τ.wire p.runtimeFaults).flatMap
    (RuntimeFault.affectEmissions τ p.t0Ns t (p.passed τ t))
  := by
  simp only [emissions, h, if_true]
  rfl

/-- The emissions of an unchanged message: those of the loop and of the restored faults. -/
theorem emissions_of_not_modified (h : p.modified τ t = false) :
  p.emissions τ t = p.entries τ t ++ (ofTarget τ.wire p.runtimeFaults).flatMap
    fun fault => (fault.visit p.t0Ns t).restoreEmissions (p.passed τ t)
  := by
  simp only [emissions, h, Bool.false_eq_true, if_false]
  rfl

theorem entered_streamCounters (p' : FaultProtocol) :
  (p.entered τ t p').streamCounters τ.index = p.begun τ t
  := by
  simp [entered, withRuntime]

theorem setCounters_self {q : FaultProtocol} {counters : StreamCounters}
    (h : q.streamCounters τ.index = counters) :
  q.setCounters τ.index counters = q
  := by
  rw [setCounters, ← h, Function.update_eq_self]

/-- The counter of outputs grows with the counter of inputs. -/
theorem incrementCounter_validated (hp : p.Sound τ) (hblocked : p.blocked τ t = none) :
  incrementCounter (p.begun τ t).validatedOutputCount
    = some ((p.begun τ t).validatedOutputCount + 1)
  := by
  apply increment?_eq_some_add_one
  apply lt_of_le_of_lt hp.validated
  apply room_of_not_blocked hp hblocked

variable {α : Type}

/-- The first message a fault changes makes an event, the later ones do not. -/
theorem affectEvent_eq
    (hmodifies : fault.modifies τ p.t0Ns t = true) (stamp : Time) (p' : FaultProtocol)
    (events : List FaultEvent) (k : List FaultEvent → α) :
  (if fault.affectedMessageCount + 1 = 1 then do
      let (event, q) ← (p.left τ t p').makeDataEventLocked FaultEvent.EVENT_FIRST_AFFECTED stamp
        (fault.visit p.t0Ns t).affect (p.passed τ t) τ.affectedDetail
      .ok (k (events ++ [event]), q)
    else .ok (k events, p.left τ t p')) = (do
    let (events', p'') ← p'.emit stamp (fault.affectEmissions τ p.t0Ns t (p.passed τ t))
    .ok (k (events ++ events'), p.left τ t p''))
  := by
  have hfirst : fault.affectedMessageCount + 1 = 1 ↔ fault.affectedMessageCount = 0 := by
    exact (UInt64.add_left_inj 1 : fault.affectedMessageCount + 1 = 0 + 1 ↔ _)
  rw [RuntimeFault.affectEmissions, hmodifies, Bool.true_and]
  by_cases hzero : fault.affectedMessageCount = 0
  · rw [if_pos (hfirst.mpr hzero), if_pos (beq_iff_eq.mpr hzero), left,
      makeDataEventLocked_withRuntime, emit]
    cases p'.makeDataEventLocked FaultEvent.EVENT_FIRST_AFFECTED stamp (fault.visit p.t0Ns t).affect
      (p.passed τ t) τ.affectedDetail <;> rfl
  · rw [if_neg (fun h => hzero (hfirst.mp h)), if_neg (fun h => hzero (beq_iff_eq.mp h))]
    simp [emit]

/-- After an unchanged message the waiting faults of the stream are restored. -/
theorem appendRestorationEventsLocked_eq (h : p.modified τ t = false) (stamp : Time)
    (p' : FaultProtocol) (events : List FaultEvent) :
  ((p.entered τ t p').setCounters τ.index (p.passed τ t)).appendRestorationEventsLocked τ.wire
    stamp (p.passed τ t) events = (do
      let (events', p'') ← p'.emit stamp ((ofTarget τ.wire p.runtimeFaults).flatMap
        fun fault => (fault.visit p.t0Ns t).restoreEmissions (p.passed τ t))
      .ok (events ++ events', p.left τ t p''))
  := by
  have hfaults : (p.runtimeFaults.map (swept τ.wire p.t0Ns t)).map (restored τ.wire)
      = p.runtimeFaults.map (RuntimeFault.observe τ p.t0Ns t false) := by
    rw [List.map_map]
    apply List.map_congr_left
    intro fault hmem
    have hidle := List.any_eq_false.mp h fault hmem
    unfold RuntimeFault.observe swept restored Function.comp
    by_cases htarget : fault.target = τ.wire
    · simp [htarget, RuntimeFault.visit_target, hidle]
    · simp [htarget]
  have hemissions : (ofTarget τ.wire (p.runtimeFaults.map (swept τ.wire p.t0Ns t))).flatMap
        (RuntimeFault.restoreEmissions (p.passed τ t))
      = (ofTarget τ.wire p.runtimeFaults).flatMap
        fun fault => (fault.visit p.t0Ns t).restoreEmissions (p.passed τ t) := by
    unfold ofTarget
    rw [List.filter_map, List.flatMap_map]
    have hfilter : ((fun fault : RuntimeFault => fault.target == τ.wire) ∘ swept τ.wire p.t0Ns t)
        = fun fault => fault.target == τ.wire := by
      funext fault
      rw [Function.comp_apply, swept_target]
    rw [hfilter]
    apply List.flatMap_congr
    intro fault hmem
    have htarget : fault.target = τ.wire := by
      simpa using (List.mem_filter.mp hmem).2
    rw [swept, if_pos htarget]
  have hset : (p.entered τ t p').setCounters τ.index (p.passed τ t)
      = p'.withRuntime (p.runtimeFaults.map (swept τ.wire p.t0Ns t))
        (Function.update p.streamCounters τ.index (p.passed τ t)) := by
    simp [setCounters, entered, withRuntime]
  rw [hset]
  unfold appendRestorationEventsLocked
  rw [restoreFaults_eq, emit_withRuntime]
  simp only [withRuntime, hfaults, hemissions]
  cases p'.emit stamp ((ofTarget τ.wire p.runtimeFaults).flatMap
      fun fault => (fault.visit p.t0Ns t).restoreEmissions (p.passed τ t)) with
  | error e => rfl
  | ok second => simp [left, observed, withRuntime, h]

/-! ### The faults of the events -/

variable {e : Emission}

theorem canonical_of_mem_visitEmissions {t0 : Int} {counters : StreamCounters}
    (h : e ∈ fault.visitEmissions t0 t counters) :
  e.fault.canonical = fault.canonical
  := by
  unfold RuntimeFault.visitEmissions at h
  split_ifs at h
  · rw [List.mem_singleton.mp h, RuntimeFault.visit_canonical]
  · rw [List.mem_singleton.mp h, RuntimeFault.visit_canonical]
  · simp at h

theorem canonical_of_mem_affectEmissions {t0 : Int} {counters : StreamCounters}
    (h : e ∈ fault.affectEmissions τ t0 t counters) :
  e.fault.canonical = fault.canonical
  := by
  unfold RuntimeFault.affectEmissions at h
  split_ifs at h
  · rw [List.mem_singleton.mp h, RuntimeFault.affect, RuntimeFault.visit_canonical]
  · simp at h

theorem canonical_of_mem_restoreEmissions {counters : StreamCounters}
    (h : e ∈ fault.restoreEmissions counters) :
  e.fault.canonical = fault.canonical
  := by
  unfold RuntimeFault.restoreEmissions at h
  split_ifs at h
  · rw [List.mem_singleton.mp h, RuntimeFault.restore_canonical]
  · simp at h

/-- The events of the loop are of faults of the stream. -/
theorem fault_of_mem_entries (h : e ∈ p.entries τ t) :
  ∃ fault ∈ p.runtimeFaults, fault.target = τ.wire ∧ e.fault.canonical = fault.canonical
  := by
  obtain ⟨fault, hfault, he⟩ := List.mem_flatMap.mp h
  obtain ⟨hmem, htarget⟩ := List.mem_filter.mp hfault
  exact ⟨fault, hmem, by simpa using htarget, canonical_of_mem_visitEmissions he⟩

/-- The events of a message are of faults of its stream. -/
theorem fault_of_mem_emissions (h : e ∈ p.emissions τ t) :
  ∃ fault ∈ p.runtimeFaults, fault.target = τ.wire ∧ e.fault.canonical = fault.canonical
  := by
  cases hmodified : p.modified τ t with
  | true =>
      rw [emissions_of_modified hmodified] at h
      rcases List.mem_append.mp h with h | h
      · apply fault_of_mem_entries h
      · obtain ⟨fault, hfault, he⟩ := List.mem_flatMap.mp h
        obtain ⟨hmem, htarget⟩ := List.mem_filter.mp hfault
        exact ⟨fault, hmem, by simpa using htarget, canonical_of_mem_affectEmissions he⟩
  | false =>
      rw [emissions_of_not_modified hmodified] at h
      rcases List.mem_append.mp h with h | h
      · apply fault_of_mem_entries h
      · obtain ⟨fault, hfault, he⟩ := List.mem_flatMap.mp h
        obtain ⟨hmem, htarget⟩ := List.mem_filter.mp hfault
        refine ⟨fault, hmem, by simpa using htarget, ?_⟩
        rw [canonical_of_mem_restoreEmissions he, RuntimeFault.visit_canonical]

/-- The events of the loop leave the time the faults are bound to as it is. -/
theorem acceptedGoalStamp_of_emit_entries (hp : p.Sound τ) {stamp : Time}
    {first : List FaultEvent × FaultProtocol} (h : p.emit stamp (p.entries τ t) = .ok first) :
  first.2.acceptedGoalStamp = p.acceptedGoalStamp
  := by
  rw [emit_eq] at h
  · split_ifs at h
    rw [← Except.ok.inj h]
    rfl
  · intro e he
    obtain ⟨fault, hmem, -, hcanonical⟩ := fault_of_mem_entries he
    rw [hcanonical]
    apply hp.inRange fault hmem

/-- The time since a fault began is a signed 64-bit value. -/
theorem subI64_elapsed (hp : p.Sound τ) (hmem : fault ∈ p.runtimeFaults)
    (hmodifies : fault.modifies τ p.t0Ns t = true) (ht : Int64Arith.InRange t) :
  subI64 t (fault.canonical.activationNs p.t0Ns) = .ok (t - fault.canonical.activationNs p.t0Ns)
  := by
  have hnonneg := hp.nonneg fault hmem
  simp only [RuntimeFault.modifies, RuntimeFault.active, Bool.and_eq_true, decide_eq_true_eq]
    at hmodifies
  obtain ⟨⟨-, -, hle, -⟩, -⟩ := hmodifies
  apply subI64_of_inRange
  unfold Int64Arith.InRange Int64Arith.least Int64Arith.greatest at ht ⊢
  omega

/-! ### Answers -/

/-- The answer `outcome` with the next state `next`, given while the counter of events has
room for the `n` events of the answer. -/
def answered {α : Type} (p : FaultProtocol) (n : Nat) (outcome : α) (next : FaultProtocol) :
    Except Throw (α × FaultProtocol) :=
  if p.eventSequence.toNat + n < 2 ^ 64 then .ok (outcome, next.counted n) else .error exhausted

theorem answered_eq_ok {n : Nat} {outcome outcome' : α} {next next' : FaultProtocol} :
  p.answered n outcome next = .ok (outcome', next') ↔
    p.eventSequence.toNat + n < 2 ^ 64 ∧ outcome = outcome' ∧ next' = next.counted n
  := by
  unfold answered
  split_ifs with hroom
  · rw [Except.ok.injEq, Prod.mk.injEq, eq_comm (b := next')]
    exact ⟨fun h => ⟨hroom, h⟩, fun h => h.2⟩
  · constructor
    · rintro ⟨⟩
    · rintro ⟨h, -⟩
      exact absurd h hroom

/-- An answer is only missing when the counter of events is exhausted. -/
theorem answered_eq_error {n : Nat} {outcome : α} {next : FaultProtocol} {exception : Throw} :
  p.answered n outcome next = .error exception ↔
    2 ^ 64 ≤ p.eventSequence.toNat + n ∧ exception = exhausted
  := by
  unfold answered
  split_ifs with hroom
  · constructor
    · rintro ⟨⟩
    · rintro ⟨h, -⟩
      exact absurd hroom (Nat.not_lt.mpr h)
  · rw [Except.error.injEq, eq_comm]
    exact ⟨fun h => ⟨Nat.not_lt.mp hroom, h⟩, fun h => h.2⟩

/-- The events of a message that is let in. -/
theorem emit_emissions (hp : p.Sound τ) {stamp : Time} :
  p.emit stamp (p.emissions τ t)
    = p.answered (p.emissions τ t).length
        (p.numbered stamp p.eventSequence.toNat (p.emissions τ t)) p
  := by
  apply emit_eq
  intro e he
  obtain ⟨fault, hmem, -, hcanonical⟩ := fault_of_mem_emissions he
  rw [hcanonical]
  apply hp.inRange fault hmem

/-! ### Sensor messages in the armed state -/

variable {F32 F64 : Type} [Binary32 F32] [Binary64 F64] [Tf2 F64]

/-- The counters after an unchanged message. -/
theorem passed_of_not_modified (h : p.modified τ t = false) :
  p.passed τ t = { p.begun τ t with
    validatedOutputCount := (p.begun τ t).validatedOutputCount + 1 }
  := by
  simp [passed, h]

variable {frame : String} {input : LaserScan F32}

/-- The steps of a scan that is let in. -/
theorem processScan_emit (hp : p.Sound .scan)
    (hstate : p.state = .armed) (hcopy : validateAndCopyScan input frame = .ok input)
    (ht : input.header.stamp.ns = t) (hblocked : p.blocked .scan t = none) :
  p.processScan input frame = (do
    let (events, p') ← p.emit input.header.stamp (p.emissions .scan t)
    .ok ({
      accepted := true
      publish := !p.modified .scan t
      message := if p.modified .scan t then none else some input
      events := events }, p.left .scan t p'))
  := by
  subst ht
  have hroom := room_of_not_blocked hp hblocked
  have hindex : streamIndex FaultSpec.TARGET_SCAN = .ok Target.scan.index :=
    Target.scan.streamIndex_wire
  unfold processScan
  rw [hcopy]
  simp only
  rw [if_neg (not_not.mpr hstate), hindex, Except.ok_bind]
  change (p.beginTargetInputLocked Target.scan.wire input.header.stamp Target.scan.index >>= _) = _
  rw [beginTargetInputLocked_eq hp hblocked]
  by_cases hmodified : p.modified .scan input.header.stamp.ns = true
  · obtain ⟨index, fault, hfault⟩ := exists_culprit hp (fun m => rfl) hmodified
    rw [emissions_of_modified hmodified, hfault.affect, emit_append]
    cases p.emit input.header.stamp (p.entries .scan input.header.stamp.ns) with
    | error e => rfl
    | ok first =>
        simp only [Except.ok_bind]
        have hpassed : p.passed .scan input.header.stamp.ns =
            p.begun .scan input.header.stamp.ns := by
          simp [passed, hmodified, Target.suppresses]
        have hleft : (p.entered .scan input.header.stamp.ns first.2).setFault index
            (fault.visit p.t0Ns input.header.stamp.ns).affect
              = p.left .scan input.header.stamp.ns first.2 := by
          rw [← hfault.setFault hmodified, hpassed]
          symm
          apply setCounters_self
          apply Eq.trans _ (entered_streamCounters first.2)
          rfl
        have hcounters : (p.left .scan input.header.stamp.ns first.2).streamCounters
            Target.scan.index = p.passed .scan input.header.stamp.ns := by
          simp [left, withRuntime, observed]
        rw [hfault.active]
        simp only [sweepOf, RuntimeFault.visit_affectedMessageCount,
          hfault.incrementCounter hp hblocked, visit_with_affected, hleft, hcounters, hmodified]
        have hfinish := affectEvent_eq hfault.modifies input.header.stamp first.2 first.1
          (fun events => ({ accepted := true, events := events } :
            FaultProcessOutcome (LaserScan F32)))
        apply hfinish.trans
        cases first.2.emit input.header.stamp (fault.affectEmissions .scan p.t0Ns
          input.header.stamp.ns (p.passed .scan input.header.stamp.ns)) <;> rfl
  · rw [Bool.not_eq_true] at hmodified
    rw [emissions_of_not_modified hmodified, emit_append]
    cases p.emit input.header.stamp (p.entries .scan input.header.stamp.ns) with
    | error e => rfl
    | ok first =>
        have hrestore := appendRestorationEventsLocked_eq hmodified input.header.stamp
          first.2 first.1
        simp only [Except.ok_bind]
        rw [activeFaultOfMode_of_not_modified (fun m => rfl) hmodified]
        simp only [sweepOf, entered_streamCounters,
          incrementCounter_validated hp hblocked, hmodified]
        rw [← passed_of_not_modified hmodified]
        change (FaultProtocol.appendRestorationEventsLocked _ Target.scan.wire _ _ _ >>= _) = _
        rw [hrestore]
        cases first.2.emit input.header.stamp ((ofTarget Target.scan.wire p.runtimeFaults).flatMap
          fun fault => (fault.visit p.t0Ns input.header.stamp.ns).restoreEmissions
            (p.passed .scan input.header.stamp.ns)) <;> rfl

/-- The odometry message that is published for `input`. -/
def delivered (p : FaultProtocol) (input : Odometry F64) (t : Int) : Odometry F64 :=
  match p.runtimeFaults.find? (RuntimeFault.modifies .odom p.t0Ns t) with
  | none => input
  | some fault => applyOdomDrift input fault.canonical (t - fault.canonical.activationNs p.t0Ns)

/-- The steps of an odometry message that is let in. -/
theorem processOdom_emit {input : Odometry F64} {frame childFrame : String} (hp : p.Sound .odom)
    (hstate : p.state = .armed) (hcopy : validateAndCopyOdom input frame childFrame = .ok input)
    (ht : input.header.stamp.ns = t) (hblocked : p.blocked .odom t = none) :
  p.processOdom input frame childFrame = (do
    let (events, p') ← p.emit input.header.stamp (p.emissions .odom t)
    .ok ({
      accepted := true
      publish := true
      message := some (p.delivered input t)
      events := events }, p.left .odom t p'))
  := by
  subst ht
  have hindex : streamIndex FaultSpec.TARGET_ODOM = .ok Target.odom.index :=
    Target.odom.streamIndex_wire
  unfold processOdom
  rw [hcopy]
  simp only
  rw [if_neg (not_not.mpr hstate), hindex, Except.ok_bind]
  change (p.beginTargetInputLocked Target.odom.wire input.header.stamp Target.odom.index >>= _) = _
  rw [beginTargetInputLocked_eq hp hblocked]
  by_cases hmodified : p.modified .odom input.header.stamp.ns = true
  · obtain ⟨index, fault, hfault⟩ := exists_culprit hp (fun m => rfl) hmodified
    rw [emissions_of_modified hmodified, hfault.affect, emit_append]
    cases hfirst : p.emit input.header.stamp (p.entries .odom input.header.stamp.ns) with
    | error e => rfl
    | ok first =>
        have hpassed : { p.begun .odom input.header.stamp.ns with
            validatedOutputCount := (p.begun .odom input.header.stamp.ns).validatedOutputCount + 1 }
              = p.passed .odom input.header.stamp.ns := by
          simp [passed, Target.suppresses]
        simp only [Except.ok_bind]
        rw [hfault.active]
        simp only [sweepOf, RuntimeFault.visit_affectedMessageCount, entered_streamCounters,
          hfault.incrementCounter hp hblocked, incrementCounter_validated hp hblocked,
          visit_with_affected, hpassed, hfault.setFault hmodified]
        have ht0 : (p.left .odom input.header.stamp.ns first.2).acceptedGoalStamp.ns = p.t0Ns :=
          congrArg Time.ns (acceptedGoalStamp_of_emit_entries hp hfirst)
        have hadd : addI64 p.t0Ns fault.canonical.startOffsetNs
            = .ok (fault.canonical.activationNs p.t0Ns) :=
          addI64_of_inRange (hp.inRange fault hfault.mem).1
        have hsub := subI64_elapsed hp hfault.mem hfault.modifies
          (nanoseconds_inRange input.header.stamp.sec input.header.stamp.nanosec).2
        rw [timeToNanoseconds_eq, ht0, Except.ok_bind, RuntimeFault.visit_canonical, hadd,
          Except.ok_bind, timeToNanoseconds_eq, Except.ok_bind, hsub, Except.ok_bind]
        have hmessage : p.delivered input input.header.stamp.ns = applyOdomDrift input
            fault.canonical (input.header.stamp.ns - fault.canonical.activationNs p.t0Ns) := by
          rw [delivered, hfault.find]
        rw [← hmessage]
        have hfinish := affectEvent_eq hfault.modifies input.header.stamp first.2 first.1
          (fun events => ({
            accepted := true
            publish := true
            message := some (p.delivered input input.header.stamp.ns)
            events := events } : FaultProcessOutcome (Odometry F64)))
        apply hfinish.trans
        cases first.2.emit input.header.stamp (fault.affectEmissions .odom p.t0Ns
          input.header.stamp.ns (p.passed .odom input.header.stamp.ns)) <;> rfl
  · rw [Bool.not_eq_true] at hmodified
    rw [emissions_of_not_modified hmodified, emit_append]
    cases p.emit input.header.stamp (p.entries .odom input.header.stamp.ns) with
    | error e => rfl
    | ok first =>
        have hrestore := appendRestorationEventsLocked_eq hmodified input.header.stamp
          first.2 first.1
        have hsame : p.delivered input input.header.stamp.ns = input := by
          rw [delivered, List.find?_eq_none.mpr]
          apply List.any_eq_false.mp hmodified
        simp only [Except.ok_bind]
        rw [activeFaultOfMode_of_not_modified (fun m => rfl) hmodified]
        simp only [sweepOf, entered_streamCounters, incrementCounter_validated hp hblocked]
        rw [← passed_of_not_modified hmodified, hsame]
        change (FaultProtocol.appendRestorationEventsLocked _ Target.odom.wire _ _ _ >>= _) = _
        rw [hrestore]
        cases first.2.emit input.header.stamp ((ofTarget Target.odom.wire p.runtimeFaults).flatMap
          fun fault => (fault.visit p.t0Ns input.header.stamp.ns).restoreEmissions
            (p.passed .odom input.header.stamp.ns)) <;> rfl

/-- No fault changes an IMU message. -/
theorem not_modified_imu (p : FaultProtocol) (t : Int) :
  p.modified .imu t = false
  := by
  apply List.any_eq_false.mpr
  intro fault _
  simp [RuntimeFault.modifies, Target.affects]

omit [Tf2 F64] in
/-- The steps of an IMU message that is let in. -/
theorem processImu_emit {input : Imu F64} (hp : p.Sound .imu)
    (hstate : p.state = .armed) (hcopy : validateAndCopyImu input frame = .ok input)
    (ht : input.header.stamp.ns = t) (hblocked : p.blocked .imu t = none) :
  p.processImu input frame = (do
    let (events, p') ← p.emit input.header.stamp (p.emissions .imu t)
    .ok ({
      accepted := true
      publish := true
      message := some input
      events := events }, p.left .imu t p'))
  := by
  subst ht
  have hindex : streamIndex FaultSpec.TARGET_IMU = .ok Target.imu.index :=
    Target.imu.streamIndex_wire
  have hmodified := p.not_modified_imu input.header.stamp.ns
  unfold processImu
  rw [hcopy]
  simp only
  rw [if_neg (not_not.mpr hstate), hindex, Except.ok_bind]
  change (p.beginTargetInputLocked Target.imu.wire input.header.stamp Target.imu.index >>= _) = _
  rw [beginTargetInputLocked_eq hp hblocked, emissions_of_not_modified hmodified, emit_append]
  cases p.emit input.header.stamp (p.entries .imu input.header.stamp.ns) with
  | error e => rfl
  | ok first =>
      have hrestore := appendRestorationEventsLocked_eq hmodified input.header.stamp first.2 first.1
      simp only [Except.ok_bind, sweepOf, entered_streamCounters,
        incrementCounter_validated hp hblocked]
      rw [← passed_of_not_modified hmodified]
      change (FaultProtocol.appendRestorationEventsLocked _ Target.imu.wire _ _ _ >>= _) = _
      rw [hrestore]
      cases first.2.emit input.header.stamp ((ofTarget Target.imu.wire p.runtimeFaults).flatMap
        fun fault => (fault.visit p.t0Ns input.header.stamp.ns).restoreEmissions
          (p.passed .imu input.header.stamp.ns)) <;> rfl

/-- Events made in the order of a message lead to the state the message leaves. -/
theorem emit_left (hp : p.Sound τ) (stamp : Time) (k : List FaultEvent → α) :
  (do let (events, p') ← p.emit stamp (p.emissions τ t)
      (.ok (k events, p.left τ t p') : Except Throw (α × FaultProtocol)))
    = p.answered (p.emissions τ t).length
        (k (p.numbered stamp p.eventSequence.toNat (p.emissions τ t))) (p.observed τ t)
  := by
  rw [emit_emissions hp, answered, answered]
  split_ifs <;> rfl

/-- A scan that is let in. -/
theorem processScan_armed (hp : p.Sound .scan)
    (hstate : p.state = .armed) (hcopy : validateAndCopyScan input frame = .ok input)
    (ht : input.header.stamp.ns = t) (hblocked : p.blocked .scan t = none) :
  p.processScan input frame = p.answered (p.emissions .scan t).length {
      accepted := true
      publish := !p.modified .scan t
      message := if p.modified .scan t then none else some input
      events := p.numbered input.header.stamp p.eventSequence.toNat (p.emissions .scan t) }
    (p.observed .scan t)
  := by
  rw [processScan_emit hp hstate hcopy ht hblocked]
  exact emit_left hp input.header.stamp fun events => ({
    accepted := true
    publish := !p.modified .scan t
    message := if p.modified .scan t then none else some input
    events := events } : FaultProcessOutcome (LaserScan F32))

/-- An odometry message that is let in. -/
theorem processOdom_armed {input : Odometry F64} {frame childFrame : String} (hp : p.Sound .odom)
    (hstate : p.state = .armed) (hcopy : validateAndCopyOdom input frame childFrame = .ok input)
    (ht : input.header.stamp.ns = t) (hblocked : p.blocked .odom t = none) :
  p.processOdom input frame childFrame = p.answered (p.emissions .odom t).length {
      accepted := true
      publish := true
      message := some (p.delivered input t)
      events := p.numbered input.header.stamp p.eventSequence.toNat (p.emissions .odom t) }
    (p.observed .odom t)
  := by
  rw [processOdom_emit hp hstate hcopy ht hblocked]
  exact emit_left hp input.header.stamp fun events => ({
    accepted := true
    publish := true
    message := some (p.delivered input t)
    events := events } : FaultProcessOutcome (Odometry F64))

omit [Tf2 F64] in
/-- An IMU message that is let in. -/
theorem processImu_armed {input : Imu F64} (hp : p.Sound .imu)
    (hstate : p.state = .armed) (hcopy : validateAndCopyImu input frame = .ok input)
    (ht : input.header.stamp.ns = t) (hblocked : p.blocked .imu t = none) :
  p.processImu input frame = p.answered (p.emissions .imu t).length {
      accepted := true
      publish := true
      message := some input
      events := p.numbered input.header.stamp p.eventSequence.toNat (p.emissions .imu t) }
    (p.observed .imu t)
  := by
  rw [processImu_emit hp hstate hcopy ht hblocked]
  exact emit_left hp input.header.stamp fun events => ({
    accepted := true
    publish := true
    message := some input
    events := events } : FaultProcessOutcome (Imu F64))

variable {reason : String}

/-- A scan that is not let in. -/
theorem processScan_blocked
    (hstate : p.state = .armed) (hcopy : validateAndCopyScan input frame = .ok input)
    (hblocked : p.blocked .scan input.header.stamp.ns = some reason) :
  p.processScan input frame = .ok ({ reason := reason }, p)
  := by
  have hindex : streamIndex FaultSpec.TARGET_SCAN = .ok Target.scan.index :=
    Target.scan.streamIndex_wire
  unfold processScan
  rw [hcopy]
  simp only
  rw [if_neg (not_not.mpr hstate), hindex, Except.ok_bind]
  change (p.beginTargetInputLocked Target.scan.wire input.header.stamp Target.scan.index >>= _) = _
  rw [beginTargetInputLocked_of_blocked hblocked]
  rfl

/-- An odometry message that is not let in. -/
theorem processOdom_blocked {input : Odometry F64} {frame childFrame : String}
    (hstate : p.state = .armed) (hcopy : validateAndCopyOdom input frame childFrame = .ok input)
    (hblocked : p.blocked .odom input.header.stamp.ns = some reason) :
  p.processOdom input frame childFrame = .ok ({ reason := reason }, p)
  := by
  have hindex : streamIndex FaultSpec.TARGET_ODOM = .ok Target.odom.index :=
    Target.odom.streamIndex_wire
  unfold processOdom
  rw [hcopy]
  simp only
  rw [if_neg (not_not.mpr hstate), hindex, Except.ok_bind]
  change (p.beginTargetInputLocked Target.odom.wire input.header.stamp Target.odom.index >>= _) = _
  rw [beginTargetInputLocked_of_blocked hblocked]
  rfl

omit [Tf2 F64] in
/-- An IMU message that is not let in. -/
theorem processImu_blocked {input : Imu F64}
    (hstate : p.state = .armed) (hcopy : validateAndCopyImu input frame = .ok input)
    (hblocked : p.blocked .imu input.header.stamp.ns = some reason) :
  p.processImu input frame = .ok ({ reason := reason }, p)
  := by
  have hindex : streamIndex FaultSpec.TARGET_IMU = .ok Target.imu.index :=
    Target.imu.streamIndex_wire
  unfold processImu
  rw [hcopy]
  simp only
  rw [if_neg (not_not.mpr hstate), hindex, Except.ok_bind]
  change (p.beginTargetInputLocked Target.imu.wire input.header.stamp Target.imu.index >>= _) = _
  rw [beginTargetInputLocked_of_blocked hblocked]
  rfl

end Armed

end FaultProtocol

end RobotestLab
