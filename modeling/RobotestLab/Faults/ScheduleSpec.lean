import RobotestLab.Faults.Schedule

/-!
# What the canonicalization of schedules accepts

Every conversion of a stamp or a duration to nanoseconds is exact, whatever the two fields
are (`timeToNanoseconds_eq`, `durationToNanoseconds_eq`), and no request makes the
canonicalization throw (`canonicalizeSchedule_noThrow`). An accepted schedule consists of the
canonical forms of the specifications, sorted by their keys, with distinct identifiers and
disjoint intervals on each target (`CanonicalSchedule.Wf`), and does not depend on the order
of the specifications (`canonicalizeSchedule_perm`).
-/

namespace RobotestLab

/-! ### Conversions -/

/-- The nanoseconds of a stamp. -/
def Time.ns (t : Time) : Int := t.sec.toInt * 1000000000 + t.nanosec.toNat

/-- The nanoseconds of a duration. -/
def Duration.ns (d : Duration) : Int := d.sec.toInt * 1000000000 + d.nanosec.toNat

/-- Two 32-bit fields always combine to a signed 64-bit number of nanoseconds. -/
theorem nanoseconds_inRange (sec : Int32) (nanosec : UInt32) :
  Int64Arith.InRange (sec.toInt * 1000000000) ∧
    Int64Arith.InRange (sec.toInt * 1000000000 + nanosec.toNat)
  := by
  have := sec.toInt_lt
  have := sec.le_toInt
  have := nanosec.toNat_lt
  simp only [Int64Arith.InRange, Int64Arith.least, Int64Arith.greatest]
  omega

/-- The conversion of a stamp to nanoseconds never overflows. -/
theorem timeToNanoseconds_eq (t : Time) :
  timeToNanoseconds t = .ok t.ns
  := by
  obtain ⟨hmul, hadd⟩ := nanoseconds_inRange t.sec t.nanosec
  rw [timeToNanoseconds, mulI64, Int64Arith.mul, kNanosecondsPerSecond,
    Int64Arith.checked_of_inRange _ hmul, Except.ok_bind, addI64, Int64Arith.add,
    Int64Arith.checked_of_inRange _ hadd, Time.ns]

/-- The conversion of a duration to nanoseconds never overflows. -/
theorem durationToNanoseconds_eq (d : Duration) :
  durationToNanoseconds d = .ok d.ns
  := by
  obtain ⟨hmul, hadd⟩ := nanoseconds_inRange d.sec d.nanosec
  rw [durationToNanoseconds, mulI64, Int64Arith.mul, kNanosecondsPerSecond,
    Int64Arith.checked_of_inRange _ hmul, Except.ok_bind, addI64, Int64Arith.add,
    Int64Arith.checked_of_inRange _ hadd, Duration.ns]

theorem addI64_of_inRange {a b : Int} (h : Int64Arith.InRange (a + b)) :
  addI64 a b = .ok (a + b)
  := Int64Arith.checked_of_inRange _ h

theorem subI64_of_inRange {a b : Int} (h : Int64Arith.InRange (a - b)) :
  subI64 a b = .ok (a - b)
  := Int64Arith.checked_of_inRange _ h

/-- A normalized stamp counts nonnegative seconds and a fraction below one second. -/
theorem normalizedTime_iff (t : Time) :
  normalizedTime t = true ↔ 0 ≤ t.sec.toInt ∧ t.nanosec.toNat < 1000000000
  := by
  simp [normalizedTime, Int32.le_iff_toInt_le, UInt32.lt_iff_toNat_lt]

theorem normalizedDuration_iff (d : Duration) :
  normalizedDuration d = true ↔ 0 ≤ d.sec.toInt ∧ d.nanosec.toNat < 1000000000
  := by
  simp [normalizedDuration, Int32.le_iff_toInt_le, UInt32.lt_iff_toNat_lt]

/-- A positive stamp is a normalized one after the epoch. -/
theorem positiveTime_iff (t : Time) :
  positiveTime t = true ↔ normalizedTime t = true ∧ 0 < t.ns
  := by
  simp only [positiveTime, Bool.and_eq_true, Bool.or_eq_true, decide_eq_true_eq,
    Int32.lt_iff_toInt_lt, UInt32.lt_iff_toNat_lt, normalizedTime_iff, Time.ns]
  simp
  omega

/-- A normalized stamp is determined by its nanoseconds. -/
theorem Time.ns_injective {t t' : Time} (h : normalizedTime t = true)
    (h' : normalizedTime t' = true) (hns : t.ns = t'.ns) :
  t = t'
  := by
  obtain ⟨-, hn⟩ := (normalizedTime_iff t).mp h
  obtain ⟨-, hn'⟩ := (normalizedTime_iff t').mp h'
  simp only [Time.ns] at hns
  obtain ⟨sec, nanosec⟩ := t
  obtain ⟨sec', nanosec'⟩ := t'
  simp only at hns hn hn'
  rw [Time.mk.injEq]
  constructor
  · apply Int32.toInt_inj.mp
    omega
  · apply UInt32.toNat_inj.mp
    omega

/-! ### Rejecting and throwing -/

theorem require_eq_ok {condition : Bool} {message : String} {u : Unit} :
  require condition message = .ok u ↔ condition = true
  := by
  cases condition <;> simp [require]

variable {α : Type}

theorem throwing_eq_ok {x : Except Throw α} {a : α} :
  throwing x = .ok a ↔ x = .ok a
  := by
  cases x <;> simp [throwing]

/-- The computation returns, with a result or with a rejection. -/
def NoThrow {α : Type} (x : Except ScheduleFailure α) : Prop :=
  ∀ exception, x ≠ .error (.threw exception)

theorem NoThrow.ok (a : α) :
  NoThrow (.ok a : Except ScheduleFailure α)
  := by
  intro exception
  simp

theorem NoThrow.rejected (message : String) :
  NoThrow (.error (.rejected message) : Except ScheduleFailure α)
  := by
  intro exception
  simp

theorem NoThrow.require (condition : Bool) (message : String) :
  NoThrow (require condition message)
  := by
  cases condition
  · apply NoThrow.rejected
  · apply NoThrow.ok

theorem NoThrow.throwing {x : Except Throw α} (h : ∃ a, x = .ok a) :
  NoThrow (throwing x)
  := by
  obtain ⟨a, rfl⟩ := h
  apply NoThrow.ok

theorem NoThrow.bind {α β : Type} {x : Except ScheduleFailure α}
    {f : α → Except ScheduleFailure β} (hx : NoThrow x)
    (hf : ∀ a, x = .ok a → NoThrow (f a)) :
  NoThrow (x >>= f)
  := by
  cases x with
  | error e =>
      intro exception h
      apply hx exception
      rw [Except.error.inj h]
  | ok a => apply hf a rfl

/-! ### One specification -/

/-- The canonical form of a specification whose parameters were read as `parameters`. -/
def canonicalForm (specification : FaultSpec) (parameters : ParsedParameters) :
    CanonicalFault where
  specification := { specification with parametersJson := parameters.canonicalJson }
  startOffsetNs := specification.startOffset.ns
  durationNs := specification.duration.ns
  xRateNmPerS := parameters.xRateNmPerS
  yawRateNradPerS := parameters.yawRateNradPerS

/-- What a specification must satisfy apart from its parameters and from the other
specifications. -/
structure FaultSpec.Valid (specification : FaultSpec) : Prop where
  schema : specification.schemaVersion = FaultSpec.SCHEMA_VERSION
  id : validFaultId specification.faultId = true
  targetMode : validTargetMode specification.target specification.mode = true
  startNormalized : normalizedDuration specification.startOffset = true
  durationNormalized : normalizedDuration specification.duration = true
  start : 500000000 ≤ specification.startOffset.ns
  positive : 0 < specification.duration.ns
  horizon : specification.startOffset.ns + specification.duration.ns ≤ 3600000000000

variable {lib : Libraries} {specification : FaultSpec} {fault : CanonicalFault}

theorem exists_parsed_iff :
  (∃ parameters, parseParameters lib specification = .ok parameters ∧
      fault = canonicalForm specification parameters) ↔
    (match parseParameters lib specification with
      | .error message => .error (.rejected message)
      | .ok parameters => .ok (canonicalForm specification parameters)
        : Except ScheduleFailure CanonicalFault) = .ok fault
  := by
  cases parseParameters lib specification with
  | error message => simp
  | ok parameters => simp [eq_comm]

/-- A specification is canonicalized exactly when it is valid, its identifier was not seen
before, and its parameters are read. -/
theorem canonicalizeFault_eq_ok {faultIds : List String} :
  canonicalizeFault lib faultIds specification = .ok fault ↔
    specification.faultId ∉ faultIds ∧ specification.Valid ∧
      ∃ parameters, parseParameters lib specification = .ok parameters ∧
        fault = canonicalForm specification parameters
  := by
  simp only [canonicalizeFault, Except.bind_eq_ok_iff, require_eq_ok, throwing_eq_ok,
    durationToNanoseconds_eq, exists_const, Except.ok.injEq, exists_eq_left', beq_iff_eq,
    Bool.and_eq_true, Bool.not_eq_true', List.contains_eq_mem, decide_eq_true_eq,
    decide_eq_false_iff_not]
  rw [kMinimumArmingMarginNanoseconds, kMaximumScheduleNanoseconds]
  rw [exists_parsed_iff]
  constructor
  · rintro ⟨hschema, hid, hfresh, htarget, ⟨hstart, hduration⟩, hmin, hpos, ⟨hmax, hmax'⟩,
      latest, hlatest, hhorizon, hparse⟩
    obtain ⟨-, rfl⟩ := (Int64Arith.checked_eq_ok_iff _).mp hlatest
    refine ⟨hfresh, ⟨hschema, hid, htarget, hstart, hduration, hmin, hpos, by omega⟩, hparse⟩
  · rintro ⟨hfresh, hvalid, hparse⟩
    have hmin := hvalid.start
    have hpos := hvalid.positive
    have hhorizon := hvalid.horizon
    refine ⟨hvalid.schema, hvalid.id, hfresh, hvalid.targetMode,
      ⟨hvalid.startNormalized, hvalid.durationNormalized⟩, hmin, hpos, ⟨by omega, by omega⟩,
      _, subI64_of_inRange ?_, by omega, hparse⟩
    simp only [Int64Arith.InRange, Int64Arith.least, Int64Arith.greatest]
    omega

/-- Canonicalizing a specification never throws. -/
theorem canonicalizeFault_noThrow (lib : Libraries) (faultIds : List String)
    (specification : FaultSpec) :
  NoThrow (canonicalizeFault lib faultIds specification)
  := by
  unfold canonicalizeFault
  apply NoThrow.bind (NoThrow.require _ _)
  intro _ _
  apply NoThrow.bind (NoThrow.require _ _)
  intro _ _
  apply NoThrow.bind (NoThrow.require _ _)
  intro _ _
  apply NoThrow.bind (NoThrow.require _ _)
  intro _ _
  apply NoThrow.bind (NoThrow.require _ _)
  intro _ _
  apply NoThrow.bind (NoThrow.throwing ⟨_, durationToNanoseconds_eq _⟩)
  intro startNs _
  apply NoThrow.bind (NoThrow.throwing ⟨_, durationToNanoseconds_eq _⟩)
  intro durationNs _
  apply NoThrow.bind (NoThrow.require _ _)
  intro _ hstart
  apply NoThrow.bind (NoThrow.require _ _)
  intro _ hpositive
  apply NoThrow.bind (NoThrow.require _ _)
  intro _ hhorizon
  simp only [require_eq_ok, decide_eq_true_eq, Bool.and_eq_true] at hpositive hhorizon
  rw [kMaximumScheduleNanoseconds] at hhorizon
  apply NoThrow.bind
  · apply NoThrow.throwing
    use kMaximumScheduleNanoseconds - durationNs
    apply subI64_of_inRange
    simp only [Int64Arith.InRange, Int64Arith.least, Int64Arith.greatest,
      kMaximumScheduleNanoseconds]
    omega
  · intro _ _
    apply NoThrow.bind (NoThrow.require _ _)
    intro _ _
    split
    · apply NoThrow.rejected
    · apply NoThrow.ok

/-! ### All specifications -/

variable {specifications : List FaultSpec} {faults : List CanonicalFault}

/-- The specifications are canonicalized one by one, exactly when their identifiers are
distinct and were not seen before. -/
theorem canonicalizeFaults_eq_ok {faultIds : List String} :
  canonicalizeFaults lib faultIds specifications = .ok faults ↔
    List.Forall₂ (fun specification fault => canonicalizeFault lib [] specification = .ok fault)
        specifications faults ∧
      (specifications.map FaultSpec.faultId).Nodup ∧
      ∀ specification ∈ specifications, specification.faultId ∉ faultIds
  := by
  induction specifications generalizing faultIds faults with
  | nil => simp [canonicalizeFaults, eq_comm]
  | cons specification rest ih =>
      simp only [canonicalizeFaults, Except.bind_eq_ok_iff, ih]
      constructor
      · rintro ⟨fault, hfault, others, ⟨hothers, hnodup, hfresh⟩, heq⟩
        obtain rfl := Except.ok.inj heq
        obtain ⟨hnew, hvalid, hparameters⟩ := canonicalizeFault_eq_ok.mp hfault
        refine ⟨.cons (canonicalizeFault_eq_ok.mpr ⟨List.not_mem_nil, hvalid, hparameters⟩)
          hothers, ?_, ?_⟩
        · rw [List.map_cons, List.nodup_cons]
          refine ⟨?_, hnodup⟩
          rw [List.mem_map]
          rintro ⟨other, hmem, heq⟩
          apply hfresh other hmem
          rw [heq]
          apply List.mem_cons_self
        · intro other hmem
          rcases List.mem_cons.mp hmem with rfl | hmem
          · apply hnew
          · intro hold
            apply hfresh other hmem
            apply List.mem_cons_of_mem _ hold
      · rintro ⟨hforall, hnodup, hfresh⟩
        cases hforall with
        | cons hfault hothers =>
            obtain ⟨-, hvalid, hparameters⟩ := canonicalizeFault_eq_ok.mp hfault
            rw [List.map_cons, List.nodup_cons] at hnodup
            refine ⟨_, canonicalizeFault_eq_ok.mpr
              ⟨hfresh _ List.mem_cons_self, hvalid, hparameters⟩, _,
              ⟨hothers, hnodup.2, ?_⟩, rfl⟩
            intro other hmem hold
            rcases List.mem_cons.mp hold with heq | hold
            · apply hnodup.1
              rw [← heq]
              apply List.mem_map_of_mem hmem
            · apply hfresh other (List.mem_cons_of_mem _ hmem) hold

theorem canonicalizeFaults_noThrow (lib : Libraries) (faultIds : List String)
    (specifications : List FaultSpec) :
  NoThrow (canonicalizeFaults lib faultIds specifications)
  := by
  induction specifications generalizing faultIds with
  | nil => apply NoThrow.ok
  | cons specification rest ih =>
      apply NoThrow.bind (canonicalizeFault_noThrow lib faultIds specification)
      intro _ _
      apply NoThrow.bind (ih _)
      intro _ _
      apply NoThrow.ok

/-! ### Intervals -/

/-- The bounds every canonical fault satisfies. -/
structure CanonicalFault.Wf (fault : CanonicalFault) : Prop where
  id : validFaultId fault.specification.faultId = true
  targetMode : validTargetMode fault.specification.target fault.specification.mode = true
  start : 500000000 ≤ fault.startOffsetNs
  positive : 0 < fault.durationNs
  horizon : fault.startOffsetNs + fault.durationNs ≤ 3600000000000

/-- Two faults of one target follow each other. -/
def CanonicalFault.Disjoint (left right : CanonicalFault) : Prop :=
  left.specification.target = right.specification.target →
    left.startOffsetNs + left.durationNs ≤ right.startOffsetNs

theorem canonicalForm_wf (h : specification.Valid) (parameters : ParsedParameters) :
  (canonicalForm specification parameters).Wf
  where
  id := h.id
  targetMode := h.targetMode
  start := h.start
  positive := h.positive
  horizon := h.horizon

/-- A supported target has a place in the arrays indexed by targets. -/
theorem streamIndex_of_validTargetMode {target mode : UInt8}
    (h : validTargetMode target mode = true) :
  ∃ index : Fin 4, streamIndex target = .ok index ∧ index.val = target.toNat
  := by
  have hle : target ≤ FaultSpec.TARGET_IMU := by
    simp only [validTargetMode] at h
    split at h
    · simp only [Bool.or_eq_true, decide_eq_true_eq] at h
      rcases h with (rfl | rfl) | rfl <;> decide
    · split at h
      · obtain rfl := of_decide_eq_true h
        decide
      · split at h
        · obtain rfl := of_decide_eq_true h
          decide
        · cases h
  use ⟨target.toNat, Nat.lt_succ_of_le (UInt8.le_iff_toNat_le.mp hle)⟩
  simp [streamIndex, hle]

theorem CanonicalFault.Wf.end_inRange (h : fault.Wf) :
  Int64Arith.InRange (fault.startOffsetNs + fault.durationNs)
  := by
  have := h.start
  have := h.positive
  have := h.horizon
  simp only [Int64Arith.InRange, Int64Arith.least, Int64Arith.greatest]
  omega

theorem checkOverlap_noThrow (faults : List CanonicalFault) (hwf : ∀ fault ∈ faults, fault.Wf)
    (priorEndByTarget : Fin 4 → Option Int) :
  NoThrow (checkOverlap priorEndByTarget faults)
  := by
  induction faults generalizing priorEndByTarget with
  | nil => apply NoThrow.ok
  | cons fault rest ih =>
      have hfault := hwf fault List.mem_cons_self
      obtain ⟨index, hindex, -⟩ := streamIndex_of_validTargetMode hfault.targetMode
      apply NoThrow.bind (NoThrow.throwing ⟨_, hindex⟩)
      intro _ _
      apply NoThrow.bind (NoThrow.require _ _)
      intro _ _
      apply NoThrow.bind (NoThrow.throwing ⟨_, addI64_of_inRange hfault.end_inRange⟩)
      intro _ _
      apply ih (fun other hmem => hwf other (List.mem_cons_of_mem _ hmem))

/-- The loop over the sorted faults passes exactly when every fault starts after the recorded
end of its target and the faults are pairwise disjoint. -/
theorem checkOverlap_eq_ok (hwf : ∀ fault ∈ faults, fault.Wf)
    {priorEndByTarget : Fin 4 → Option Int} {u : Unit} :
  checkOverlap priorEndByTarget faults = .ok u ↔
    (∀ fault ∈ faults, ∀ index, index.val = fault.specification.target.toNat →
      ∀ priorEnd ∈ priorEndByTarget index, priorEnd ≤ fault.startOffsetNs) ∧
    faults.Pairwise CanonicalFault.Disjoint
  := by
  induction faults generalizing priorEndByTarget with
  | nil => simp [checkOverlap]
  | cons fault rest ih =>
      have hfault := hwf fault List.mem_cons_self
      have hrest : ∀ other ∈ rest, other.Wf := fun other hmem =>
        hwf other (List.mem_cons_of_mem _ hmem)
      obtain ⟨index, hindex, hval⟩ := streamIndex_of_validTargetMode hfault.targetMode
      have hpositive := hfault.positive
      simp only [checkOverlap, hindex, throwing, Except.ok_bind, Except.bind_eq_ok_iff,
        require_eq_ok, addI64_of_inRange hfault.end_inRange, exists_const, ih hrest,
        Option.all_eq_true, decide_eq_true_eq, List.pairwise_cons]
      constructor
      · rintro ⟨hprior, hnext, hpairwise⟩
        have hdisjoint : ∀ other ∈ rest, fault.Disjoint other := by
          intro other hmem htarget
          apply hnext other hmem index (by rw [hval, htarget])
          simp
        refine ⟨?_, hdisjoint, hpairwise⟩
        intro other hmem index' hindex' priorEnd hmem'
        rcases List.mem_cons.mp hmem with rfl | hmem
        · obtain rfl : index' = index := Fin.ext (hindex'.trans hval.symm)
          apply hprior priorEnd hmem'
        · by_cases heq : index' = index
          · subst heq
            have htarget : fault.specification.target = other.specification.target :=
              UInt8.toNat_inj.mp (hval.symm.trans hindex')
            have h₁ := hprior priorEnd hmem'
            have h₂ := hdisjoint other hmem htarget
            omega
          · apply hnext other hmem index' hindex' priorEnd
            rwa [Function.update_of_ne heq]
      · rintro ⟨hprior, hdisjoint, hpairwise⟩
        refine ⟨hprior fault List.mem_cons_self index hval, ?_, hpairwise⟩
        intro other hmem index' hindex' priorEnd hmem'
        by_cases heq : index' = index
        · subst heq
          have htarget : fault.specification.target = other.specification.target :=
            UInt8.toNat_inj.mp (hval.symm.trans hindex')
          rw [Function.update_self] at hmem'
          obtain rfl := Option.mem_some.mp hmem'
          apply hdisjoint other hmem htarget
        · rw [Function.update_of_ne heq] at hmem'
          apply hprior other (List.mem_cons_of_mem _ hmem) index' hindex' priorEnd hmem'

/-! ### Sorting -/

theorem sortFaults_perm (faults : List CanonicalFault) :
  (sortFaults faults).Perm faults
  := List.perm_insertionSort _ faults

instance : Std.Total (fun left right : CanonicalFault => left.sortKey ≤ right.sortKey) where
  total left right := le_total left.sortKey right.sortKey

instance :
    IsTrans CanonicalFault (fun left right : CanonicalFault => left.sortKey ≤ right.sortKey) where
  trans _ _ _ := le_trans

theorem sortFaults_pairwise (faults : List CanonicalFault) :
  (sortFaults faults).Pairwise (fun left right => left.sortKey ≤ right.sortKey)
  := List.pairwise_insertionSort _ faults

/-- The key of a fault holds its identifier. -/
theorem CanonicalFault.faultId_eq_of_sortKey_eq {left right : CanonicalFault}
    (h : left.sortKey = right.sortKey) :
  left.specification.faultId = right.specification.faultId
  := congrArg (fun key => (ofLex (ofLex key).2).2) h

/-- The key of a fault begins with its start. -/
theorem CanonicalFault.start_le_of_sortKey_le {left right : CanonicalFault}
    (h : left.sortKey ≤ right.sortKey) :
  left.startOffsetNs ≤ right.startOffsetNs
  := by
  rcases Prod.Lex.le_iff.mp h with hlt | ⟨heq, -⟩
  · apply le_of_lt hlt
  · apply le_of_eq heq

/-- Faults with distinct identifiers are sorted in one way. -/
theorem sortFaults_congr {faults faults' : List CanonicalFault} (h : faults.Perm faults')
    (hnodup : (faults.map (·.specification.faultId)).Nodup) :
  sortFaults faults = sortFaults faults'
  := by
  have hperm : (sortFaults faults).Perm (sortFaults faults') :=
    (sortFaults_perm faults).trans (h.trans (sortFaults_perm faults').symm)
  apply List.Perm.eq_of_pairwise _ (sortFaults_pairwise faults) (sortFaults_pairwise faults') hperm
  intro a b ha hb hab hba
  have hids := CanonicalFault.faultId_eq_of_sortKey_eq (le_antisymm hab hba)
  apply List.inj_on_of_nodup_map hnodup ((sortFaults_perm faults).mem_iff.mp ha) _ hids
  apply h.mem_iff.mpr
  apply (sortFaults_perm faults').mem_iff.mp hb

/-! ### The schedule -/

/-- The schedule of the canonical faults `faults` with the digest `sha256`. -/
def scheduleOf (faults : List CanonicalFault) (sha256 : String) : CanonicalSchedule where
  faults := sortFaults faults
  bytes := scheduleBytes (sortFaults faults)
  sha256 := sha256
  earliestStartOffsetNs := (sortFaults faults).head?.map (·.startOffsetNs)

theorem wf_of_forall₂ (h : List.Forall₂ (fun specification fault =>
      canonicalizeFault lib [] specification = .ok fault) specifications faults) :
  ∀ fault ∈ faults, fault.Wf
  := by
  induction h with
  | nil => simp
  | cons hfault _ ih =>
      obtain ⟨-, hvalid, parameters, -, rfl⟩ := canonicalizeFault_eq_ok.mp hfault
      intro other hmem
      rcases List.mem_cons.mp hmem with rfl | hmem
      · apply canonicalForm_wf hvalid
      · apply ih other hmem

theorem faultIds_of_forall₂ (h : List.Forall₂ (fun specification fault =>
      canonicalizeFault lib [] specification = .ok fault) specifications faults) :
  faults.map (·.specification.faultId) = specifications.map FaultSpec.faultId
  := by
  induction h with
  | nil => rfl
  | cons hfault _ ih =>
      obtain ⟨-, -, parameters, -, rfl⟩ := canonicalizeFault_eq_ok.mp hfault
      rw [List.map_cons, List.map_cons, ih]
      rfl

variable {schedule : CanonicalSchedule}

theorem digest_eq_ok :
  (match sha256Hex lib (scheduleBytes (sortFaults faults)) with
    | .error message => .error (.rejected message)
    | .ok sha256 => .ok (scheduleOf faults sha256)
      : Except ScheduleFailure CanonicalSchedule) = .ok schedule ↔
    ∃ sha256, sha256Hex lib (scheduleBytes (sortFaults faults)) = .ok sha256 ∧
      schedule = scheduleOf faults sha256
  := by
  cases sha256Hex lib (scheduleBytes (sortFaults faults)) with
  | error message => simp
  | ok sha256 => simp [eq_comm]

/-- A schedule is accepted exactly when there are at most 16 specifications, each has a
canonical form, their identifiers are distinct, the sorted canonical forms are pairwise
disjoint, and the digest of their text is computed. -/
theorem canonicalizeSchedule_eq_ok :
  canonicalizeSchedule lib specifications = .ok schedule ↔
    specifications.length ≤ 16 ∧ ∃ faults,
      List.Forall₂ (fun specification fault => canonicalizeFault lib [] specification = .ok fault)
        specifications faults ∧
      (specifications.map FaultSpec.faultId).Nodup ∧
      (sortFaults faults).Pairwise CanonicalFault.Disjoint ∧
      ∃ sha256, sha256Hex lib (scheduleBytes (sortFaults faults)) = .ok sha256 ∧
        schedule = scheduleOf faults sha256
  := by
  have hfaults : ∀ faults, List.Forall₂ (fun specification fault =>
        canonicalizeFault lib [] specification = .ok fault) specifications faults →
      (checkOverlap (fun _ => none) (sortFaults faults) = .ok () ↔
        (sortFaults faults).Pairwise CanonicalFault.Disjoint) := by
    intro faults hforall
    rw [checkOverlap_eq_ok]
    · simp
    · intro fault hmem
      apply wf_of_forall₂ hforall fault ((sortFaults_perm faults).mem_iff.mp hmem)
  simp only [canonicalizeSchedule, Except.bind_eq_ok_iff, require_eq_ok, exists_const,
    decide_eq_true_eq, canonicalizeFaults_eq_ok]
  rw [kMaximumFaultCount]
  constructor
  · rintro ⟨hlength, faults, ⟨hforall, hnodup, -⟩, ⟨⟩, hoverlap, hsha⟩
    exact ⟨hlength, faults, hforall, hnodup, (hfaults faults hforall).mp hoverlap,
      digest_eq_ok.mp hsha⟩
  · rintro ⟨hlength, faults, hforall, hnodup, hdisjoint, hsha⟩
    exact ⟨hlength, faults, ⟨hforall, hnodup, by simp⟩, (), (hfaults faults hforall).mpr hdisjoint,
      digest_eq_ok.mpr hsha⟩

/-- No list of specifications makes the canonicalization throw. -/
theorem canonicalizeSchedule_noThrow (lib : Libraries) (specifications : List FaultSpec) :
  NoThrow (canonicalizeSchedule lib specifications)
  := by
  apply NoThrow.bind (NoThrow.require _ _)
  intro _ _
  apply NoThrow.bind (canonicalizeFaults_noThrow lib [] specifications)
  intro faults hfaults
  obtain ⟨hforall, -, -⟩ := canonicalizeFaults_eq_ok.mp hfaults
  apply NoThrow.bind
  · apply checkOverlap_noThrow
    intro fault hmem
    apply wf_of_forall₂ hforall fault ((sortFaults_perm faults).mem_iff.mp hmem)
  · intro _ _
    split
    · apply NoThrow.rejected
    · apply NoThrow.ok

/-- What every accepted schedule satisfies. The schedule without faults satisfies it too. -/
structure CanonicalSchedule.Wf (schedule : CanonicalSchedule) : Prop where
  count : schedule.faults.length ≤ 16
  faults : ∀ fault ∈ schedule.faults, fault.Wf
  faultIds : (schedule.faults.map (·.specification.faultId)).Nodup
  sorted : schedule.faults.Pairwise (fun left right => left.sortKey ≤ right.sortKey)
  disjoint : schedule.faults.Pairwise CanonicalFault.Disjoint
  earliest : schedule.earliestStartOffsetNs = schedule.faults.head?.map (·.startOffsetNs)

theorem CanonicalSchedule.Wf.empty :
  CanonicalSchedule.Wf {}
  where
  count := by simp
  faults := by simp
  faultIds := by simp
  sorted := by simp
  disjoint := by simp
  earliest := rfl

theorem canonicalizeSchedule_wf (h : canonicalizeSchedule lib specifications = .ok schedule) :
  schedule.Wf
  := by
  obtain ⟨hlength, faults, hforall, hnodup, hdisjoint, sha256, -, rfl⟩ :=
    canonicalizeSchedule_eq_ok.mp h
  have hperm := sortFaults_perm faults
  constructor
  · apply le_trans (le_of_eq hperm.length_eq)
    rw [← hforall.length_eq]
    apply hlength
  · intro fault hmem
    apply wf_of_forall₂ hforall fault (hperm.mem_iff.mp hmem)
  · apply (hperm.map _).nodup_iff.mpr
    rw [faultIds_of_forall₂ hforall]
    apply hnodup
  · apply sortFaults_pairwise
  · apply hdisjoint
  · rfl

/-- The starts of an accepted schedule are at least the earliest one. -/
theorem CanonicalSchedule.Wf.earliest_le (h : schedule.Wf)
    {earliest : Int} (hearliest : schedule.earliestStartOffsetNs = some earliest) :
  (∃ fault ∈ schedule.faults, fault.startOffsetNs = earliest) ∧
    ∀ fault ∈ schedule.faults, earliest ≤ fault.startOffsetNs
  := by
  rw [h.earliest] at hearliest
  have hsorted := h.sorted
  cases hfaults : schedule.faults with
  | nil => simp [hfaults] at hearliest
  | cons first rest =>
      simp only [hfaults, List.head?_cons, Option.map_some, Option.some.injEq] at hearliest
      rw [hfaults, List.pairwise_cons] at hsorted
      subst hearliest
      refine ⟨⟨first, List.mem_cons_self, rfl⟩, ?_⟩
      intro fault hmem
      rcases List.mem_cons.mp hmem with rfl | hmem
      · apply le_refl
      · apply CanonicalFault.start_le_of_sortKey_le (hsorted.1 fault hmem)

theorem CanonicalSchedule.Wf.earliest_eq_none_iff (h : schedule.Wf) :
  schedule.earliestStartOffsetNs = none ↔ schedule.faults = []
  := by
  rw [h.earliest]
  simp

/-- The accepted schedule does not depend on the order of the specifications. -/
theorem canonicalizeSchedule_perm {specifications specifications' : List FaultSpec}
    (hperm : specifications.Perm specifications')
    (h : canonicalizeSchedule lib specifications = .ok schedule) :
  canonicalizeSchedule lib specifications' = .ok schedule
  := by
  obtain ⟨hlength, faults, hforall, hnodup, hdisjoint, sha256, hsha, rfl⟩ :=
    canonicalizeSchedule_eq_ok.mp h
  obtain ⟨faults', hforall', hfaults⟩ := List.perm_comp_forall₂ hperm.symm hforall
  have hids : (faults.map (·.specification.faultId)).Nodup := by
    rw [faultIds_of_forall₂ hforall]
    apply hnodup
  have hsort := sortFaults_congr hfaults.symm hids
  apply canonicalizeSchedule_eq_ok.mpr
  refine ⟨hperm.length_eq ▸ hlength, faults', hforall', (hperm.map _).nodup_iff.mp hnodup, ?_,
    sha256, ?_, ?_⟩
  · rw [← hsort]
    apply hdisjoint
  · rw [← hsort]
    apply hsha
  · simp only [scheduleOf, hsort]

end RobotestLab
