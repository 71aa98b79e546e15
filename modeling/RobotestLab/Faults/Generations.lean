import RobotestLab.Faults.Invariant
import RobotestLab.Library.Ledger

/-!
# Generations

Every newly prepared schedule gets a generation, one more than the last one that was given
out, and an arm request has to name the generation it binds. The ledgers of a run relate the
past outcomes to the present state: a generation keeps its canonical text and its binding for
the whole run, and a generation that was reset or replaced is never armed again.
-/

namespace RobotestLab

open FaultProtocol

variable {F32 F64 : Type}

/-! ### Records of a run -/

/-- The binding that an arm request reports. -/
structure Binding where
  scheduleHash : String
  goalUuid : UUID
  acceptedGoalStamp : Time
  armCommitStamp : Time
  armMarginNs : Int

def ArmOutcome.binding (o : ArmOutcome) : Binding where
  scheduleHash := o.scheduleHash
  goalUuid := o.goalUuid
  acceptedGoalStamp := o.acceptedGoalStamp
  armCommitStamp := o.armCommitStamp
  armMarginNs := o.armMarginNs

/-- The generation of an accepted preload that is not a replay. -/
def freshGeneration : Call F32 F64 × Outcome F32 F64 → Option UInt64
  | (_, .preload o) => if o.accepted && !o.replayed then some o.generation else none
  | _ => none

/-- The generation and the canonical text of an accepted preload. -/
def loadRecord (lib : Libraries) : Call F32 F64 × Outcome F32 F64 → Option (Nat × String)
  | (.preload request _, .preload o) =>
      match canonicalizeSchedule lib request.faults with
      | .ok canonical => if o.accepted then some (o.generation.toNat, canonical.bytes) else none
      | .error _ => none
  | _ => none

/-- The generation and the binding of an accepted arm request. -/
def bindRecord : Call F32 F64 × Outcome F32 F64 → Option (Nat × Binding)
  | (_, .arm o) => if o.accepted then some (o.generation.toNat, o.binding) else none
  | _ => none

namespace FaultProtocol

/-- The part of the state that control requests move. -/
structure Control where
  state : FaultControlState
  lastAllocatedGeneration : UInt64
  generation : UInt64
  schedule : CanonicalSchedule
  binding : Binding

def control (p : FaultProtocol) : Control where
  state := p.state
  lastAllocatedGeneration := p.lastAllocatedGeneration
  generation := p.generation
  schedule := p.schedule
  binding := {
    scheduleHash := p.schedule.sha256
    goalUuid := p.boundGoalUuid
    acceptedGoalStamp := p.acceptedGoalStamp
    armCommitStamp := p.armCommitStamp
    armMarginNs := p.armMarginNs }

theorem counted_control (p : FaultProtocol) (k : Nat) :
  (p.counted k).control = p.control
  := rfl

/-- The state a run from a protocol with last generation `n` leads to, related to the past. -/
structure History (lib : Libraries) (n : Nat) (tr : List (Call F32 F64 × Outcome F32 F64))
    (c : Control) : Prop where
  allocated : (tr.filterMap freshGeneration).map UInt64.toNat
    = List.range' (n + 1) (tr.filterMap freshGeneration).length
  last : c.lastAllocatedGeneration.toNat = n + (tr.filterMap freshGeneration).length
  current : c.state ≠ .reset → c.generation = c.lastAllocatedGeneration
  loads : Ledger (tr.filterMap (loadRecord lib)) c.lastAllocatedGeneration.toNat
    (fun bytes => c.state ≠ .reset → bytes = c.schedule.bytes)
  binds : Ledger (tr.filterMap bindRecord) c.lastAllocatedGeneration.toNat
    (fun binding => c.state ≠ .reset → c.state = .armed ∧ binding = c.binding)

section History

variable {lib : Libraries} {n : Nat} {tr : List (Call F32 F64 × Outcome F32 F64)} {c : Control}

theorem History.init (lib : Libraries) (n : UInt64) :
  History lib n.toNat ([] : List (Call F32 F64 × Outcome F32 F64)) (FaultProtocol.new n).control
  where
  allocated := rfl
  last := rfl
  current h := absurd rfl h
  loads := Ledger.nil ..
  binds := Ledger.nil ..

/-- An outcome that leaves no record. -/
structure Quiet (lib : Libraries) (e : Call F32 F64 × Outcome F32 F64) : Prop where
  fresh : freshGeneration e = none
  load : loadRecord lib e = none
  bind : bindRecord e = none

variable {e : Call F32 F64 × Outcome F32 F64}

theorem History.quiet (h : History lib n tr c) (he : Quiet lib e) :
  History lib n (tr ++ [e]) c
  := by
  have hfresh : (tr ++ [e]).filterMap freshGeneration = tr.filterMap freshGeneration := by
    simp [he.fresh]
  have hload : (tr ++ [e]).filterMap (loadRecord lib) = tr.filterMap (loadRecord lib) := by
    simp [he.load]
  have hbind : (tr ++ [e]).filterMap bindRecord = tr.filterMap bindRecord := by
    simp [he.bind]
  constructor
  · rw [hfresh]
    exact h.allocated
  · rw [hfresh]
    exact h.last
  · exact h.current
  · rw [hload]
    exact h.loads
  · rw [hbind]
    exact h.binds

variable {c' : Control}

/-- A reset keeps the records and closes the generation. -/
theorem History.closed (h : History lib n tr c) (hstate : c'.state = .reset)
    (hlast : c'.lastAllocatedGeneration = c.lastAllocatedGeneration) :
  History lib n tr c'
  where
  allocated := h.allocated
  last := hlast ▸ h.last
  current h' := absurd hstate h'
  loads := hlast ▸ h.loads.weaken (fun _ _ h' => absurd hstate h')
  binds := hlast ▸ h.binds.weaken (fun _ _ h' => absurd hstate h')

/-- A newly prepared schedule is recorded under the next generation. -/
theorem History.prepared (h : History lib n tr c) {generation : UInt64}
    (hnext : generation.toNat = c.lastAllocatedGeneration.toNat + 1)
    (hlast : c'.lastAllocatedGeneration = generation) (hgeneration : c'.generation = generation)
    (hfresh : freshGeneration e = some generation)
    (hload : loadRecord lib e = some (generation.toNat, c'.schedule.bytes))
    (hbind : bindRecord e = none) :
  History lib n (tr ++ [e]) c'
  := by
  have hlt : c.lastAllocatedGeneration.toNat < c'.lastAllocatedGeneration.toNat := by
    rw [hlast]
    omega
  constructor
  · have hlen := h.last
    simp only [List.filterMap_append, List.filterMap_cons, hfresh, List.filterMap_nil,
      List.map_append, List.map_cons, List.map_nil, h.allocated, List.length_append,
      List.length_cons, List.length_nil, List.range'_concat]
    congr 2
    omega
  · have hlen := h.last
    simp only [List.filterMap_append, List.filterMap_cons, hfresh, List.filterMap_nil,
      List.length_append, List.length_cons, List.length_nil]
    rw [hlast]
    omega
  · intro _
    rw [hlast, hgeneration]
  · simp only [List.filterMap_append, List.filterMap_cons, hload, List.filterMap_nil]
    rw [← hlast]
    apply (h.loads.advance hlt (fun _ => False)).record
    · exact fun _ hfalse => hfalse.elim
    · exact fun _ => rfl
  · simp only [List.filterMap_append, List.filterMap_cons, hbind, List.filterMap_nil,
      List.append_nil]
    apply h.binds.advance hlt

/-- A replayed preload is recorded once more. -/
theorem History.reloaded (h : History lib n tr c)
    (hstate : c.state ≠ .reset) (hfresh : freshGeneration e = none)
    (hload : loadRecord lib e = some (c.generation.toNat, c.schedule.bytes))
    (hbind : bindRecord e = none) :
  History lib n (tr ++ [e]) c
  := by
  rw [h.current hstate] at hload
  constructor
  · simp only [List.filterMap_append, List.filterMap_cons, hfresh, List.filterMap_nil,
      List.append_nil]
    exact h.allocated
  · simp only [List.filterMap_append, List.filterMap_cons, hfresh, List.filterMap_nil,
      List.append_nil]
    exact h.last
  · exact h.current
  · simp only [List.filterMap_append, List.filterMap_cons, hload, List.filterMap_nil]
    apply h.loads.record
    · exact fun _ hcurrent => hcurrent hstate
    · exact fun _ => rfl
  · simp only [List.filterMap_append, List.filterMap_cons, hbind, List.filterMap_nil,
      List.append_nil]
    exact h.binds

/-- An accepted arm request is recorded under the generation it binds. -/
theorem History.armed (h : History lib n tr c) (hstate : c'.state = .armed)
    (hlast : c'.lastAllocatedGeneration = c.lastAllocatedGeneration)
    (hgeneration : c'.generation = c.generation) (hschedule : c'.schedule = c.schedule)
    (hbefore : c.state = .prepared ∨ c.state = .armed ∧ c'.binding = c.binding)
    (hfresh : freshGeneration e = none) (hload : loadRecord lib e = none)
    (hbind : bindRecord e = some (c.generation.toNat, c'.binding)) :
  History lib n (tr ++ [e]) c'
  := by
  have hopen : c.state ≠ .reset := by
    rcases hbefore with hbefore | ⟨hbefore, -⟩ <;> rw [hbefore] <;> rintro ⟨⟩
  rw [h.current hopen] at hbind
  constructor
  · simp only [List.filterMap_append, List.filterMap_cons, hfresh, List.filterMap_nil,
      List.append_nil]
    exact h.allocated
  · simp only [List.filterMap_append, List.filterMap_cons, hfresh, List.filterMap_nil,
      List.append_nil]
    rw [hlast]
    exact h.last
  · intro _
    rw [hlast, hgeneration]
    apply h.current hopen
  · simp only [List.filterMap_append, List.filterMap_cons, hload, List.filterMap_nil,
      List.append_nil]
    rw [hlast]
    apply h.loads.weaken
    intro bytes hbytes _
    rw [hschedule]
    apply hbytes hopen
  · simp only [List.filterMap_append, List.filterMap_cons, hbind, List.filterMap_nil]
    rw [hlast]
    apply h.binds.record
    · intro binding hcurrent
      obtain ⟨harmed, hbinding⟩ := hcurrent hopen
      rcases hbefore with hbefore | ⟨-, hsame⟩
      · rw [hbefore] at harmed
        cases harmed
      · rw [hbinding, hsame]
    · exact fun _ => ⟨hstate, rfl⟩

end History

/-! ### Calls -/

/-- A sensor message does not move the control part. -/
theorem sense_next_control {M : Type} (p : FaultProtocol) (τ : Target) (stamp : Time)
    (refusal : Option String) (input : M) (output : Option M) :
  (p.sense τ stamp refusal input output).next.control = p.control
  := by
  unfold sense
  split
  · rfl
  · split_ifs
    · rfl
    · split <;> rfl

variable [Binary32 F32] [Binary64 F64] [Tf2 F64]

theorem History.preload {lib : Libraries} {n : Nat}
    {tr : List (Call F32 F64 × Outcome F32 F64)} {p : FaultProtocol}
    (h : History lib n tr p.control) (request : PreloadRequest) (stamp : Time) :
  History lib n
    (tr ++ [(.preload request stamp, (p.respond lib (.preload request stamp)).outcome)])
    (p.respond lib (.preload request stamp : Call F32 F64)).next.control
  := by
  cases hverdict : p.preloadVerdict lib request stamp with
  | rejected message =>
      simp only [respond, hverdict]
      apply h.quiet
      constructor
      · rfl
      · unfold loadRecord
        simp only
        split <;> rfl
      · rfl
  | replayed =>
      obtain ⟨-, -, canonical, hcanonical, -, hstate, hbytes, -⟩ :=
        preloadVerdict_eq_replayed.mp hverdict
      simp only [respond, hverdict]
      apply h.reloaded hstate rfl _ rfl
      rw [loadRecord, hcanonical]
      change some (p.generation.toNat, canonical.bytes) =
          some (p.generation.toNat, p.schedule.bytes)
      rw [hbytes]
  | committed next =>
      obtain ⟨canonical, generation, -, hcanonical, -, -, -, -, hgeneration, rfl⟩ :=
        preloadVerdict_eq_committed hverdict
      simp only [respond, hverdict]
      apply h.prepared ((UInt64.increment?_eq_some_iff ..).mp hgeneration) rfl rfl rfl _ rfl
      rw [loadRecord, hcanonical]
      rfl

theorem History.arm {lib : Libraries} {n : Nat}
    {tr : List (Call F32 F64 × Outcome F32 F64)} {p : FaultProtocol}
    (h : History lib n tr p.control) (request : ArmRequest) (stamp : Time) :
  History lib n
    (tr ++ [(.arm request stamp, (p.respond lib (.arm request stamp)).outcome)])
    (p.respond lib (.arm request stamp : Call F32 F64)).next.control
  := by
  cases hverdict : p.armVerdict request stamp with
  | rejected message =>
      simp only [respond, hverdict]
      apply h.quiet
      constructor <;> rfl
  | replayed =>
      obtain ⟨-, hstate, -⟩ := armVerdict_eq_replayed.mp hverdict
      simp only [respond, hverdict]
      apply h.armed hstate rfl rfl rfl (Or.inr ⟨hstate, rfl⟩) rfl rfl rfl
  | committed next =>
      obtain ⟨hstate, -, -, -, -, -, -, -, marginNs, -, rfl⟩ := armVerdict_eq_committed hverdict
      simp only [respond, hverdict]
      exact h.armed rfl rfl rfl rfl (Or.inl hstate) rfl rfl rfl

theorem History.step {lib : Libraries} {n : Nat} {tr : List (Call F32 F64 × Outcome F32 F64)}
    {p p' : FaultProtocol} (h : History lib n tr p.control) (hp : p.Inv) {c : Call F32 F64}
    {o : Outcome F32 F64} (hstep : p.step lib c = .ok (o, p')) :
  History lib n (tr ++ [(c, o)]) p'.control
  := by
  obtain ⟨-, rfl, rfl⟩ := (step_eq_ok hp).mp hstep
  rw [counted_control]
  cases c with
  | preload request stamp => apply h.preload
  | arm request stamp => apply h.arm
  | reset stamp =>
      have hclosed : History lib n tr p.clearedState.control := h.closed rfl rfl
      apply hclosed.quiet
      constructor <;> rfl
  | scan input frame =>
      rw [respond, Response.map, sense_next_control]
      apply h.quiet
      constructor <;> rfl
  | odom input frame childFrame =>
      rw [respond, Response.map, sense_next_control]
      apply h.quiet
      constructor <;> rfl
  | imu input frame =>
      rw [respond, Response.map, sense_next_control]
      apply h.quiet
      constructor <;> rfl

/-- The past of a run is related to its last state. -/
theorem history_of_run {lib : Libraries} {n : UInt64} {tr : List (Call F32 F64 × Outcome F32 F64)}
    {p : FaultProtocol} (h : Run (FaultProtocol.step lib) (FaultProtocol.new n) tr p) :
  History lib n.toNat tr p.control
  := by
  have hhistory := h.history (fun _ => True)
    (fun pre s => s.Inv ∧ History lib n.toNat pre s.control)
    (fun _ _ _ _ _ hs _ hstep => ⟨hs.1.step hstep, hs.2.step hs.1 hstep⟩) []
    ⟨Inv.new n, History.init lib n⟩ (fun _ _ => trivial)
  exact hhistory.2

/-! ### Generations that are over -/

/-- The generation that an accepted preload or arm request reports. -/
def token : Outcome F32 F64 → Option UInt64
  | .preload o => if o.accepted then some o.generation else none
  | .arm o => if o.accepted then some o.generation else none
  | _ => none

/-- A reset or a newly prepared schedule: the generation before it is over. -/
def Retires : Outcome F32 F64 → Prop
  | .preload o => o.accepted = true ∧ o.replayed = false
  | .reset _ => True
  | _ => False

/-- What a call does to the generation: it stays, or it ends, or a larger one begins. -/
structure Advances (p p' : FaultProtocol) : Prop where
  last_le : p.lastAllocatedGeneration.toNat ≤ p'.lastAllocatedGeneration.toNat
  generation : p'.state ≠ .reset →
    p.state ≠ .reset ∧ p'.generation = p.generation ∨
      p.lastAllocatedGeneration.toNat < p'.generation.toNat

variable {p p' : FaultProtocol}

theorem Advances.of_control (h : p'.control = p.control) :
  p.Advances p'
  := by
  have hlast : p'.lastAllocatedGeneration = p.lastAllocatedGeneration :=
    congrArg Control.lastAllocatedGeneration h
  have hstate : p'.state = p.state := congrArg Control.state h
  constructor
  · rw [hlast]
  · intro hopen
    left
    rw [hstate] at hopen
    exact ⟨hopen, congrArg Control.generation h⟩

variable {o : Outcome F32 F64}

theorem advances_of_step {lib : Libraries} (hp : p.Inv) {c : Call F32 F64}
    (hstep : p.step lib c = .ok (o, p')) :
  p.Advances p'
  := by
  obtain ⟨-, -, rfl⟩ := (step_eq_ok hp).mp hstep
  cases c with
  | preload request stamp =>
      cases hverdict : p.preloadVerdict lib request stamp with
      | rejected message =>
          rw [respond, hverdict]
          apply Advances.of_control
          rfl
      | replayed =>
          rw [respond, hverdict]
          apply Advances.of_control
          rfl
      | committed next =>
          obtain ⟨canonical, generation, -, -, -, -, -, -, hgeneration, rfl⟩ :=
            preloadVerdict_eq_committed hverdict
          have hnext := (UInt64.increment?_eq_some_iff ..).mp hgeneration
          rw [respond, hverdict]
          constructor
          · change p.lastAllocatedGeneration.toNat ≤ generation.toNat
            omega
          · intro _
            right
            change p.lastAllocatedGeneration.toNat < generation.toNat
            omega
  | arm request stamp =>
      cases hverdict : p.armVerdict request stamp with
      | rejected message =>
          rw [respond, hverdict]
          apply Advances.of_control
          rfl
      | replayed =>
          rw [respond, hverdict]
          apply Advances.of_control
          rfl
      | committed next =>
          obtain ⟨hstate, -, -, -, -, -, -, -, marginNs, -, rfl⟩ := armVerdict_eq_committed hverdict
          rw [respond, hverdict]
          constructor
          · exact Nat.le_refl _
          · intro _
            left
            rw [hstate]
            exact ⟨by rintro ⟨⟩, rfl⟩
  | reset stamp =>
      constructor
      · exact Nat.le_refl _
      · intro hopen
        exact absurd rfl hopen
  | scan input frame =>
      apply Advances.of_control
      rw [counted_control]
      apply sense_next_control
  | odom input frame childFrame =>
      apply Advances.of_control
      rw [counted_control]
      apply sense_next_control
  | imu input frame =>
      apply Advances.of_control
      rw [counted_control]
      apply sense_next_control

/-- The generation that an outcome reports is the one of the next state. -/
theorem token_of_step {lib : Libraries} (hp : p.Inv) {c : Call F32 F64}
    (hstep : p.step lib c = .ok (o, p')) {g : UInt64} (htoken : token o = some g) :
  p'.state ≠ .reset ∧ p'.generation = g
  := by
  obtain ⟨-, rfl, rfl⟩ := (step_eq_ok hp).mp hstep
  cases c with
  | preload request stamp =>
      cases hverdict : p.preloadVerdict lib request stamp with
      | rejected message =>
          rw [respond, hverdict] at htoken
          cases htoken
      | replayed =>
          obtain ⟨-, -, canonical, -, -, hstate, -⟩ := preloadVerdict_eq_replayed.mp hverdict
          rw [respond, hverdict] at htoken ⊢
          exact ⟨hstate, Option.some.inj htoken⟩
      | committed next =>
          obtain ⟨canonical, generation, -, -, -, -, -, -, -, rfl⟩ :=
            preloadVerdict_eq_committed hverdict
          rw [respond, hverdict] at htoken ⊢
          exact ⟨by rintro ⟨⟩, Option.some.inj htoken⟩
  | arm request stamp =>
      cases hverdict : p.armVerdict request stamp with
      | rejected message =>
          rw [respond, hverdict] at htoken
          cases htoken
      | replayed =>
          obtain ⟨-, hstate, -⟩ := armVerdict_eq_replayed.mp hverdict
          rw [respond, hverdict] at htoken ⊢
          refine ⟨?_, Option.some.inj htoken⟩
          change p.state ≠ .reset
          rw [hstate]
          rintro ⟨⟩
      | committed next =>
          obtain ⟨-, -, -, -, -, -, -, -, marginNs, -, rfl⟩ := armVerdict_eq_committed hverdict
          rw [respond, hverdict] at htoken ⊢
          exact ⟨by rintro ⟨⟩, Option.some.inj htoken⟩
  | reset stamp => cases htoken
  | scan input frame => cases htoken
  | odom input frame childFrame => cases htoken
  | imu input frame => cases htoken

/-- After a call that ends a generation, the present generation is larger than all before. -/
theorem retires_of_step {lib : Libraries} (hp : p.Inv) {c : Call F32 F64}
    (hstep : p.step lib c = .ok (o, p')) (hretires : Retires o) :
  p'.state ≠ .reset → p.lastAllocatedGeneration.toNat < p'.generation.toNat
  := by
  obtain ⟨-, rfl, rfl⟩ := (step_eq_ok hp).mp hstep
  cases c with
  | preload request stamp =>
      cases hverdict : p.preloadVerdict lib request stamp with
      | rejected message =>
          rw [respond, hverdict] at hretires
          cases hretires.1
      | replayed =>
          rw [respond, hverdict] at hretires
          cases hretires.2
      | committed next =>
          obtain ⟨canonical, generation, -, -, -, -, -, -, hgeneration, rfl⟩ :=
            preloadVerdict_eq_committed hverdict
          have hnext := (UInt64.increment?_eq_some_iff ..).mp hgeneration
          intro _
          rw [respond, hverdict]
          change p.lastAllocatedGeneration.toNat < generation.toNat
          omega
  | arm request stamp => exact hretires.elim
  | reset stamp => exact fun hopen => absurd rfl hopen
  | scan input frame => exact hretires.elim
  | odom input frame childFrame => exact hretires.elim
  | imu input frame => exact hretires.elim

/-- The present generation of a run stays above a bound that it started above. -/
theorem Run.above {lib : Libraries} (hp : p.Inv)
    {tr : List (Call F32 F64 × Outcome F32 F64)} (h : Run (FaultProtocol.step lib) p tr p')
    {bound : Nat} (hlast : bound ≤ p.lastAllocatedGeneration.toNat)
    (hgeneration : p.state ≠ .reset → bound < p.generation.toNat) :
  bound ≤ p'.lastAllocatedGeneration.toNat ∧ (p'.state ≠ .reset → bound < p'.generation.toNat)
  := by
  have hinvariant := h.invariant (P := fun s => s.Inv ∧ bound ≤ s.lastAllocatedGeneration.toNat ∧
      (s.state ≠ .reset → bound < s.generation.toNat)) ?_ ⟨hp, hlast, hgeneration⟩
  · exact hinvariant.2
  · rintro s c o s' ⟨hs, hlast, hgeneration⟩ hstep
    have hadvances := advances_of_step hs hstep
    refine ⟨hs.step hstep, le_trans hlast hadvances.last_le, ?_⟩
    intro hopen
    rcases hadvances.generation hopen with ⟨hbefore, hsame⟩ | hlt
    · rw [hsame]
      apply hgeneration hbefore
    · omega

/-- The generations of the outcomes of a run are given out by its end. -/
theorem Run.token_le {lib : Libraries} {n : UInt64} {p : FaultProtocol}
    {tr : List (Call F32 F64 × Outcome F32 F64)}
    (h : Run (FaultProtocol.step lib) (FaultProtocol.new n) tr p)
    {e : Call F32 F64 × Outcome F32 F64} (he : e ∈ tr) {g : UInt64} (htoken : token e.2 = some g) :
  g.toNat ≤ p.lastAllocatedGeneration.toNat
  := by
  obtain ⟨before, after, rfl⟩ := List.append_of_mem he
  obtain ⟨s, hbefore, hrest⟩ := Run.append_iff.mp h
  obtain ⟨s', hstep, hafter⟩ := Run.cons_iff.mp hrest
  have hs := (Inv.new n).run hbefore
  obtain ⟨hopen, rfl⟩ := token_of_step hs hstep htoken
  have hhistory := history_of_run (hbefore.append (Run.single hstep))
  rw [show s'.generation = s'.lastAllocatedGeneration from hhistory.current hopen]
  have hmono := hafter.invariant (P := fun m => m.Inv ∧
    s'.lastAllocatedGeneration.toNat ≤ m.lastAllocatedGeneration.toNat) ?_
    ⟨hs.step hstep, Nat.le_refl _⟩
  · exact hmono.2
  · rintro m c o m' ⟨hm, hle⟩ hm'
    exact ⟨hm.step hm', le_trans hle (advances_of_step hm hm').last_le⟩

end FaultProtocol

/-! ### One generation, one binding -/

theorem loadRecord_eq_some {lib : Libraries} {request : PreloadRequest} {stamp : Time}
    {o : PreloadOutcome} (haccepted : o.accepted = true) {canonical : CanonicalSchedule}
    (hcanonical : canonicalizeSchedule lib request.faults = .ok canonical) :
  loadRecord lib ((.preload request stamp, .preload o) : Call F32 F64 × Outcome F32 F64)
    = some (o.generation.toNat, canonical.bytes)
  := by
  rw [loadRecord, hcanonical]
  simp only
  rw [if_pos haccepted]

variable [Binary32 F32] [Binary64 F64] [Tf2 F64]

theorem canonicalizeSchedule_of_accepted {lib : Libraries} {n : UInt64} {p : FaultProtocol}
    {tr : List (Call F32 F64 × Outcome F32 F64)}
    (h : Run (FaultProtocol.step lib) (FaultProtocol.new n) tr p) {request : PreloadRequest}
    {stamp : Time} {o : PreloadOutcome} (he : (.preload request stamp, .preload o) ∈ tr)
    (haccepted : o.accepted = true) :
  ∃ canonical, canonicalizeSchedule lib request.faults = .ok canonical
  := by
  obtain ⟨before, after, rfl⟩ := List.append_of_mem he
  obtain ⟨s, hbefore, hrest⟩ := Run.append_iff.mp h
  obtain ⟨s', hstep, -⟩ := Run.cons_iff.mp hrest
  obtain ⟨-, houtcome, -⟩ := (step_eq_ok ((Inv.new n).run hbefore)).mp hstep
  cases hverdict : s.preloadVerdict lib request stamp with
  | rejected message =>
      rw [respond, hverdict] at houtcome
      rw [← Outcome.preload.inj houtcome] at haccepted
      cases haccepted
  | replayed =>
      obtain ⟨-, -, canonical, hcanonical, -⟩ := preloadVerdict_eq_replayed.mp hverdict
      exact ⟨canonical, hcanonical⟩
  | committed next =>
      obtain ⟨canonical, -, -, hcanonical, -⟩ := preloadVerdict_eq_committed hverdict
      exact ⟨canonical, hcanonical⟩

/-- In every run the generations of new schedules count on from the last one. Each generation
keeps one canonical text and one binding, and none that was reset or replaced is reported
again. -/
theorem generation_binding {lib : Libraries} {n : UInt64} {p : FaultProtocol}
    {tr : List (Call F32 F64 × Outcome F32 F64)}
    (h : Run (FaultProtocol.step lib) (FaultProtocol.new n) tr p) :
  (tr.filterMap freshGeneration).map UInt64.toNat
    = List.range' (n.toNat + 1) (tr.filterMap freshGeneration).length ∧
  (∀ request stamp o request' stamp' o',
    (.preload request stamp, .preload o) ∈ tr → (.preload request' stamp', .preload o') ∈ tr →
      o.accepted = true → o'.accepted = true → o.generation = o'.generation →
        ∃ canonical canonical', canonicalizeSchedule lib request.faults = .ok canonical ∧
          canonicalizeSchedule lib request'.faults = .ok canonical' ∧
          canonical.bytes = canonical'.bytes) ∧
  (∀ c o c' o', (c, .arm o) ∈ tr → (c', .arm o') ∈ tr → o.accepted = true → o'.accepted = true →
    o.generation = o'.generation → o.binding = o'.binding) ∧
  (∀ before e after, tr = before ++ e :: after → Retires e.2 →
    ∀ earlier ∈ before, ∀ later ∈ after, ∀ g g', token earlier.2 = some g →
      token later.2 = some g' → g.toNat < g'.toNat)
  := by
  have hhistory := history_of_run h
  refine ⟨hhistory.allocated, ?_, ?_, ?_⟩
  · intro request stamp o request' stamp' o' hmem hmem' haccepted haccepted' hgeneration
    obtain ⟨canonical, hcanonical⟩ := canonicalizeSchedule_of_accepted h hmem haccepted
    obtain ⟨canonical', hcanonical'⟩ := canonicalizeSchedule_of_accepted h hmem' haccepted'
    refine ⟨canonical, canonical', hcanonical, hcanonical', ?_⟩
    have hload := List.mem_filterMap.mpr ⟨_, hmem, loadRecord_eq_some haccepted hcanonical⟩
    have hload' := List.mem_filterMap.mpr ⟨_, hmem', loadRecord_eq_some haccepted' hcanonical'⟩
    apply hhistory.loads.functional _ hload _ hload'
    rw [hgeneration]
  · intro c o c' o' hmem hmem' haccepted haccepted' hgeneration
    have hbind : ∀ (c : Call F32 F64) (o : ArmOutcome), (c, .arm o) ∈ tr → o.accepted = true →
        (o.generation.toNat, o.binding) ∈ tr.filterMap bindRecord := by
      intro c o hmem haccepted
      apply List.mem_filterMap.mpr ⟨_, hmem, _⟩
      rw [bindRecord, if_pos haccepted]
    apply hhistory.binds.functional _ (hbind c o hmem haccepted) _ (hbind c' o' hmem' haccepted')
    rw [hgeneration]
  · rintro before e after rfl hretires earlier hearlier later hlater g g' htoken htoken'
    obtain ⟨s, hbefore, hrest⟩ := Run.append_iff.mp h
    obtain ⟨s', hstep, hafter⟩ := Run.cons_iff.mp hrest
    have hs := (Inv.new n).run hbefore
    have hle := Run.token_le hbefore hearlier htoken
    obtain ⟨middle, last, rfl⟩ := List.append_of_mem hlater
    obtain ⟨m, hmiddle, hrest'⟩ := Run.append_iff.mp hafter
    obtain ⟨m', hstep', -⟩ := Run.cons_iff.mp hrest'
    have hm := (hs.step hstep).run hmiddle
    have habove := Run.above (hs.step hstep) (hmiddle.append (Run.single hstep'))
      (advances_of_step hs hstep).last_le (retires_of_step hs hstep hretires)
    obtain ⟨hopen, rfl⟩ := token_of_step hm hstep' htoken'
    exact lt_of_le_of_lt hle (habove.2 hopen)

/-- The sample run gives out one generation, and its two arm requests share one binding. -/
theorem generation_binding_sample :
  ∃ tr : List (Call ℚ ℚ × Outcome ℚ ℚ),
    tr.map Prod.fst = [Sample.preload, Sample.arm, Sample.arm] ∧
    (tr.filterMap freshGeneration).map UInt64.toNat
      = List.range' 1 (tr.filterMap freshGeneration).length ∧
    ∀ c o c' o', (c, .arm o) ∈ tr → (c', .arm o') ∈ tr → o.accepted = true → o'.accepted = true →
      o.generation = o'.generation → o.binding = o'.binding
  := by
  have hanswered : (Run.exec (FaultProtocol.step Sample.libraries) (FaultProtocol.new 0)
      [Sample.preload, Sample.arm, Sample.arm]).isOk = true := by decide +kernel
  obtain ⟨tr, hrun, hcalls⟩ := Run.exists_of_exec hanswered
  obtain ⟨hfresh, -, hbinding, -⟩ := generation_binding hrun
  exact ⟨tr, hcalls, hfresh, hbinding⟩

end RobotestLab
