import RobotestLab.Library.Related
import RobotestLab.Scenarios.ActorAbsence
import RobotestLab.Scenarios.ObservedTransactions

/-!
# The observations of the trajectory

The program of the third scenario registers one request for every target, in order, and never raises
the error of a reused observation. When it finishes the trajectory, it does so with the observation
of the last index (`observation_matching`).
-/

namespace RobotestLab

namespace Scenarios

open OrderedMatching (Request)

variable {F : Type}

namespace ScenarioController

/-! ### What the program keeps -/

section Programs

variable [PoseFloat F] {env : (trajectorySignature F).Environment} {anchorStampNs : Int} {k n : Nat}
  {I : Trajectory F → Prop} {s : Trajectory F} {α : Type}

/-- The state is reached. -/
def Tracked (s : Trajectory F) : Prop :=
  ∃ requests observed, Reaches requests observed s.node

/-- What is raised is not the error of a reused observation. -/
def Sound (e : TrajectoryRaised) (s : Trajectory F) : Prop := e ≠ .reusedObservation ∧ Tracked s

/-- The given number of requests was registered, for the first targets, and the transactions are
observed by the poses that are matched to them. -/
structure Follows (anchorStampNs : Int) (k n : Nat) (requests : List (Request Nat Int))
    (observed : List (PoseEvidence F)) (s : Trajectory F) : Prop where
  reaches : Reaches requests observed s.node
  count : requests.length = k
  targets : ∀ request ∈ requests, request.target + 100000000 ≤ anchorStampNs + k * 100000000
  observes : Observes (matching requests observed) s.s3Transactions s.usedSequences
  length : s.s3Transactions.length = n

/-- The state between two requests. -/
def Followed (anchorStampNs : Int) (k n : Nat) (s : Trajectory F) : Prop :=
  ∃ requests observed, Follows anchorStampNs k n requests observed s

/-- The state when the next request has its number. -/
def Issued (anchorStampNs : Int) (k n number : Nat) (s : Trajectory F) : Prop :=
  ∃ requests observed, Follows anchorStampNs k n requests observed s ∧ number ≤ s.node.sequence
    ∧ ∀ pose ∈ observed, pose.collectorSequence < number

/-- What holds of reached states, and does not depend on the notes of the transactions. -/
structure Undisturbed (I : Trajectory F → Prop) : Prop where
  tracked : ∀ s, I s → Tracked s
  noted : ∀ s (f : Transaction F → Transaction F),
    (∀ t, (f t).index = t.index ∧ (f t).observedPose = t.observedPose) → I s →
    I { s with s3Transactions := s.s3Transactions.map f }

/-- What the callbacks do not change either. -/
structure Lasting (I : Trajectory F → Prop) : Prop extends Undisturbed I where
  delivered : ∀ callback s, I s → I (deliver callback s)

theorem undisturbed_issued {number : Nat} : Undisturbed (@Issued F _ anchorStampNs k n number)
  where
  tracked := by
    rintro s ⟨requests, observed, h, -⟩
    exact ⟨requests, observed, h.reaches⟩
  noted := by
    rintro s f hf ⟨requests, observed, h, hnumber⟩
    refine ⟨requests, observed, { h with observes := h.observes.map hf, length := ?_ }, hnumber⟩
    rw [← h.length]
    apply List.length_map

omit [PoseFloat F] in
theorem matching_prefix {requests : List (Request Nat Int)}
    {observed more : List (PoseEvidence F)} :
  matching requests observed <+: matching requests (observed ++ more)
  := OrderedMatching.greedy_prefix

theorem lasting_followed : Lasting (@Followed F _ anchorStampNs k n)
  where
  tracked := by
    rintro s ⟨requests, observed, h⟩
    exact ⟨requests, observed, h.reaches⟩
  noted := by
    rintro s f hf ⟨requests, observed, h⟩
    refine ⟨requests, observed, { h with observes := h.observes.map hf, length := ?_ }⟩
    rw [← h.length]
    apply List.length_map
  delivered := by
    rintro callback s ⟨requests, observed, h⟩
    cases callback with
    | entity callback =>
        exact ⟨requests, _, {
          reaches := h.reaches.callback callback
          count := h.count
          targets := h.targets
          observes := h.observes.mono matching_prefix
          length := h.length }⟩
    | other after =>
        refine ⟨requests, observed, { h with reaches := h.reaches.other ?_ }⟩
        exact .same rfl rfl rfl rfl (Nat.le_add_right _ _) rfl

theorem Followed.number (h : Followed anchorStampNs k n s) :
  Issued anchorStampNs k n s.node.nextSequence.sequence { s with node := s.node.nextSequence }
  := by
  obtain ⟨requests, observed, h⟩ := h
  refine ⟨requests, observed, { h with reaches := h.reaches.other aside_nextSequence },
    le_refl _, ?_⟩
  intro pose hpose
  apply Nat.lt_succ_of_le (h.reaches.matches.numbers pose hpose)

/-! ### The parts of the program -/

variable {Q : α → Trajectory F → Prop} {e : Failure}

theorem meets_fail (h : ∀ s, I s → Tracked s) :
  Program.Meets env I (fail e : Following F α) Q Sound
  := .raise fun s hs => ⟨nofun, h s hs⟩

/-- The program goes on with a state that it read. -/
theorem meets_read {f : Trajectory F → Following F α}
    (h : ∀ s, I s → Program.Meets env I (f s) Q Sound) :
  Program.Meets env I (getTrajectory >>= f) Q Sound
  := by
  apply Program.Meets.getState_bind
  intro s hs
  refine Program.Meets.weaken ?_ (h s hs)
  rintro _ rfl
  exact hs

variable {f : Transaction F → Transaction F} {index : Int}

theorem meets_modifyTransaction (hI : Undisturbed I)
    (hf : ∀ t, (f t).index = t.index ∧ (f t).observedPose = t.observedPose) :
  Program.Meets env I (modifyTransaction index f) (fun _ => I) Sound
  := by
  apply Program.Meets.modifyState
  intro s hs
  apply hI.noted s _ _ hs
  intro t
  split
  · apply hf t
  · exact ⟨rfl, rfl⟩

theorem meets_failIf {c : Bool} (h : ∀ s, I s → Tracked s) :
  Program.Meets env I (failIf c e) (fun _ => I) Sound
  := by
  unfold failIf
  split
  · apply meets_fail h
  · exact Program.Meets.pure fun _ hs => hs

/-- A transaction is noted before something is raised. -/
theorem meets_note_fail (h : ∀ s, I s → Tracked s) :
  Program.Meets env I (modifyTransaction index f >>= fun _ => (fail e : Following F α)) Q Sound
  := by
  refine Program.Meets.bind (Q := fun _ => Tracked) ?_ ?_
  · exact Program.Meets.modifyState h
  · exact fun _ => meets_fail fun _ hs => hs

theorem meets_rejectIf {c : Bool} (h : ∀ s, I s → Tracked s) :
  Program.Meets env I (rejectIf c index f e) (fun _ => I) Sound
  := by
  unfold rejectIf
  split
  · apply meets_note_fail h
  · exact Program.Meets.pure fun _ hs => hs

/-- Retaining what is raised keeps what the retained program keeps. -/
theorem meets_retaining {handler : Failure → Option Failure} {m : Following F α}
    (h : Program.Meets env I m Q Sound) :
  Program.Meets env I (retaining index handler m) Q Sound
  := by
  apply h.attempt
  rintro (_ | (e | text))
  · apply Program.Meets.raise
    exact fun s hs => absurd rfl hs.1
  · dsimp only
    split
    · apply meets_note_fail
      exact fun s hs => hs.2
    · apply meets_fail
      exact fun s hs => hs.2
  · apply Program.Meets.raise
    exact fun s hs => ⟨nofun, hs.2⟩

section Calls

variable (henv : ∀ history c, (env history c).result ≠ .error .reusedObservation)
include henv

theorem meets_ask {c : TrajectoryCall F} (h : ∀ s, I s → Tracked s) :
  Program.Meets env I (ask c) (fun _ => I) Sound
  := by
  apply Program.Meets.ask
  · exact fun _ _ hs => hs
  · intro history e s he hs
    refine ⟨?_, h s hs⟩
    rintro rfl
    exact henv history c he

theorem meets_requireBudget (h : ∀ s, I s → Tracked s) :
  Program.Meets env I requireBudget (fun _ => I) Sound
  := by
  apply (meets_ask henv h).bind
  intro now
  apply meets_read
  exact fun s _ => meets_failIf h

theorem meets_checkServiceDeadline {deadline : F} {text : String} (h : ∀ s, I s → Tracked s) :
  Program.Meets env I (checkServiceDeadline deadline text) (fun _ => I) Sound
  := by
  apply (meets_ask henv h).bind
  exact fun now => meets_failIf h

omit henv in
theorem meets_checkCleanupError (h : ∀ s, I s → Tracked s) :
  Program.Meets env I checkCleanupError (fun _ => I) Sound
  := by
  apply meets_read
  intro s _
  split
  · apply meets_fail h
  · apply Program.Meets.pure
    exact fun _ hs => hs

omit henv in
theorem meets_checkErrors (h : ∀ s, I s → Tracked s) :
  Program.Meets env I checkErrors (fun _ => I) Sound
  := by
  apply meets_read
  intro s _
  split
  · apply meets_fail h
  · split
    · apply meets_fail h
    · apply Program.Meets.pure
      exact fun _ hs => hs

/-- A spin delivers callbacks. -/
theorem meets_spin (hI : Lasting I) :
  Program.Meets env I spin (fun _ => I) Sound
  := by
  apply (meets_requireBudget henv hI.tracked).bind
  intro _
  apply (meets_ask henv hI.tracked).bind
  intro now
  apply meets_read
  intro s _
  refine Program.Meets.bind (Q := fun _ => I) ?_ ?_
  · refine Program.Meets.attempt (D := Sound) ?_ ?_
    · apply Program.Meets.call
      · exact hI.delivered
      · exact fun _ _ hs => hs
      · intro history e s he hs
        refine ⟨?_, hI.tracked s hs⟩
        rintro rfl
        exact henv history _ he
    · rintro (_ | (e | text))
      · apply Program.Meets.raise
        exact fun s hs => hs
      · dsimp only
        split
        · apply meets_fail
          exact fun s hs => hs.2
        · apply meets_fail
          exact fun s hs => hs.2
      · apply Program.Meets.raise
        exact fun s hs => hs
  · intro _
    apply (meets_requireBudget henv hI.tracked).bind
    exact fun _ => meets_checkErrors hI.tracked

theorem meets_awaitService (hI : Lasting I) :
  Program.Meets env I awaitService (fun _ => I) Sound
  := by
  apply (meets_ask henv hI.tracked).bind
  intro now
  apply meets_read
  intro s _
  refine Program.Meets.loop (I := fun _ => I) ?_ ()
  intro _
  apply (meets_requireBudget henv hI.tracked).bind
  intro _
  apply (meets_checkCleanupError hI.tracked).bind
  intro _
  apply (meets_checkServiceDeadline henv hI.tracked).bind
  intro _
  apply (meets_ask henv hI.tracked).bind
  intro ready
  apply (meets_requireBudget henv hI.tracked).bind
  intro _
  apply (meets_checkServiceDeadline henv hI.tracked).bind
  intro _
  split
  · apply Program.Meets.pure
    exact fun _ hs => hs
  · apply (meets_spin henv hI).bind
    intro _
    apply Program.Meets.pure
    exact fun _ hs => hs

theorem meets_awaitResponse {index : Int} {deadline : F} (hI : Lasting I) :
  Program.Meets env I (awaitResponse index deadline) (fun _ => I) Sound
  := by
  refine Program.Meets.loop (I := fun _ => I) ?_ ()
  intro _
  refine Program.Meets.bind (Q := fun _ => I) (meets_retaining ?_) ?_
  · apply (meets_requireBudget henv hI.tracked).bind
    intro _
    apply (meets_checkServiceDeadline henv hI.tracked).bind
    intro _
    apply (meets_ask henv hI.tracked).bind
    intro responseDone
    apply (meets_requireBudget henv hI.tracked).bind
    intro _
    apply (meets_checkServiceDeadline henv hI.tracked).bind
    intro _
    apply Program.Meets.pure
    exact fun _ hs => hs
  · intro responseDone
    split
    · apply Program.Meets.pure
      exact fun _ hs => hs
    · apply (meets_retaining (meets_spin henv hI)).bind
      intro _
      apply Program.Meets.pure
      exact fun _ hs => hs

omit henv in
/-- A request that has its number is registered. -/
theorem meets_register {number : Nat} :
  Program.Meets env (Issued anchorStampNs k n number)
    (register k number (anchorStampNs + k * 100000000))
      (fun _ => Followed anchorStampNs (k + 1) n) Sound
  := by
  apply Program.Meets.getState_bind
  rintro s ⟨requests, observed, h, hissued, hnumber⟩
  have htarget : ∀ request ∈ requests, request.target ≤ anchorStampNs + k * 100000000 := by
    intro request hrequest
    have hle := h.targets request hrequest
    omega
  obtain ⟨node, hregister, -⟩ := h.reaches.matches.request hissued hnumber htarget
  have hreaches := h.reaches.request number _ hissued hnumber htarget hregister
  rw [h.count] at hregister
  rw [hregister]
  apply Program.Meets.modifyState
  rintro _ rfl
  refine ⟨_, observed, {
    reaches := hreaches
    count := by rw [List.length_append, h.count, List.length_singleton]
    targets := ?_
    observes := ?_
    length := h.length }⟩
  · intro request hrequest
    push_cast
    rcases List.mem_append.mp hrequest with hrequest | hrequest
    · have hle := h.targets request hrequest
      omega
    · rw [List.mem_singleton.mp hrequest]
      dsimp only
      omega
  · rw [matching, OrderedMatching.greedy_request hnumber]
    exact h.observes

/-- A set-pose request is registered under its index. -/
theorem meets_callSetPose {pose : PoseTarget F} {entityName : String} :
  Program.Meets env (Followed anchorStampNs k n)
    (callSetPose k (anchorStampNs + k * 100000000, pose) entityName)
    (fun _ => Followed anchorStampNs (k + 1) n) Sound
  := by
  have hI := fun k => @lasting_followed F _ anchorStampNs k n
  refine Program.Meets.bind (Q := fun _ => Followed anchorStampNs k n) (meets_retaining ?_) ?_
  · apply (meets_awaitService henv (hI k)).bind
    intro serviceDeadline
    apply (meets_requireBudget henv (hI k).tracked).bind
    intro _
    apply (meets_checkServiceDeadline henv (hI k).tracked).bind
    intro _
    apply Program.Meets.pure
    exact fun _ hs => hs
  · intro serviceDeadline
    refine Program.Meets.bind (Q := fun _ s => Issued anchorStampNs k n s.node.sequence s) ?_ ?_
    · apply Program.Meets.modifyState
      exact fun s hs => hs.number
    · intro _
      apply Program.Meets.getState_bind
      intro s hs
      have hU := @undisturbed_issued F _ anchorStampNs k n s.node.sequence
      have hstart : ∀ s', s' = s → Issued anchorStampNs k n s.node.sequence s' := by
        rintro _ rfl
        exact hs
      refine Program.Meets.bind (Q := fun _ => Issued anchorStampNs k n s.node.sequence) ?_ ?_
      · refine Program.Meets.weaken hstart (meets_modifyTransaction hU ?_)
        exact fun _ => ⟨rfl, rfl⟩
      · intro _
        refine Program.Meets.bind (Q := fun _ => Issued anchorStampNs k n s.node.sequence)
          (meets_retaining ?_) ?_
        · apply (meets_requireBudget henv hU.tracked).bind
          exact fun _ => meets_checkServiceDeadline henv hU.tracked
        · intro _
          apply (meets_retaining (meets_ask henv hU.tracked)).bind
          intro _
          apply meets_register.bind
          intro _
          apply (meets_ask henv (hI (k + 1)).tracked).bind
          intro now
          apply meets_read
          intro s' _
          apply (meets_awaitResponse henv (hI (k + 1))).bind
          intro _
          apply (meets_retaining (meets_ask henv (hI (k + 1)).tracked)).bind
          intro response
          refine Program.Meets.bind (Q := fun _ => Followed anchorStampNs (k + 1) n)
            (meets_retaining ?_) ?_
          · apply (meets_requireBudget henv (hI (k + 1)).tracked).bind
            exact fun _ => meets_checkServiceDeadline henv (hI (k + 1)).tracked
          · intro _
            split
            · exact meets_retaining (meets_fail (hI (k + 1)).tracked)
            · apply Program.Meets.pure
              exact fun _ hs => hs

omit henv in
/-- A response takes a number. -/
theorem meets_recordResponse {index : Int} {success : Bool} :
  Program.Meets env (Followed anchorStampNs k n) (recordResponse index success)
    (fun _ => Followed anchorStampNs k n) Sound
  := by
  have hI := @lasting_followed F _ anchorStampNs k n
  refine Program.Meets.bind (Q := fun _ => Followed anchorStampNs k n) ?_ ?_
  · apply Program.Meets.modifyState
    rintro s ⟨requests, observed, h⟩
    exact ⟨requests, observed, { h with reaches := h.reaches.other aside_nextSequence }⟩
  · intro _
    apply meets_read
    intro s _
    apply (meets_modifyTransaction hI.toUndisturbed ?_).bind
    · intro _
      apply (meets_rejectIf hI.tracked).bind
      intro _
      refine Program.Meets.bind (Q := fun _ => Followed anchorStampNs k n) ?_ ?_
      · apply Program.Meets.modifyState
        rintro s ⟨requests, observed, h⟩
        exact ⟨requests, observed, { h with }⟩
      · intro _
        apply meets_modifyTransaction hI.toUndisturbed
        exact fun _ => ⟨rfl, rfl⟩
    · exact fun _ => ⟨rfl, rfl⟩

theorem meets_setActorTarget {pose : PoseTarget F} :
  Program.Meets env (Followed anchorStampNs k n)
    (setActorTarget k (anchorStampNs + k * 100000000, pose))
    (fun _ => Followed anchorStampNs (k + 1) n) Sound
  := by
  have hI := @lasting_followed F _ anchorStampNs k n
  apply meets_read
  intro s _
  apply (meets_failIf hI.tracked).bind
  intro _
  refine Program.Meets.bind (Q := fun _ => Followed anchorStampNs k n) ?_ ?_
  · apply Program.Meets.modifyState
    rintro s ⟨requests, observed, h⟩
    exact ⟨requests, observed, { h with }⟩
  · intro _
    apply (meets_modifyTransaction hI.toUndisturbed ?_).bind
    · intro _
      refine Program.Meets.bind (Q := fun _ => Followed anchorStampNs (k + 1) n) ?_ ?_
      · apply (meets_callSetPose henv).attempt
        rintro (_ | (e | text))
        · apply Program.Meets.raise
          exact fun s hs => hs
        · refine Program.Meets.bind (Q := fun _ => Tracked) ?_ ?_
          · refine Program.Meets.weaken ?_ (meets_rejectIf fun _ hs => hs)
            exact fun s hs => hs.2
          · exact fun _ => meets_fail fun _ hs => hs
        · apply Program.Meets.raise
          exact fun s hs => hs
      · exact fun success => meets_recordResponse
    · exact fun _ => ⟨rfl, rfl⟩

omit henv in
/-- Resolving does not raise the error of a reused observation. -/
theorem meets_resolve :
  Program.Meets env (Followed anchorStampNs k n) resolve (fun _ => Followed anchorStampNs k n) Sound
  := by
  apply Program.Meets.getState_bind
  rintro s ⟨requests, observed, h⟩
  have hmatches := h.reaches.matches
  have hdistinct : (matching requests observed).Pairwise fun a b => a.collectorSequence <
      b.collectorSequence :=
    OrderedMatching.pairwise_greedy
  cases hresolve : resolveS3Observations s.node.own.matchedS3ActorPoses s.s3Transactions
    s.usedSequences with
  | mk r rest =>
      obtain ⟨transactions, usedSequences⟩ := rest
      rw [hmatches.matched] at hresolve
      obtain ⟨hr, hlength, hobserves⟩ :=
        @Observes.resolveS3Observations _ _ [] _ _ _ _ _ _ h.observes hdistinct hresolve
      dsimp only
      cases r with
      | error e =>
          refine Program.Meets.bind (Q := fun _ => Tracked) ?_ ?_
          · apply Program.Meets.modifyState
            rintro _ rfl
            exact ⟨requests, observed, h.reaches⟩
          · intro _
            apply Program.Meets.raise
            refine fun s hs => ⟨?_, hs⟩
            rintro rfl
            exact hr rfl
      | ok u =>
          refine Program.Meets.bind (Q := fun _ => Followed anchorStampNs k n) ?_ ?_
          · apply Program.Meets.modifyState
            rintro _ rfl
            exact ⟨requests, observed, { h with
              observes := hobserves rfl
              length := hlength.trans h.length }⟩
          · exact fun _ => Program.Meets.pure fun _ hs => hs

theorem meets_rejectOverdueS3Observations :
  Program.Meets env (Followed anchorStampNs k n) rejectOverdueS3Observations
    (fun _ => Followed anchorStampNs k n) Sound
  := by
  have hI := @lasting_followed F _ anchorStampNs k n
  apply meets_read
  intro s _
  apply Program.Meets.forEach
  intro transaction
  apply meets_read
  intro s _
  split
  · refine Program.Meets.bind (Q := fun _ => Followed anchorStampNs k n) ?_ ?_
    · apply (meets_ask henv hI.tracked).bind
      intro now
      apply meets_read
      intro s _
      refine Program.Meets.bind (Q := fun _ => Followed anchorStampNs k n) ?_ ?_
      · apply Program.Meets.modifyState
        rintro s ⟨requests, observed, h⟩
        exact ⟨requests, observed, { h with }⟩
      · intro _
        apply (meets_ask henv hI.tracked).bind
        exact fun _ => Program.Meets.pure fun _ hs => hs
    · exact fun elapsed => meets_rejectIf hI.tracked
  · exact Program.Meets.pure fun _ hs => hs

theorem meets_awaitTarget {targetStampNs : Int} :
  Program.Meets env (Followed anchorStampNs k n) (awaitTarget targetStampNs)
    (fun _ => Followed anchorStampNs k n) Sound
  := by
  refine Program.Meets.loop (I := fun _ => Followed anchorStampNs k n) ?_ ()
  intro _
  apply meets_read
  intro s _
  split
  · apply (meets_spin henv lasting_followed).bind
    intro _
    apply meets_resolve.bind
    intro _
    apply (meets_rejectOverdueS3Observations henv).bind
    exact fun _ => Program.Meets.pure fun _ hs => hs
  · exact Program.Meets.pure fun _ hs => hs

/-- A target is applied by one transaction and one request. -/
theorem meets_applyTarget :
  Program.Meets env (Followed anchorStampNs k k) (applyTarget anchorStampNs k)
    (fun _ => Followed anchorStampNs (k + 1) (k + 1)) Sound
  := by
  have hI := fun k n => @lasting_followed F _ anchorStampNs k n
  apply (meets_awaitTarget henv).bind
  intro _
  apply meets_resolve.bind
  intro _
  apply (meets_rejectOverdueS3Observations henv).bind
  intro _
  apply meets_read
  intro s _
  apply (meets_failIf (hI k k).tracked).bind
  intro _
  refine Program.Meets.bind (Q := fun _ => Followed anchorStampNs k (k + 1)) ?_ ?_
  · apply Program.Meets.modifyState
    rintro s ⟨requests, observed, h⟩
    refine ⟨requests, observed, { h with observes := ?_, length := ?_ }⟩
    · apply h.observes.concat
      · rw [h.length]
      · rfl
    · rw [List.length_append, h.length, List.length_singleton]
  · intro _
    apply (meets_rejectIf (hI k (k + 1)).tracked).bind
    intro _
    apply (meets_setActorTarget henv).bind
    intro _
    apply meets_read
    intro s _
    apply (meets_rejectIf (hI (k + 1) (k + 1)).tracked).bind
    intro _
    apply meets_resolve.bind
    exact fun _ => meets_rejectOverdueS3Observations henv

theorem meets_awaitObservations :
  Program.Meets env (Followed anchorStampNs k n) awaitObservations
    (fun _ => Followed anchorStampNs k n) Sound
  := by
  have hI := @lasting_followed F _ anchorStampNs k n
  refine Program.Meets.loop (I := fun _ => Followed anchorStampNs k n) ?_ ()
  intro _
  apply meets_read
  intro s _
  split
  case isTrue => exact Program.Meets.pure fun _ hs => hs
  case isFalse =>
    apply meets_resolve.bind
    intro _
    apply (meets_rejectOverdueS3Observations henv).bind
    intro _
    apply meets_read
    intro s _
    split
    case isTrue => exact Program.Meets.pure fun _ hs => hs
    case isFalse =>
      apply (meets_failIf hI.tracked).bind
      intro _
      apply (meets_spin henv hI).bind
      exact fun _ => Program.Meets.pure fun _ hs => hs

/-- The trajectory is finished in a state that has a transaction and a request for every target. -/
theorem meets_runScenario3 :
  Program.Meets env (fun s => s.node.own.s3ObservationRequests = [] ∧
    s.node.own.matchedS3ActorPoses = [] ∧ s.s3Transactions = []) (runScenario3 anchorStampNs)
      (fun pair s => Followed anchorStampNs S3_TARGET_COUNT S3_TARGET_COUNT s ∧
        finished s.s3Transactions = some pair) Sound
  := by
  have hI := @lasting_followed F _ anchorStampNs S3_TARGET_COUNT S3_TARGET_COUNT
  refine Program.Meets.bind (Q := fun _ => Followed anchorStampNs 0 0) ?_ ?_
  · apply Program.Meets.modifyState
    rintro s ⟨hrequests, hmatched, htransactions⟩
    refine ⟨[], [], {
      reaches := .initial hrequests hmatched
      count := rfl
      targets := nofun
      observes := ?_
      length := congrArg List.length htransactions }⟩
    dsimp only
    rw [htransactions]
    exact .empty
  · intro _
    refine Program.Meets.bind (Q := fun _ =>
      Followed anchorStampNs S3_TARGET_COUNT S3_TARGET_COUNT) ?_ ?_
    · refine Program.Meets.forRange (I := fun k => Followed anchorStampNs k k) ?_ S3_TARGET_COUNT
      exact fun k => meets_applyTarget henv
    · intro _
      apply meets_read
      intro s _
      apply (meets_failIf hI.tracked).bind
      intro _
      apply (meets_awaitObservations henv).bind
      intro _
      refine Program.Meets.bind (Q := fun _ =>
        Followed anchorStampNs S3_TARGET_COUNT S3_TARGET_COUNT) ?_ ?_
      · apply Program.Meets.modifyState
        rintro s ⟨requests, observed, h⟩
        exact ⟨requests, observed, { h with }⟩
      · intro _
        apply Program.Meets.getState_bind
        intro s hs
        split
        case h_1 =>
          apply meets_fail
          rintro _ rfl
          apply hI.tracked _ hs
        case h_2 pair hfinished =>
          apply Program.Meets.pure
          rintro _ rfl
          exact ⟨hs, hfinished⟩

end Calls

end Programs

/-! ### The end of the trajectory -/

/-- Of pairs in order, the last one is the maximum. -/
theorem maxPair_eq_getLast? {pairs : List (Int × Nat)}
    (h : pairs.Pairwise fun a b => a.1 ≤ b.1 ∧ a.2 < b.2) :
  maxPair pairs = pairs.getLast?
  := by
  cases pairs with
  | nil => rfl
  | cons pair pairs =>
      rw [maxPair, List.getLast?_cons]
      congr 1
      induction pairs generalizing pair with
      | nil => rfl
      | cons next pairs ih =>
          rw [List.pairwise_cons] at h
          obtain ⟨hstamp, hsequence⟩ := h.1 next List.mem_cons_self
          have hlt : toLex pair < toLex next := by
            rw [Prod.Lex.toLex_lt_toLex]
            rcases hstamp.lt_or_eq with hlt | heq
            · exact .inl hlt
            · exact .inr ⟨heq, hsequence⟩
          rw [List.foldl_cons, if_pos hlt, ih next h.2, List.getLast?_cons]
          rfl

/-- When a trajectory is finished, it is finished by the observation of its last index. -/
theorem Followed.finished [PoseFloat F] {anchorStampNs : Int} {n : Nat} {s : Trajectory F}
    {pair : Int × Nat}
    (h : Followed anchorStampNs (n + 1) (n + 1) s)
    (hfinished : finished s.s3Transactions = some pair) :
  ∃ pose, s.node.own.matchedS3ActorPoses.lookup (n : Int) = some pose
    ∧ pair = (pose.stampNs, pose.collectorSequence)
  := by
  obtain ⟨requests, observed, h⟩ := h
  obtain ⟨pairs, hpairs, hmax⟩ := Option.bind_eq_some_iff.mp hfinished
  rw [Option.mapM_eq_some_iff] at hpairs
  have hmatches := h.reaches.matches
  rw [hmatches.matched, lookup_indexed]
  have hlength : pairs.length = n + 1 := hpairs.length_eq.symm.trans h.length
  have hpair : ∀ (i : Nat) (pair : Int × Nat), pairs[i]? = some pair →
      ∃ pose : PoseEvidence F, (matching requests observed)[i]? = some pose
        ∧ pair = (pose.stampNs, pose.collectorSequence) := by
    intro i pair hi
    obtain ⟨hlt, rfl⟩ := List.getElem?_eq_some_iff.mp hi
    have hlt' := hpairs.length_eq ▸ hlt
    have hpose := hpairs.get hlt' hlt
    obtain ⟨pose, hpose, hpair⟩ := Option.map_eq_some_iff.mp hpose
    exact ⟨pose.toPoseEvidence, h.observes.poses i _ pose (List.getElem?_eq_getElem hlt') hpose,
      hpair.symm⟩
  have hsorted : pairs.Pairwise fun a b => a.1 ≤ b.1 ∧ a.2 < b.2 := by
    rw [List.pairwise_iff_getElem]
    intro i j hi hj hij
    obtain ⟨pose, hpose, hpairI⟩ := hpair i _ (List.getElem?_eq_getElem hi)
    obtain ⟨pose', hpose', hpairJ⟩ := hpair j _ (List.getElem?_eq_getElem hj)
    obtain ⟨hi', rfl⟩ := List.getElem?_eq_some_iff.mp hpose
    obtain ⟨hj', rfl⟩ := List.getElem?_eq_some_iff.mp hpose'
    obtain ⟨hsequence, hstamp⟩ := List.pairwise_iff_getElem.mp
      hmatches.chronological.pairwise_greedy i j hi' hj' hij
    rw [hpairI, hpairJ]
    exact ⟨hstamp, hsequence⟩
  rw [maxPair_eq_getLast? hsorted, List.getLast?_eq_getElem?, hlength] at hmax
  exact hpair n pair hmax

/-- The poses are matched in order, no observation is reused, and the trajectory is finished by the
observation of the last index. -/
theorem observation_matching [PoseFloat F] :
  (∀ (requests : List (Request Nat Int)) (observed : List (PoseEvidence F))
    (node : ScenarioControllerNode F),
      Reaches requests observed node → Assignment requests observed node)
    ∧ ∀ (env : (trajectorySignature F).Environment) (anchorStampNs : Int)
      (s s' : Trajectory F) (fuel : Nat)
      (r : Except TrajectoryRaised (Int × Nat)) (u : List (trajectorySignature F).Interaction),
      (∀ history c, (env history c).result ≠ .error .reusedObservation) →
      s.node.own.s3ObservationRequests = [] → s.node.own.matchedS3ActorPoses = [] →
        s.s3Transactions = [] →
      runScenario3 anchorStampNs env fuel s [] = some (r, s', u) →
      r ≠ .error .reusedObservation
        ∧ (∃ requests observed, Reaches requests observed s'.node)
        ∧ ∀ pair, r = .ok pair → ∃ pose,
          s'.node.own.matchedS3ActorPoses.lookup ((S3_TARGET_COUNT - 1 : Nat) : Int) = some pose
            ∧ pair = (pose.stampNs, pose.collectorSequence)
  := by
  constructor
  · exact fun _ _ _ h => h.matches.assignment
  · intro env anchorStampNs s s' fuel r u henv hrequests hmatched htransactions hrun
    have hend := meets_runScenario3 henv s [] ⟨hrequests, hmatched, htransactions⟩ fuel r s' u hrun
    cases r with
    | error e =>
        obtain ⟨hsound, htracked⟩ := hend
        refine ⟨?_, htracked, nofun⟩
        rintro ⟨⟩
        exact hsound rfl
    | ok pair =>
        obtain ⟨hfollowed, hfinished⟩ := hend
        refine ⟨nofun, lasting_followed.tracked s' hfollowed, ?_⟩
        rintro _ ⟨⟩
        exact @Followed.finished _ _ _ (S3_TARGET_COUNT - 1) _ _ hfollowed hfinished

/-! ### Samples -/

variable {transform : Transform F} {stampNs : Int}

/-- A pose that passes every check. -/
theorem checkPose_eq [PoseFloat F] {node : ScenarioControllerNode F}
    {regressed invalid : String} {yaw : F} (hstamp : stampToNs transform.stamp true = .ok stampNs)
    (hregressed : ¬ node.lastPoseStampNs.any (stampNs < ·) = true)
    (hframe : ¬ (!(["robotest_lab", "world"].contains transform.frameId)
      || !([transform.x, transform.y, transform.z].all PoseFloat.isFinite)) = true)
    (hyaw : quaternionYaw transform.rotation.1 transform.rotation.2.1 transform.rotation.2.2.1
      transform.rotation.2.2.2 = .ok yaw) :
  node.checkPose regressed invalid transform
    = (.ok (stampNs, yaw), { node with lastPoseStampNs := some stampNs })
  := by
  unfold Node.checkPose
  rw [hstamp]
  dsimp only
  rw [if_neg hregressed, if_neg hframe, hyaw]

/-- A pose that no request waits for is retained when it changed and there is room. -/
theorem onActorPose_retained [PoseFloat F] {node : ScenarioControllerNode F}
    {yaw : F} {n : Nat} {evidence : PoseEvidence F}
    (hcheck : node.checkPose "scenario actor pose stamp regressed"
      "actor pose stream contains invalid frame or position" transform
        = (.ok (stampNs, yaw), { node with lastPoseStampNs := some stampNs }))
    (hevidence : ⟨node.sequence + 1, stampNs, transform.x, transform.y, transform.z,
      yaw⟩ = evidence)
    (hindex : matchingIndex node.own (node.sequence + 1) stampNs = none)
    (hchanged : Node.changed evidence node.lastPose = true)
    (hroom : node.actorState.items.length < node.actorState.capacity)
    (hspawned : node.spawnRequestSequence = some n)
    (hanchored : node.own.feedbackAnchorStampNs.isNone = false)
    (hdeleted : node.deleteResponseSequence = none) :
  ∃ buffer poses first, onActorPose transform node
      = (.ok (), { node with
          sequence := node.sequence + 1
          lastPoseStampNs := some stampNs
          actorState := buffer
          poses := poses
          lastPose := some evidence
          own := { node.own with firstSpawnObservation := first } })
    ∧ buffer.items = node.actorState.items ++ [evidence]
    ∧ buffer.capacity = node.actorState.capacity
  := by
  have hcount : ∀ node : ScenarioControllerNode F, node.deleteResponseSequence = none →
      node.countPose evidence = node := by
    intro node hnone
    rw [Node.countPose, hnone, Option.any_none, if_neg Bool.false_ne_true]
  have hspawn : ∀ node : ScenarioControllerNode F, node.spawnRequestSequence = some n →
      node.own.feedbackAnchorStampNs.isNone = false →
      ∃ first, checkSpawn evidence node
        = (.ok (), { node with own := { node.own with firstSpawnObservation := first } }) := by
    intro node hsome hanchored
    unfold checkSpawn
    split
    case h_1 hnone =>
      rw [hnone] at hsome
      cases hsome
    case h_2 =>
      dsimp only
      split
      · refine ⟨some evidence, if_neg ?_⟩
        rw [hanchored, Bool.and_false]
        exact Bool.false_ne_true
      · refine ⟨node.own.firstSpawnObservation, if_neg ?_⟩
        rw [hanchored, Bool.and_false]
        exact Bool.false_ne_true
  obtain ⟨buffer, hadd, hitems, hcapacity⟩ : ∃ buffer,
      node.actorState.add evidence evidence.collectorSequence evidence.stampNs = (.ok (), buffer)
        ∧ buffer.items = node.actorState.items ++ [evidence] ∧
          buffer.capacity = node.actorState.capacity :=
    ⟨_, PrefixBuffer.add_of_lt hroom, rfl, rfl⟩
  obtain ⟨first, hfirst⟩ := hspawn
    { node with
      sequence := node.sequence + 1
      lastPoseStampNs := some stampNs
      actorState := buffer
      poses := node.poses ++ [evidence]
      lastPose := some evidence } hspawned hanchored
  refine ⟨buffer, node.poses ++ [evidence], first, ?_, hitems, hcapacity⟩
  unfold onActorPose
  rw [hcheck]
  dsimp only [Node.nextSequence]
  rw [hindex, Option.elim_none, hevidence]
  dsimp only [Option.isSome_none]
  rw [hchanged, Bool.or_false, Node.retainPose, if_pos rfl]
  dsimp only
  rw [hadd]
  dsimp only
  rw [hcount]
  · exact hfirst
  · exact hdeleted

/-- A pose that a request waits for is matched, also when it is turned away. -/
theorem onActorPose_turnedAway [PoseFloat F] {node : ScenarioControllerNode F}
    {yaw : F} {index : Int} {evidence : PoseEvidence F}
    (hcheck : node.checkPose "scenario actor pose stamp regressed"
      "actor pose stream contains invalid frame or position" transform
        = (.ok (stampNs, yaw), { node with lastPoseStampNs := some stampNs }))
    (hevidence : ⟨node.sequence + 1, stampNs, transform.x, transform.y, transform.z,
      yaw⟩ = evidence)
    (hindex : matchingIndex node.own (node.sequence + 1) stampNs = some index)
    (hfull : node.actorState.capacity ≤ node.actorState.items.length) :
  ∃ e node', onActorPose transform node = (.error e, node')
    ∧ node'.own.matchedS3ActorPoses = node.own.matchedS3ActorPoses ++ [(index, evidence)]
    ∧ node'.actorState.items = node.actorState.items
  := by
  obtain ⟨e, buffer, hadd⟩ := @PrefixBuffer.add_of_le _ _ evidence evidence.collectorSequence
    evidence.stampNs hfull
  unfold onActorPose
  rw [hcheck]
  dsimp only [Node.nextSequence]
  rw [hindex, Option.elim_some, hevidence]
  dsimp only [Option.isSome_some]
  rw [Bool.or_true, Node.retainPose, if_pos rfl]
  dsimp only
  rw [hadd]
  exact ⟨e, _, rfl, rfl, (PrefixBuffer.add_overflow hadd).1⟩

/-- A message with one pose of the actor. -/
theorem receive_pose [PoseFloat F] {node : ScenarioControllerNode F} {transform : Transform F}
    (hlistens : node.fatalError = none)
    (hactor : node.own.document.actorName = some transform.childFrameId)
    (hname : transform.childFrameId ≠ ENTITY_POSE_HEARTBEAT_MODEL) :
  (∀ node', onActorPose transform
    { node with entityPoseMessageCount := node.entityPoseMessageCount + 1 }
      = (.ok (), node') → receive (.entityPoses [transform]) node = node')
    ∧ ∀ e node', onActorPose transform
      { node with entityPoseMessageCount := node.entityPoseMessageCount + 1 }
      = (.error e, node') → Aside node' (receive (.entityPoses [transform]) node)
  := by
  have hon : ∀ next : ScenarioControllerNode F,
      Node.onTransform transform.childFrameId onActorPose transform next =
        onActorPose transform next := by
    intro next
    rw [Node.onTransform, if_neg hname]
    exact if_neg (not_not_intro rfl)
  have hcallback : ∀ result node',
      onActorPose transform { node with entityPoseMessageCount := node.entityPoseMessageCount + 1 }
        = (result, node') → onEntityPoses [transform] node = (result, node') := by
    intro result node' hpose
    unfold onEntityPoses
    rw [hactor]
    dsimp only
    rw [Node.eachTransform, hon, hpose]
    cases result with
    | error e => rfl
    | ok u => rfl
  have hguard : ¬ (node.fatalError.isSome && !node.cleanupMode) = true := by
    rw [hlistens]
    exact Bool.false_ne_true
  rw [receive, Node.guard, if_neg hguard]
  constructor
  · intro node' hpose
    rw [hcallback _ _ hpose]
  · intro e node' hpose
    rw [hcallback _ _ hpose]
    dsimp only
    split
    · apply aside_setCleanupFatal
    · apply aside_setFatal

section Sample

/-- The pose of the actor at the stamp, which has moved since the stamp before. -/
def samplePose (k : Nat) : Transform ℚ where
  stamp := ⟨0, UInt32.ofNat k⟩
  frameId := "world"
  childFrameId := "actor"
  x := k
  y := 3 / 2
  z := 2 / 5
  rotation := (0, 0, 0, 1)

/-- What a pose of the actor is numbered as. -/
def sampleEvidence (sequence k : Nat) : PoseEvidence ℚ := ⟨sequence, k, k, 3 / 2, 2 / 5, 0⟩

def sampleNode : ScenarioControllerNode ℚ where
  clockSeen := true
  currentSimStampNs := 1
  spawnRequestSequence := some 0
  own := {
    document := { scenarioId := 3, actorName := some "actor", actorInitialPose := none }
    ready := true
    feedbackAnchorStampNs := some 1 }

/-! #### A trajectory -/

/-- The first spin delivers a pose of the actor, and then the time is over. -/
def sampleCallees : (trajectorySignature ℚ).Environment
  | history, .monotonic => { result := .ok (if history.length < 24 then (0 : ℚ) else (100 : ℚ)) }
  | _, .spinOnce _ => { callbacks := [.entity (.entityPoses [samplePose 1])], result := .ok () }
  | _, .serviceIsReady => { result := .ok true }
  | _, .callAsync _ _ => { result := .ok () }
  | _, .futureDone => { result := .ok true }
  | _, .futureResult => { result := .ok (some true) }

def sampleTrajectory : Trajectory ℚ where
  node := sampleNode
  wallDeadline := 100
  serviceTimeoutS := 5

/-- The pose is matched to the first request, and misses its target. -/
theorem exists_run :
  ∃ r s' u, runScenario3 1 sampleCallees 1000 sampleTrajectory [] = some (r, s', u)
    ∧ s'.node.own.matchedS3ActorPoses.map
      (fun entry => (entry.1, entry.2.collectorSequence)) = [(0, 3)]
  := by
  have hrun : (runScenario3 1 sampleCallees 1000 sampleTrajectory []).map (fun run =>
      run.2.1.node.own.matchedS3ActorPoses.map fun entry => (entry.1, entry.2.collectorSequence))
      = some [(0, 3)] := by
    decide +kernel
  obtain ⟨⟨r, s', u⟩, hrun, hmatched⟩ := Option.map_eq_some_iff.mp hrun
  exact ⟨r, s', u, hrun, hmatched⟩

/-- The run in which the pose is matched to the first request. -/
theorem observation_matching_sample :
  ∃ r s' u requests observed, runScenario3 1 sampleCallees 1000 sampleTrajectory [] = some (r, s',
    u) ∧ s'.node.own.matchedS3ActorPoses.map (fun entry => (entry.1, entry.2.collectorSequence)) =
      [(0, 3)] ∧ r ≠ .error .reusedObservation ∧ Assignment requests observed s'.node
  := by
  have hcallees : ∀ history c, (sampleCallees history c).result ≠ .error .reusedObservation := by
    intro history c
    cases c with
    | monotonic => nofun
    | spinOnce timeoutS => nofun
    | serviceIsReady => nofun
    | callAsync pose name => nofun
    | futureDone => nofun
    | futureResult => nofun
  obtain ⟨r, s', u, hrun, hmatched⟩ := exists_run
  obtain ⟨hreused, ⟨requests, observed, hreaches⟩, -⟩ :=
    observation_matching.2 sampleCallees 1 sampleTrajectory s' 1000 r u hcallees rfl rfl rfl hrun
  exact ⟨r, s', u, requests, observed, hrun, hmatched, hreused,
    observation_matching.1 _ _ _ hreaches⟩

/-! #### A pose that is turned away -/

/-- The poses at the stamps up to the given one were retained. -/
structure Filled (k : Nat) (node : ScenarioControllerNode ℚ) : Prop where
  listens : node.fatalError = none
  actor : node.own.document.actorName = some "actor"
  spawned : node.spawnRequestSequence = some 0
  anchored : node.own.feedbackAnchorStampNs.isNone = false
  deleted : node.deleteResponseSequence = none
  room : node.actorState.capacity = ACTOR_STATE_CAPACITY
  retained : node.actorState.items.length = k
  numbers : ∀ pose ∈ node.actorState.items, pose.collectorSequence ≤ node.sequence
  stamp : ∀ last, node.lastPoseStampNs = some last → last ≤ k
  pose : ∀ last, node.lastPose = some last → last.x ≤ k

variable {k : Nat} {node : ScenarioControllerNode ℚ}

theorem stampToNs_samplePose (hk : k ≤ 1024) :
  stampToNs (samplePose (k + 1)).stamp true = .ok ((k + 1 : Nat) : Int)
  := by
  have hnanosec : (UInt32.ofNat (k + 1)).toNat = k + 1 := by
    apply UInt32.toNat_ofNat_of_lt'
    change k + 1 < 2 ^ 32
    omega
  have hrange : ¬ (decide ((0 : Int32).toInt < 0) || !(decide ((0 : Int) ≤ ((k + 1 : Nat) : Int))
      && decide (((k + 1 : Nat) : Int) < 1000000000))) = true := by
    rw [decide_eq_true (by omega : (0 : Int) ≤ ((k + 1 : Nat) : Int)),
      decide_eq_true (by omega : ((k + 1 : Nat) : Int) < 1000000000)]
    decide
  have hpositive : ¬ (true && decide (((k + 1 : Nat) : Int) ≤ 0)) = true := by
    rw [decide_eq_false (by omega : ¬ ((k + 1 : Nat) : Int) ≤ 0)]
    decide
  have hvalue : (0 : Int32).toInt * 1000000000 + ((k + 1 : Nat) : Int) =
      ((k + 1 : Nat) : Int) := zero_add _
  unfold stampToNs samplePose
  dsimp only
  rw [hnanosec, hvalue, if_neg hrange, if_neg hpositive]

theorem name_samplePose : (samplePose k).childFrameId ≠ ENTITY_POSE_HEARTBEAT_MODEL
  := by
  change "actor" ≠ "ground_plane"
  decide

theorem frame_samplePose :
  ¬ (!(["robotest_lab", "world"].contains (samplePose k).frameId)
    || !([(samplePose k).x, (samplePose k).y, (samplePose k).z].all PoseFloat.isFinite)) = true
  := by
  have hframe : ["robotest_lab", "world"].contains "world" = true := by decide
  have hfinite : ([(samplePose k).x, (samplePose k).y, (samplePose k).z].all PoseFloat.isFinite) =
      true := rfl
  rw [samplePose, hframe, ← samplePose, hfinite]
  nofun

theorem quaternionYaw_samplePose :
  quaternionYaw (samplePose k).rotation.1 (samplePose k).rotation.2.1 (samplePose k).rotation.2.2.1
    (samplePose k).rotation.2.2.2 = .ok 0
  := by
  have hnorm : ¬ Missions.PyFloat.le (PoseFloat.sqrt (PoseFloat.sum
      ([(0 : ℚ), 0, 0, 1].map fun item => Missions.PyFloat.mul item item)))
      (Missions.PyFloat.ofRat (1 / 1000000000000)) = true := by
    decide +kernel
  unfold quaternionYaw samplePose
  dsimp only
  rw [if_neg (by decide), if_neg hnorm]
  rfl

theorem Filled.checkPose {regressed invalid : String} (h : Filled k node) (hk : k ≤ 1024) :
  node.checkPose regressed invalid (samplePose (k + 1))
    = (.ok (((k + 1 : Nat) : Int), 0), { node with lastPoseStampNs := some ((k + 1 : Nat) : Int) })
  := by
  have hregressed : ¬ node.lastPoseStampNs.any (((k + 1 : Nat) : Int) < ·) = true := by
    rw [Option.any_eq_true]
    rintro ⟨last, hlast, hlt⟩
    have hle := h.stamp last hlast
    have hlt' := of_decide_eq_true hlt
    omega
  exact checkPose_eq (stampToNs_samplePose hk) hregressed frame_samplePose quaternionYaw_samplePose

theorem Filled.changed (h : Filled k node) {sequence : Nat} :
  Node.changed (sampleEvidence sequence (k + 1)) node.lastPose = true
  := by
  cases hlast : node.lastPose with
  | none => rfl
  | some last =>
      have hle := h.pose last hlast
      have hmoved : (1 : ℚ) / 1000000000000 < |((k + 1 : Nat) : ℚ) - last.x| := by
        rw [lt_abs]
        left
        push_cast
        linarith
      rw [Node.changed, List.any_cons, Bool.or_eq_true_iff]
      left
      exact decide_eq_true hmoved

theorem Filled.receive (h : Filled k node) (hk : k < 1024)
    (hrequests : node.own.s3ObservationRequests = []) :
  Filled (k + 1) (receive (.entityPoses [samplePose (k + 1)]) node)
    ∧ (receive (.entityPoses [samplePose (k + 1)]) node).own.s3ObservationRequests = []
    ∧ (receive (.entityPoses [samplePose (k + 1)]) node).own.matchedS3ActorPoses
      = node.own.matchedS3ActorPoses
  := by
  have hcounted :
      Filled k { node with entityPoseMessageCount := node.entityPoseMessageCount + 1 } :=
    { h with }
  have hindex : matchingIndex node.own (node.sequence + 1) ((k + 1 : Nat) : Int) = none := by
    rw [matchingIndex, hrequests, List.mergeSort_nil]
    rfl
  have hroom : node.actorState.items.length < node.actorState.capacity := by
    rw [h.room, h.retained]
    exact hk
  obtain ⟨buffer, poses, first, hpose, hitems, hcapacity⟩ :=
    onActorPose_retained (hcounted.checkPose hk.le) rfl hindex hcounted.changed hroom h.spawned
      h.anchored h.deleted
  rw [(receive_pose h.listens h.actor name_samplePose).1 _ hpose]
  refine ⟨⟨h.listens, h.actor, h.spawned, h.anchored, h.deleted, ?_, ?_, ?_, ?_, ?_⟩,
    hrequests, rfl⟩
  · rw [hcapacity]
    exact h.room
  · rw [hitems, List.length_append, h.retained]
    rfl
  · intro pose hpose
    rw [hitems] at hpose
    rcases List.mem_append.mp hpose with hpose | hpose
    · exact Nat.le_succ_of_le (h.numbers pose hpose)
    · rw [List.mem_singleton.mp hpose]
  · rintro last ⟨⟩
    exact le_refl _
  · rintro last ⟨⟩
    exact le_refl _

/-- The poses are retained until there is no room. -/
theorem exists_filled (hk : k ≤ 1024) :
  ∃ observed node, Reaches [] observed node ∧ Filled k node
    ∧ node.own.s3ObservationRequests = [] ∧ node.own.matchedS3ActorPoses = []
  := by
  induction k with
  | zero =>
      refine ⟨[], sampleNode, .initial rfl rfl, ?_, rfl, rfl⟩
      exact ⟨rfl, rfl, rfl, rfl, rfl, rfl, rfl, nofun, nofun, nofun⟩
  | succ k ih =>
      obtain ⟨observed, node, hreaches, hfilled, hrequests, hmatched⟩ := ih (Nat.le_of_succ_le hk)
      obtain ⟨hnext, hrequests', hmatched'⟩ := hfilled.receive hk hrequests
      exact ⟨_, _, .callback _ hreaches, hnext, hrequests', hmatched'.trans hmatched⟩

/-- When there is no room left, the first request is registered. -/
theorem exists_requested (hk : k = 1024) :
  ∃ n observed node, Reaches [⟨n, ((k + 1 : Nat) : Int)⟩] observed node ∧ Filled k node
    ∧ node.own.matchedS3ActorPoses = []
    ∧ matchingIndex node.own (node.sequence + 1) ((k + 1 : Nat) : Int) = some 0
  := by
  obtain ⟨observed, node, hreaches, hfilled, hrequests, hmatched⟩ := exists_filled hk.le
  have hissued : ∀ pose ∈ observed, pose.collectorSequence < node.sequence + 1 :=
    fun pose hpose => Nat.lt_succ_of_le (hreaches.matches.numbers pose hpose)
  have hfresh : ¬ (node.nextSequence.own.s3ObservationRequests.map Prod.fst).contains 0 = true := by
    rw [Node.nextSequence, hrequests]
    exact Bool.false_ne_true
  refine ⟨node.sequence + 1, observed, _, .request (node.sequence + 1) ((k + 1 : Nat) : Int)
    (.other hreaches aside_nextSequence) (le_refl _) hissued (by rintro _ ⟨⟩) (if_neg hfresh), ?_,
    hmatched, ?_⟩
  · exact { hfilled with
      numbers := fun pose hpose => Nat.le_succ_of_le (hfilled.numbers pose hpose) }
  · have hwaits : (!([] : List Int).contains 0 && decide (node.sequence + 1 < node.sequence + 1 + 1)
        && decide (((k + 1 : Nat) : Int) ≤ ((k + 1 : Nat) : Int))) = true := by
      rw [decide_eq_true (Nat.lt_succ_self _), decide_eq_true (le_refl _)]
      rfl
    rw [matchingIndex]
    dsimp only [Node.nextSequence]
    rw [hrequests, hmatched, List.nil_append, List.mergeSort_singleton]
    exact congrArg (Option.map Prod.fst) (List.find?_cons_of_pos hwaits)

/-- A pose that finds no room is matched, and not retained. -/
theorem matched_not_retained :
  ¬ ∀ (requests : List (Request Nat Int)) (observed : List (PoseEvidence ℚ))
    (node : ScenarioControllerNode ℚ),
    Reaches requests observed node → ∀ (i : Nat) (pose : PoseEvidence ℚ),
      node.own.matchedS3ActorPoses.lookup (i : Int) = some pose → pose ∈ node.actorState.items
  := by
  intro hretained
  obtain ⟨k, hk⟩ : ∃ k, k = 1024 := ⟨_, rfl⟩
  obtain ⟨n, observed, node, hreaches, hfilled, hmatched, hindex⟩ := exists_requested hk
  have hcounted :
      Filled k { node with entityPoseMessageCount := node.entityPoseMessageCount + 1 } :=
    { hfilled with }
  have hfull : node.actorState.capacity ≤ node.actorState.items.length := by
    rw [hfilled.room, hfilled.retained, hk]
    exact le_refl _
  obtain ⟨e, turnedAway, hpose, hmatches, hitems⟩ :=
    onActorPose_turnedAway (hcounted.checkPose hk.le) rfl hindex hfull
  have haside := (@receive_pose _ _ node (samplePose (k + 1)) hfilled.listens hfilled.actor
    name_samplePose).2 _ _ hpose
  have hlookup := hretained _ _ _ (.callback (.entityPoses [samplePose (k + 1)]) hreaches) 0
  rw [haside.matched, haside.items, hmatches, hitems] at hlookup
  dsimp only at hlookup
  rw [hmatched] at hlookup
  have hnumber := hfilled.numbers _ (hlookup _ rfl)
  change node.sequence + 1 ≤ node.sequence at hnumber
  exact absurd hnumber (Nat.not_succ_le_self _)

end Sample

end ScenarioController

end Scenarios

end RobotestLab
