import RobotestLab.Supervisor.Goroutines

/-!
# The protocol of the goroutines

What a goroutine may do next, from what it has done so far. For a child this is the life of its
process groups: a group is proven gone when the status of its leader was received, no signal or
probe failed, and a probe after the status found the group empty. The child is started again only
after the group is proven gone, a failure was committed, a restart was granted and its timer fired.
For all goroutines it is the use of the transition mutex: the transitions and their events happen
while the mutex is held, after the check that they are permitted.

Every goroutine obeys the protocol whatever the other goroutines, the clock and the process system
do (`obeys_goroutine`).
-/

namespace RobotestLab

namespace Supervisor

/-! ### Progress -/

/-- What is known of the process group that was started last. -/
structure Group where
  process : StartedProcess
  reaped : Bool := false
  faulty : Bool := false
  proven : Bool := false

/-- What a goroutine has done. -/
structure Progress where
  begun : Bool := false
  started : Bool := false
  group : Option Group := none
  failed : Bool := false
  granted : Option Duration := none
  fired : Bool := false
  circuitOpen : Bool := false
  incomplete : Bool := false
  holding : Bool := false
  permitted : Bool := false
  announced : Bool := false
  spawned : List String := []
  isSealed : Bool := false
  waited : Bool := false
  joined : Bool := false
  clean : Bool := false
  finished : Bool := false

/-- The group received something from its leader. -/
def Group.receive (g : Group) : Received → Group
  | .status _ => { g with reaped := true }
  | .closed => { g with faulty := true }

/-- The group was probed. -/
def Group.probe (g : Group) (present : Bool) (err : Err) : Group :=
  if err ≠ [] then { g with faulty := true }
  else if present = false ∧ g.reaped = true ∧ g.faulty = false then { g with proven := true }
  else g

namespace Progress

def updateGroup (q : Progress) (f : Group → Group) : Progress := { q with group := q.group.map f }

/-- A process is started, or its start failed. -/
def start (q : Progress) (group : Option Group) : Progress :=
  { q with started := true, group := group, failed := false, granted := none, fired := false }

/-- The goroutine holds the transition mutex. -/
def hold (q : Progress) (permitted : Bool) : Progress :=
  { q with holding := true, permitted := permitted }

/-- The groups that were started are proven gone. -/
def Gone (q : Progress) : Prop := ∀ g ∈ q.group, g.proven = true

/-- The child may be started. -/
structure CanStart (q : Progress) : Prop where
  begun : q.begun = true
  circuit : q.circuitOpen = false
  fired : q.started = true → q.fired = true
  gone : q.Gone

/-- The process group of the child. -/
def Owns (q : Progress) (pgid : Int64) : Prop := ∃ g ∈ q.group, g.process.pid = pgid

/-- The channel of the process group of the child. -/
def Awaits (q : Progress) (wait : Nat) : Prop := ∃ g ∈ q.group, g.process.wait = wait

end Progress

/-- The kinds of the events of transitions. -/
def transitionKinds : List String :=
  ["child_started", "failure_detected", "restart_scheduled", "restart_exhausted"]

/-- The goroutine may record the event, which has a kind and no sequence yet. -/
structure CanRecord (i : Goroutine) (q : Progress) (event : Event) : Prop where
  kind : event.kind ≠ ""
  sequence : event.sequence = 0
  transition : event.kind ∈ transitionKinds → q.permitted = true
  shutdown : event.kind = "shutdown_requested" → i = .run ∧ q.announced = true

/-- The goroutine may perform the action. -/
def AllowedAction (i : Goroutine) (q : Progress) : Action → Prop
  | .start child => i = .child child.name ∧ q.CanStart
  | .selectMonitor wait _ => q.Awaits wait
  | .selectCleanup _ wait _ => ∀ c ∈ wait, q.Awaits c
  | .pollWait wait => ∀ c ∈ wait, q.Awaits c
  | .probe pgid => q.Owns pgid
  | .signal pgid _ => q.Owns pgid
  | .lockTransition => q.holding = false
  | .unlockTransition => q.holding = true
  | .setShuttingDown => i = .run ∧ q.holding = true
  | .commitStart name _ _ _ => i = .child name ∧ q.holding = true ∧ q.circuitOpen = false
  | .commitFailure name _ _ _ _ => i = .child name ∧ q.holding = true
  | .commitRestart name _ _ => i = .child name ∧ q.holding = true
  | .publishIncomplete name _ _ _ => i = .child name
  | .publishStopped name _ => i = .child name
  | .publishHeartbeat name _ _ => i = .child name
  | .append _ event => CanRecord i q event ∧ 0 ≤ event.steadyWallNs
  | .spawn g => i = .run ∧ ∀ name, g = .child name → q.isSealed = false ∧ name ∉ q.spawned
  | .wgWait => i = .waiter ∧ q.begun = true
  | .closeDone => i = .waiter ∧ q.waited = true
  | .wgDone => (∃ name, i = .child name) ∧ q.begun = true ∧ (q.incomplete = true ∨ q.Gone)
  | .returns err => i = .run ∧ (err = [] → q.clean = true)
  | _ => True

/-- The answers that an action may have. A nil channel is never ready. -/
def PossibleAnswer : (a : Action) → a.Answer → Prop
  | .selectCleanup _ none _, .received _ => False
  | .pollWait none, some _ => False
  | _, _ => True

/-- The progress after an action. -/
def Progress.next (q : Progress) : (a : Action) → a.Answer → Progress
  | .begin, _ => { q with begun := true }
  | .start _, r =>
      match r with
      | .ok process => q.start (some { process := process })
      | .error _ => q.start none
  | .selectMonitor _ _, event =>
      match event with
      | .exited r => q.updateGroup (·.receive r)
      | _ => q
  | .selectCleanup _ _ _, event =>
      match event with
      | .received r => q.updateGroup (·.receive r)
      | _ => q
  | .pollWait _, event =>
      match event with
      | some r => q.updateGroup (·.receive r)
      | none => q
  | .probe _, answer => q.updateGroup (·.probe answer.1 answer.2)
  | .signal _ _, r =>
      match r with
      | some err => if err.noSuchProcess then q else
          q.updateGroup fun g => { g with faulty := true }
      | none => q
  | .lockTransition, _ => q.hold false
  | .unlockTransition, _ => { q with holding := false, permitted := false, announced := false }
  | .setShuttingDown, _ => { q with announced := true }
  | .commitStart _ _ _ _, committed => { q with permitted := committed }
  | .commitFailure _ _ _ _ _, r =>
      match r with
      | some _ => { q with permitted := true, failed := true }
      | none => q
  | .commitRestart _ _ _, r =>
      match r with
      | some decision =>
          { q with
            permitted := true
            granted := if q.failed && !decision.exhausted then some decision.delay else none
            circuitOpen := decision.exhausted || q.circuitOpen }
      | none => q
  | .selectRestart delay, event =>
      match event with
      | .fired => { q with fired := q.granted = some delay }
      | .cancelled => q
  | .publishIncomplete _ _ _ _, _ => { q with circuitOpen := true, incomplete := true }
  | .spawn g, _ =>
      match g with
      | .child name => { q with spawned := q.spawned ++ [name] }
      | .waiter => { q with isSealed := true }
      | _ => q
  | .wgWait, _ => { q with waited := true }
  | .selectShutdown _, event =>
      match event with
      | .done => { q with joined := true }
      | .timeout => q
  | .terminalError, err => { q with clean := q.joined && err.isEmpty }
  | .wgDone, _ => { q with finished := true }
  | _, _ => q

/-- The protocol of a goroutine. A child that is done performs no further action. -/
def protocol (i : Goroutine) : Protocol managerActions where
  State := Progress
  Allows q a := q.finished = false ∧ AllowedAction i q a
  Possible := PossibleAnswer
  next := Progress.next

/-- The action is always allowed, and the protocol does not remember it. -/
def Action.isNeutral : Action → Bool
  | .now | .contextErr _ | .cancel | .stat _ | .awaitCancel | .awaitDone => true
  | .beginRun | .endRun | .close | .isShuttingDown | .heartbeatObserved _ | .readySince _ => true
  | .startedAt | .persistenceFailed | .readState | .readReady | .swapReady _ => true
  | .isSaturated | .counts | .writeSnapshot _ | .serve _ => true
  | _ => false

theorem allowedAction_of_isNeutral {a : Action} (ha : a.isNeutral = true) (i : Goroutine)
    (q : Progress) :
  AllowedAction i q a
  := by
  cases a with
  | _ => trivial

theorem next_of_isNeutral {a : Action} (ha : a.isNeutral = true) (q : Progress) (r : a.Answer) :
  q.next a r = q
  := by
  cases a with
  | _ => first | rfl | cases ha

section Rules

open Thread

variable {i : Goroutine} {q : Progress} {β : Type} {a : Action} {f : a.Answer → Proc β}
  {post : β → Progress → Prop}

/-- Perform an allowed action and continue. -/
theorem obeys_perform (hq : q.finished = false) (ha : AllowedAction i q a)
    (h : ∀ r, PossibleAnswer a r → Obeys (protocol i) (f r) (q.next a r) post) :
  Obeys (protocol i) (perform a >>= f) q post
  := ⟨⟨hq, ha⟩, h⟩

/-- Perform a neutral action and continue. -/
theorem obeys_skip (hq : q.finished = false) (ha : a.isNeutral = true)
    (h : ∀ r, Obeys (protocol i) (f r) q post) :
  Obeys (protocol i) (perform a >>= f) q post
  := by
  apply obeys_perform hq (allowedAction_of_isNeutral ha i q)
  intro r _
  rw [next_of_isNeutral ha]
  apply h r

/-- Perform a neutral action at the end. -/
theorem obeys_neutral (hq : q.finished = false) (ha : a.isNeutral = true) :
  Obeys (protocol i) (perform a) q fun _ q' => q' = q
  := by
  refine ⟨⟨hq, allowedAction_of_isNeutral ha i q⟩, ?_⟩
  intro r _
  exact next_of_isNeutral ha q r

/-- Continue after a part that leaves the progress as it is. -/
theorem obeys_keep {α : Type} {t : Proc α} {f : α → Proc β}
    (ht : Obeys (protocol i) t q fun _ q' => q' = q)
    (h : ∀ x, Obeys (protocol i) (f x) q post) :
  Obeys (protocol i) (t >>= f) q post
  := by
  apply Obeys.bind ht
  rintro x q' rfl
  apply h x

theorem obeys_ite {c : Prop} [Decidable c] {t e : Proc β}
    (ht : c → Obeys (protocol i) t q post) (he : ¬ c → Obeys (protocol i) e q post) :
  Obeys (protocol i) (if c then t else e) q post
  := by
  split
  · apply ht ‹_›
  · apply he ‹_›

end Rules

/-! ### Events and readiness -/

section Record

open Thread

variable {i : Goroutine} {q : Progress}

theorem obeys_snapshot (hq : q.finished = false) :
  Obeys (protocol i) snapshot q fun _ q' => q' = q
  := by
  apply obeys_skip hq rfl
  intro view
  apply obeys_skip hq rfl
  intro counts
  apply obeys_skip hq rfl
  intro now
  rfl

theorem obeys_steadyWall (hq : q.finished = false) (now : Time) :
  Obeys (protocol i) (steadyWall now) q fun elapsed q' => 0 ≤ elapsed ∧ q' = q
  := by
  apply obeys_skip hq rfl
  intro startedAt
  apply obeys_ite
  · intro _
    exact ⟨Int64.le_refl 0, rfl⟩
  · intro _
    apply obeys_ite
    · intro _
      apply obeys_skip hq rfl
      intro _
      exact ⟨Int64.le_refl 0, rfl⟩
    · intro hnonneg
      exact ⟨Int64.not_lt.mp hnonneg, rfl⟩

theorem obeys_reportAppend (hq : q.finished = false) (err : Err) :
  Obeys (protocol i) (reportAppend err) q fun _ q' => q' = q
  := by
  apply obeys_ite
  · intro _
    apply obeys_neutral hq rfl
  · intro _
    apply obeys_skip hq rfl
    intro saturated
    apply obeys_ite
    · intro _
      apply obeys_neutral hq rfl
    · intro _
      rfl

theorem obeys_writeStatus (hq : q.finished = false) :
  Obeys (protocol i) writeStatus q fun _ q' => q' = q
  := by
  apply obeys_keep (obeys_snapshot hq)
  intro status
  apply obeys_skip hq rfl
  intro err
  apply obeys_ite
  · intro _
    apply obeys_neutral hq rfl
  · intro _
    rfl

variable {event : Event}

theorem obeys_record (hq : q.finished = false) (he : CanRecord i q event) :
  Obeys (protocol i) (record event) q fun _ q' => q' = q
  := by
  apply obeys_skip hq rfl
  intro now
  apply Obeys.bind (obeys_steadyWall hq now)
  rintro steadyWallNs q' ⟨hsteady, rfl⟩
  apply obeys_perform hq
  · exact ⟨⟨he.kind, he.sequence, he.transition, he.shutdown⟩, hsteady⟩
  · rintro ⟨_, err⟩ _
    apply obeys_keep (obeys_reportAppend hq err)
    intro _
    apply obeys_writeStatus hq

theorem obeys_recordWhen (hq : q.finished = false) (condition : Bool) (he : CanRecord i q event) :
  Obeys (protocol i) (recordWhen condition event) q fun _ q' => q' = q
  := by
  apply obeys_ite
  · intro _
    apply obeys_record hq he
  · intro _
    rfl

/-- An event that is neither a transition nor the shutdown can always be recorded. -/
theorem canRecord_of_notMem (kind : String)
    (h : kind ∉ "" :: "shutdown_requested" :: transitionKinds) (hkind : event.kind = kind)
    (hsequence : event.sequence = 0) :
  CanRecord i q event
  := by
  rw [List.mem_cons, List.mem_cons, not_or, not_or, ← hkind] at h
  obtain ⟨hempty, hshutdown, htransition⟩ := h
  exact ⟨hempty, hsequence, fun hmem => absurd hmem htransition,
    fun heq => absurd heq hshutdown⟩

/-- An event that is not the shutdown can be recorded by a permitted transition. -/
theorem canRecord_of_permitted (kind : String) (hpermitted : q.permitted = true)
    (h : kind ≠ "" ∧ kind ≠ "shutdown_requested") (hkind : event.kind = kind)
    (hsequence : event.sequence = 0) :
  CanRecord i q event
  := by
  rw [← hkind] at h
  exact ⟨h.1, hsequence, fun _ => hpermitted, fun heq => absurd heq h.2⟩

theorem obeys_refreshReadiness (hq : q.finished = false) :
  Obeys (protocol i) refreshReadiness q fun _ q' => q' = q
  := by
  apply obeys_keep (q := q)
  · apply obeys_skip hq rfl
    intro ready
    apply obeys_skip hq rfl
    intro counts
    rfl
  · intro ready
    apply obeys_skip hq rfl
    intro changed
    apply obeys_recordWhen hq
    exact canRecord_of_notMem "readiness_changed" (by decide) rfl rfl

end Record

/-! ### Cleanup of a process group -/

theorem Err.wrap_ne_nil (err : Err) (text : String) :
  err.wrap text ≠ []
  := List.cons_ne_nil _ _

/-- The result of a cleanup is justified by what is known of the group: the leader is reaped, and
nothing failed as long as the cleanup may still become complete. -/
structure Justified (wait : Option Nat) (result : CleanupResult) (g : Group) : Prop where
  reaped : result.leaderReaped = true → g.reaped = true
  sound : result.err = [] → (result.leaderReaped = true ∨ wait ≠ none) → g.faulty = false

/-- The result is justified, and a complete result is proven. -/
def Judged (wait : Option Nat) (result : CleanupResult) (g : Group) : Prop :=
  Justified wait result g ∧ (result.complete = true → g.proven = true)

namespace Justified

variable {wait : Option Nat} {result : CleanupResult} {g : Group}

theorem receive (h : Justified wait result g) (hwait : wait ≠ none) (r : Received) :
  Justified wait (result.receive r) (g.receive r)
  := by
  cases r with
  | status err =>
      constructor
      · intro _
        rfl
      · intro herr _
        exact h.sound herr (Or.inr hwait)
  | closed =>
      constructor
      · exact h.reaped
      · intro herr
        simp [CleanupResult.receive] at herr

/-- An error is added to the result. -/
theorem fail (h : Justified wait result g) (err : Err) (f : Bool)
    (hf : f = true → err ≠ []) :
  Justified wait { result with err := result.err ++ err } { g with faulty := g.faulty || f }
  := by
  constructor
  · exact h.reaped
  · intro herr hwait
    obtain ⟨hresult, rfl⟩ := List.append_eq_nil_iff.mp herr
    have hf : f = false := by
      simpa using hf
    simp [hf, h.sound hresult hwait]

/-- The group is probed. A complete result is proven. -/
theorem probe (h : Justified wait result g) {groupEmpty present : Bool} {err err' : Err}
    (herr : err' = [] → err = [] ∧ groupEmpty = !present) :
  Judged wait { result with groupEmpty := groupEmpty, err := result.err ++ err' }
    (g.probe present err)
  := by
  have hreaped : (g.probe present err).reaped = g.reaped := by
    unfold Group.probe
    split_ifs <;> rfl
  have hfaulty : err = [] → (g.probe present err).faulty = g.faulty := by
    intro herr
    unfold Group.probe
    rw [if_neg (not_not.mpr herr)]
    split_ifs <;> rfl
  refine ⟨⟨?_, ?_⟩, ?_⟩
  · rw [hreaped]
    exact h.reaped
  · intro hnil hwait
    obtain ⟨hresult, hnil⟩ := List.append_eq_nil_iff.mp hnil
    rw [hfaulty (herr hnil).1]
    exact h.sound hresult hwait
  · intro hcomplete
    simp only [CleanupResult.complete, Bool.and_eq_true, List.isEmpty_iff,
      List.append_eq_nil_iff] at hcomplete
    obtain ⟨⟨hleader, hempty⟩, hresult, hnil⟩ := hcomplete
    obtain ⟨rfl, hpresent⟩ := herr hnil
    have hsound := h.sound hresult (Or.inl hleader)
    have hpresent : present = false := by
      simpa [hempty] using hpresent
    simp [Group.probe, hpresent, h.reaped hleader, hsound]

end Justified

/-- An error is added to a judged result. -/
theorem Judged.fail {wait : Option Nat} {result : CleanupResult} {g : Group}
    (h : Judged wait result g) (err : Err) :
  Judged wait { result with err := result.err ++ err } g
  := by
  refine ⟨?_, ?_⟩
  · simpa using h.1.fail err false (fun hf => absurd hf (by decide))
  · intro hcomplete
    apply h.2
    simp only [CleanupResult.complete, Bool.and_eq_true, List.isEmpty_iff,
      List.append_eq_nil_iff] at hcomplete ⊢
    exact ⟨hcomplete.1, hcomplete.2.1⟩

/-- The progress is the given one with some knowledge of the group of the process. -/
def Tracks (q : Progress) (process : StartedProcess) (P : Group → Prop) (q' : Progress) : Prop :=
  ∃ g, q' = { q with group := some g } ∧ g.process = process ∧ P g

section Cleanup

open Thread

variable {i : Goroutine} {q q' : Progress} {process : StartedProcess} {P : Group → Prop}

theorem Tracks.finished (hq : q.finished = false) (h : Tracks q process P q') :
  q'.finished = false
  := by
  obtain ⟨g, rfl, -, -⟩ := h
  exact hq

theorem Tracks.owns (h : Tracks q process P q') :
  q'.Owns process.pid
  := by
  obtain ⟨g, rfl, rfl, -⟩ := h
  exact ⟨g, rfl, rfl⟩

theorem Tracks.awaits (h : Tracks q process P q') :
  q'.Awaits process.wait
  := by
  obtain ⟨g, rfl, rfl, -⟩ := h
  exact ⟨g, rfl, rfl⟩

theorem Tracks.mono {Q : Group → Prop} (h : Tracks q process P q') (hPQ : ∀ g, P g → Q g) :
  Tracks q process Q q'
  := by
  obtain ⟨g, hq', hprocess, hg⟩ := h
  exact ⟨g, hq', hprocess, hPQ g hg⟩

/-- The knowledge of the group changes. -/
theorem Tracks.update {Q : Group → Prop} (h : Tracks q process P q') {f : Group → Group}
    (hf : ∀ g, (f g).process = g.process) (hPQ : ∀ g, P g → Q (f g)) :
  Tracks q process Q (q'.updateGroup f)
  := by
  obtain ⟨g, rfl, hprocess, hg⟩ := h
  exact ⟨f g, rfl, (hf g).trans hprocess, hPQ g hg⟩

theorem Group.process_receive (g : Group) (r : Received) :
  (g.receive r).process = g.process
  := by
  cases r with
  | status err => rfl
  | closed => rfl

theorem Group.process_probe (g : Group) (present : Bool) (err : Err) :
  (g.probe present err).process = g.process
  := by
  unfold Group.probe
  split_ifs <;> rfl

/-- The channel is the one of the process, or it is not received from any more. -/
theorem Tracks.awaits_of_mem {wait : Option Nat} (h : Tracks q process P q')
    (hwait : ∀ c ∈ wait, c = process.wait) :
  ∀ c ∈ wait, q'.Awaits c
  := by
  intro c hc
  rw [hwait c hc]
  apply h.awaits

theorem obeys_signalProcessGroup (hq : q.finished = false) {wait : Option Nat}
    {result : CleanupResult} (signal : Signal) (h : Tracks q process (Justified wait result) q') :
  Obeys (protocol i) (signalProcessGroup process.pid signal) q' fun err =>
    Tracks q process (Justified wait { result with err := result.err ++ err })
  := by
  apply obeys_ite
  · intro _
    apply h.mono
    intro g hg
    simpa using hg.fail [] false (by decide)
  · intro _
    apply obeys_perform (h.finished hq)
    · exact h.owns
    · intro r _
      cases r with
      | none =>
          apply h.mono
          intro g hg
          simpa using hg.fail [] false (by decide)
      | some err =>
          cases hnone : err.noSuchProcess with
          | true =>
              simp only [hnone, if_true, Progress.next]
              apply h.mono
              intro g hg
              simpa using hg.fail [] false (by decide)
          | false =>
              simp only [hnone, Progress.next]
              apply h.update
              · intro g
                rfl
              · intro g hg
                simpa using hg.fail _ true (fun _ => Err.wrap_ne_nil [err.text] _)

/-- A probe establishes that a complete result is proven. -/
theorem obeys_processGroupEmpty (hq : q.finished = false) {wait : Option Nat}
    {result : CleanupResult} (h : Tracks q process (Justified wait result) q') :
  Obeys (protocol i) (processGroupEmpty process.pid) q' fun answer =>
    Tracks q process
      (Judged wait { result with groupEmpty := answer.1, err := result.err ++ answer.2 })
  := by
  apply obeys_perform (h.finished hq)
  · exact h.owns
  · rintro ⟨present, err⟩ _
    apply obeys_ite
    · intro herr
      apply h.update (fun g => g.process_probe present err)
      intro g hg
      exact hg.probe (fun hnil => absurd hnil (Err.wrap_ne_nil err _))
    · intro herr
      apply h.update (fun g => g.process_probe present err)
      intro g hg
      exact hg.probe (fun _ => ⟨not_not.mp herr, rfl⟩)

theorem obeys_probeGroup (hq : q.finished = false) {wait : Option Nat} (progress : CleanupProgress)
    (h : Tracks q process (Justified wait progress.result) q') :
  Obeys (protocol i) (probeGroup process.pid progress) q' fun progress₁ q₁ =>
    Tracks q process (Judged wait progress₁.result) q₁ ∧ progress₁.wait = progress.wait
  := by
  apply Obeys.bind (obeys_processGroupEmpty hq h)
  rintro ⟨groupEmpty, err⟩ q₁ hprobed
  exact ⟨hprobed, rfl⟩

section Wait

variable {wait : Option Nat}

/-- What was received from the channel of the process. -/
theorem Tracks.receive {result : CleanupResult} (h : Tracks q process (Justified wait result) q')
    (hne : wait ≠ none) (r : Received) :
  Tracks q process (Justified wait (result.receive r)) (q'.updateGroup (·.receive r))
  := by
  apply h.update (fun g => g.process_receive r)
  intro g hg
  apply hg.receive hne

/-- The local variables of the wait are justified. The channel is dropped when something was
received from it. -/
def Waiting (q : Progress) (process : StartedProcess) (wait : Option Nat)
    (progress : CleanupProgress) (q' : Progress) : Prop :=
  Tracks q process (Justified wait progress.result) q' ∧
    (progress.wait = none ∨ progress.wait = wait)

variable {progress : CleanupProgress}

/-- The round ends with a judged result, or it leaves a justified one. -/
theorem obeys_settle (h : Tracks q process (Judged wait progress.result) q')
    (hprogress : progress.wait = none ∨ progress.wait = wait) :
  Obeys (protocol i) (settle progress) q'
    (Round (Waiting q process wait) fun result => Tracks q process (Judged wait result))
  := by
  apply obeys_ite
  · intro _
    exact h
  · intro _
    exact ⟨h.mono fun g hg => hg.1, hprogress⟩

variable (hwait : ∀ c ∈ wait, c = process.wait)
include hwait

theorem obeys_receiveFinal (hq : q.finished = false)
    (h : Tracks q process (Justified wait progress.result) q')
    (hprogress : progress.wait = none ∨ progress.wait = wait) :
  Obeys (protocol i) (receiveFinal progress) q' fun progress₁ =>
    Tracks q process (Justified wait progress₁.result)
  := by
  apply obeys_ite
  · rintro ⟨-, hne⟩
    obtain heq := hprogress.resolve_left hne
    apply obeys_perform (h.finished hq)
    · rw [heq]
      exact h.awaits_of_mem hwait
    · intro r _
      cases r with
      | none => exact h
      | some r =>
          rw [heq] at hne
          exact h.receive hne r
  · intro _
    exact h

theorem obeys_waitEmptyRound (hq : q.finished = false) (ctx : Context) (timeout : Duration)
    (h : Tracks q process (Justified wait progress.result) q')
    (hprogress : progress.wait = none ∨ progress.wait = wait) :
  Obeys (protocol i) (waitEmptyRound ctx process.pid timeout progress) q'
    (Round (Waiting q process wait) fun result => Tracks q process (Judged wait result))
  := by
  apply obeys_perform (h.finished hq)
  · intro c hc
    rcases hprogress with hnone | heq
    · rw [hnone] at hc
      cases hc
    · rw [heq] at hc
      exact h.awaits_of_mem hwait c hc
  · intro event hevent
    cases event with
    | received r =>
        have hne : progress.wait ≠ none := by
          intro hnone
          rw [hnone] at hevent
          exact hevent
        rw [hprogress.resolve_left hne] at hne
        apply Obeys.bind (obeys_probeGroup hq _ (h.receive hne r))
        rintro progress₁ q₁ ⟨h₁, hwait₁⟩
        apply obeys_settle h₁
        exact Or.inl hwait₁
    | tick =>
        apply Obeys.bind (obeys_probeGroup hq progress h)
        rintro progress₁ q₁ ⟨h₁, hwait₁⟩
        apply obeys_settle h₁
        rw [hwait₁]
        exact hprogress
    | deadline =>
        apply Obeys.bind (obeys_receiveFinal hwait hq h hprogress)
        intro progress₁ q₁ h₁
        apply Obeys.bind (obeys_probeGroup hq progress₁ h₁)
        rintro progress₂ q₂ ⟨h₂, -⟩
        exact h₂
    | cancelled =>
        apply Obeys.bind (obeys_receiveFinal hwait hq h hprogress)
        intro progress₁ q₁ h₁
        apply Obeys.bind (obeys_probeGroup hq progress₁ h₁)
        rintro progress₂ q₂ ⟨h₂, -⟩
        apply obeys_skip (h₂.finished hq) rfl
        intro err
        apply h₂.mono
        intro g hg
        apply hg.fail

theorem obeys_waitEmpty (hq : q.finished = false) (ctx : Context) (timeout : Duration)
    {result : CleanupResult} (h : Tracks q process (Justified wait result) q') :
  Obeys (protocol i) (waitEmpty ctx process.pid wait result timeout) q' fun result₁ =>
    Tracks q process (Judged wait result₁)
  := by
  apply Obeys.bind (obeys_probeGroup hq _ h)
  rintro progress q₁ ⟨h₁, hprogress⟩
  have hprogress : progress.wait = none ∨ progress.wait = wait := by
    rw [hprogress]
    cases result.leaderReaped with
    | true => exact Or.inl rfl
    | false => exact Or.inr rfl
  apply Obeys.bind (obeys_settle h₁ hprogress)
  intro x q₂ hx
  cases x with
  | inr result' => exact hx
  | inl progress' =>
      apply Obeys.repeatUntil (Waiting q process wait) hx
      rintro progress q₁ ⟨h, hprogress⟩
      exact obeys_waitEmptyRound hwait hq ctx timeout h hprogress

/-- A cleanup that starts from what is known of the group ends with a judged result. -/
theorem obeys_cleanupProcessGroup (hq : q.finished = false) (cfg : Config) (ctx : Context)
    (child : String) {leaderReaped : Bool} (waitErr : Option WaitErr) (mode : CleanupMode)
    (h : Tracks q process (Justified wait { leaderReaped := leaderReaped }) q') :
  Obeys (protocol i) (cleanupProcessGroup cfg ctx child process.pid wait leaderReaped waitErr mode)
    q' fun result => Tracks q process (Judged wait result)
  := by
  apply Obeys.bind (obeys_processGroupEmpty hq h)
  rintro ⟨groupEmpty, err⟩ q₁ h₁
  have h₁ : Tracks q process (Judged wait { leaderReaped, waitErr, groupEmpty, err }) q₁ := by
    apply h₁.mono
    intro g hg
    exact ⟨⟨hg.1.reaped, hg.1.sound⟩, hg.2⟩
  apply obeys_ite
  · intro _
    exact h₁
  · intro _
    apply obeys_keep
    · apply obeys_record (h₁.finished hq)
      cases mode with
      | requested => exact canRecord_of_notMem "child_stop_requested" (by decide) rfl rfl
      | residual => exact canRecord_of_notMem "residual_process_group_detected" (by decide) rfl rfl
    · intro _
      apply Obeys.bind (obeys_signalProcessGroup hq .sigterm (h₁.mono fun g hg => hg.1))
      intro err q₂ h₂
      apply Obeys.bind (obeys_waitEmpty hwait hq ctx cfg.terminationGrace h₂)
      intro result q₃ h₃
      apply obeys_ite
      · intro _
        apply obeys_keep
        · apply obeys_recordWhen (h₃.finished hq)
          exact canRecord_of_notMem "residual_process_group_stopped" (by decide) rfl rfl
        · intro _
          exact h₃
      · intro _
        apply obeys_keep
        · apply obeys_record (h₃.finished hq)
          cases mode with
          | requested => exact canRecord_of_notMem "child_kill_escalated" (by decide) rfl rfl
          | residual =>
              exact canRecord_of_notMem "residual_process_group_kill_escalated" (by decide) rfl rfl
        · intro _
          apply Obeys.bind (obeys_signalProcessGroup hq .sigkill (h₃.mono fun g hg => hg.1))
          intro err q₄ h₄
          apply Obeys.bind (obeys_waitEmpty hwait hq ctx defaultCleanupKillGrace h₄)
          intro result q₅ h₅
          apply h₅.mono
          intro g hg
          rw [List.append_assoc]
          apply hg.fail

end Wait

end Cleanup

/-! ### Transitions of a child -/

/-- The goroutine is not in a transition. -/
structure Idle (q : Progress) : Prop where
  finished : q.finished = false
  holding : q.holding = false
  permitted : q.permitted = false
  announced : q.announced = false

/-- The child may be started again when a restart is granted and its timer fired. -/
structure Restartable (q : Progress) : Prop extends Idle q where
  begun : q.begun = true
  started : q.started = true
  failed : q.failed = true
  circuit : q.circuitOpen = false
  gone : q.Gone

/-- The goroutine of the child may end. -/
structure Ended (q : Progress) : Prop extends Idle q where
  begun : q.begun = true
  settled : q.incomplete = true ∨ q.Gone

section Transitions

open Thread

variable {i : Goroutine} {q q' : Progress} {spec : Child} {β : Type} {post : β → Progress → Prop}

/-- Take the transition mutex and continue. -/
theorem obeys_lock (hq : Idle q) {f : Unit → Proc β}
    (h : Obeys (protocol i) (f ()) (q.hold false) post) :
  Obeys (protocol i) (perform .lockTransition >>= f) q post
  := by
  apply obeys_perform hq.finished
  · exact hq.holding
  · intro _ _
    exact h

/-- Give the transition mutex back and continue. -/
theorem obeys_unlock (hq : Idle q) {permitted : Bool} {f : Unit → Proc β}
    (h : Obeys (protocol i) (f ()) q post) :
  Obeys (protocol i) (perform .unlockTransition >>= f) (q.hold permitted) post
  := by
  apply obeys_perform
  · exact hq.finished
  · rfl
  · intro _ _
    have hunlock : (q.hold permitted).next .unlockTransition () = q := by
      obtain ⟨_, hholding, hpermitted, hannounced⟩ := hq
      cases q
      simp_all [Progress.next, Progress.hold]
    rw [hunlock]
    exact h

theorem Idle.start (hq : Idle q) (group : Option Group) :
  Idle (q.start group)
  := ⟨hq.finished, hq.holding, hq.permitted, hq.announced⟩

theorem obeys_transitionPermitted (hq : q.finished = false) :
  Obeys (protocol i) transitionPermitted q fun _ q' => q' = q
  := by
  apply obeys_skip hq rfl
  intro err
  apply obeys_ite
  · intro _
    rfl
  · intro _
    apply obeys_skip hq rfl
    intro shuttingDown
    rfl

theorem obeys_announceStart (hq : q.finished = false) (pid : Int64) {committed : Bool}
    (hcommitted : q.permitted = committed) :
  Obeys (protocol i) (announceStart spec pid committed) q fun _ q' => q' = q
  := by
  apply obeys_ite
  · intro hpermitted
    apply obeys_keep
    · apply obeys_record hq
      exact canRecord_of_permitted "child_started" (hcommitted.trans hpermitted) (by decide) rfl rfl
    · intro _
      apply obeys_refreshReadiness hq
  · intro _
    rfl

theorem obeys_startChild (hq : Idle q) (hstart : q.CanStart) (restarted : Bool) :
  Obeys (protocol (.child spec.name)) (startChild spec restarted) q fun
    | .error _ => fun q' => q' = q.start none
    | .ok started => fun q' => q' = q.start (some { process := started.process })
  := by
  apply obeys_skip hq.finished rfl
  intro startedAt
  apply obeys_perform hq.finished
  · exact ⟨rfl, hstart⟩
  · intro r _
    cases r with
    | error err => rfl
    | ok process =>
        have hstarted := hq.start (some { process := process })
        apply obeys_lock hstarted
        apply obeys_perform
        · exact hq.finished
        · exact ⟨rfl, rfl, hstart.circuit⟩
        · intro committed _
          apply obeys_keep
          · apply obeys_announceStart
            · exact hq.finished
            · rfl
          · intro _
            apply obeys_unlock hstarted
            rfl

theorem obeys_markFailure (hq : Idle q) (kind : String) (code : Option Int64) (err : Option String)
    (processExited : Bool) :
  Obeys (protocol (.child spec.name)) (markFailure spec kind code err processExited) q
    fun committed q' => q' = { q with failed := committed || q.failed }
  := by
  apply obeys_skip hq.finished rfl
  intro now
  apply obeys_lock hq
  apply obeys_perform
  · exact hq.finished
  · exact ⟨rfl, rfl⟩
  · intro r _
    cases r with
    | none =>
        apply obeys_unlock hq
        rfl
    | some identity =>
        have hfailed : Idle { q with failed := true } :=
          ⟨hq.finished, hq.holding, hq.permitted, hq.announced⟩
        apply obeys_keep
        · apply obeys_record
          · exact hq.finished
          · exact canRecord_of_permitted "failure_detected" rfl (by decide) rfl rfl
        · intro _
          apply obeys_keep
          · apply obeys_refreshReadiness
            exact hq.finished
          · intro _
            apply obeys_unlock hfailed
            rfl

/-- The goroutine decided not to start the child again, and its groups are as they were. -/
def Declined (q q' : Progress) : Prop :=
  Idle q' ∧ q'.group = q.group ∧ q'.begun = q.begun

theorem obeys_waitForBackoff (hq : Idle q) {delay : Duration} (hgranted : q.granted = some delay) :
  Obeys (protocol i) (waitForBackoff delay) q fun result q' =>
    if result.restart then q' = { q with fired := true } else Declined q q'
  := by
  apply obeys_keep (obeys_transitionPermitted hq.finished)
  intro permitted
  apply obeys_ite
  · intro _
    apply obeys_perform hq.finished
    · trivial
    · intro event _
      cases event with
      | cancelled => exact ⟨hq, rfl, rfl⟩
      | fired =>
          have hfired : q.next (.selectRestart delay) .fired = { q with fired := true } := by
            simp [Progress.next, hgranted]
          have hidle : Idle { q with fired := true } :=
            ⟨hq.finished, hq.holding, hq.permitted, hq.announced⟩
          rw [hfired]
          apply obeys_keep (obeys_transitionPermitted hidle.finished)
          intro permitted
          cases permitted with
          | true => rfl
          | false => exact ⟨hidle, rfl, rfl⟩
  · intro _
    exact ⟨hq, rfl, rfl⟩

theorem obeys_waitForRestart (hq : Idle q) (hfailed : q.failed = true)
    (continuousReady : Duration) :
  Obeys (protocol (.child spec.name)) (waitForRestart spec continuousReady) q fun result q' =>
    if result.restart then ∃ delay, q' = { q with granted := some delay, fired := true }
    else Declined q q'
  := by
  apply obeys_skip hq.finished rfl
  intro err
  apply obeys_ite
  · intro _
    exact ⟨hq, rfl, rfl⟩
  · intro _
    apply obeys_skip hq.finished rfl
    intro now
    apply obeys_lock hq
    apply obeys_perform
    · exact hq.finished
    · exact ⟨rfl, rfl⟩
    · intro r _
      cases r with
      | none =>
          apply obeys_unlock hq
          exact ⟨hq, rfl, rfl⟩
      | some decision =>
          -- The decision is remembered while the mutex is held.
          let q₁ : Progress := { q with
            granted := if q.failed && !decision.exhausted then some decision.delay else none
            circuitOpen := decision.exhausted || q.circuitOpen }
          have hq₁ : Idle q₁ := ⟨hq.finished, hq.holding, hq.permitted, hq.announced⟩
          have hdecision : (q.hold false).next (.commitRestart spec.name now continuousReady)
              (some decision) = q₁.hold true := rfl
          rw [hdecision]
          apply obeys_ite
          · intro _
            apply obeys_keep
            · apply obeys_record
              · exact hq.finished
              · exact canRecord_of_permitted "restart_exhausted" rfl (by decide) rfl rfl
            · intro _
              apply obeys_keep
              · apply obeys_refreshReadiness
                exact hq.finished
              · intro _
                apply obeys_unlock hq₁
                exact ⟨hq₁, rfl, rfl⟩
          · intro hexhausted
            rw [Bool.not_eq_true] at hexhausted
            apply obeys_keep
            · apply obeys_record
              · exact hq.finished
              · exact canRecord_of_permitted "restart_scheduled" rfl (by decide) rfl rfl
            · intro _
              apply obeys_unlock hq₁
              have hgranted : q₁ = { q with granted := some decision.delay } := by
                simp [q₁, hexhausted, hfailed]
              rw [hgranted] at hq₁ ⊢
              apply (obeys_waitForBackoff hq₁ rfl).mono
              intro result q' hresult
              split at hresult
              · rename_i hrestart
                rw [if_pos hrestart]
                exact ⟨decision.delay, hresult⟩
              · rename_i hrestart
                rw [if_neg hrestart]
                exact hresult

theorem obeys_restartOrReturn (hq : Restartable q) (continuousReady : Duration) :
  Obeys (protocol (.child spec.name)) (restartOrReturn spec continuousReady) q
    (Round (fun _ q' => Idle q' ∧ q'.CanStart) fun _ => Ended)
  := by
  apply Obeys.bind (obeys_waitForRestart hq.toIdle hq.failed continuousReady)
  intro result q' hresult
  apply obeys_ite
  · intro hrestart
    rw [Bool.and_eq_true] at hrestart
    rw [if_pos hrestart.2] at hresult
    obtain ⟨delay, rfl⟩ := hresult
    exact ⟨⟨hq.finished, hq.holding, hq.permitted, hq.announced⟩,
      hq.begun, hq.circuit, fun _ => rfl, hq.gone⟩
  · intro _
    split at hresult
    · obtain ⟨delay, rfl⟩ := hresult
      exact ⟨⟨hq.finished, hq.holding, hq.permitted, hq.announced⟩, hq.begun, Or.inr hq.gone⟩
    · obtain ⟨hidle, hgroup, hbegun⟩ := hresult
      refine ⟨hidle, hbegun.trans hq.begun, Or.inr ?_⟩
      unfold Progress.Gone
      rw [hgroup]
      exact hq.gone

theorem obeys_markCleanupIncomplete (hq : Idle q) (hbegun : q.begun = true) (pgid : Int64)
    (cleanup : CleanupResult) :
  Obeys (protocol (.child spec.name)) (markCleanupIncomplete spec pgid cleanup) q fun _ => Ended
  := by
  apply obeys_skip hq.finished rfl
  intro now
  apply obeys_perform hq.finished
  · rfl
  · rintro ⟨publishedPid, publishedPgid⟩ _
    have hended : Ended { q with circuitOpen := true, incomplete := true } :=
      ⟨⟨hq.finished, hq.holding, hq.permitted, hq.announced⟩, hbegun, Or.inl rfl⟩
    apply obeys_keep
    · apply obeys_record
      · exact hq.finished
      · exact canRecord_of_notMem "child_group_cleanup_incomplete" (by decide) rfl rfl
    · intro _
      apply (obeys_refreshReadiness hended.finished).mono
      rintro _ q' rfl
      exact hended

theorem obeys_markStopped (hq : q.finished = false) (code : Int64) :
  Obeys (protocol (.child spec.name)) (markStopped spec code) q fun _ q' => q' = q
  := by
  apply obeys_perform hq
  · rfl
  · intro _ _
    apply obeys_keep
    · apply obeys_record hq
      exact canRecord_of_notMem "child_stopped" (by decide) rfl rfl
    · intro _
      apply obeys_refreshReadiness hq

theorem obeys_updateHeartbeat (hq : q.finished = false) (fresh : Bool) (age : Option Duration) :
  Obeys (protocol (.child spec.name)) (updateHeartbeat spec fresh age) q fun _ q' => q' = q
  := by
  apply obeys_perform hq
  · rfl
  · intro changed _
    apply obeys_ite
    · intro _
      apply obeys_keep
      · apply obeys_record hq
        cases fresh with
        | true => exact canRecord_of_notMem "heartbeat_fresh" (by decide) rfl rfl
        | false => exact canRecord_of_notMem "heartbeat_stale" (by decide) rfl rfl
      · intro _
        apply obeys_refreshReadiness hq
    · intro _
      rfl

theorem obeys_continuousReadyDuration (hq : q.finished = false) (now : Time) :
  Obeys (protocol i) (continuousReadyDuration spec now) q fun _ q' => q' = q
  := by
  apply obeys_skip hq rfl
  intro readySince
  apply obeys_ite
  · intro _
    rfl
  · intro _
    rfl

theorem obeys_heartbeatState (hq : q.finished = false) (path : String) (startedAt now : Time)
    (stale : Duration) :
  Obeys (protocol i) (heartbeatState path startedAt now stale) q fun _ q' => q' = q
  := by
  apply obeys_ite
  · intro _
    rfl
  · intro _
    apply obeys_skip hq rfl
    intro modTime
    cases modTime with
    | none => rfl
    | some modTime =>
        apply obeys_ite
        · intro _
          rfl
        · intro _
          rfl

end Transitions

/-! ### The goroutine of a child -/

/-- The process of the child was started, and nothing is known of its group yet. -/
structure Watching (process : StartedProcess) (q : Progress) : Prop extends Idle q where
  begun : q.begun = true
  started : q.started = true
  circuit : q.circuitOpen = false
  group : q.group = some { process := process }

/-- What the monitor of a started child leaves. -/
def Monitored : MonitorResult → Progress → Prop
  | .stop => Ended
  | .failed _ _ => Restartable

section Monitor

open Thread

variable {q q' : Progress} {process : StartedProcess} {spec : Child} {P : Group → Prop}

theorem Tracks.idle (hq : Idle q) (h : Tracks q process P q') :
  Idle q'
  := by
  obtain ⟨g, rfl, -, -⟩ := h
  exact ⟨hq.finished, hq.holding, hq.permitted, hq.announced⟩

theorem Tracks.gone (h : Tracks q process (fun g => g.proven = true) q') :
  q'.Gone
  := by
  obtain ⟨g, rfl, -, hg⟩ := h
  rintro g' hg'
  obtain rfl := Option.some.inj hg'
  exact hg

theorem Tracks.begun (hbegun : q.begun = true) (h : Tracks q process P q') :
  q'.begun = true
  := by
  obtain ⟨g, rfl, -, -⟩ := h
  exact hbegun

theorem Tracks.ended (hq : Idle q) (hbegun : q.begun = true)
    (h : Tracks q process (fun g => g.proven = true) q') :
  Ended q'
  := ⟨h.idle hq, h.begun hbegun, Or.inr h.gone⟩

/-- A failure is committed. -/
theorem Tracks.fail (h : Tracks q process P q') (failed : Bool) :
  Tracks { q with failed := failed || q.failed } process P { q' with failed := failed || q'.failed }
  := by
  obtain ⟨g, rfl, hprocess, hg⟩ := h
  exact ⟨g, rfl, hprocess, hg⟩

theorem Watching.tracks (hq : Watching process q) :
  Tracks q process (Justified (some process.wait) { leaderReaped := false }) q
  := by
  refine ⟨{ process := process }, ?_, rfl, ⟨fun h => absurd h (by decide), fun _ _ => rfl⟩⟩
  rw [← hq.group]

theorem Watching.restartable (hq : Watching process q)
    (h : Tracks { q with failed := true } process (fun g => g.proven = true) q') :
  Restartable q'
  := by
  have hgone := h.gone
  obtain ⟨g, rfl, -, -⟩ := h
  exact ⟨⟨hq.finished, hq.holding, hq.permitted, hq.announced⟩,
    hq.begun, hq.started, rfl, hq.circuit, hgone⟩

theorem obeys_finishCleanup (hq : Idle q) (hbegun : q.begun = true) {wait : Option Nat}
    {cleanup : CleanupResult} (h : Tracks q process (Judged wait cleanup) q') :
  Obeys (protocol (.child spec.name)) (finishCleanup spec process.pid cleanup) q'
    fun complete q₁ =>
      if complete then Tracks q process (fun g => g.proven = true) q₁ else Ended q₁
  := by
  apply obeys_ite
  · intro hcomplete
    apply obeys_keep (obeys_markStopped (h.finished hq.finished) _)
    intro _
    exact h.mono fun g hg => hg.2 hcomplete
  · intro _
    apply Obeys.bind
      (obeys_markCleanupIncomplete (h.idle hq) (h.begun hbegun) process.pid cleanup)
    intro _ q₁ hended
    exact hended

variable (cfg : Config)

theorem obeys_stopStartedChild (hq : Idle q) (hbegun : q.begun = true)
    (h : Tracks q process (Justified (some process.wait) { leaderReaped := false }) q') :
  Obeys (protocol (.child spec.name)) (stopStartedChild cfg spec process) q' Monitored
  := by
  apply Obeys.bind
  · apply obeys_cleanupProcessGroup _ hq.finished cfg .background spec.name none .requested h
    simp
  · intro cleanup q₁ h₁
    apply Obeys.bind (obeys_finishCleanup hq hbegun h₁)
    intro complete q₂ h₂
    split at h₂
    · exact h₂.ended hq hbegun
    · exact h₂

theorem obeys_cleanupUncommitted (hq : Idle q) (hbegun : q.begun = true)
    (h : Tracks q process (Justified (some process.wait) { leaderReaped := false }) q') :
  Obeys (protocol (.child spec.name)) (cleanupUncommittedStartedChild cfg spec process) q'
    fun _ => Ended
  := by
  apply Obeys.bind
  · apply obeys_cleanupProcessGroup _ hq.finished cfg .background spec.name none .requested h
    simp
  · intro cleanup q₁ h₁
    apply obeys_ite
    · intro hcomplete
      exact (h₁.mono fun g hg => hg.2 hcomplete).ended hq hbegun
    · intro _
      apply obeys_markCleanupIncomplete (h₁.idle hq) (h₁.begun hbegun)

theorem obeys_markExit (hq : Idle q) (stopping : Bool) (waitErr : Option WaitErr) :
  Obeys (protocol (.child spec.name)) (markExit spec stopping waitErr) q
    fun committed q₁ => q₁ = { q with failed := committed || q.failed }
  := by
  apply obeys_ite
  · intro _
    rfl
  · intro _
    apply obeys_markFailure hq

/-- The child may be started again only when its failure was committed. -/
theorem obeys_monitorFailed (hq : Watching process q) {committed proceed : Bool}
    {wait : Option Nat} (hproceed : proceed = true → committed = true) {cleanup : CleanupResult}
    (kind : String) (continuousReady : Duration)
    (h : Tracks { q with failed := committed || q.failed } process (Judged wait cleanup) q') :
  Obeys (protocol (.child spec.name))
    (monitorFailed spec process.pid cleanup proceed kind continuousReady) q' Monitored
  := by
  have hidle : Idle { q with failed := committed || q.failed } :=
    ⟨hq.finished, hq.holding, hq.permitted, hq.announced⟩
  apply Obeys.bind (obeys_finishCleanup hidle hq.begun h)
  intro complete q₁ h₁
  apply obeys_ite
  · intro hboth
    rw [Bool.and_eq_true] at hboth
    rw [if_pos hboth.1] at h₁
    apply obeys_skip (h₁.finished hidle.finished) rfl
    intro err
    apply obeys_ite
    · intro _
      exact h₁.ended hidle hq.begun
    · intro _
      rw [hproceed hboth.2] at h₁
      exact hq.restartable h₁
  · intro _
    split at h₁
    · exact h₁.ended hidle hq.begun
    · exact h₁

/-- What is known of the group when its leader ended on its own. -/
theorem Watching.exited (hq : Watching process q) (r : Received) :
  Tracks q process (Justified none { leaderReaped := r.leaderReaped })
    (q.updateGroup (·.receive r))
  := by
  apply hq.tracks.update (fun g => g.process_receive r)
  intro g hg
  have hfresh := hg.sound rfl (Or.inr nofun)
  cases r with
  | status err => exact ⟨fun _ => rfl, fun _ _ => hfresh⟩
  | closed =>
      constructor
      · intro h
        cases h
      · intro _ h
        simp [Received.leaderReaped] at h

theorem obeys_handleExit (hq : Watching process q) (r : Received) :
  Obeys (protocol (.child spec.name)) (handleExit cfg spec process r)
    (q.updateGroup (·.receive r)) Monitored
  := by
  have hexited := hq.exited r
  apply obeys_skip (hexited.finished hq.finished) rfl
  intro now
  apply obeys_keep (obeys_continuousReadyDuration (hexited.finished hq.finished) now)
  intro continuousReady
  apply obeys_skip (hexited.finished hq.finished) rfl
  intro err
  apply Obeys.bind (obeys_markExit (hexited.idle hq.toIdle) _ r.waitErr)
  rintro committed q₁ rfl
  apply Obeys.bind
  · apply obeys_cleanupProcessGroup _ _ cfg .background spec.name r.waitErr .residual
      (hexited.fail committed)
    · simp
    · exact hq.finished
  · intro cleanup q₂ h₂
    apply obeys_monitorFailed hq _ _ _ h₂
    intro hproceed
    rw [Bool.and_eq_true] at hproceed
    exact hproceed.1

theorem obeys_handleStaleHeartbeat (hq : Watching process q) (kind : String)
    (continuousReady : Duration) :
  Obeys (protocol (.child spec.name))
    (handleStaleHeartbeat cfg spec process kind continuousReady) q Monitored
  := by
  apply obeys_skip hq.finished rfl
  intro err
  apply obeys_ite
  · intro _
    apply obeys_stopStartedChild cfg hq.toIdle hq.begun hq.tracks
  · intro _
    apply Obeys.bind (obeys_markFailure hq.toIdle kind none none false)
    rintro committed q₁ rfl
    apply Obeys.bind
    · apply obeys_cleanupProcessGroup _ _ cfg .background spec.name none .requested
        (hq.tracks.fail committed)
      · simp
      · exact hq.finished
    · intro cleanup q₂ h₂
      exact obeys_monitorFailed hq id kind continuousReady h₂

theorem obeys_handleHeartbeat (hq : Watching process q) (startedAt : Time) :
  Obeys (protocol (.child spec.name)) (handleHeartbeat cfg spec process startedAt) q
    (Round (fun _ => Watching process) Monitored)
  := by
  apply obeys_skip hq.finished rfl
  intro now
  apply obeys_keep (obeys_continuousReadyDuration hq.finished now)
  intro continuousReady
  apply obeys_skip hq.finished rfl
  intro err
  apply obeys_ite
  · intro _
    apply Obeys.bind (obeys_stopStartedChild cfg hq.toIdle hq.begun hq.tracks)
    intro result q₁ hresult
    exact hresult
  · intro _
    apply obeys_keep (obeys_heartbeatState hq.finished _ _ _ _)
    rintro ⟨fresh, age⟩
    apply obeys_keep (obeys_updateHeartbeat hq.finished fresh age)
    intro _
    apply obeys_skip hq.finished rfl
    intro observed
    apply obeys_ite
    · intro _
      apply Obeys.bind (obeys_handleStaleHeartbeat cfg hq _ continuousReady)
      intro result q₁ hresult
      exact hresult
    · intro _
      exact hq

theorem obeys_monitorRound (hq : Watching process q) (startedAt : Time) :
  Obeys (protocol (.child spec.name)) (monitorRound cfg spec process startedAt) q
    (Round (fun _ => Watching process) Monitored)
  := by
  apply obeys_perform hq.finished
  · exact hq.tracks.awaits
  · intro event _
    cases event with
    | exited r =>
        apply Obeys.bind (obeys_handleExit cfg hq r)
        intro result q₁ hresult
        exact hresult
    | heartbeat => exact obeys_handleHeartbeat cfg hq startedAt
    | cancelled =>
        apply obeys_skip hq.finished rfl
        intro now
        apply obeys_keep (obeys_continuousReadyDuration hq.finished now)
        intro _
        apply Obeys.bind (obeys_stopStartedChild cfg hq.toIdle hq.begun hq.tracks)
        intro result q₁ hresult
        exact hresult

theorem obeys_monitorStartedChild (hq : Watching process q) (startedAt : Time) :
  Obeys (protocol (.child spec.name)) (monitorStartedChild cfg spec startedAt process) q Monitored
  := by
  apply Obeys.repeatUntil (fun _ => Watching process) hq
  intro _ q₁ hq₁
  apply obeys_monitorRound cfg hq₁

theorem obeys_manageRound (hq : Idle q) (hstart : q.CanStart) (firstStart : Bool) :
  Obeys (protocol (.child spec.name)) (manageRound cfg spec firstStart) q
    (Round (fun _ q' => Idle q' ∧ q'.CanStart) fun _ => Ended)
  := by
  apply obeys_skip hq.finished rfl
  intro err
  apply obeys_ite
  · intro _
    exact ⟨hq, hstart.begun, Or.inr hstart.gone⟩
  · intro _
    apply Obeys.bind (obeys_startChild hq hstart _)
    intro r q₁ hr
    cases r with
    | error err =>
        obtain rfl : q₁ = q.start none := hr
        have hfailed := hq.start none
        have hgone : (q.start none).Gone := nofun
        apply Obeys.bind (obeys_markFailure hfailed "start_failed" none (some err.text) true)
        rintro committed q₂ rfl
        apply obeys_ite
        · rintro rfl
          apply obeys_restartOrReturn
          exact ⟨⟨hq.finished, hq.holding, hq.permitted, hq.announced⟩,
            hstart.begun, rfl, rfl, hstart.circuit, hgone⟩
        · intro _
          exact ⟨⟨hq.finished, hq.holding, hq.permitted, hq.announced⟩,
            hstart.begun, Or.inr hgone⟩
    | ok started =>
        obtain rfl : q₁ = q.start (some { process := started.process }) := hr
        have hwatching : Watching started.process
            (q.start (some { process := started.process })) :=
          ⟨hq.start _, hstart.begun, rfl, hstart.circuit, rfl⟩
        apply obeys_ite
        · intro _
          apply Obeys.bind (obeys_monitorStartedChild cfg hwatching started.startedAt)
          intro result q₂ hresult
          cases result with
          | stop => exact hresult
          | failed kind continuousReady => exact obeys_restartOrReturn hresult continuousReady
        · intro _
          apply Obeys.bind (obeys_cleanupUncommitted cfg hwatching.toIdle hwatching.begun
            hwatching.tracks)
          intro _ q₂ hended
          exact hended

theorem obeys_manageChild (hq : Idle q) (hstart : q.CanStart) :
  Obeys (protocol (.child spec.name)) (manageChild cfg spec) q fun _ => Ended
  := by
  apply Obeys.repeatUntil (fun _ (q' : Progress) => Idle q' ∧ q'.CanStart) ⟨hq, hstart⟩
  rintro firstStart q₁ ⟨hq₁, hstart₁⟩
  apply obeys_manageRound cfg hq₁ hstart₁

end Monitor

/-! ### All goroutines -/

section Run

open Thread

variable {q : Progress}

theorem obeys_beginShutdown (hq : Idle q) :
  Obeys (protocol .run) beginShutdown q fun _ q' => q' = q
  := by
  apply obeys_lock hq
  apply obeys_perform
  · exact hq.finished
  · exact ⟨rfl, rfl⟩
  · intro _ _
    apply obeys_keep
    · apply obeys_record
      · exact hq.finished
      · exact ⟨by decide, rfl, fun hkind => absurd hkind (by decide), fun _ => ⟨rfl, rfl⟩⟩
    · intro _
      refine ⟨⟨hq.finished, rfl⟩, ?_⟩
      intro _ _
      obtain ⟨_, hholding, hpermitted, hannounced⟩ := hq
      cases q
      simp_all [Obeys, protocol, Progress.next, Progress.hold]

/-- The children are started one by one. -/
theorem obeys_spawnChildren (hq : Idle q) (hsealed : q.isSealed = false) {children : List Child}
    (hnodup : (q.spawned ++ children.map Child.name).Nodup) :
  Obeys (protocol .run) (spawnChildren children) q fun _ q' =>
    q' = { q with spawned := q.spawned ++ children.map Child.name }
  := by
  induction children generalizing q with
  | nil =>
      rw [List.map_nil, List.append_nil]
      rfl
  | cons spec children ih =>
      rw [List.map_cons] at hnodup
      have hfresh : spec.name ∉ q.spawned := by
        intro hmem
        exact (List.nodup_append.mp hnodup).2.2 _ hmem _ List.mem_cons_self rfl
      apply obeys_perform hq.finished
      · refine ⟨rfl, ?_⟩
        rintro name hname
        obtain rfl := Goroutine.child.inj hname
        exact ⟨hsealed, hfresh⟩
      · intro _ _
        have hrest : Idle (q.next (.spawn (.child spec.name)) ()) :=
          ⟨hq.finished, hq.holding, hq.permitted, hq.announced⟩
        apply (ih hrest hsealed ?_).mono
        · rintro _ q' rfl
          simp only [Progress.next, List.append_assoc, List.singleton_append]
          rfl
        · simpa [Progress.next] using hnodup

/-- `Run` returns without an error only after all goroutines ended and none of them left one. -/
theorem obeys_run (cfg : Config) :
  Obeys (protocol .run) (run cfg) {} fun _ _ => True
  := by
  have hidle : Idle {} := ⟨rfl, rfl, rfl, rfl⟩
  apply obeys_skip rfl rfl
  intro err
  apply obeys_ite
  · intro herr
    refine ⟨⟨rfl, rfl, fun hnil => absurd hnil herr⟩, ?_⟩
    intro _ _
    trivial
  · intro _
    apply obeys_keep
    · apply obeys_record rfl
      exact canRecord_of_notMem "supervisor_started" (by decide) rfl rfl
    · intro _
      apply Obeys.bind (obeys_spawnChildren hidle rfl cfg.names_nodup)
      rintro _ q rfl
      apply obeys_skip rfl rfl
      intro _
      apply obeys_keep (obeys_beginShutdown ⟨rfl, rfl, rfl, rfl⟩)
      intro _
      apply obeys_perform rfl
      · exact ⟨rfl, nofun⟩
      · intro _ _
        apply obeys_perform rfl
        · trivial
        · intro event _
          cases event with
          | done =>
              apply obeys_keep
              · apply obeys_record rfl
                exact canRecord_of_notMem "supervisor_stopped" (by decide) rfl rfl
              · intro _
                apply obeys_skip rfl rfl
                intro _
                apply obeys_perform rfl
                · trivial
                · intro err _
                  refine ⟨⟨rfl, rfl, ?_⟩, ?_⟩
                  · rintro rfl
                    rfl
                  · intro _ _
                    trivial
          | timeout =>
              apply obeys_keep
              · apply obeys_record rfl
                exact canRecord_of_notMem "shutdown_timeout" (by decide) rfl rfl
              · intro _
                apply obeys_perform rfl
                · exact ⟨rfl, nofun⟩
                · intro _ _
                  apply obeys_perform rfl
                  · trivial
                  · intro err _
                    refine ⟨⟨rfl, rfl, nofun⟩, ?_⟩
                    intro _ _
                    trivial

theorem obeys_childGoroutine (cfg : Config) (name : String) :
  Obeys (protocol (.child name)) (childGoroutine cfg name) {} fun _ _ => True
  := by
  unfold childGoroutine
  cases hspec : cfg.children.find? fun spec => spec.name = name with
  | none => trivial
  | some spec =>
      obtain rfl : spec.name = name := by
        simpa using List.find?_some hspec
      apply obeys_perform rfl
      · trivial
      · intro _ _
        have hstart : Progress.CanStart { begun := true } := ⟨rfl, rfl, nofun, nofun⟩
        apply Obeys.bind (obeys_manageChild cfg ⟨rfl, rfl, rfl, rfl⟩ hstart)
        intro _ q hended
        refine ⟨⟨hended.finished, ⟨spec.name, rfl⟩, hended.begun, hended.settled⟩, ?_⟩
        intro _ _
        trivial

/-- Every goroutine obeys the protocol. -/
theorem obeys_goroutine (cfg : Config) (i : Goroutine) :
  Obeys (protocol i) (goroutine cfg i) {} fun _ _ => True
  := by
  cases i with
  | caller => exact (obeys_neutral rfl rfl).mono fun _ _ _ => trivial
  | closer =>
      apply obeys_skip rfl rfl
      intro _
      trivial
  | run => exact obeys_run cfg
  | waiter =>
      apply obeys_perform rfl
      · trivial
      · intro _ _
        apply obeys_perform rfl
        · exact ⟨rfl, rfl⟩
        · intro _ _
          refine ⟨⟨rfl, rfl, rfl⟩, ?_⟩
          intro _ _
          trivial
  | late =>
      apply obeys_perform rfl
      · trivial
      · intro _ _
        apply obeys_skip rfl rfl
        intro _
        exact (obeys_neutral rfl rfl).mono fun _ _ _ => trivial
  | child name => exact obeys_childGoroutine cfg name
  | observer n =>
      apply obeys_keep (obeys_snapshot rfl)
      intro status
      exact (obeys_neutral rfl rfl).mono fun _ _ _ => trivial

end Run

end Supervisor

end RobotestLab
