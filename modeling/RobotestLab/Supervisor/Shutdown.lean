import RobotestLab.Supervisor.Interleaving
import RobotestLab.Supervisor.StoreInvariant

/-!
# The shutdown and the transitions

The shutdown is one transition among the others: it takes the transition mutex. So every transition
comes before it, with the events it records, or is not permitted any more. After the shutdown
nothing is started, no failure is committed and no restart is counted.
-/

namespace RobotestLab

namespace Supervisor

/-! ### Sequences -/

/-- The event that an action recorded, as the event store returned it. -/
def recordedEvent : Performed managerActions Goroutine → Option Event
  | ⟨_, .append _ _, (event, _)⟩ => some event
  | _ => none

/-- The events that were recorded, in the order of their sequences. -/
def recorded (history : History) : List Event := history.filterMap recordedEvent

/-- An append returns the event with its stamp, unless there is no sequence left. -/
theorem append_returns {store : EventStore} {now : Utc} {event : Event} {d d' : Directory}
    {u : List ioSignature.Interaction} {appended : Appended}
    (h : Program.Runs (append store now event) d u (.ok appended) d') :
  (store.sequence = greatestSequence ∧ appended.event = event ∨
    store.sequence ≠ greatestSequence ∧
      appended.event = stampEvent event (store.sequence + 1) now) ∧
    store.sequence.toNat ≤ appended.store.sequence.toNat
  := by
  unfold append at h
  split at h
  · rename_i hfull
    obtain ⟨h, -, -⟩ := Program.runs_pure h
    obtain rfl := Except.ok.inj h
    exact ⟨Or.inl ⟨hfull, rfl⟩, Nat.le_refl _⟩
  · rename_i hroom
    have hnext : store.sequence.toNat ≤ (store.sequence + 1).toNat := by
      rw [toNat_next hroom]
      apply Nat.le_succ
    simp only at h
    split at h
    · split at h
      · obtain ⟨h, -, -⟩ := Program.runs_pure h
        obtain rfl := Except.ok.inj h
        exact ⟨Or.inr ⟨hroom, rfl⟩, Nat.le_refl _⟩
      · obtain ⟨err, d₁, u₁, u₂, rfl, -, hrest⟩ := Program.runs_bind_ok h
        obtain ⟨h, -, -⟩ := Program.runs_pure hrest
        obtain rfl := Except.ok.inj h
        exact ⟨Or.inr ⟨hroom, rfl⟩, hnext⟩
    · obtain ⟨err, d₁, u₁, u₂, rfl, -, hrest⟩ := Program.runs_bind_ok h
      split at hrest
      · obtain ⟨y, -, hy⟩ := runs_failReservedAppend hrest
        cases y with
        | error e => cases hy
        | ok err =>
            obtain rfl := Except.ok.inj hy
            exact ⟨Or.inr ⟨hroom, rfl⟩, hnext⟩
      · have houtcome := runs_writeRecord hrest
        generalize hr : (Except.ok appended : Except Crash Appended) = r at houtcome
        cases houtcome with
        | stopped => cases hr
        | @failed d₁ d' v w cause y =>
            cases y with
            | error e => cases hr
            | ok err =>
                obtain rfl := Except.ok.inj hr
                exact ⟨Or.inr ⟨hroom, rfl⟩, hnext⟩
        | written =>
            obtain rfl := Except.ok.inj hr
            exact ⟨Or.inr ⟨hroom, rfl⟩, hnext⟩

/-- An append gives the next sequence to the event, unless there is none left. -/
theorem append_sequence {store : EventStore} {now : Utc} {event : Event} {d d' : Directory}
    {u : List ioSignature.Interaction} {appended : Appended}
    (h : Program.Runs (append store now event) d u (.ok appended) d') :
  appended.event.kind = event.kind ∧
    store.sequence.toNat ≤ appended.store.sequence.toNat ∧
    (appended.event.sequence = event.sequence ∨
      appended.event.sequence.toNat = store.sequence.toNat + 1)
  := by
  obtain ⟨⟨-, hevent⟩ | ⟨hroom, hevent⟩, hle⟩ := append_returns h
  · rw [hevent]
    exact ⟨rfl, hle, Or.inl rfl⟩
  · rw [hevent]
    exact ⟨rfl, hle, Or.inr (toNat_next hroom)⟩

/-! ### Transitions before the shutdown -/

section Permitted

variable {i : Goroutine} {a : Action} {r : a.Answer} {w w' : World} {q : Progress}

/-- The action commits a transition. -/
def CommitsTransition : (a : Action) → a.Answer → Prop
  | .commitStart _ _ _ _, committed => committed = true
  | .commitFailure _ _ _ _ _, identity => identity.isSome = true
  | .commitRestart _ _ _, decision => decision.isSome = true
  | _, _ => False

/-- A goroutine is permitted to record a transition by the commit of one. -/
theorem permitted_next (h : (q.next a r).permitted = true) :
  q.permitted = true ∧ a ≠ .lockTransition ∧ a ≠ .unlockTransition ∨ CommitsTransition a r
  := by
  cases a with
  | _ =>
      unfold Progress.next at h
      grind [CommitsTransition, Progress.updateGroup, Progress.start, Progress.hold]

/-- Only the shutdown itself is announced. -/
theorem announced_next (hset : a ≠ .setShuttingDown) (h : (q.next a r).announced = true) :
  q.announced = true
  := by
  cases a with
  | setShuttingDown => cases hset rfl
  | _ =>
      unfold Progress.next at h
      grind [Progress.updateGroup, Progress.start, Progress.hold]

/-- A transition is committed only before the shutdown. -/
theorem not_shuttingDown_of_commits (h : managerSemantics i a w r w')
    (hcommits : CommitsTransition a r) :
  w.shuttingDown = false
  := by
  obtain ⟨c, h⟩ := h
  cases a with
  | commitStart _ _ _ _ | commitFailure _ _ _ _ _ | commitRestart _ _ _ =>
      simp only [World.perform] at h
      grind [CommitsTransition, World.transitionPermittedLocked]
  | _ => cases hcommits

/-- A transition is committed by a child that holds the mutex. -/
theorem AllowedAction.of_commits (h : AllowedAction i q a) (hcommits : CommitsTransition a r) :
  (∃ name, i = .child name) ∧ q.holding = true
  := by
  cases a with
  | commitStart name _ _ _ => exact ⟨⟨name, h.1⟩, h.2.1⟩
  | commitFailure name _ _ _ _ => exact ⟨⟨name, h.1⟩, h.2⟩
  | commitRestart name _ _ => exact ⟨⟨name, h.1⟩, h.2⟩
  | _ => cases hcommits

end Permitted

section Runs

variable {cfg : Config} {store : EventStore} {directory : Directory} {history : History}
  {p : Pool managerActions Goroutine World}

/-- A goroutine that may record a transition is a child that holds the mutex, and there is no
shutdown yet. -/
theorem Manages.permitted (h : Manages cfg store directory history p) {i : Goroutine}
    (hi : (progress i history).permitted = true) :
  (∃ name, i = .child name) ∧ (progress i history).holding = true ∧ p.shared.shuttingDown = false
  := by
  apply Manages.invariant (fun history w => ∀ i, (progress i history).permitted = true →
    (∃ name, i = .child name) ∧ (progress i history).holding = true ∧ w.shuttingDown = false) _ _ h
    i hi
  · intro i hi
    cases hi
  · intro history p j a r w hmanages hinv _ hallowed hexec i hi
    have hexec' := hexec
    obtain ⟨c, hperform⟩ := hexec
    rw [progress_snoc] at hi ⊢
    by_cases hset : a = .setShuttingDown
    · -- The shutdown holds the mutex, so no child does.
      subst hset
      obtain ⟨rfl, hholding⟩ := hallowed
      split at hi
      · rename_i hji
        subst hji
        obtain ⟨⟨name, hname⟩, -⟩ := hinv .run hi
        cases hname
      · rename_i hji
        obtain ⟨-, hi, -⟩ := hinv i hi
        have hholder := (hmanages.mutex hholding).symm.trans (hmanages.mutex hi)
        exact absurd (Option.some.inj hholder) hji
    · rw [shuttingDown_perform hperform hset]
      split at hi
      · rename_i hji
        subst hji
        rw [if_pos rfl]
        rcases permitted_next hi with ⟨hpermitted, hlock, hunlock⟩ | hcommits
        · rw [holding_next hlock hunlock]
          exact hinv j hpermitted
        · obtain ⟨hchild, hholding⟩ := hallowed.of_commits hcommits
          refine ⟨hchild, ?_, not_shuttingDown_of_commits hexec' hcommits⟩
          rw [holding_next, hholding]
          · rintro rfl
            cases hcommits
          · rintro rfl
            cases hcommits
      · rename_i hji
        rw [if_neg hji]
        exact hinv i hi

/-- A goroutine that may record the shutdown has set it. -/
theorem Manages.announced (h : Manages cfg store directory history p) {i : Goroutine}
    (hi : (progress i history).announced = true) :
  p.shared.shuttingDown = true
  := by
  apply Manages.invariant (fun history w =>
    ∀ i, (progress i history).announced = true → w.shuttingDown = true) _ _ h i hi
  · intro i hi
    cases hi
  · rintro history p j a r w - hinv - - ⟨c, hperform⟩ i hi
    by_cases hset : a = .setShuttingDown
    · subst hset
      simp only [World.perform] at hperform
      grind
    · rw [shuttingDown_perform hperform hset]
      rw [progress_snoc] at hi
      have hbefore : (progress i history).announced = true := by
        split at hi
        · exact announced_next hset hi
        · exact hi
      exact hinv i hbefore

/-- What is known of the recorded events: their sequences are used up, the shutdown is set when it
is recorded, and no transition has a sequence after the one of the shutdown. -/
structure Ordered (history : History) (w : World) : Prop where
  bounded : ∀ event ∈ recorded history, event.sequence.toNat ≤ w.store.sequence.toNat + 1
  announced : ∀ event ∈ recorded history, event.kind = "shutdown_requested" →
    w.shuttingDown = true
  ordered : ∀ event ∈ recorded history, ∀ shutdown ∈ recorded history,
    event.kind ∈ transitionKinds → shutdown.kind = "shutdown_requested" →
    shutdown.sequence ≠ 0 → event.sequence ≤ shutdown.sequence

/-- An action that records nothing keeps the order. -/
theorem Ordered.skip {w w' : World} {e : Performed managerActions Goroutine}
    (h : Ordered history w) (he : recordedEvent e = none) (hstore : w'.store = w.store)
    (hshutdown : w.shuttingDown = true → w'.shuttingDown = true) :
  Ordered (history ++ [e]) w'
  := by
  have hrecorded : recorded (history ++ [e]) = recorded history := by
    simp [recorded, List.filterMap_append, he]
  constructor
  · rw [hrecorded, hstore]
    exact h.bounded
  · rw [hrecorded]
    intro event hevent hkind
    exact hshutdown (h.announced event hevent hkind)
  · rw [hrecorded]
    exact h.ordered

/-- A recorded event keeps the order. -/
theorem Ordered.record {w w' : World} {e : Performed managerActions Goroutine} {event : Event}
    (h : Ordered history w) (he : recordedEvent e = some event)
    (hsequence : event.sequence = 0 ∨ event.sequence.toNat = w.store.sequence.toNat + 1)
    (hstore : w.store.sequence.toNat ≤ w'.store.sequence.toNat)
    (hshuttingDown : w'.shuttingDown = w.shuttingDown)
    (htransition : event.kind ∈ transitionKinds → w.shuttingDown = false)
    (hshutdown : event.kind = "shutdown_requested" → w.shuttingDown = true) :
  Ordered (history ++ [e]) w'
  := by
  have hmem : ∀ x, x ∈ recorded (history ++ [e]) ↔ x ∈ recorded history ∨ x = event := by
    intro x
    simp [recorded, List.filterMap_append, he]
  constructor
  · intro x hx
    rcases (hmem x).mp hx with hx | rfl
    · exact (h.bounded x hx).trans (Nat.succ_le_succ hstore)
    · rcases hsequence with hzero | hnext
      · rw [hzero]
        exact Nat.zero_le _
      · rw [hnext]
        exact Nat.succ_le_succ hstore
  · intro x hx hkind
    rw [hshuttingDown]
    rcases (hmem x).mp hx with hx | rfl
    · exact h.announced x hx hkind
    · exact hshutdown hkind
  · intro x hx s hs hxkind hskind hne
    rcases (hmem x).mp hx with hx | rfl
    · rcases (hmem s).mp hs with hs | rfl
      · exact h.ordered x hx s hs hxkind hskind hne
      · rw [UInt64.le_iff_toNat_le, hsequence.resolve_left hne]
        exact h.bounded x hx
    · rcases (hmem s).mp hs with hs | rfl
      · have hset := h.announced s hs hskind
        rw [htransition hxkind] at hset
        cases hset
      · exact UInt64.le_refl _

theorem Manages.ordered (h : Manages cfg store directory history p) :
  Ordered history p.shared
  := by
  apply Manages.invariant Ordered _ _ h
  · exact ⟨nofun, nofun, nofun⟩
  · intro history p i a r w hmanages hinv _ hallowed hexec
    obtain ⟨c, hperform⟩ := hexec
    by_cases happend : ∃ now event, a = .append now event
    · obtain ⟨now, event, rfl⟩ := happend
      have hshuttingDown := shuttingDown_perform hperform nofun
      simp only [World.perform] at hperform
      split at hperform
      · rename_i appended directory u hrun
        obtain ⟨rfl, rfl⟩ := Prod.mk.inj (Option.some.inj hperform)
        obtain ⟨hkind, hstore, hsequence⟩ := append_sequence ⟨c, 0, [], hrun⟩
        rw [hallowed.1.sequence] at hsequence
        apply hinv.record rfl hsequence hstore hshuttingDown
        · rw [hkind]
          intro hmem
          exact (hmanages.permitted (hallowed.1.transition hmem)).2.2
        · rw [hkind]
          intro hmem
          exact hmanages.announced (hallowed.1.shutdown hmem).2
      · cases hperform
    · have hnone : recordedEvent ⟨i, a, r⟩ = none := by
        cases a with
        | append now event => exact absurd ⟨now, event, rfl⟩ happend
        | _ => rfl
      apply hinv.skip hnone
      · apply store_perform hperform
        intro now event ha
        exact happend ⟨now, event, ha⟩
      · apply shuttingDown_mono hperform

end Runs

/-! ### Children after the shutdown -/

/-- No transition advances the child: nothing is started, and no failure or restart is counted. -/
structure NotAdvanced (runtime runtime' : ChildRuntime) : Prop where
  tracker : runtime'.tracker = runtime.tracker
  restartCount : runtime'.state.restartCount = runtime.state.restartCount
  running : runtime'.state.running = true → runtime.state.running = true

theorem NotAdvanced.refl (runtime : ChildRuntime) :
  NotAdvanced runtime runtime
  := ⟨rfl, rfl, id⟩

theorem NotAdvanced.trans {runtime₁ runtime₂ runtime₃ : ChildRuntime}
    (h : NotAdvanced runtime₁ runtime₂) (h' : NotAdvanced runtime₂ runtime₃) :
  NotAdvanced runtime₁ runtime₃
  where
  tracker := h'.tracker.trans h.tracker
  restartCount := h'.restartCount.trans h.restartCount
  running hrunning := h.running (h'.running hrunning)

/-- The runtime of one child is written. -/
theorem notAdvanced_updateChild (w : World) (name : String) {f : ChildRuntime → ChildRuntime}
    (hf : ∀ runtime, NotAdvanced runtime (f runtime)) (n : String) :
  NotAdvanced (w.children n) ((w.updateChild name f).children n)
  := by
  unfold World.updateChild
  by_cases hn : n = name
  · subst hn
    simp only [Function.update_self]
    apply hf
  · simp only [Function.update_of_ne hn]
    apply NotAdvanced.refl

/-- After the shutdown an action commits no transition and advances no child. -/
theorem notAdvanced_perform {i : Goroutine} {a : Action} {r : a.Answer} {w w' : World}
    (h : managerSemantics i a w r w') (hw : w.shuttingDown = true) :
  ¬ CommitsTransition a r ∧ ∀ name, NotAdvanced (w.children name) (w'.children name)
  := by
  have hcommits : ¬ CommitsTransition a r := by
    intro hcommits
    rw [not_shuttingDown_of_commits h hcommits] at hw
    cases hw
  refine ⟨hcommits, ?_⟩
  intro n
  obtain ⟨c, h⟩ := h
  have hpermitted : w.transitionPermittedLocked = false := by
    simp [World.transitionPermittedLocked, hw]
  cases a with
  | commitStart name startedAt pid restarted =>
      simp only [World.perform, hpermitted] at h
      obtain ⟨-, rfl⟩ := Prod.mk.inj (Option.some.inj h)
      apply NotAdvanced.refl
  | commitFailure name kind code now processExited =>
      simp only [World.perform, hpermitted] at h
      obtain ⟨-, rfl⟩ := Prod.mk.inj (Option.some.inj h)
      apply NotAdvanced.refl
  | commitRestart name now continuousReady =>
      simp only [World.perform, hpermitted] at h
      obtain ⟨-, rfl⟩ := Prod.mk.inj (Option.some.inj h)
      apply NotAdvanced.refl
  | publishIncomplete name pgid cleanup now =>
      obtain ⟨-, rfl⟩ := Prod.mk.inj (Option.some.inj h)
      exact notAdvanced_updateChild w name
        (f := fun runtime => runtime.cleanupIncomplete pgid cleanup now)
        (fun runtime => ⟨rfl, rfl, nofun⟩) n
  | publishStopped name code =>
      obtain ⟨-, rfl⟩ := Prod.mk.inj (Option.some.inj h)
      apply notAdvanced_updateChild
      intro runtime
      exact ⟨rfl, rfl, nofun⟩
  | publishHeartbeat name fresh age =>
      obtain ⟨-, rfl⟩ := Prod.mk.inj (Option.some.inj h)
      apply notAdvanced_updateChild
      intro runtime
      exact ⟨rfl, rfl, id⟩
  | _ =>
      rw [children_perform h rfl]
      apply NotAdvanced.refl

/-- After the shutdown no run commits a transition or advances a child. -/
theorem notAdvanced_reaches {p p' : Pool managerActions Goroutine World} {history : History}
    (h : Pool.Reaches managerSemantics p history p') (hp : p.shared.shuttingDown = true) :
  p'.shared.shuttingDown = true ∧ (∀ e ∈ history, ¬ CommitsTransition e.action e.answer) ∧
    ∀ name, NotAdvanced (p.shared.children name) (p'.shared.children name)
  := by
  induction h with
  | refl => exact ⟨hp, fun e he => absurd he List.not_mem_nil, fun name => NotAdvanced.refl _⟩
  | step _ hstep ih =>
      obtain ⟨hset, hcommits, hkept⟩ := ih
      cases hstep with
      | @perform i a r t w _ hexec =>
          obtain ⟨hcommit, hadvance⟩ := notAdvanced_perform hexec hset
          obtain ⟨c, hperform⟩ := hexec
          refine ⟨shuttingDown_mono hperform hset, ?_, ?_⟩
          · intro e he
            rcases List.mem_append.mp he with he | he
            · exact hcommits e he
            · obtain rfl := List.mem_singleton.mp he
              exact hcommit
          · intro name
            exact (hkept name).trans (hadvance name)

/-- No transition is recorded with a sequence after the one of the shutdown, and once the shutdown
is set no transition is committed and no child is advanced. -/
theorem shutdown_linearizes {cfg : Config} {store : EventStore} {directory : Directory}
    {history : History} {p : Pool managerActions Goroutine World}
    (h : Manages cfg store directory history p) :
  (∀ event ∈ recorded history, ∀ shutdown ∈ recorded history,
    event.kind ∈ transitionKinds → shutdown.kind = "shutdown_requested" →
    shutdown.sequence ≠ 0 → event.sequence ≤ shutdown.sequence) ∧
  ∀ history' p', Pool.Reaches managerSemantics p history' p' → p.shared.shuttingDown = true →
    (∀ e ∈ history', ¬ CommitsTransition e.action e.answer) ∧
    ∀ name, NotAdvanced (p.shared.children name) (p'.shared.children name)
  := by
  refine ⟨h.ordered.ordered, ?_⟩
  intro history' p' hreaches hset
  exact (notAdvanced_reaches hreaches hset).2

/-- The child is started, and the shutdown is set while it runs. -/
def shutdownTurns : List (Choices × Goroutine × Nat) :=
  [({}, .run, 11), ({}, .child "stack", 19), ({}, .caller, 1), ({}, .run, 6)]

/-- After the shutdown is set, the child is stopped and the supervisor returns. -/
def stoppingTurns : List (Choices × Goroutine × Nat) :=
  [({}, .child "stack", 31), ({}, .run, 8), ({}, .waiter, 3), ({}, .run, 13)]

/-- The child was running and is not. -/
def stopsChild (p p' : Pool managerActions Goroutine World) : Bool :=
  (p.shared.children "stack").state.running && !(p'.shared.children "stack").state.running

/-- A start and the shutdown are recorded, the shutdown is set, and the run can go on until the
child is stopped. -/
def recordsShutdown (history : History) (p : Pool managerActions Goroutine World) : Bool :=
  ((recorded history).any fun event => event.kind = "child_started") &&
    ((recorded history).any fun event =>
      event.kind = "shutdown_requested" && event.sequence ≠ 0) &&
    p.shared.shuttingDown &&
    (Pool.simulate (stoppingTurns.map fun t => turn t.1 t.2.1 t.2.2) p).any fun r =>
      stopsChild p r.2

/-- The start of a child is recorded before the shutdown, and the child is stopped after it. -/
theorem shutdown_linearizes_sample :
  ∃ history p history' p' event shutdown, Manages sampleConfig sampleStore {} history p ∧
    event ∈ recorded history ∧ event.kind = "child_started" ∧
    shutdown ∈ recorded history ∧ shutdown.kind = "shutdown_requested" ∧
    event.sequence ≤ shutdown.sequence ∧ p.shared.shuttingDown = true ∧
    Pool.Reaches managerSemantics p history' p' ∧ stopsChild p p' = true ∧
    (∀ e ∈ history', ¬ CommitsTransition e.action e.answer) ∧
    ∀ name, NotAdvanced (p.shared.children name) (p'.shared.children name)
  := by
  obtain ⟨history, p, hmanages, hcheck⟩ := manages_of_simulate sampleConfig sampleStore {}
    shutdownTurns recordsShutdown (by decide +kernel)
  simp only [recordsShutdown, Bool.and_eq_true, List.any_eq_true, decide_eq_true_eq] at hcheck
  obtain ⟨⟨⟨⟨event, hevent, hstarted⟩, ⟨shutdown, hshutdown, hkind, hsequence⟩⟩, hset⟩, hstops⟩ :=
    hcheck
  obtain ⟨history', p', hreaches, hstopped⟩ := reaches_of_turns stoppingTurns
    (fun _ p' => stopsChild p p') hstops
  have hlinearizes := shutdown_linearizes hmanages
  obtain ⟨hcommits, hadvanced⟩ := hlinearizes.2 history' p' hreaches hset
  refine ⟨history, p, history', p', event, shutdown, hmanages, hevent, hstarted, hshutdown, hkind,
    ?_, hset, hreaches, hstopped, hcommits, hadvanced⟩
  apply hlinearizes.1 event hevent shutdown hshutdown _ hkind hsequence
  rw [hstarted]
  decide

end Supervisor

end RobotestLab
