import RobotestLab.Supervisor.Lifecycle

/-!
# The interleavings of the goroutines

The runs of a manager: the goroutines perform their actions in any order. A property of all runs is
shown by looking at one action that the protocol allows (`Manages.invariant`). What an action leaves
unchanged is said once for each part of the shared state and of the progress of a goroutine.
The transition mutex excludes all goroutines but its holder (`Manages.mutex`).
-/

namespace RobotestLab

namespace Supervisor

abbrev History : Type := List (Performed managerActions Goroutine)

/-- What a goroutine has done in a history. -/
def progress (i : Goroutine) (history : History) : Progress := (protocol i).after {} i history

/-- The goroutines of a manager can perform the actions of the history. -/
abbrev Manages (cfg : Config) (store : EventStore) (directory : Directory) (history : History)
    (p : Pool managerActions Goroutine World) : Prop :=
  Pool.Reaches managerSemantics (manager cfg store directory) history p

section Progress

variable {i j : Goroutine} {history : History} {a : Action} {r : a.Answer}

@[simp]
theorem progress_nil : progress i [] = {} := rfl

theorem progress_own :
  progress i (history ++ [⟨i, a, r⟩]) = (progress i history).next a r
  := Protocol.after_own (P := protocol i) a r

theorem progress_other (hij : j ≠ i) :
  progress i (history ++ [⟨j, a, r⟩]) = progress i history
  := Protocol.after_other hij

/-- The action of a goroutine changes only its own progress. -/
theorem progress_snoc :
  progress i (history ++ [⟨j, a, r⟩]) =
    if j = i then (progress i history).next a r else progress i history
  := by
  split
  · rename_i h
    subst h
    apply progress_own
  · rename_i h
    apply progress_other h

end Progress

/-! ### What an action leaves unchanged -/

section Frame

variable {i : Goroutine} {a : Action} {c : a.Choice} {r : a.Answer} {w w' : World} {q : Progress}

attribute [local simp] World.perform

theorem transitionMu_perform (h : w.perform i a c = some (r, w')) (hlock : a ≠ .lockTransition)
    (hunlock : a ≠ .unlockTransition) :
  w'.transitionMu = w.transitionMu
  := by
  cases a with
  | lockTransition => cases hlock rfl
  | unlockTransition => cases hunlock rfl
  | _ =>
      simp only [World.perform] at h
      grind [World.updateChild]

theorem holding_next (hlock : a ≠ .lockTransition) (hunlock : a ≠ .unlockTransition) :
  (q.next a r).holding = q.holding
  := by
  cases a with
  | lockTransition => cases hlock rfl
  | unlockTransition => cases hunlock rfl
  | _ =>
      unfold Progress.next
      grind [Progress.updateGroup, Progress.start]

theorem shuttingDown_perform (h : w.perform i a c = some (r, w')) (hset : a ≠ .setShuttingDown) :
  w'.shuttingDown = w.shuttingDown
  := by
  cases a with
  | setShuttingDown => cases hset rfl
  | _ =>
      simp only [World.perform] at h
      grind [World.updateChild]

/-- Nothing takes the shutdown back. -/
theorem shuttingDown_mono (h : w.perform i a c = some (r, w')) (hw : w.shuttingDown = true) :
  w'.shuttingDown = true
  := by
  by_cases hset : a = .setShuttingDown
  · subst hset
    simp only [World.perform] at h
    grind
  · rw [shuttingDown_perform h hset, hw]

theorem store_perform (h : w.perform i a c = some (r, w'))
    (happend : ∀ now event, a ≠ .append now event) :
  w'.store = w.store
  := by
  cases a with
  | append now event => cases happend now event rfl
  | _ =>
      simp only [World.perform] at h
      grind [World.updateChild]

theorem spawned_perform (h : w.perform i a c = some (r, w')) (hspawn : ∀ g, a ≠ .spawn g) :
  w'.spawned = w.spawned
  := by
  cases a with
  | spawn g => cases hspawn g rfl
  | _ =>
      simp only [World.perform] at h
      grind [World.updateChild]

theorem lastReady_perform (h : w.perform i a c = some (r, w'))
    (hswap : ∀ ready, a ≠ .swapReady ready) :
  w'.lastReady = w.lastReady
  := by
  cases a with
  | swapReady ready => cases hswap ready rfl
  | _ =>
      simp only [World.perform] at h
      grind [World.updateChild]

/-- The action writes the runtime of the child. -/
def Action.writes (name : String) : Action → Bool
  | .commitStart n _ _ _ | .commitFailure n _ _ _ _ | .commitRestart n _ _ => n = name
  | .publishIncomplete n _ _ _ | .publishStopped n _ | .publishHeartbeat n _ _ => n = name
  | _ => false

/-- An action leaves the runtimes of the children as they are, or it writes one of them. -/
theorem children_cases (h : w.perform i a c = some (r, w')) :
  w'.children = w.children ∨
    ∃ name runtime, a.writes name = true ∧ w'.children = Function.update w.children name runtime
  := by
  cases a with
  | commitStart n _ _ _ | commitFailure n _ _ _ _ | commitRestart n _ _
  | publishIncomplete n _ _ _ | publishStopped n _ | publishHeartbeat n _ _ =>
      simp only [World.perform] at h
      grind [World.updateChild, Action.writes]
  | _ =>
      left
      simp only [World.perform] at h
      grind

theorem children_perform {name : String} (h : w.perform i a c = some (r, w'))
    (hwrites : a.writes name = false) :
  w'.children name = w.children name
  := by
  rcases children_cases h with hsame | ⟨n, runtime, hn, hupdate⟩
  · rw [hsame]
  · rw [hupdate, Function.update_of_ne]
    rintro rfl
    rw [hwrites] at hn
    cases hn

/-- The error of the run only grows. -/
theorem terminalErr_perform (h : w.perform i a c = some (r, w')) :
  ∃ err, w'.terminalErr = w.terminalErr ++ err
  := by
  cases a with
  | publishIncomplete name pgid cleanup now =>
      simp only [World.perform] at h
      exact ⟨cleanupIncompleteErr name cleanup, by grind⟩
  | _ =>
      refine ⟨[], ?_⟩
      simp only [World.perform] at h
      grind [World.updateChild]

end Frame

/-! ### Properties of all runs -/

section Runs

variable {cfg : Config} {store : EventStore} {directory : Directory} {history : History}
  {p : Pool managerActions Goroutine World}

theorem possibleAnswer_of_perform {i : Goroutine} {a : Action} {w w' : World} {r : a.Answer}
    (h : managerSemantics i a w r w') :
  PossibleAnswer a r
  := by
  obtain ⟨c, h⟩ := h
  cases a with
  | selectCleanup ctx wait timeout =>
      cases wait with
      | some wait => trivial
      | none =>
          simp only [World.perform] at h
          cases r with
          | received r => grind
          | _ => trivial
  | pollWait wait =>
      cases wait with
      | some wait => trivial
      | none =>
          simp only [World.perform] at h
          cases r with
          | some r => grind
          | none => trivial
  | _ => trivial

/-- A property that every allowed action keeps holds in every run. -/
theorem Manages.invariant (Inv : History → World → Prop)
    (hinit : Inv [] (World.new cfg store directory))
    (hstep : ∀ history p i a r w, Manages cfg store directory history p → Inv history p.shared →
      (progress i history).finished = false → AllowedAction i (progress i history) a →
      managerSemantics i a p.shared r w → Inv (history ++ [⟨i, a, r⟩]) w)
    (h : Manages cfg store directory history p) :
  Inv history p.shared
  := by
  apply Pool.Reaches.invariant (P := protocol) (q := fun _ => {}) Inv _ _ hinit _ h
  · apply obeys_goroutine
  · intro i a w r w' hexec
    apply possibleAnswer_of_perform hexec
  · intro history p i a r w hreach hinv hallows hexec
    exact hstep history p i a r w hreach hinv hallows.1 hallows.2 hexec

/-- Every action of a run was allowed when it was performed. -/
theorem Manages.allowed {before after : History} {i : Goroutine} {a : Action} {r : a.Answer}
    (h : Manages cfg store directory (before ++ ⟨i, a, r⟩ :: after) p) :
  ∃ p', Manages cfg store directory before p' ∧ (progress i before).finished = false ∧
    AllowedAction i (progress i before) a
  := by
  apply Pool.Reaches.allows (P := protocol) (q := fun _ => {}) (obeys_goroutine cfg) _ h
  intro i a w r w' hexec
  apply possibleAnswer_of_perform hexec

/-- A goroutine that holds the transition mutex is its holder. -/
theorem Manages.mutex (h : Manages cfg store directory history p) {i : Goroutine}
    (hi : (progress i history).holding = true) :
  p.shared.transitionMu = some i
  := by
  apply Manages.invariant (fun history w =>
    ∀ i, (progress i history).holding = true → w.transitionMu = some i) _ _ h i hi
  · intro i hi
    cases hi
  · rintro history p j a r w - hinv - hallowed ⟨c, hexec⟩ i hi
    rw [progress_snoc] at hi
    by_cases hlock : a = .lockTransition
    · subst hlock
      have hfree : p.shared.transitionMu = none ∧ w.transitionMu = some j := by
        simp only [World.perform] at hexec
        grind
      split at hi
      · rename_i hji
        rw [← hji]
        exact hfree.2
      · have hheld := hinv i hi
        rw [hfree.1] at hheld
        cases hheld
    · by_cases hunlock : a = .unlockTransition
      · subst hunlock
        split at hi
        · cases hi
        · rename_i hji
          have hheld := (hinv j hallowed).symm.trans (hinv i hi)
          exact absurd (Option.some.inj hheld) hji
      · rw [transitionMu_perform hexec hlock hunlock]
        split at hi
        · rw [holding_next hlock hunlock] at hi
          exact hinv i hi
        · exact hinv i hi

end Runs

/-! ### Schedules -/

/-- Every operation on the files succeeds. -/
def workingFiles : ioSignature.Environment := fun _ c =>
  match c with
  | .operation _ => { result := .ok [] }
  | .writeLog payload => { result := .ok (payload.length, []) }

/-- What decides the actions of a goroutine in a schedule: the branches of the `select`s, and
whether the process group is present. -/
structure Choices where
  monitor : MonitorEvent := .cancelled
  cleanup : CleanupEvent := .received (.status none)
  present : Bool := false

def Choices.choose (choices : Choices) : (a : Action) → a.Choice
  | .now | .beginRun => Time.zero
  | .start _ => .ok { pid := 7, wait := 0 }
  | .signal _ _ => none
  | .probe _ => (choices.present, [])
  | .stat _ => none
  | .selectMonitor _ _ => choices.monitor
  | .selectCleanup _ _ _ => choices.cleanup
  | .pollWait _ => none
  | .selectRestart _ => .fired
  | .selectShutdown _ => .done
  | .publishHeartbeat _ _ _ => (.zero, .zero)
  | .append _ _ => workingFiles
  | .writeSnapshot _ => []
  | .contextErr _ | .cancel | .awaitCancel | .awaitDone | .closeDone | .spawn _ | .begin => ()
  | .wgDone | .wgWait | .returns _ | .lockTransition | .unlockTransition | .endRun | .close => ()
  | .setShuttingDown | .isShuttingDown | .commitStart _ _ _ _ | .commitFailure _ _ _ _ _ => ()
  | .commitRestart _ _ _ | .publishIncomplete _ _ _ _ | .publishStopped _ _ => ()
  | .heartbeatObserved _ | .readySince _ | .terminalError | .startedAt | .persistenceFailed => ()
  | .readState | .readReady | .swapReady _ | .isSaturated | .counts | .serve _ => ()

/-- A goroutine performs a number of actions. -/
def turn (choices : Choices) (i : Goroutine) (n : Nat) :
    Goroutine × Pool.Resolver managerActions World × Nat :=
  (i, fun a w => w.perform i a (choices.choose a), n)

/-- A goroutine performs a number of actions, which are decided by the given choices. -/
def turnWith (choose : (a : Action) → a.Choice) (i : Goroutine) (n : Nat) :
    Goroutine × Pool.Resolver managerActions World × Nat :=
  (i, fun a w => w.perform i a (choose a), n)

/-- The actions of the turns make up a run, when they can all be performed. -/
theorem reaches_of_choices {p : Pool managerActions Goroutine World}
    (turns : List (((a : Action) → a.Choice) × Goroutine × Nat))
    (check : History → Pool managerActions Goroutine World → Bool)
    (h : (Pool.simulate (turns.map fun t => turnWith t.1 t.2.1 t.2.2) p).any
      (fun r => check r.1 r.2) = true) :
  ∃ history p', Pool.Reaches managerSemantics p history p' ∧ check history p' = true
  := by
  obtain ⟨⟨history, p'⟩, hrun, hcheck⟩ := (Option.any_eq_true _ _).mp h
  refine ⟨history, p', ?_, hcheck⟩
  apply Pool.reaches_of_simulate _ hrun
  intro x hx a w r w' hresolve
  obtain ⟨t, -, rfl⟩ := List.mem_map.mp hx
  exact ⟨t.1 a, hresolve⟩

theorem reaches_of_turns {p : Pool managerActions Goroutine World}
    (turns : List (Choices × Goroutine × Nat))
    (check : History → Pool managerActions Goroutine World → Bool)
    (h : (Pool.simulate (turns.map fun t => turn t.1 t.2.1 t.2.2) p).any
      (fun r => check r.1 r.2) = true) :
  ∃ history p', Pool.Reaches managerSemantics p history p' ∧ check history p' = true
  := by
  apply reaches_of_choices (turns.map fun t => (t.1.choose, t.2))
  rw [List.map_map]
  exact h

/-- The turns make up a run of the supervisor, when they can all be performed. -/
theorem manages_of_simulate (cfg : Config) (store : EventStore) (directory : Directory)
    (turns : List (Choices × Goroutine × Nat))
    (check : History → Pool managerActions Goroutine World → Bool)
    (h : (Pool.simulate (turns.map fun t => turn t.1 t.2.1 t.2.2)
      (manager cfg store directory)).any (fun r => check r.1 r.2) = true) :
  ∃ history p, Manages cfg store directory history p ∧ check history p = true
  := by
  exact reaches_of_turns turns check h

/-- The action starts a process group. -/
def isStart : Performed managerActions Goroutine → Bool
  | ⟨_, .start _, .ok _⟩ => true
  | _ => false

/-- One required child without a heartbeat. -/
def sampleConfig : Config where
  heartbeatPollMs := 500
  heartbeatStaleMs := 2000
  heartbeatStartupTimeoutMs := 110000
  terminationGraceMs := 5000
  shutdownTimeoutMs := 10000
  restart := {
    initialBackoffMs := 1000
    maximumBackoffMs := 8000
    maximumAttempts := 4
    windowMs := 60000
    stableResetMs := 60000 }
  children := [{ name := "stack", required := true }]
  names_nodup := by decide

/-- An event store that counts events and writes none of them. -/
def sampleStore : EventStore where
  limits := { maximumEntries := 1, maximumBytes := 1024, maximumEntries_lt := by decide }
  saturated := true

/-- The child is started and, after the cancellation, stopped. -/
def sampleTurns : List (Choices × Goroutine × Nat) :=
  [({}, .run, 11), ({}, .child "stack", 19), ({}, .caller, 1), ({}, .child "stack", 31),
    ({}, .run, 14), ({}, .waiter, 3), ({}, .run, 13)]

end Supervisor

end RobotestLab
