import Mathlib.Data.List.Nodup
import RobotestLab.Supervisor.Groups

/-!
# Restarts and the circuit of a child

A child is started again only after its last process group is cleaned up, a failure was committed, a
restart was granted and its timer fired. The circuit opens when there are no attempts left, or when
a cleanup is incomplete. An open circuit stays open: the child is never started again, and a
required child keeps the supervisor from being ready.
-/

namespace RobotestLab

namespace Supervisor

/-! ### Restarts -/

/-- A failure of the child is committed. -/
def CommitsFailure (i : Goroutine) : Performed managerActions Goroutine → Prop
  | ⟨j, .commitFailure _ _ _ _ _, some _⟩ => j = i
  | _ => False

/-- A restart after the given delay is granted. -/
def GrantsRestart (i : Goroutine) (delay : Duration) : Performed managerActions Goroutine → Prop
  | ⟨j, .commitRestart _ _ _, some decision⟩ =>
      j = i ∧ decision.exhausted = false ∧ decision.delay = delay
  | _ => False

/-- The timer of the delay fires. -/
def FiresTimer (i : Goroutine) (delay : Duration) : Performed managerActions Goroutine → Prop
  | ⟨j, .selectRestart d, .fired⟩ => j = i ∧ d = delay
  | _ => False

/-- What the child did since its last start to be started again. -/
structure Prepares (i : Goroutine) (q : Progress) (history : History) : Prop where
  failed : q.failed = true → InOrder [CommitsFailure i] history
  granted : ∀ delay, q.granted = some delay →
    InOrder [CommitsFailure i, GrantsRestart i delay] history
  fired : q.fired = true → ∃ delay,
    InOrder [CommitsFailure i, GrantsRestart i delay, FiresTimer i delay] history

namespace Prepares

variable {i : Goroutine} {q q' : Progress} {history : History}

/-- An action that prepares nothing. -/
theorem keep (h : Prepares i q history) (e : Performed managerActions Goroutine)
    (hsame : q'.failed = q.failed ∧ q'.granted = q.granted ∧ q'.fired = q.fired) :
  Prepares i q' (history ++ [e])
  where
  failed hfailed := (h.failed (hsame.1 ▸ hfailed)).append [e]
  granted delay hgranted := (h.granted delay (hsame.2.1 ▸ hgranted)).append [e]
  fired hfired := by
    obtain ⟨delay, horder⟩ := h.fired (hsame.2.2 ▸ hfired)
    exact ⟨delay, horder.append [e]⟩

/-- Nothing is prepared after a start. -/
theorem start (q : Progress) (group : Option Group) (history : History) :
  Prepares i (q.start group) history
  where
  failed h := by cases h
  granted delay h := by cases h
  fired h := by cases h

/-- The next action of the child. -/
theorem step (h : Prepares i q history) (a : Action) (r : a.Answer) :
  Prepares i (q.next a r) (history ++ [⟨i, a, r⟩])
  := by
  cases a with
  | start spec =>
      cases r with
      | _ => apply start
  | commitFailure name kind code now processExited =>
      cases r with
      | none => exact h.keep _ ⟨rfl, rfl, rfl⟩
      | some identity =>
          constructor
          · intro _
            exact (InOrder.nil history).concat rfl
          · intro delay hgranted
            exact (h.granted delay hgranted).append _
          · intro hfired
            obtain ⟨delay, horder⟩ := h.fired hfired
            exact ⟨delay, horder.append _⟩
  | commitRestart name now continuousReady =>
      cases r with
      | none => exact h.keep _ ⟨rfl, rfl, rfl⟩
      | some decision =>
          constructor
          · intro hfailed
            exact (h.failed hfailed).append _
          · intro delay hgranted
            simp only [Progress.next, Option.ite_none_right_eq_some, Bool.and_eq_true,
              Bool.not_eq_true', Option.some.injEq] at hgranted
            obtain ⟨⟨hfailed, hexhausted⟩, hdelay⟩ := hgranted
            exact (h.failed hfailed).concat ⟨rfl, hexhausted, hdelay⟩
          · intro hfired
            obtain ⟨delay, horder⟩ := h.fired hfired
            exact ⟨delay, horder.append _⟩
  | selectRestart delay =>
      cases r with
      | cancelled => exact h.keep _ ⟨rfl, rfl, rfl⟩
      | fired =>
          constructor
          · intro hfailed
            exact (h.failed hfailed).append _
          · intro d hgranted
            exact (h.granted d hgranted).append _
          · intro hfired
            have hgranted : q.granted = some delay := by
              simpa [Progress.next] using hfired
            exact ⟨delay, (h.granted delay hgranted).concat ⟨rfl, rfl⟩⟩
  | _ =>
      apply h.keep
      unfold Progress.next
      grind [Progress.updateGroup, Progress.hold]

end Prepares

theorem started_next {q : Progress} {a : Action} {r : a.Answer} (h : q.started = true) :
  (q.next a r).started = true
  := by
  cases a with
  | _ =>
      unfold Progress.next
      grind [Progress.updateGroup, Progress.start, Progress.hold]

section Runs

variable {cfg : Config} {store : EventStore} {directory : Directory} {history : History}
  {p : Pool managerActions Goroutine World} {i : Goroutine}

theorem Manages.prepares (h : Manages cfg store directory history p) {spec : Child}
    {r : Except Err StartedProcess} {before after : History}
    (hstart : history = before ++ ⟨i, .start spec, r⟩ :: after) :
  Prepares i (progress i history) after ∧ (progress i history).started = true
  := by
  apply Manages.invariant (fun history _ => ∀ i spec r before after,
    history = before ++ ⟨i, .start spec, r⟩ :: after →
      Prepares i (progress i history) after ∧ (progress i history).started = true) _ _ h
    _ _ _ _ _ hstart
  · intro i spec r before after h
    simp at h
  · intro history p j a r w _ hinv _ _ _ i spec r' before after h
    rcases concat_eq_append_cons h with ⟨rfl, hlast, rfl⟩ | ⟨after, rfl, hbefore⟩
    · cases hlast
      rw [progress_own]
      cases r' with
      | _ => exact ⟨Prepares.start _ _ _, rfl⟩
    · obtain ⟨hprepares, hstarted⟩ := hinv i spec r' before after hbefore
      by_cases hji : j = i
      · subst hji
        rw [progress_own]
        exact ⟨hprepares.step a r, started_next hstarted⟩
      · rw [progress_other hji]
        exact ⟨hprepares.keep _ ⟨rfl, rfl, rfl⟩, hstarted⟩

/-- Between two starts of a child a failure is committed, a restart is granted and its timer
fires. -/
theorem Manages.prepared_of_start {spec spec' : Child} {r r' : Except Err StartedProcess}
    {before between after : History}
    (h : Manages cfg store directory
      (before ++ ⟨i, .start spec, r⟩ :: between ++ ⟨i, .start spec', r'⟩ :: after) p) :
  ∃ delay, InOrder [CommitsFailure i, GrantsRestart i delay, FiresTimer i delay] between
  := by
  obtain ⟨p', hp', -, -, hcan⟩ := h.allowed
  obtain ⟨hprepares, hstarted⟩ := hp'.prepares rfl
  exact hprepares.fired (hcan.fired hstarted)

end Runs

/-! ### The circuit -/

section Circuit

variable {i : Goroutine} {a : Action} {r : a.Answer} {q : Progress} {name : String}

/-- An open circuit is never closed. -/
theorem circuitOpen_next (h : q.circuitOpen = true) :
  (q.next a r).circuitOpen = true
  := by
  cases a with
  | _ =>
      unfold Progress.next
      grind [Progress.updateGroup, Progress.start, Progress.hold]

/-- An action of a child that does not write its runtime leaves its circuit as it is. -/
theorem circuitOpen_next_of_writes (hallowed : AllowedAction (.child name) q a)
    (hwrites : a.writes name = false) :
  (q.next a r).circuitOpen = q.circuitOpen
  := by
  cases a with
  | commitRestart n now continuousReady =>
      obtain rfl := Goroutine.child.inj hallowed.1
      simp [Action.writes] at hwrites
  | publishIncomplete n pgid cleanup now =>
      obtain rfl := Goroutine.child.inj hallowed
      simp [Action.writes] at hwrites
  | _ =>
      unfold Progress.next
      grind [Progress.updateGroup, Progress.start, Progress.hold]

/-- The runtime of a child is written by its own goroutine. -/
theorem AllowedAction.of_writes (hallowed : AllowedAction i q a) (hwrites : a.writes name = true) :
  i = .child name
  := by
  cases a with
  | commitStart _ _ _ _ | commitFailure _ _ _ _ _ | commitRestart _ _ _ =>
      obtain rfl := of_decide_eq_true hwrites
      exact hallowed.1
  | publishIncomplete _ _ _ _ | publishStopped _ _ | publishHeartbeat _ _ _ =>
      obtain rfl := of_decide_eq_true hwrites
      exact hallowed
  | _ => cases hwrites

/-- What a child publishes of its circuit is what it did. -/
theorem circuitOpen_perform {w w' : World} (hallowed : AllowedAction (.child name) q a)
    (hexec : managerSemantics (.child name) a w r w') (hwrites : a.writes name = true)
    (h : (w.children name).state.circuitOpen = q.circuitOpen) :
  (w'.children name).state.circuitOpen = (q.next a r).circuitOpen
  := by
  have hupdate : ∀ f, (w.updateChild name f).children name = f (w.children name) :=
    fun f => Function.update_self _ _ _
  obtain ⟨c, hperform⟩ := hexec
  cases a with
  | commitStart n startedAt pid restarted =>
      obtain rfl := of_decide_eq_true hwrites
      simp only [World.perform] at hperform
      split at hperform
      · obtain ⟨rfl, rfl⟩ := Prod.mk.inj (Option.some.inj hperform)
        rw [hupdate]
        exact hallowed.2.2.symm
      · obtain ⟨rfl, rfl⟩ := Prod.mk.inj (Option.some.inj hperform)
        exact h
  | commitFailure n kind code now processExited =>
      obtain rfl := of_decide_eq_true hwrites
      simp only [World.perform] at hperform
      split at hperform
      · obtain ⟨rfl, rfl⟩ := Prod.mk.inj (Option.some.inj hperform)
        rw [hupdate]
        exact h
      · obtain ⟨rfl, rfl⟩ := Prod.mk.inj (Option.some.inj hperform)
        exact h
  | commitRestart n now continuousReady =>
      obtain rfl := of_decide_eq_true hwrites
      simp only [World.perform] at hperform
      split at hperform
      · obtain ⟨rfl, rfl⟩ := Prod.mk.inj (Option.some.inj hperform)
        rw [hupdate]
        simp only [ChildRuntime.failureRecorded, Progress.next, h]
      · obtain ⟨rfl, rfl⟩ := Prod.mk.inj (Option.some.inj hperform)
        exact h
  | publishIncomplete n pgid cleanup now =>
      obtain rfl := of_decide_eq_true hwrites
      obtain ⟨-, rfl⟩ := Prod.mk.inj (Option.some.inj hperform)
      simp only [hupdate]
      rfl
  | publishStopped n code =>
      obtain rfl := of_decide_eq_true hwrites
      obtain ⟨-, rfl⟩ := Prod.mk.inj (Option.some.inj hperform)
      rw [hupdate]
      exact h
  | publishHeartbeat n fresh age =>
      obtain rfl := of_decide_eq_true hwrites
      obtain ⟨-, rfl⟩ := Prod.mk.inj (Option.some.inj hperform)
      rw [hupdate]
      exact h
  | _ => cases hwrites

variable {cfg : Config} {store : EventStore} {directory : Directory} {history history' : History}
  {p p' : Pool managerActions Goroutine World}

theorem Manages.circuitOpen (h : Manages cfg store directory history p) (name : String) :
  (p.shared.children name).state.circuitOpen = (progress (.child name) history).circuitOpen
  := by
  apply Manages.invariant (fun history w => ∀ name, (w.children name).state.circuitOpen =
    (progress (.child name) history).circuitOpen) _ _ h name
  · intro name
    rfl
  · intro history p i a r w _ hinv _ hallowed hexec name
    cases hwrites : a.writes name with
    | true =>
        obtain rfl := hallowed.of_writes hwrites
        rw [progress_own]
        exact circuitOpen_perform hallowed hexec hwrites (hinv name)
    | false =>
        have hkept : w.children name = p.shared.children name := by
          obtain ⟨c, hperform⟩ := hexec
          exact children_perform hperform hwrites
        rw [hkept, hinv name, progress_snoc]
        split
        · rename_i hi
          subst hi
          exact (circuitOpen_next_of_writes hallowed hwrites).symm
        · rfl

theorem circuitOpen_append (h : (progress i history).circuitOpen = true) (history' : History) :
  (progress i (history ++ history')).circuitOpen = true
  := by
  induction history' using List.reverseRecOn with
  | nil =>
      rw [List.append_nil]
      exact h
  | append_singleton history' e ih =>
      rw [← List.append_assoc]
      obtain ⟨j, a, r⟩ := e
      rw [progress_snoc]
      split
      · exact circuitOpen_next ih
      · exact ih

/-- An open circuit stays open, and the child is never started again. -/
theorem Manages.circuit_sticky (h : Manages cfg store directory history p)
    (hopen : (p.shared.children name).state.circuitOpen = true)
    (h' : Pool.Reaches managerSemantics p history' p') :
  (p'.shared.children name).state.circuitOpen = true ∧
    ∀ e ∈ history', ∀ spec, spec.name = name → e.action ≠ .start spec
  := by
  have hall : Manages cfg store directory (history ++ history') p' := h.trans h'
  have hprogress := (h.circuitOpen name).symm.trans hopen
  constructor
  · rw [hall.circuitOpen name]
    exact circuitOpen_append hprogress history'
  · rintro ⟨i, a, r⟩ he spec rfl ha
    obtain rfl : a = .start spec := ha
    obtain ⟨u, v, rfl⟩ := List.append_of_mem he
    rw [← List.append_assoc] at hall
    obtain ⟨-, -, -, rfl, hcan⟩ := hall.allowed
    have hclosed := hcan.circuit
    rw [circuitOpen_append hprogress u] at hclosed
    cases hclosed

end Circuit

/-! ### Readiness -/

section Readiness

open Thread

/-- The protocol of a caller of `Snapshot`: what it serves is the snapshot of the state it read. The
other goroutines may do anything. -/
def observing (n : Nat) (i : Goroutine) : Protocol managerActions where
  State := Option StateView
  Allows view a := i = .observer n → ∀ snapshot, a = .serve snapshot →
    ∃ v counts now, view = some v ∧ snapshot = v.snapshot counts now
  Possible _ _ := True
  next view a r :=
    match a, r with
    | .readState, v => some v
    | _, _ => view

theorem obeys_observing (cfg : Config) (n : Nat) :
  Obeys (observing n (.observer n)) (goroutine cfg (.observer n)) none fun _ _ => True
  := by
  refine ⟨fun _ => nofun, ?_⟩
  intro view _
  refine ⟨fun _ => nofun, ?_⟩
  intro counts _
  refine ⟨fun _ => nofun, ?_⟩
  intro now _
  refine ⟨?_, fun _ _ => trivial⟩
  intro _ snapshot hserve
  obtain rfl := Action.serve.inj hserve
  exact ⟨view, counts, now, rfl, rfl⟩

variable {w w' : World}

/-- A goroutine remembers the state that it read last. -/
theorem observing_next {n : Nat} {i : Goroutine} {view : Option StateView} {a : Action}
    {r : a.Answer} {v : StateView} (hexec : managerSemantics i a w r w')
    (h : (observing n i).next view a r = some v) :
  view = some v ∨ v = w.view
  := by
  cases a with
  | readState =>
      obtain ⟨c, hperform⟩ := hexec
      obtain ⟨rfl, -⟩ := Prod.mk.inj (Option.some.inj hperform)
      exact Or.inr (Option.some.inj h).symm
  | _ => exact Or.inl h

/-- The state that the observer read last. -/
def viewed (n : Nat) (history : History) : Option StateView :=
  (observing n (.observer n)).after none (.observer n) history

/-- The observer reads the state, or it keeps what it read. -/
theorem viewed_snoc {n : Nat} {i : Goroutine} {a : Action} {r : a.Answer} {v : StateView}
    {history : History} (hexec : managerSemantics i a w r w')
    (h : viewed n (history ++ [⟨i, a, r⟩]) = some v) :
  viewed n history = some v ∨ v = w.view
  := by
  by_cases hi : i = .observer n
  · subst hi
    have hown : viewed n (history ++ [⟨.observer n, a, r⟩]) =
        (observing n (.observer n)).next (viewed n history) a r :=
      Protocol.after_own (P := observing n (.observer n)) a r
    rw [hown] at h
    exact observing_next hexec h
  · have hother : viewed n (history ++ [⟨i, a, r⟩]) = viewed n history :=
      Protocol.after_other (P := observing n (.observer n)) hi
    rw [hother] at h
    exact Or.inl h

/-- A required child with an open circuit. -/
def Blocked (w : World) (name : String) : Prop :=
  name ∈ w.names ∧ (w.children name).state.required = true ∧
    (w.children name).state.circuitOpen = true

/-- A snapshot of a blocked state is not ready. -/
theorem Blocked.not_ready {w : World} {name : String} (h : Blocked w name) (counts : Nat × UInt64)
    (now : Time) :
  (w.view.snapshot counts now).ready = false
  := by
  obtain ⟨hname, hrequired, hopen⟩ := h
  have hblocks : w.view.children.any ChildSnapshot.blocks = true := by
    rw [List.any_eq_true]
    refine ⟨(w.children name).state, List.mem_map_of_mem hname, ?_⟩
    simp [ChildSnapshot.blocks, hrequired, hopen]
  simp [StateView.snapshot, hblocks]

/-- The children and what is required of them never change. -/
theorem names_perform {i : Goroutine} {a : Action} {c : a.Choice} {r : a.Answer}
    (h : w.perform i a c = some (r, w')) :
  w'.names = w.names
  := by
  cases a with
  | _ =>
      simp only [World.perform] at h
      grind [World.updateChild]

/-- What a change of a runtime keeps is kept of all runtimes. -/
theorem children_updateChild {β : Type} (g : ChildRuntime → β) (w : World) (n : String)
    {f : ChildRuntime → ChildRuntime} (hf : ∀ runtime, g (f runtime) = g runtime) (name : String) :
  g ((w.updateChild n f).children name) = g (w.children name)
  := by
  by_cases hname : name = n
  · subst hname
    rw [show (w.updateChild name f).children name = f (w.children name) from
      Function.update_self _ _ _, hf]
  · rw [show (w.updateChild n f).children name = w.children name from
      Function.update_of_ne hname _ _]

/-- What a runtime has of the configuration of its child. -/
def ChildRuntime.identity (runtime : ChildRuntime) : Child × Bool :=
  (runtime.spec, runtime.state.required)

theorem identity_perform {i : Goroutine} {a : Action} {c : a.Choice} {r : a.Answer}
    (h : w.perform i a c = some (r, w')) (name : String) :
  (w'.children name).identity = (w.children name).identity
  := by
  cases a with
  | commitStart n startedAt pid restarted | commitFailure n kind code now processExited
  | commitRestart n now continuousReady =>
      simp only [World.perform] at h
      split at h
      · obtain ⟨-, rfl⟩ := Prod.mk.inj (Option.some.inj h)
        apply children_updateChild
        intro runtime
        rfl
      · obtain ⟨-, rfl⟩ := Prod.mk.inj (Option.some.inj h)
        rfl
  | publishIncomplete n pgid cleanup now =>
      obtain ⟨-, rfl⟩ := Prod.mk.inj (Option.some.inj h)
      exact children_updateChild ChildRuntime.identity w n
        (f := fun runtime => runtime.cleanupIncomplete pgid cleanup now) (fun runtime => rfl) name
  | publishStopped n code =>
      obtain ⟨-, rfl⟩ := Prod.mk.inj (Option.some.inj h)
      apply children_updateChild
      intro runtime
      rfl
  | publishHeartbeat n fresh age =>
      obtain ⟨-, rfl⟩ := Prod.mk.inj (Option.some.inj h)
      apply children_updateChild
      intro runtime
      rfl
  | _ => rw [children_perform h rfl]

variable {cfg : Config} {store : EventStore} {directory : Directory} {history history' : History}
  {p p' : Pool managerActions Goroutine World} {name : String} {spec : Child}

/-- A child is the one of the configuration. -/
theorem Manages.identity (h : Manages cfg store directory history p) (hspec : spec ∈ cfg.children) :
  spec.name ∈ p.shared.names ∧ (p.shared.children spec.name).identity = (spec, spec.required)
  := by
  apply Manages.invariant (fun _ w => spec.name ∈ w.names ∧
    (w.children spec.name).identity = (spec, spec.required)) _ _ h
  · refine ⟨List.mem_map_of_mem hspec, ?_⟩
    have hfind : cfg.children.find? (fun s => decide (s.name = spec.name)) = some spec := by
      cases hfound : cfg.children.find? (fun s => decide (s.name = spec.name)) with
      | none =>
          have := List.find?_eq_none.mp hfound spec hspec
          simp at this
      | some s =>
          have hs : s.name = spec.name := by
            simpa using List.find?_some hfound
          rw [List.inj_on_of_nodup_map cfg.names_nodup (List.mem_of_find?_eq_some hfound) hspec hs]
    simp only [World.new, ChildRuntime.identity, hfind, Option.getD_some]
  · rintro history p i a r w - ⟨hnames, hidentity⟩ - - ⟨c, hperform⟩
    rw [names_perform hperform, identity_perform hperform]
    exact ⟨hnames, hidentity⟩

/-- A child is required when its configuration says so. -/
theorem Manages.required (h : Manages cfg store directory history p) (hspec : spec ∈ cfg.children) :
  spec.name ∈ p.shared.names ∧ (p.shared.children spec.name).state.required = spec.required
  := by
  obtain ⟨hname, hidentity⟩ := h.identity hspec
  exact ⟨hname, congrArg Prod.snd hidentity⟩

/-- A snapshot that is taken when the circuit of a required child is open is not ready. -/
theorem Manages.not_ready (h : Manages cfg store directory history p)
    (hspec : spec ∈ cfg.children) (hrequired : spec.required = true)
    (hopen : (p.shared.children spec.name).state.circuitOpen = true)
    (h' : Pool.Reaches managerSemantics p history' p') {n : Nat}
    (hn : ∀ e ∈ history, e.thread ≠ .observer n) :
  ∀ snapshot, ⟨.observer n, .serve snapshot, ()⟩ ∈ history' → snapshot.ready = false
  := by
  have hthread : p.threads (.observer n) = goroutine cfg (.observer n) := h.threads_eq hn
  have hinv : (∀ v, viewed n history' = some v →
      ∀ counts now, (v.snapshot counts now).ready = false) ∧
      ∀ snapshot, ⟨.observer n, .serve snapshot, ()⟩ ∈ history' → snapshot.ready = false := by
    apply Pool.Reaches.invariant (P := observing n) (q := fun _ => none)
      (fun history' _ =>
        (∀ v, viewed n history' = some v → ∀ counts now, (v.snapshot counts now).ready = false) ∧
        ∀ snapshot, ⟨.observer n, .serve snapshot, ()⟩ ∈ history' → snapshot.ready = false)
      _ _ _ _ h'
    · intro i
      by_cases hi : i = .observer n
      · subst hi
        rw [hthread]
        exact obeys_observing cfg n
      · apply obeys_of_allows
        intro view a hobserver
        exact absurd hobserver hi
    · intros
      trivial
    · exact ⟨nofun, fun snapshot h => absurd h List.not_mem_nil⟩
    · rintro history₁ p₁ i a r w hreaches ⟨hview, hserved⟩ hallows hexec
      have hblocked : Blocked p₁.shared spec.name := by
        have hall : Manages cfg store directory (history ++ history₁) p₁ := h.trans hreaches
        obtain ⟨hname, hsame⟩ := hall.required hspec
        exact ⟨hname, hsame.trans hrequired, (h.circuit_sticky hopen hreaches).1⟩
      constructor
      · intro v hv
        rcases viewed_snoc hexec hv with hv | rfl
        · exact hview v hv
        · exact hblocked.not_ready
      · intro snapshot hserve
        rcases List.mem_append.mp hserve with hserve | hserve
        · exact hserved snapshot hserve
        · cases List.mem_singleton.mp hserve
          obtain ⟨v, counts, now, hv, rfl⟩ := hallows rfl snapshot rfl
          exact hview v hv counts now
  exact hinv.2

end Readiness

/-- For each child there is at most one process group that is not cleaned up, and the child is
started again only after its last group is cleaned up, a failure was committed, a restart was
granted and its timer fired. An open circuit stays open, the child is not started again, and when it
is required no snapshot that is taken from then on is ready. -/
theorem single_group_and_sticky_circuit {cfg : Config} {store : EventStore} {directory : Directory}
    {history : History} {p : Pool managerActions Goroutine World}
    (h : Manages cfg store directory history p) :
  (∀ before between after i j spec spec' process r, spec.name = spec'.name →
    history = before ++ ⟨i, .start spec, .ok process⟩ :: between ++ ⟨j, .start spec', r⟩ :: after →
    CleanedUp i process between) ∧
  (∀ before between after i j spec spec' r r', spec.name = spec'.name →
    history = before ++ ⟨i, .start spec, r⟩ :: between ++ ⟨j, .start spec', r'⟩ :: after →
    ∃ delay, InOrder [CommitsFailure i, GrantsRestart i delay, FiresTimer i delay] between) ∧
  ∀ name history' p', (p.shared.children name).state.circuitOpen = true →
    Pool.Reaches managerSemantics p history' p' →
    (p'.shared.children name).state.circuitOpen = true ∧
    (∀ e ∈ history', ∀ spec, spec.name = name → e.action ≠ .start spec) ∧
    ∀ spec ∈ cfg.children, spec.name = name → spec.required = true →
      ∀ n, (∀ e ∈ history, e.thread ≠ .observer n) →
        ∀ snapshot, ⟨.observer n, .serve snapshot, ()⟩ ∈ history' → snapshot.ready = false
  := by
  refine ⟨?_, ?_, ?_⟩
  · rintro before between after i j spec spec' process r hname rfl
    have hi : i = .child spec.name := by
      rw [List.append_assoc] at h
      exact h.starter
    have hj := h.starter
    rw [← hname, ← hi] at hj
    subst hj
    exact h.cleanedUp_of_start
  · rintro before between after i j spec spec' r r' hname rfl
    have hi : i = .child spec.name := by
      rw [List.append_assoc] at h
      exact h.starter
    have hj := h.starter
    rw [← hname, ← hi] at hj
    subst hj
    exact h.prepared_of_start
  · intro name history' p' hopen hreaches
    obtain ⟨hsticky, hstarts⟩ := h.circuit_sticky hopen hreaches
    refine ⟨hsticky, hstarts, ?_⟩
    rintro spec hspec rfl hrequired n hn
    exact h.not_ready hspec hrequired hopen hreaches hn

/-- The child exits and is started again. It exits once more, and its process group stays. -/
def circuitTurns : List (Choices × Goroutine × Nat) :=
  [({}, .run, 11), ({ monitor := .exited (.status none) }, .child "stack", 91),
    ({ monitor := .exited (.status none), cleanup := .deadline, present := true },
      .child "stack", 49)]

/-- The child is started. -/
def startsStack : Performed managerActions Goroutine → Bool
  | ⟨_, .start spec, .ok _⟩ => spec.name == "stack"
  | _ => false

/-- The first observer is served a snapshot. -/
def servesFirst : Performed managerActions Goroutine → Bool
  | ⟨.observer 0, .serve _, _⟩ => true
  | _ => false

/-- The first observer takes a snapshot. -/
def observeTurns : List (Choices × Goroutine × Nat) :=
  [({}, .observer 0, 4)]

/-- The child was started before and after its first exit, its circuit is open, and the first
observer has taken no snapshot and can take one. -/
def circuitCheck (history : History) (p : Pool managerActions Goroutine World) : Bool :=
  (history.take 30).any startsStack && (history.drop 30).any startsStack &&
    (p.shared.children "stack").state.circuitOpen &&
    history.all (fun e => e.thread != .observer 0) &&
    (Pool.simulate (observeTurns.map fun t => turn t.1 t.2.1 t.2.2) p).any
      (fun r => r.1.any servesFirst)

/-- The child is started twice, its circuit opens, and an observer is served a snapshot after
that. -/
theorem single_group_and_sticky_circuit_sample :
  ∃ i j spec spec' process process' before between after p history p' snapshot,
    Manages sampleConfig sampleStore {}
      (before ++ ⟨i, .start spec, .ok process⟩ :: between ++
        ⟨j, .start spec', .ok process'⟩ :: after)
      p ∧
    CleanedUp i process between ∧
    (∃ delay, InOrder [CommitsFailure i, GrantsRestart i delay, FiresTimer i delay] between) ∧
    (p.shared.children "stack").state.circuitOpen = true ∧
    Pool.Reaches managerSemantics p history p' ∧
    ⟨.observer 0, .serve snapshot, ()⟩ ∈ history ∧ snapshot.ready = false
  := by
  obtain ⟨history, p, hmanages, hcheck⟩ := manages_of_simulate sampleConfig sampleStore {}
    circuitTurns circuitCheck (by decide +kernel)
  unfold circuitCheck at hcheck
  rw [Bool.and_eq_true, Bool.and_eq_true, Bool.and_eq_true, Bool.and_eq_true] at hcheck
  obtain ⟨⟨⟨⟨hfirst, hsecond⟩, hopen⟩, hfresh⟩, hobserve⟩ := hcheck
  obtain ⟨e, he, hstart⟩ := List.any_eq_true.mp hfirst
  obtain ⟨e', he', hstart'⟩ := List.any_eq_true.mp hsecond
  obtain ⟨history', p', hreaches, hserves⟩ := reaches_of_turns
    observeTurns (fun history _ => history.any servesFirst) hobserve
  obtain ⟨e'', he'', hserve⟩ := List.any_eq_true.mp hserves
  unfold startsStack at hstart hstart'
  unfold servesFirst at hserve
  split at hstart
  · rename_i i spec process
    split at hstart'
    · rename_i j spec' process'
      split at hserve
      · rename_i snapshot _
        have hname : spec.name = "stack" := eq_of_beq hstart
        have hname' : spec'.name = "stack" := eq_of_beq hstart'
        obtain ⟨before, between, htake⟩ := List.append_of_mem he
        obtain ⟨between', after, hdrop⟩ := List.append_of_mem he'
        have hhistory : history =
            before ++ ⟨i, .start spec, .ok process⟩ :: (between ++ between') ++
              ⟨j, .start spec', .ok process'⟩ :: after := by
          rw [← List.take_append_drop 30 history, htake, hdrop]
          simp
        obtain ⟨hcleaned, hprepared, hsticky⟩ := single_group_and_sticky_circuit hmanages
        obtain ⟨-, -, hready⟩ := hsticky "stack" history' p' hopen hreaches
        have hfresh' : ∀ e ∈ history, e.thread ≠ .observer 0 := by
          intro e he
          exact bne_iff_ne.mp (List.all_eq_true.mp hfresh e he)
        refine ⟨i, j, spec, spec', process, process', before, between ++ between', after, p,
          history', p', snapshot, hhistory ▸ hmanages, ?_, ?_, hopen, hreaches, he'', ?_⟩
        · exact hcleaned _ _ _ _ _ _ _ _ _ (hname.trans hname'.symm) hhistory
        · exact hprepared _ _ _ _ _ _ _ _ _ (hname.trans hname'.symm) hhistory
        · exact hready _ (List.mem_singleton.mpr rfl) rfl rfl 0 hfresh' _ he''
      · cases hserve
    · cases hstart'
  · cases hstart

end Supervisor

end RobotestLab
