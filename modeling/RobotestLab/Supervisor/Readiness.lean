import Mathlib.Data.List.Nodup
import RobotestLab.Supervisor.Records
import RobotestLab.Supervisor.Refreshing

/-!
# The readiness of the supervisor

The manager remembers the readiness that was published last, and records each change of it. A
goroutine reads the readiness and publishes it in two critical sections, so the readiness may change
in between, and the change may be published first. When no goroutine is inside an operation, the
published readiness is the current one exactly when this did not happen to the last publication
(`readiness_published_iff`).
-/

namespace RobotestLab

namespace Supervisor

/-! ### The availability of the children -/

/-- What the readiness depends on in the state of a child. -/
structure Availability where
  running : Bool
  heartbeatFresh : Bool
  circuitOpen : Bool
deriving DecidableEq

namespace Availability

/-- The child does not keep the supervisor from being ready. -/
def up (v : Availability) : Bool := v.running && v.heartbeatFresh && !v.circuitOpen

end Availability

def ChildRuntime.availability (runtime : ChildRuntime) : Availability where
  running := runtime.state.running
  heartbeatFresh := runtime.state.heartbeatFresh
  circuitOpen := runtime.state.circuitOpen

/-- The configuration of the child with the given name. -/
def Config.child (cfg : Config) (name : String) : Child :=
  (cfg.children.find? fun spec => spec.name = name).getD { name := name, required := false }

/-- All required children are up. -/
def childrenReady (cfg : Config) (children : String → Availability) : Bool :=
  !(cfg.children.map Child.name).any fun name => (cfg.child name).required && !(children name).up

/-- The children before the run. -/
def initially (cfg : Config) (name : String) : Availability where
  running := false
  heartbeatFresh := (cfg.child name).heartbeatFile = ""
  circuitOpen := false

/-- The availability of the children after an action with the given answer. -/
def available (cfg : Config) (children : String → Availability) :
    (a : Action) → a.Answer → String → Availability
  | .commitStart name _ _ _, committed =>
      if committed then Function.update children name
        { running := true, heartbeatFresh := (cfg.child name).heartbeatFile = "",
          circuitOpen := false }
      else children
  | .commitFailure name _ _ _ _, identity =>
      if identity.isSome then Function.update children name
        { children name with running := false, heartbeatFresh := false }
      else children
  | .commitRestart name _ _, decision =>
      match decision with
      | some decision => Function.update children name
          { children name with circuitOpen := decision.exhausted || (children name).circuitOpen }
      | none => children
  | .publishIncomplete name _ _ _, _ => Function.update children name
      { running := false, heartbeatFresh := false, circuitOpen := true }
  | .publishStopped name _, _ => Function.update children name
      { children name with running := false, heartbeatFresh := false }
  | .publishHeartbeat name fresh _, _ => Function.update children name
      { children name with heartbeatFresh := fresh }
  | _, _ => children

/-- The action with the answer changes the availability of a child. Each operation of a child starts
with such a change and then publishes the readiness. -/
def Action.changes : (a : Action) → a.Answer → Bool
  | .commitStart _ _ _ _, committed => committed
  | .commitFailure _ _ _ _ _, identity => identity.isSome
  | .commitRestart _ _ _, decision => decision.any (·.exhausted)
  | .publishIncomplete _ _ _ _, _ => true
  | .publishStopped _ _, _ => true
  | .publishHeartbeat _ _ _, changed => changed
  | _, _ => false

/-- The goroutine is inside an operation: it has changed the availability of a child and has not yet
published the readiness. -/
def inside (i : Goroutine) (history : History) : Bool :=
  history.foldl (fun b e =>
    if e.thread = i then (b || e.action.changes e.answer) && !e.action.isSwap else b) false

/-! ### Publications -/

/-- What a history says about the readiness: the availability of the children, the readiness of the
children when each goroutine last read it, the readiness of the children at the last publication,
and whether it was another one when the goroutine had read it. The published changes of the
readiness are numbered; `latest` is the last one of each goroutine, and `announced` is the one whose
event was recorded last. -/
structure Publications where
  children : String → Availability
  read : Goroutine → Bool := fun _ => false
  published : Bool
  swapped : Bool := false
  overtaken : Bool := false
  changes : Nat := 0
  latest : Goroutine → Nat := fun _ => 0
  announced : Nat := 0

namespace Publications

def next (cfg : Config) (q : Publications) : Performed managerActions Goroutine → Publications
  | ⟨i, .readReady, _⟩ => { q with read := Function.update q.read i (childrenReady cfg q.children) }
  | ⟨i, .swapReady _, changed⟩ =>
      let q := { q with
        published := childrenReady cfg q.children
        swapped := true
        overtaken := q.read i ≠ childrenReady cfg q.children }
      if changed then { q with
        changes := q.changes + 1
        latest := Function.update q.latest i (q.changes + 1) }
      else q
  | ⟨i, .append _ event, _⟩ =>
      match event.mark with
      | .ready _ => { q with announced := q.latest i }
      | _ => q
  | ⟨_, a, r⟩ => { q with children := available cfg q.children a r }

end Publications

def publications (cfg : Config) (history : History) : Publications :=
  history.foldl (Publications.next cfg)
    { children := initially cfg, published := childrenReady cfg (initially cfg) }

/-- The readiness that an event with the mark records. -/
def Mark.readiness : Mark → Option Bool
  | .ready b => some b
  | _ => none

/-- What the last `readiness_changed` event says, and that the supervisor is not ready before the
first one. -/
def recordedReadiness (history : History) : Bool :=
  (((recorded history).filterMap fun event => event.mark.readiness).getLast?).getD false

/-- `isReady`. -/
def World.isReady (w : World) : Bool := w.ready && w.store.dropped = 0

section Publications

variable {cfg : Config} {history : History} {i j : Goroutine} {a : Action} {r : a.Answer}

theorem publications_snoc (e : Performed managerActions Goroutine) :
  publications cfg (history ++ [e]) = (publications cfg history).next cfg e
  := by
  rw [publications, List.foldl_append]
  rfl

theorem inside_own :
  inside i (history ++ [⟨i, a, r⟩]) = ((inside i history || a.changes r) && !a.isSwap)
  := by
  rw [inside, List.foldl_append]
  exact if_pos rfl

theorem inside_other (hij : j ≠ i) :
  inside i (history ++ [⟨j, a, r⟩]) = inside i history
  := by
  rw [inside, List.foldl_append]
  exact if_neg hij

/-- An action other than a publication leaves the goroutines inside their operations. -/
theorem inside_mono (ha : a.isSwap = false) (h : inside i history = true) :
  inside i (history ++ [⟨j, a, r⟩]) = true
  := by
  by_cases hij : j = i
  · subst hij
    rw [inside_own, h, ha]
    rfl
  · rw [inside_other hij, h]

/-- Only an action of a child touches the availability of the children. -/
theorem children_next (q : Publications) :
  (q.next cfg ⟨j, a, r⟩).children = available cfg q.children a r
  := by
  cases a with
  | swapReady ready =>
      simp only [Publications.next]
      split <;> rfl
  | append now event =>
      simp only [Publications.next]
      split <;> rfl
  | _ => rfl

theorem published_next {q : Publications} (ha : a.isSwap = false) :
  (q.next cfg ⟨j, a, r⟩).published = q.published
  := by
  cases a with
  | swapReady ready => cases ha
  | append now event =>
      simp only [Publications.next]
      split <;> rfl
  | _ => rfl

/-- Only the goroutine that reads the readiness changes what it has read. -/
theorem read_next {q : Publications} (ha : j = i → a ≠ .readReady) :
  (q.next cfg ⟨j, a, r⟩).read i = q.read i
  := by
  cases a with
  | readReady =>
      apply Function.update_of_ne
      rintro rfl
      exact ha rfl rfl
  | swapReady ready =>
      simp only [Publications.next]
      split <;> rfl
  | append now event =>
      simp only [Publications.next]
      split <;> rfl
  | _ => rfl

end Publications

/-! ### The children -/

/-- The children of the manager are the configured ones, with the given availability. -/
structure Shows (cfg : Config) (children : String → Availability) (w : World) : Prop where
  names : w.names = cfg.children.map Child.name
  spec : ∀ name, (w.children name).spec = cfg.child name
  availability : ∀ name, (w.children name).availability = children name

section Children

variable {cfg : Config} {children : String → Availability} {i : Goroutine} {a : Action}
  {c : a.Choice} {r : a.Answer} {w w' : World}

theorem shows_new (cfg : Config) (store : EventStore) (directory : Directory) :
  Shows cfg (initially cfg) (World.new cfg store directory)
  := ⟨rfl, fun _ => rfl, fun _ => rfl⟩

theorem Shows.update (h : Shows cfg children w) {name : String} {runtime : ChildRuntime}
    {v : Availability} (hspec : runtime.spec = cfg.child name) (hv : runtime.availability = v)
    (hnames : w'.names = w.names)
    (hchildren : w'.children = Function.update w.children name runtime) :
  Shows cfg (Function.update children name v) w'
  := by
  refine ⟨hnames.trans h.names, ?_, ?_⟩
  · intro n
    rw [hchildren]
    by_cases hn : n = name
    · subst hn
      rw [Function.update_self]
      exact hspec
    · rw [Function.update_of_ne hn, h.spec]
  · intro n
    rw [hchildren]
    by_cases hn : n = name
    · subst hn
      rw [Function.update_self, Function.update_self]
      exact hv
    · rw [Function.update_of_ne hn, Function.update_of_ne hn, h.availability]

theorem Shows.keep (h : Shows cfg children w) (hnames : w'.names = w.names)
    (hchildren : w'.children = w.children) :
  Shows cfg children w'
  := ⟨hnames.trans h.names, fun n => by rw [hchildren, h.spec],
    fun n => by rw [hchildren, h.availability]⟩

/-- The children are available as the action and its answer tell. -/
theorem Shows.perform (hw : Shows cfg children w) (h : w.perform i a c = some (r, w')) :
  Shows cfg (available cfg children a r) w'
  := by
  cases a with
  | commitStart name startedAt pid restarted =>
      simp only [World.perform] at h
      split at h
      · obtain ⟨rfl, rfl⟩ := Prod.mk.inj (Option.some.inj h)
        refine hw.update ?_ ?_ rfl rfl
        · exact hw.spec name
        · simp [ChildRuntime.startCommitted, ChildRuntime.availability, hw.spec]
      · obtain ⟨rfl, rfl⟩ := Prod.mk.inj (Option.some.inj h)
        exact hw
  | commitFailure name kind code now processExited =>
      simp only [World.perform] at h
      split at h
      · obtain ⟨rfl, rfl⟩ := Prod.mk.inj (Option.some.inj h)
        refine hw.update ?_ ?_ rfl rfl
        · exact hw.spec name
        · rw [← hw.availability name]
          rfl
      · obtain ⟨rfl, rfl⟩ := Prod.mk.inj (Option.some.inj h)
        exact hw
  | commitRestart name now continuousReady =>
      simp only [World.perform] at h
      split at h
      · obtain ⟨rfl, rfl⟩ := Prod.mk.inj (Option.some.inj h)
        refine hw.update ?_ ?_ rfl rfl
        · exact hw.spec name
        · rw [← hw.availability name]
          rfl
      · obtain ⟨rfl, rfl⟩ := Prod.mk.inj (Option.some.inj h)
        exact hw
  | publishIncomplete name pgid cleanup now =>
      obtain ⟨rfl, rfl⟩ := Prod.mk.inj (Option.some.inj h)
      refine hw.update ?_ rfl rfl rfl
      exact hw.spec name
  | publishStopped name code =>
      obtain ⟨rfl, rfl⟩ := Prod.mk.inj (Option.some.inj h)
      refine hw.update ?_ ?_ rfl rfl
      · exact hw.spec name
      · rw [← hw.availability name]
        rfl
  | publishHeartbeat name fresh age =>
      obtain ⟨rfl, rfl⟩ := Prod.mk.inj (Option.some.inj h)
      refine hw.update ?_ ?_ rfl rfl
      · exact hw.spec name
      · rw [← hw.availability name]
        rfl
  | _ =>
      refine hw.keep ?_ ?_
      · simp only [World.perform] at h
        grind
      · simp only [World.perform] at h
        grind

/-- Without a change the readiness of the children stays the same. -/
theorem Shows.unchanged (hw : Shows cfg children w) (h : w.perform i a c = some (r, w'))
    (hchanges : a.changes r = false) :
  childrenReady cfg (available cfg children a r) = childrenReady cfg children
  := by
  cases a with
  | commitStart name startedAt pid restarted =>
      rw [Action.changes] at hchanges
      subst hchanges
      rfl
  | commitFailure name kind code now processExited =>
      cases r with
      | none => rfl
      | some identity => cases hchanges
  | commitRestart name now continuousReady =>
      cases r with
      | none => rfl
      | some decision =>
          have hexhausted : decision.exhausted = false := hchanges
          have hsame : available cfg children (.commitRestart name now continuousReady)
              (some decision) = children := by
            simp only [available, hexhausted, Bool.false_or]
            apply Function.update_eq_self
          rw [hsame]
  | publishIncomplete name pgid cleanup now => cases hchanges
  | publishStopped name code => cases hchanges
  | publishHeartbeat name fresh age =>
      obtain ⟨rfl, -⟩ := Prod.mk.inj (Option.some.inj h)
      have hfresh : (w.children name).state.heartbeatFresh = fresh := by
        simpa [Action.changes] using hchanges
      have hsame : available cfg children (.publishHeartbeat name fresh age)
          (decide ((w.children name).state.heartbeatFresh ≠ fresh)) = children := by
        rw [← hfresh]
        simp only [available]
        have hshown : (w.children name).state.heartbeatFresh = (children name).heartbeatFresh := by
          rw [← hw.availability name]
          rfl
        rw [hshown]
        apply Function.update_eq_self
      rw [hsame]
  | _ => rfl

/-- While the manager is up, it is ready when its children are. -/
theorem Shows.ready (hw : Shows cfg children w) (hshutdown : w.shuttingDown = false)
    (hhealthy : w.persistenceHealthy = true) :
  w.ready = childrenReady cfg children
  := by
  have hup : ∀ name, ((w.children name).spec.required &&
      (!(w.children name).state.running || !(w.children name).state.heartbeatFresh ||
        (w.children name).state.circuitOpen)) =
      ((cfg.child name).required && !(children name).up) := by
    intro name
    rw [hw.spec, ← hw.availability name, Availability.up, ChildRuntime.availability]
    simp only [Bool.not_and, Bool.not_not]
  rw [World.ready, hshutdown, hhealthy, childrenReady, hw.names]
  simp only [hup, Bool.not_false, Bool.true_and]

end Children

/-! ### Undisturbed states -/

/-- The manager is not shutting down, its persistence is healthy, and no event was dropped. -/
structure Undisturbed (w : World) : Prop where
  shuttingDown : w.shuttingDown = false
  persistenceHealthy : w.persistenceHealthy = true
  dropped : w.store.dropped = 0

/-- A store that is not saturated has dropped nothing. -/
def Counts (store : EventStore) : Prop := store.saturated = false → store.dropped = 0

section Undisturbed

variable {cfg : Config} {store : EventStore} {directory : Directory} {history : History}
  {p : Pool managerActions Goroutine World}

theorem dropped_next_ne_zero {n : UInt64} (h : n ≠ greatestSequence) :
  n + 1 ≠ 0
  := by
  intro hzero
  have hnext := toNat_next h
  rw [hzero] at hnext
  cases hnext

theorem unsaturated_of_capacity {payload : List UInt8} (h : capacityDrop store payload = false) :
  store.saturated = false
  := by
  simp only [capacityDrop, Bool.or_eq_false_iff] at h
  exact h.1.1

variable {event : Event}

/-- An append does not take back that an event was dropped. -/
theorem append_dropped {now : Utc} {d d' : Directory}
    {u : List ioSignature.Interaction} {appended : Appended} (hstore : Counts store)
    (h : Program.Runs (append store now event) d u (.ok appended) d') :
  Counts appended.store ∧ (appended.store.dropped = 0 → store.dropped = 0)
  := by
  have houtcome := runs_append h
  generalize hr : (Except.ok appended : Except Crash Appended) = r at houtcome
  cases houtcome with
  | refused =>
      obtain rfl := Except.ok.inj hr
      exact ⟨hstore, id⟩
  | @dropped y d' room capacity counts =>
      cases y with
      | error e => cases hr
      | ok err =>
          obtain rfl := Except.ok.inj hr
          exact ⟨nofun, fun hzero => absurd hzero (dropped_next_ne_zero counts)⟩
  | @unreserved d₁ d' v w cause y room capacity =>
      cases y with
      | error e => cases hr
      | ok err =>
          obtain rfl := Except.ok.inj hr
          exact ⟨nofun, fun _ => hstore (unsaturated_of_capacity capacity)⟩
  | stopped => cases hr
  | @recorded v w r d' room capacity _ _ _ record =>
      cases record with
      | stopped => cases hr
      | @failed d₁ d' v w cause y =>
          cases y with
          | error e => cases hr
          | ok err =>
              obtain rfl := Except.ok.inj hr
              exact ⟨nofun, fun _ => hstore (unsaturated_of_capacity capacity)⟩
      | written =>
          obtain rfl := Except.ok.inj hr
          exact ⟨hstore, id⟩

theorem counts_perform {i : Goroutine} {a : Action} {c : a.Choice} {r : a.Answer} {w w' : World}
    (hstore : Counts w.store) (h : w.perform i a c = some (r, w')) :
  Counts w'.store ∧ (w'.store.dropped = 0 → w.store.dropped = 0)
  := by
  by_cases ha : ∃ now event, a = .append now event
  · obtain ⟨now, event, rfl⟩ := ha
    obtain ⟨appended, d', u, hruns, rfl, rfl⟩ := perform_append ⟨c, h⟩
    exact append_dropped hstore hruns
  · push Not at ha
    rw [store_perform h ha]
    exact ⟨hstore, id⟩

theorem healthy_perform {i : Goroutine} {a : Action} {c : a.Choice} {r : a.Answer} {w w' : World}
    (h : w.perform i a c = some (r, w')) (hw : w'.persistenceHealthy = true) :
  w.persistenceHealthy = true
  := by
  cases a with
  | persistenceFailed =>
      obtain ⟨-, rfl⟩ := Prod.mk.inj (Option.some.inj h)
      cases hw
  | _ =>
      simp only [World.perform] at h
      grind [World.updateChild]

/-- A state before an undisturbed one is undisturbed. -/
theorem Undisturbed.before {i : Goroutine} {a : Action} {c : a.Choice} {r : a.Answer} {w w' : World}
    (hw : Undisturbed w') (hstore : Counts w.store) (h : w.perform i a c = some (r, w')) :
  Undisturbed w
  := by
  refine ⟨?_, healthy_perform h hw.persistenceHealthy, (counts_perform hstore h).2 hw.dropped⟩
  rw [← Bool.not_eq_true]
  intro hshutdown
  have hlater := shuttingDown_mono h hshutdown
  rw [hw.shuttingDown] at hlater
  cases hlater

/-- What a goroutine has read in a history. -/
def refreshed (i : Goroutine) (history : History) : Refreshing := refreshing.after {} i history

theorem refreshed_own {i : Goroutine} {a : Action} {r : a.Answer} :
  refreshed i (history ++ [⟨i, a, r⟩]) = (refreshed i history).next a r
  := Protocol.after_own (P := refreshing) a r

theorem refreshed_other {i j : Goroutine} {a : Action} {r : a.Answer} (hij : j ≠ i) :
  refreshed i (history ++ [⟨j, a, r⟩]) = refreshed i history
  := Protocol.after_other (P := refreshing) hij

/-- A property that every action of the protocol of the readiness keeps holds in every run. -/
theorem Manages.refreshing_invariant (Inv : History → World → Prop)
    (hinit : Inv [] (World.new cfg store directory))
    (hstep : ∀ history p i a r w, Manages cfg store directory history p → Inv history p.shared →
      (refreshed i history).Allows a → managerSemantics i a p.shared r w →
      Inv (history ++ [⟨i, a, r⟩]) w)
    (h : Manages cfg store directory history p) :
  Inv history p.shared
  := by
  apply Pool.Reaches.invariant (P := fun _ => refreshing) (q := fun _ => {}) Inv _ _ hinit hstep h
  · intro i
    exact (refreshes_goroutine cfg i {}).mono fun _ _ _ => trivial
  · intro i a w r w' _
    trivial

theorem Manages.counts (hstore : store.dropped = 0) (h : Manages cfg store directory history p) :
  Counts p.shared.store
  := by
  apply Manages.refreshing_invariant (fun _ w => Counts w.store) (fun _ => hstore) _ h
  rintro history p i a r w - hinv - ⟨c, hperform⟩
  exact (counts_perform hinv hperform).1

theorem Manages.shows (h : Manages cfg store directory history p) :
  Shows cfg (publications cfg history).children p.shared
  := by
  apply Manages.refreshing_invariant (fun history w =>
    Shows cfg (publications cfg history).children w) (shows_new cfg store directory) _ h
  rintro history p i a r w - hinv - ⟨c, hperform⟩
  rw [publications_snoc, children_next]
  exact hinv.perform hperform

/-! ### Publications -/

/-- The readiness is the published one, unless a goroutine is about to publish another one. -/
theorem Manages.published (h : Manages cfg store directory history p) :
  childrenReady cfg (publications cfg history).children ≠ (publications cfg history).published →
    ∃ i, inside i history = true
  := by
  apply Manages.refreshing_invariant (fun history _ =>
    childrenReady cfg (publications cfg history).children ≠ (publications cfg history).published →
      ∃ i, inside i history = true) _ _ h
  · intro hdiffers
    exact absurd rfl hdiffers
  rintro history p i a r w hmanages hinv - ⟨c, hperform⟩ hdiffers
  rw [publications_snoc, children_next] at hdiffers
  by_cases hswap : a.isSwap = true
  · cases a with
    | swapReady ready =>
        refine absurd ?_ hdiffers
        simp only [Publications.next]
        split <;> rfl
    | _ => cases hswap
  rw [Bool.not_eq_true] at hswap
  rw [published_next hswap] at hdiffers
  by_cases hchanges : a.changes r = true
  · refine ⟨i, ?_⟩
    rw [inside_own, hchanges, hswap, Bool.or_true]
    rfl
  · rw [Bool.not_eq_true] at hchanges
    rw [hmanages.shows.unchanged hperform hchanges] at hdiffers
    obtain ⟨j, hj⟩ := hinv hdiffers
    exact ⟨j, inside_mono hswap hj⟩

/-- What the goroutines have read last. -/
def Reads (cfg : Config) (history : History) (i : Goroutine) (q : Refreshing) : Prop :=
  (∀ b, q.answer = some b → b = (publications cfg history).read i) ∧
    ∀ b, q.ready = some b → b = (publications cfg history).read i

/-- A goroutine that reads in an undisturbed state reads the readiness of the children. -/
theorem reads_next {i : Goroutine} {a : Action} {c : a.Choice} {r : a.Answer} {w : World}
    {q : Refreshing} (hmanages : Manages cfg store directory history p)
    (hbefore : Undisturbed p.shared) (hreads : Reads cfg history i q)
    (hperform : p.shared.perform i a c = some (r, w)) :
  Reads cfg (history ++ [⟨i, a, r⟩]) i (q.next a r)
  := by
  rw [Reads, publications_snoc]
  by_cases hread : a = .readReady
  · subst hread
    obtain ⟨rfl, -⟩ := Prod.mk.inj (Option.some.inj hperform)
    have hready := hmanages.shows.ready hbefore.shuttingDown hbefore.persistenceHealthy
    refine ⟨?_, nofun⟩
    rintro b ⟨⟩
    rw [hready]
    symm
    apply Function.update_self
  · rw [read_next fun _ => hread]
    cases a with
    | readReady => exact absurd rfl hread
    | counts =>
        obtain ⟨rfl, -⟩ := Prod.mk.inj (Option.some.inj hperform)
        refine ⟨hreads.1, ?_⟩
        intro b hb
        obtain ⟨answer, hanswer, rfl⟩ := Option.map_eq_some_iff.mp hb
        simp only [hbefore.dropped, decide_true, Bool.and_true]
        exact hreads.1 answer hanswer
    | _ => exact hreads

/-- In an undisturbed state every goroutine knows the readiness of the children as it read it. -/
theorem Manages.reads (hstore : store.dropped = 0) (h : Manages cfg store directory history p)
    (hundisturbed : Undisturbed p.shared) (i : Goroutine) :
  Reads cfg history i (refreshed i history)
  := by
  apply Manages.refreshing_invariant (fun history w => Undisturbed w → ∀ i,
    Reads cfg history i (refreshed i history)) _ _ h hundisturbed i
  · intro _ i
    exact ⟨nofun, nofun⟩
  rintro history p j a r w hmanages hinv - ⟨c, hperform⟩ hw i
  have hbefore := hw.before (hmanages.counts hstore) hperform
  have hreads := hinv hbefore i
  by_cases hji : j = i
  · subst hji
    rw [refreshed_own]
    apply reads_next hmanages hbefore hreads hperform
  · rw [refreshed_other hji, Reads, publications_snoc, read_next fun h => absurd h hji]
    exact hreads

/-- What the manager remembers of the publications. -/
structure Remembers (cfg : Config) (q : Publications) (w : World) : Prop where
  swapped : q.swapped = true → (q.overtaken = false ↔ w.lastReady = q.published)
  fresh : q.swapped = false → w.lastReady = false ∧ q.overtaken = false ∧
    q.published = childrenReady cfg (initially cfg)

theorem lastReady_of_isSwap {i : Goroutine} {a : Action} {c : a.Choice} {r : a.Answer}
    {w w' : World}
    (h : w.perform i a c = some (r, w')) (ha : a.isSwap = false) :
  w'.lastReady = w.lastReady
  := by
  apply lastReady_perform h
  rintro ready rfl
  cases ha

theorem remembers_next {q : Publications} {i : Goroutine} {a : Action} {c : a.Choice} {r : a.Answer}
    {w w' : World} (hq : Remembers cfg q w) (h : w.perform i a c = some (r, w'))
    (ha : a.isSwap = false) :
  Remembers cfg (q.next cfg ⟨i, a, r⟩) w'
  := by
  have hsame : (q.next cfg ⟨i, a, r⟩).swapped = q.swapped ∧
      (q.next cfg ⟨i, a, r⟩).overtaken = q.overtaken := by
    cases a with
    | swapReady ready => cases ha
    | append now event =>
        simp only [Publications.next]
        split <;> exact ⟨rfl, rfl⟩
    | _ => exact ⟨rfl, rfl⟩
  constructor
  · rw [hsame.1, hsame.2, lastReady_of_isSwap h ha, published_next ha]
    exact hq.swapped
  · rw [hsame.1, hsame.2, lastReady_of_isSwap h ha, published_next ha]
    exact hq.fresh

/-- A goroutine publishes the readiness that it read. -/
theorem remembers_swap {q : Publications} {i : Goroutine} {ready changed : Bool} {w : World}
    (h : ready = q.read i) :
  Remembers cfg (q.next cfg ⟨i, .swapReady ready, changed⟩) { w with lastReady := ready }
  := by
  have hnext : (q.next cfg ⟨i, .swapReady ready, changed⟩).swapped = true ∧
      (q.next cfg ⟨i, .swapReady ready, changed⟩).overtaken =
        decide (q.read i ≠ childrenReady cfg q.children) ∧
      (q.next cfg ⟨i, .swapReady ready, changed⟩).published = childrenReady cfg q.children := by
    simp only [Publications.next]
    split <;> exact ⟨rfl, rfl, rfl⟩
  obtain ⟨hswapped, hovertaken, hpublished⟩ := hnext
  constructor
  · intro _
    rw [hovertaken, hpublished, h]
    simp
  · rw [hswapped]
    intro hswap
    cases hswap

/-- In an undisturbed state the published readiness is the one of the children at the last
publication, unless that publication was overtaken. -/
theorem Manages.remembers (hstore : store.dropped = 0) (h : Manages cfg store directory history p)
    (hundisturbed : Undisturbed p.shared) :
  Remembers cfg (publications cfg history) p.shared
  := by
  apply Manages.refreshing_invariant (fun history w => Undisturbed w →
    Remembers cfg (publications cfg history) w) _ _ h hundisturbed
  · intro _
    exact ⟨nofun, fun _ => ⟨rfl, rfl, rfl⟩⟩
  rintro history p i a r w hmanages hinv hallows ⟨c, hperform⟩ hw
  have hbefore := hw.before (hmanages.counts hstore) hperform
  rw [publications_snoc]
  by_cases ha : a.isSwap = true
  · cases a with
    | swapReady ready =>
        obtain ⟨-, rfl⟩ := Prod.mk.inj (Option.some.inj hperform)
        have hread := (hmanages.reads hstore hbefore i).2 ready hallows
        apply remembers_swap hread
    | _ => cases ha
  · exact remembers_next (hinv hbefore) hperform (Bool.not_eq_true _ ▸ ha)

/-- The number of the change tells its value: the supervisor was not ready before the first one. -/
structure Alternates (cfg : Config) (history : History) (w : World) : Prop where
  lastReady : w.lastReady = decide ((publications cfg history).changes % 2 = 1)
  latest : ∀ i b, (reported cfg i history).report.announced = some b →
    b = decide ((publications cfg history).latest i % 2 = 1)
  recorded : recordedReadiness history = decide ((publications cfg history).announced % 2 = 1)

/-- The readiness that an event records. -/
theorem recordedReadiness_append {i : Goroutine} {now : Time} {answer : Event × Err} :
  recordedReadiness (history ++ [⟨i, .append now event, answer⟩]) =
    answer.1.mark.readiness.getD (recordedReadiness history)
  := by
  unfold recordedReadiness
  rw [recorded_snoc_append, List.filterMap_append]
  cases hmark : answer.1.mark.readiness with
  | some b => simp [hmark]
  | none => simp [hmark]

theorem recordedReadiness_other {i : Goroutine} {a : Action} {r : a.Answer}
    (ha : ∀ now event, a ≠ .append now event) :
  recordedReadiness (history ++ [⟨i, a, r⟩]) = recordedReadiness history
  := by
  unfold recordedReadiness
  rw [recorded_snoc_of_ne ha]

/-- Only publications and events change what a goroutine has to record. -/
theorem reported_announced_next {q : Reporting} {a : Action} {r : a.Answer}
    (hswap : a.isSwap = false)
    (ha : ∀ now event, a ≠ .append now event) :
  (q.next a r).report.announced = q.report.announced
  := by
  cases a with
  | swapReady ready => cases hswap
  | append now event => exact absurd rfl (ha now event)
  | commitStart name startedAt pid restarted =>
      simp only [Reporting.next]
      split <;> rfl
  | commitFailure name kind code now processExited =>
      simp only [Reporting.next]
      split <;> rfl
  | _ => rfl

/-- Only publications and events change the numbers. -/
theorem numbers_next {q : Publications} {i : Goroutine} {a : Action} {r : a.Answer}
    (hswap : a.isSwap = false) (ha : ∀ now event, a ≠ .append now event) :
  (q.next cfg ⟨i, a, r⟩).changes = q.changes ∧ (q.next cfg ⟨i, a, r⟩).latest = q.latest ∧
    (q.next cfg ⟨i, a, r⟩).announced = q.announced
  := by
  cases a with
  | swapReady ready => cases hswap
  | append now event => exact absurd rfl (ha now event)
  | _ => exact ⟨rfl, rfl, rfl⟩

theorem alternates_swap {i : Goroutine} {ready : Bool} {w : World} (h : Alternates cfg history w) :
  Alternates cfg (history ++ [⟨i, .swapReady ready, decide (ready ≠ w.lastReady)⟩])
    { w with lastReady := ready }
  := by
  have hrecorded : recordedReadiness
      (history ++ [⟨i, .swapReady ready, decide (ready ≠ w.lastReady)⟩]) =
        recordedReadiness history := recordedReadiness_other nofun
  by_cases hchanged : ready = w.lastReady
  · have hfalse : decide (ready ≠ w.lastReady) = false := by
      simp [hchanged]
    rw [hfalse] at hrecorded ⊢
    constructor
    · rw [publications_snoc]
      exact hchanged.trans h.lastReady
    · intro j b hb
      rw [publications_snoc]
      rw [reported_snoc] at hb
      split at hb
      · cases hb
      · exact h.latest j b hb
    · rw [hrecorded, publications_snoc]
      exact h.recorded
  · have htrue : decide (ready ≠ w.lastReady) = true := by
      simp [hchanged]
    have hflip : ready = decide (((publications cfg history).changes + 1) % 2 = 1) := by
      have hlast := h.lastReady
      grind
    rw [htrue] at hrecorded ⊢
    constructor
    · rw [publications_snoc]
      exact hflip
    · intro j b hb
      rw [publications_snoc]
      rw [reported_snoc] at hb
      split at hb
      · rename_i hij
        subst hij
        obtain rfl := Option.some.inj hb
        simp only [Publications.next, if_true, Function.update_self]
        exact hflip
      · rename_i hij
        simp only [Publications.next, if_true, Function.update_of_ne (Ne.symm hij)]
        exact h.latest j b hb
    · rw [hrecorded, publications_snoc]
      exact h.recorded

/-- An event records the change that its goroutine published last. -/
theorem alternates_append {i : Goroutine} {now : Time} {answer : Event × Err}
    {w w' : World} (h : Alternates cfg history w)
    (hallows : (reported cfg i history).report.CanMark cfg event.mark i)
    (hmark : answer.1.mark = event.mark) (hlast : w'.lastReady = w.lastReady) :
  Alternates cfg (history ++ [⟨i, .append now event, answer⟩]) w'
  := by
  have hrecorded : recordedReadiness (history ++ [⟨i, .append now event, answer⟩]) =
      event.mark.readiness.getD (recordedReadiness history) :=
    hmark ▸ recordedReadiness_append
  cases hm : event.mark with
  | ready b =>
      rw [hm] at hallows hrecorded
      have hb : b = decide ((publications cfg history).latest i % 2 = 1) := by
        apply h.latest i
        cases i with
        | child name => exact hallows.2
        | run =>
            simp only [Report.CanMark] at hallows
            split at hallows <;> cases hallows
        | _ => cases hallows
      constructor
      · rw [publications_snoc, hlast]
        simp only [Publications.next, hm]
        exact h.lastReady
      · intro j b' hb'
        rw [publications_snoc]
        simp only [Publications.next, hm]
        rw [reported_snoc] at hb'
        split at hb'
        · simp only [Reporting.next, hm, Report.marked] at hb'
          cases hb'
        · exact h.latest j b' hb'
      · rw [hrecorded, publications_snoc]
        simp only [Publications.next, hm]
        exact hb
  | _ =>
      rw [hm] at hrecorded
      constructor
      · rw [publications_snoc, hlast]
        simp only [Publications.next, hm]
        exact h.lastReady
      · intro j b' hb'
        rw [publications_snoc]
        simp only [Publications.next, hm]
        rw [reported_snoc] at hb'
        split at hb'
        · rename_i hij
          subst hij
          simp only [Reporting.next, hm, Report.marked] at hb'
          exact h.latest _ b' hb'
        · exact h.latest j b' hb'
      · rw [hrecorded, publications_snoc]
        simp only [Publications.next, hm]
        exact h.recorded

theorem Manages.alternates (h : Manages cfg store directory history p) :
  Alternates cfg history p.shared
  := by
  apply Manages.reporting_invariant (fun history w => Alternates cfg history w) _ _ h
  · exact ⟨rfl, nofun, rfl⟩
  rintro history p i a r w hmanages hinv hallows hexec
  by_cases happend : ∃ now event, a = .append now event
  · obtain ⟨now, event, rfl⟩ := happend
    obtain ⟨appended, d', u, hruns, rfl, rfl⟩ := perform_append hexec
    exact alternates_append hinv hallows.2.2 (append_mark hruns).1 rfl
  push Not at happend
  obtain ⟨c, hperform⟩ := hexec
  by_cases hswap : a.isSwap = true
  · cases a with
    | swapReady ready =>
        obtain ⟨rfl, rfl⟩ := Prod.mk.inj (Option.some.inj hperform)
        exact alternates_swap hinv
    | _ => cases hswap
  · rw [Bool.not_eq_true] at hswap
    have hsame := @numbers_next cfg (publications cfg history) i a r hswap happend
    constructor
    · rw [publications_snoc, hsame.1, lastReady_of_isSwap hperform hswap]
      exact hinv.lastReady
    · intro j b hb
      rw [publications_snoc, hsame.2.1]
      apply hinv.latest j
      rw [reported_snoc] at hb
      split at hb
      · rename_i hij
        subst hij
        rw [reported_announced_next hswap happend] at hb
        exact hb
      · exact hb
    · rw [publications_snoc, hsame.2.2, recordedReadiness_other happend]
      exact hinv.recorded

/-! ### The published readiness -/

/-- Before the run no child is up. -/
theorem childrenReady_initially :
  childrenReady cfg (initially cfg) = false ↔ ∃ spec ∈ cfg.children, spec.required = true
  := by
  have hfind : ∀ spec ∈ cfg.children, cfg.child spec.name = spec := by
    intro spec hspec
    have hfound : (cfg.children.find? fun s => s.name = spec.name).isSome = true := by
      rw [List.find?_isSome]
      exact ⟨spec, hspec, decide_eq_true rfl⟩
    obtain ⟨found, hfound⟩ := Option.isSome_iff_exists.mp hfound
    have hname : found.name = spec.name := of_decide_eq_true (List.find?_some hfound :)
    rw [Config.child, hfound, Option.getD_some]
    apply List.inj_on_of_nodup_map cfg.names_nodup (List.mem_of_find?_eq_some hfound) hspec hname
  rw [childrenReady, Bool.not_eq_false', List.any_eq_true]
  constructor
  · rintro ⟨name, hname, hrequired⟩
    obtain ⟨spec, hspec, rfl⟩ := List.mem_map.mp hname
    rw [hfind spec hspec, Bool.and_eq_true] at hrequired
    exact ⟨spec, hspec, hrequired.1⟩
  · rintro ⟨spec, hspec, hrequired⟩
    refine ⟨spec.name, List.mem_map_of_mem hspec, ?_⟩
    rw [hfind spec hspec, hrequired]
    rfl

/-- In a state in which no goroutine is inside an operation, the published readiness is the current
one exactly when the last publication was not overtaken by a change of the readiness, and there was
one or a child is required. The last recorded change has the published readiness exactly when an
even number of changes was published after it. -/
theorem readiness_published_iff (h : Manages cfg store directory history p)
    (hstore : store.dropped = 0) (hundisturbed : Undisturbed p.shared)
    (hinside : ∀ i, inside i history = false) :
  (p.shared.lastReady = p.shared.isReady ↔ (publications cfg history).overtaken = false ∧
    ((publications cfg history).swapped = true ∨ ∃ spec ∈ cfg.children, spec.required = true)) ∧
  (recordedReadiness history = p.shared.lastReady ↔
    (publications cfg history).announced % 2 = (publications cfg history).changes % 2)
  := by
  have hready : p.shared.isReady = (publications cfg history).published := by
    rw [World.isReady, hundisturbed.dropped, decide_eq_true rfl, Bool.and_true,
      h.shows.ready hundisturbed.shuttingDown hundisturbed.persistenceHealthy]
    by_contra hdiffers
    obtain ⟨i, hi⟩ := h.published hdiffers
    rw [hinside i] at hi
    cases hi
  have hremembers := h.remembers hstore hundisturbed
  constructor
  · rw [hready]
    cases hswapped : (publications cfg history).swapped with
    | true => simp [hremembers.swapped hswapped]
    | false =>
        obtain ⟨hlast, hovertaken, hpublished⟩ := hremembers.fresh hswapped
        rw [hlast, hovertaken, hpublished, ← childrenReady_initially, eq_comm]
        simp
  · rw [h.alternates.recorded, h.alternates.lastReady, decide_eq_decide]
    omega

end Undisturbed

/-! ### An overtaken publication -/

/-- A goroutine that performed nothing is not inside an operation. -/
theorem inside_of_notMem {i : Goroutine} {history : History} (h : ∀ e ∈ history, e.thread ≠ i) :
  inside i history = false
  := by
  induction history using List.reverseRecOn with
  | nil => rfl
  | append_singleton history e ih =>
      rw [inside_other (h e (List.mem_append_right _ List.mem_cons_self))]
      apply ih
      intro e he
      exact h e (List.mem_append_left _ he)

/-- The thread waits for the context, for its process or for the time of a restart. -/
def waits (t : Proc Unit) : Bool :=
  match t.head? 3 with
  | some ⟨.awaitCancel, _⟩ | some ⟨.selectMonitor _ _, _⟩ | some ⟨.selectRestart _, _⟩ => true
  | _ => false

section Sample

/-- Two required children, the second with a heartbeat. -/
def pairConfig : Config where
  heartbeatPollMs := 500
  heartbeatStaleMs := 2000
  heartbeatStartupTimeoutMs := 110000
  terminationGraceMs := 5000
  shutdownTimeoutMs := 10000
  restart := sampleConfig.restart
  children := [{ name := "bridge", required := true },
    { name := "stack", required := true, heartbeatFile := "stack.heartbeat" }]
  names_nodup := by decide

/-- The heartbeat is fresh. -/
def beating : (a : Action) → a.Choice
  | .stat _ => some .zero
  | a => ({ monitor := .heartbeat } : Choices).choose a

/-- The first child has ended. -/
def ending : (a : Action) → a.Choice := ({ monitor := .exited (.status none) } : Choices).choose

/-- Both children are started, and the goroutine of the second one reads that all are ready. -/
def startTurns : List (((a : Action) → a.Choice) × Goroutine × Nat) :=
  [(beating, .run, 11), (beating, .child "bridge", 18), (beating, .child "stack", 34)]

/-- No goroutine is inside an operation or does anything but wait. -/
def atRest (history : History) (p : Pool managerActions Goroutine World) : Bool :=
  decide (∀ e ∈ history, inside e.thread history = false) && waits (p.threads .run) &&
    waits (p.threads (.child "bridge")) && waits (p.threads (.child "stack")) &&
    !p.shared.shuttingDown && p.shared.persistenceHealthy && p.shared.store.dropped = 0

def freshStore : EventStore where
  limits := Sample.limits

theorem rests_of_atRest {history : History} {p : Pool managerActions Goroutine World}
    (h : atRest history p = true) :
  (∀ i, inside i history = false) ∧ Undisturbed p.shared ∧ waits (p.threads .run) = true ∧
    waits (p.threads (.child "bridge")) = true ∧ waits (p.threads (.child "stack")) = true
  := by
  simp only [atRest, Bool.and_eq_true, decide_eq_true_eq, Bool.not_eq_true'] at h
  obtain ⟨⟨⟨⟨⟨⟨hinside, hrun⟩, hbridge⟩, hstack⟩, hshutdown⟩, hhealthy⟩, hdropped⟩ := h
  refine ⟨?_, ⟨hshutdown, hhealthy, hdropped⟩, hrun, hbridge, hstack⟩
  intro i
  by_cases hi : ∃ e ∈ history, e.thread = i
  · obtain ⟨e, he, rfl⟩ := hi
    exact hinside e he
  · push Not at hi
    exact inside_of_notMem hi

/-- The first child fails, and this is published, between the reading of the second goroutine and
its publication. -/
theorem readiness_overtaken :
  ∃ history p, Manages pairConfig freshStore {} history p ∧ Undisturbed p.shared ∧
    (∀ i, inside i history = false) ∧ waits (p.threads .run) = true ∧
    waits (p.threads (.child "bridge")) = true ∧ waits (p.threads (.child "stack")) = true ∧
    p.shared.lastReady = true ∧ recordedReadiness history = true ∧ p.shared.isReady = false
  := by
  obtain ⟨history, p, hrun, hcheck⟩ := reaches_of_choices
    (p := manager pairConfig freshStore {})
    (startTurns ++ [(ending, .child "bridge", 48), (beating, .child "stack", 10)])
    (fun history p => atRest history p && p.shared.lastReady && recordedReadiness history &&
      !p.shared.isReady) (by decide +kernel)
  simp only [Bool.and_eq_true, Bool.not_eq_true'] at hcheck
  obtain ⟨⟨⟨hrest, hlast⟩, hrecorded⟩, hready⟩ := hcheck
  obtain ⟨hinside, hundisturbed, hwaits⟩ := rests_of_atRest hrest
  exact ⟨history, p, hrun, hundisturbed, hinside, hwaits.1, hwaits.2.1, hwaits.2.2, hlast,
    hrecorded, hready⟩

/-- Both children are up, and this was published. -/
theorem readiness_published_iff_sample :
  ∃ history p, Manages pairConfig freshStore {} history p ∧ p.shared.isReady = true ∧
    p.shared.lastReady = p.shared.isReady ∧ recordedReadiness history = p.shared.lastReady
  := by
  obtain ⟨history, p, hrun, hcheck⟩ := reaches_of_choices
    (p := manager pairConfig freshStore {}) (startTurns ++ [(beating, .child "stack", 10)])
    (fun history p => atRest history p && p.shared.isReady &&
      !(publications pairConfig history).overtaken && (publications pairConfig history).swapped &&
      (publications pairConfig history).announced % 2 =
        (publications pairConfig history).changes % 2)
    (by decide +kernel)
  simp only [Bool.and_eq_true, Bool.not_eq_true', decide_eq_true_eq] at hcheck
  obtain ⟨⟨⟨⟨hrest, hready⟩, hovertaken⟩, hswapped⟩, hparity⟩ := hcheck
  obtain ⟨hinside, hundisturbed, -⟩ := rests_of_atRest hrest
  obtain ⟨hlast, hrecorded⟩ := readiness_published_iff hrun rfl hundisturbed hinside
  exact ⟨history, p, hrun, hready, hlast.mpr ⟨hovertaken, .inl hswapped⟩, hrecorded.mpr hparity⟩

end Sample

end Supervisor

end RobotestLab
