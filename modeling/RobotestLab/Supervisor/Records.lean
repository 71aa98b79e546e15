import RobotestLab.Supervisor.Reporting
import RobotestLab.Supervisor.Shutdown
import RobotestLab.Supervisor.StoreRecovery

/-!
# The records of a run

The events of a run as its event store holds them. A run continues the history of its store, so that
the next process opens what it leaves (`Manages.reopens`). When every event gets its record, the log
grows by the lines of the events, in the order in which they were appended, with consecutive
sequences. The steady time of an event is the one of the clock reading that its goroutine took
before it appended the event.
-/

namespace RobotestLab

namespace Supervisor

/-! ### Appends -/

/-- The event got its record. -/
structure Writes (store : EventStore) (now : Utc) (event : Event) (d : Directory)
    (appended : Appended) (d' : Directory) : Prop where
  event : appended.event = stampEvent event (store.sequence + 1) now
  sequence : appended.event.sequence.toNat = store.sequence.toNat + 1
  store : appended.store = store.written appended.event.sequence appended.event.line
  contents : d'.contents = d.contents ++ appended.event.line

variable {event : Event} {appended : Appended}

/-- An append writes a record, or it leaves the number of records. In that case it reports an error,
or the store is saturated. -/
theorem append_writes {store : EventStore} {now : Utc} {d d' : Directory}
    {u : List ioSignature.Interaction}
    (h : Program.Runs (append store now event) d u (.ok appended) d') :
  Writes store now event d appended d' ∨
    appended.store.entries = store.entries ∧
      (appended.err ≠ [] ∨ appended.store.saturated = true)
  := by
  have houtcome := runs_append h
  generalize hr : (Except.ok appended : Except Crash Appended) = r at houtcome
  cases houtcome with
  | refused _ fails _ =>
      obtain rfl := Except.ok.inj hr
      exact Or.inr ⟨rfl, Or.inl fails⟩
  | @dropped y =>
      cases y with
      | error e => cases hr
      | ok err =>
          obtain rfl := Except.ok.inj hr
          exact Or.inr ⟨rfl, Or.inr rfl⟩
  | @unreserved d₁ d' v w cause y =>
      cases y with
      | error e => cases hr
      | ok err =>
          obtain rfl := Except.ok.inj hr
          exact Or.inr ⟨rfl, Or.inr rfl⟩
  | stopped => cases hr
  | @recorded v w r d' room _ _ _ _ record =>
      cases record with
      | stopped => cases hr
      | @failed d₁ d' v w cause y =>
          cases y with
          | error e => cases hr
          | ok err =>
              obtain rfl := Except.ok.inj hr
              exact Or.inr ⟨rfl, Or.inr rfl⟩
      | written =>
          obtain rfl := Except.ok.inj hr
          exact Or.inl ⟨rfl, toNat_next room, rfl, rfl⟩

/-- What an append action does. -/
theorem perform_append {w w' : World} {i : Goroutine} {now : Time}
    {answer : Event × Err} (h : managerSemantics i (.append now event) w answer w') :
  ∃ appended directory u, Program.Runs (append w.store now.utc event) w.directory u (.ok appended)
      directory ∧ answer = (appended.event, appended.err) ∧
    w' = { w with store := appended.store, directory := directory }
  := by
  obtain ⟨c, h⟩ := h
  simp only [World.perform] at h
  split at h
  · rename_i appended directory u happend
    obtain ⟨rfl, rfl⟩ := Prod.mk.inj (Option.some.inj h)
    exact ⟨appended, directory, u, ⟨c, 0, [], happend⟩, rfl, rfl⟩
  · cases h

/-- The returned event says what the given one says. -/
theorem append_mark {store : EventStore} {now : Utc} {d d' : Directory}
    {u : List ioSignature.Interaction}
    (h : Program.Runs (append store now event) d u (.ok appended) d') :
  appended.event.mark = event.mark ∧ appended.event.steadyWallNs = event.steadyWallNs
  := by
  obtain ⟨⟨-, hevent⟩ | ⟨-, hevent⟩, -⟩ := append_returns h
  · rw [hevent]
    exact ⟨rfl, rfl⟩
  · rw [hevent]
    exact ⟨rfl, rfl⟩

/-! ### Recorded events -/

section Recorded

variable {i : Goroutine} {a : Action} {r : a.Answer} {history history' : History}

theorem recorded_append :
  recorded (history ++ history') = recorded history ++ recorded history'
  := List.filterMap_append

theorem recorded_snoc_of_ne (ha : ∀ now event, a ≠ .append now event) :
  recorded (history ++ [⟨i, a, r⟩]) = recorded history
  := by
  rw [recorded_append]
  cases a with
  | append now event => exact absurd rfl (ha now event)
  | _ => exact List.append_nil _

theorem recorded_snoc_append {now : Time} {event : Event} {answer : Event × Err} :
  recorded (history ++ [⟨i, .append now event, answer⟩]) = recorded history ++ [answer.1]
  := recorded_append

end Recorded

theorem directory_perform {i : Goroutine} {a : Action} {c : a.Choice} {r : a.Answer} {w w' : World}
    (h : w.perform i a c = some (r, w')) (happend : ∀ now event, a ≠ .append now event) :
  w'.directory = w.directory
  := by
  cases a with
  | append now event => exact absurd rfl (happend now event)
  | _ =>
      simp only [World.perform] at h
      grind [World.updateChild]

/-! ### The history of the event store -/

section StoreHistory

variable {cfg : Config} {store : EventStore} {directory initial : Directory} {history : History}
  {p : Pool managerActions Goroutine World} {tr : List StoreLabel}

/-- A run continues the history of its event store, and only appends events that the supervisor
records. -/
theorem Manages.storeHistory (h : Manages cfg store directory history p)
    (hstore : StoreHistory initial tr ⟨directory, some store⟩) :
  ∃ tr', StoreHistory initial (tr ++ tr') ⟨p.shared.directory, some p.shared.store⟩ ∧
    ∀ l ∈ tr', l.Records
  := by
  apply Manages.invariant (fun _ w => ∃ tr', StoreHistory initial (tr ++ tr')
    ⟨w.directory, some w.store⟩ ∧ ∀ l ∈ tr', l.Records) _ _ h
  · refine ⟨[], ?_, ?_⟩
    · rw [List.append_nil]
      exact hstore
    · intro l hl
      cases hl
  · rintro history p i a r w - ⟨tr', hhistory, hrecords⟩ - hallowed hexec
    by_cases happend : ∃ now event, a = .append now event
    · obtain ⟨now, event, rfl⟩ := happend
      obtain ⟨appended, directory, u, hrun, -, rfl⟩ := perform_append hexec
      refine ⟨tr' ++ [.appends now.utc event u (some appended)], ?_, ?_⟩
      · rw [← List.append_assoc]
        exact .step hhistory (.appended hrun)
      · rw [List.forall_mem_append, List.forall_mem_singleton]
        exact ⟨hrecords, hallowed.1.kind, hallowed.2⟩
    · obtain ⟨c, hperform⟩ := hexec
      have hnot : ∀ now event, a ≠ .append now event := fun now event ha => happend ⟨now, event, ha⟩
      rw [directory_perform hperform hnot, store_perform hperform hnot]
      exact ⟨tr', hhistory, hrecords⟩

/-- What a run leaves is opened by the next process, when the store began with an empty directory,
the file system does not fail, and the log is not longer than a line of the scanner. -/
theorem Manages.reopens {limits : Limits} (h : Manages cfg store directory history p)
    (hstore : StoreHistory {} tr ⟨directory, some store⟩) (hrecords : ∀ l ∈ tr, l.Records)
    (hbytes : limits.maximumBytes ≤ scannerLimit) :
  ∃ tr', StoreHistory {} (tr ++ tr') ⟨p.shared.directory, some p.shared.store⟩ ∧
    ((∀ l ∈ tr ++ tr', l.Unfailing limits) → ∀ fuel history, ∃ store' d' u,
      newEventStore limits healthy fuel p.shared.directory history =
          some (.ok (.ok store'), d', u) ∧
        Recovers limits p.shared.directory (attempted (tr ++ tr')) (written (tr ++ tr')) store' d')
  := by
  obtain ⟨tr', hhistory, hrecords'⟩ := h.storeHistory hstore
  refine ⟨tr', hhistory, ?_⟩
  intro hunfailing
  have hall := List.forall_mem_append.mpr ⟨hrecords, hrecords'⟩
  have hfaultless := (faultless_of_history hhistory hbytes hall hunfailing).1
  exact (recoverable_of_history hhistory hfaultless).files.recovers

end StoreHistory

/-! ### The log -/

/-- Every event of the run got its record. -/
def AllPersisted (store : EventStore) (history : History) (w : World) : Prop :=
  w.store.entries = store.entries + (recorded history).length

/-- The log grew by the lines of the events, which have consecutive sequences. -/
structure Logged (store : EventStore) (directory : Directory) (events : List Event) (w : World) :
    Prop where
  contents : w.directory.contents = directory.contents ++ events.flatMap Event.line
  sequences : events.map (fun event => event.sequence.toNat) =
    List.range' (store.sequence.toNat + 1) events.length
  next : w.store.sequence.toNat = store.sequence.toNat + events.length
  schema : ∀ event ∈ events, event.schemaVersion = 1

theorem Logged.append {store : EventStore} {directory d' : Directory} {events : List Event}
    {w : World} {now : Utc} (h : Logged store directory events w)
    (hwrites : Writes w.store now event w.directory appended d') :
  Logged store directory (events ++ [appended.event])
    { w with store := appended.store, directory := d' }
  where
  contents := by
    rw [hwrites.contents, h.contents, List.flatMap_append, List.append_assoc]
    simp
  sequences := by
    rw [List.map_append, h.sequences, List.length_append, List.length_singleton,
      List.range'_1_concat, List.map_singleton, hwrites.sequence, h.next]
    congr 2
    omega
  next := by
    rw [hwrites.store, List.length_append, List.length_singleton]
    change appended.event.sequence.toNat = _
    rw [hwrites.sequence, h.next, Nat.add_assoc]
  schema := by
    intro e he
    rcases List.mem_append.mp he with he | he
    · exact h.schema e he
    · rw [List.mem_singleton.mp he, hwrites.event]
      rfl

section Runs

variable {cfg : Config} {store : EventStore} {directory : Directory} {history : History}
  {p : Pool managerActions Goroutine World}

/-- There are no more records than events, and when there are as many, the log holds the events. -/
theorem Manages.logged (h : Manages cfg store directory history p) :
  p.shared.store.entries ≤ store.entries + (recorded history).length ∧
    (AllPersisted store history p.shared →
      Logged store directory (recorded history) p.shared)
  := by
  apply Manages.invariant (fun history w =>
    w.store.entries ≤ store.entries + (recorded history).length ∧
      (AllPersisted store history w → Logged store directory (recorded history) w)) _ _ h
  · refine ⟨Nat.le_refl _, ?_⟩
    intro _
    exact ⟨(List.append_nil _).symm, rfl, rfl, nofun⟩
  · rintro history p i a r w - ⟨hle, hlog⟩ - - hexec
    by_cases ha : ∃ now event, a = .append now event
    · obtain ⟨now, event, rfl⟩ := ha
      obtain ⟨appended, d', u, hruns, rfl, rfl⟩ := perform_append hexec
      unfold AllPersisted
      rw [recorded_snoc_append, List.length_append, List.length_singleton]
      rcases append_writes hruns with hwrites | ⟨hsame, -⟩
      · have hentries : appended.store.entries = p.shared.store.entries + 1 := by
          rw [hwrites.store]
          rfl
        refine ⟨by simp only [hentries]; omega, ?_⟩
        intro hall
        apply (hlog _).append hwrites
        simp only [hentries] at hall
        change p.shared.store.entries = _
        omega
      · refine ⟨by simp only [hsame]; omega, ?_⟩
        intro hall
        simp only [hsame] at hall
        omega
    · push Not at ha
      obtain ⟨c, hperform⟩ := hexec
      have hdirectory := directory_perform hperform ha
      unfold AllPersisted at hlog ⊢
      rw [recorded_snoc_of_ne ha, store_perform hperform ha]
      refine ⟨hle, ?_⟩
      intro hall
      obtain ⟨hcontents, hsequences, hnext, hschema⟩ := hlog hall
      refine ⟨?_, hsequences, ?_, hschema⟩
      · rw [hdirectory, hcontents]
      · rw [store_perform hperform ha, hnext]

/-- When no append reports an error and the store is not saturated, every event got its record. -/
theorem Manages.allPersisted (h : Manages cfg store directory history p)
    (herr : ∀ i now event answer, ⟨i, .append now event, answer⟩ ∈ history → answer.2 = [])
    (hsaturated : p.shared.store.saturated = false) :
  AllPersisted store history p.shared
  := by
  apply Manages.invariant (fun history w =>
    (∀ i now event answer, ⟨i, .append now event, answer⟩ ∈ history → answer.2 = []) →
      w.store.saturated = false → AllPersisted store history w) _ _ h herr hsaturated
  · intro _ _
    rfl
  · rintro history p i a r w - ih - - hexec herr hsaturated
    have hbefore : ∀ i now event answer, ⟨i, .append now event, answer⟩ ∈ history → answer.2 = [] :=
      fun i now event answer hmem => herr i now event answer (List.mem_append_left _ hmem)
    by_cases ha : ∃ now event, a = .append now event
    · obtain ⟨now, event, rfl⟩ := ha
      have hlast := herr i now event r (List.mem_append_right _ List.mem_cons_self)
      obtain ⟨appended, d', u, hruns, rfl, rfl⟩ := perform_append hexec
      rcases append_writes hruns with hwrites | ⟨-, hfails | hfull⟩
      · simp only [hwrites.store] at hsaturated
        have hall : p.shared.store.entries = _ := ih hbefore hsaturated
        simp only [AllPersisted, recorded_snoc_append, List.length_append, List.length_singleton,
          hwrites.store, EventStore.written, hall, Nat.add_assoc]
      · exact absurd hlast hfails
      · rw [hfull] at hsaturated
        cases hsaturated
    · push Not at ha
      obtain ⟨c, hperform⟩ := hexec
      unfold AllPersisted at ih ⊢
      rw [recorded_snoc_of_ne ha, store_perform hperform ha]
      rw [store_perform hperform ha] at hsaturated
      exact ih hbefore hsaturated

end Runs

/-! ### What the goroutines have reported -/

/-- What a goroutine has reported in a history. -/
def reported (cfg : Config) (i : Goroutine) (history : History) : Reporting :=
  (reporting cfg i).after {} i history

section Reported

variable {cfg : Config} {store : EventStore} {directory : Directory} {history : History}
  {p : Pool managerActions Goroutine World} {i j : Goroutine} {a : Action} {r : a.Answer}

theorem reported_snoc :
  reported cfg i (history ++ [⟨j, a, r⟩]) =
    if j = i then (reported cfg i history).next a r else reported cfg i history
  := by
  split
  · rename_i h
    subst h
    exact Protocol.after_own (P := reporting cfg j) a r
  · rename_i h
    exact Protocol.after_other (P := reporting cfg i) h

/-- A property that every action of the protocol of the events keeps holds in every run. -/
theorem Manages.reporting_invariant (Inv : History → World → Prop)
    (hinit : Inv [] (World.new cfg store directory))
    (hstep : ∀ history p i a r w, Manages cfg store directory history p → Inv history p.shared →
      (reported cfg i history).Allows cfg i a → managerSemantics i a p.shared r w →
      Inv (history ++ [⟨i, a, r⟩]) w)
    (h : Manages cfg store directory history p) :
  Inv history p.shared
  := by
  apply Pool.Reaches.invariant (P := reporting cfg) (q := fun _ => {}) Inv _ _ hinit hstep h
  · intro i
    exact (reports_goroutine cfg i {} rfl).mono fun _ _ _ => trivial
  · intro i a w r w' _
    trivial

/-- Every action of a run was allowed by the protocol of the events when it was performed. -/
theorem Manages.reporting_allows {before after : History}
    (h : Manages cfg store directory (before ++ ⟨i, a, r⟩ :: after) p) :
  (reported cfg i before).Allows cfg i a
  := by
  obtain ⟨-, -, hallows⟩ := Pool.Reaches.allows (P := reporting cfg) (q := fun _ => {})
    (fun i => (reports_goroutine cfg i {} rfl).mono fun _ _ _ => trivial)
      (fun _ _ _ _ _ _ => trivial) h
  exact hallows

/-- Only a reading of the clock changes the last reading. -/
theorem reading_next {q : Reporting} (ha : a ≠ .now) :
  (q.next a r).reading = q.reading
  := by
  cases a with
  | now => exact absurd rfl ha
  | _ =>
      unfold Reporting.next
      grind [Reporting.commit]

/-- The last reading of the clock by a goroutine is in its history. -/
theorem reading_mem {now : Time} (h : (reported cfg i history).reading = some now) :
  ∃ before mid, history = before ++ ⟨i, .now, now⟩ :: mid
  := by
  induction history using List.reverseRecOn with
  | nil => cases h
  | append_singleton history e ih =>
      obtain ⟨j, a, r⟩ := e
      rw [reported_snoc] at h
      by_cases hown : j = i ∧ a = .now
      · obtain ⟨rfl, rfl⟩ := hown
        rw [if_pos rfl] at h
        obtain rfl := Option.some.inj h
        exact ⟨history, [], rfl⟩
      · have hsame : (reported cfg i history).reading = some now := by
          split at h
          · rename_i hj
            rw [reading_next fun ha => hown ⟨hj, ha⟩] at h
            exact h
          · exact h
        obtain ⟨before, mid, rfl⟩ := ih hsame
        exact ⟨before, mid ++ [⟨j, a, r⟩], by simp⟩

end Reported

/-! ### Steady times -/

/-- What a goroutine knows of the start of the run. -/
structure KnowsStart (q : Reporting) (w : World) : Prop where
  begun : q.report.begun = true → w.runStarted = true
  base : ∀ startedAt ∈ q.base, w.runStarted = true ∧ startedAt = w.startedAt
  opened : q.report.opened = true → w.runStarted = true

section Start

variable {cfg : Config} {i : Goroutine} {a : Action} {c : a.Choice} {r : a.Answer} {w w' : World}
  {q : Reporting}

/-- The run starts once. -/
theorem startedAt_perform (h : w.perform i a c = some (r, w')) (hw : w.runStarted = true) :
  w'.runStarted = true ∧ w'.startedAt = w.startedAt
  := by
  cases a with
  | _ =>
      simp only [World.perform] at h
      grind [World.updateChild]

theorem KnowsStart.keep (hq : KnowsStart q w) (h : w.perform i a c = some (r, w')) :
  KnowsStart q w'
  where
  begun hbegun := (startedAt_perform h (hq.begun hbegun)).1
  base startedAt hbase := by
    obtain ⟨hstarted, rfl⟩ := hq.base startedAt hbase
    obtain ⟨hstarted', hsame⟩ := startedAt_perform h hstarted
    exact ⟨hstarted', hsame.symm⟩
  opened hopened := (startedAt_perform h (hq.opened hopened)).1

/-- A goroutine knows the start of the run when it is spawned, or when it starts the run. -/
theorem KnowsStart.next (hq : KnowsStart q w) (hspawned : w.spawned ≠ [] → w.runStarted = true)
    (hallows : q.Allows cfg i a) (h : w.perform i a c = some (r, w')) :
  KnowsStart (q.next a r) w'
  := by
  have hkeep := hq.keep h
  cases a with
  | begin =>
      refine ⟨?_, hkeep.base, hkeep.opened⟩
      intro _
      simp only [World.perform] at h
      grind
  | beginRun =>
      refine ⟨?_, hkeep.base, hkeep.opened⟩
      intro hbegun
      simp only [World.perform] at h
      simp only [Reporting.next, decide_eq_true_eq] at hbegun
      grind
  | startedAt =>
      refine ⟨hkeep.begun, ?_, hkeep.opened⟩
      rintro startedAt hbase
      obtain ⟨rfl, rfl⟩ := Prod.mk.inj (Option.some.inj h)
      exact ⟨hq.begun hallows, (Option.some.inj hbase).symm⟩
  | append now event =>
      obtain ⟨-, ⟨startedAt, hbase, -⟩, -⟩ := hallows
      refine ⟨?_, hkeep.base, ?_⟩
      · intro _
        exact (hkeep.base startedAt hbase).1
      · intro _
        exact (hkeep.base startedAt hbase).1
  | now =>
      refine ⟨hkeep.begun, ?_, hkeep.opened⟩
      intro startedAt hbase
      cases hbase
  | _ =>
      unfold Reporting.next
      grind [Reporting.commit, KnowsStart]

end Start

section Runs

variable {cfg : Config} {store : EventStore} {directory : Directory} {history : History}
  {p : Pool managerActions Goroutine World}

theorem Manages.knowsStart (h : Manages cfg store directory history p) :
  (∀ i, KnowsStart (reported cfg i history) p.shared) ∧
    (p.shared.spawned ≠ [] → p.shared.runStarted = true)
  := by
  apply Manages.reporting_invariant (fun history w =>
    (∀ i, KnowsStart (reported cfg i history) w) ∧ (w.spawned ≠ [] → w.runStarted = true)) _ _ h
  · refine ⟨fun i => ⟨nofun, nofun, nofun⟩, ?_⟩
    intro hne
    exact absurd rfl hne
  · rintro history p i a r w - ⟨hknows, hspawned⟩ hallows ⟨c, hexec⟩
    constructor
    · intro j
      rw [reported_snoc]
      split
      · rename_i hij
        rw [← hij]
        exact (hknows i).next hspawned hallows hexec
      · exact (hknows j).keep hexec
    · intro hne
      by_cases ha : ∃ g, a = .spawn g
      · obtain ⟨g, rfl⟩ := ha
        obtain ⟨rfl, hopened⟩ := hallows
        exact (startedAt_perform hexec ((hknows _).opened hopened)).1
      · push Not at ha
        rw [spawned_perform hexec ha] at hne
        exact (startedAt_perform hexec (hspawned hne)).1

/-- The run has started when an event is recorded, and the steady time of the event is the one of
the reading it was appended with. -/
theorem Manages.steady (h : Manages cfg store directory history p) {i : Goroutine} {now : Time}
    {event : Event} {answer : Event × Err}
    (hmem : ⟨i, .append now event, answer⟩ ∈ history) :
  p.shared.runStarted = true ∧ answer.1.steadyWallNs = steadyNs p.shared.startedAt now
  := by
  apply Manages.reporting_invariant (fun history w => ∀ i now event answer,
    (⟨i, .append now event, answer⟩ : Performed managerActions Goroutine) ∈ history →
      w.runStarted = true ∧ answer.1.steadyWallNs = steadyNs w.startedAt now) _ _ h i now event
        answer hmem
  · intro i now event answer hmem
    cases hmem
  · intro history p i a r w hreach ih hallows hexec j now event answer hmem
    obtain ⟨c, hperform⟩ := hexec
    rcases List.mem_append.mp hmem with hmem | hmem
    · obtain ⟨hstarted, hsteady⟩ := ih j now event answer hmem
      obtain ⟨hstarted', hsame⟩ := startedAt_perform hperform hstarted
      rw [hsame]
      exact ⟨hstarted', hsteady⟩
    · cases List.mem_singleton.mp hmem
      obtain ⟨-, ⟨startedAt, hbase, hsteady⟩, -⟩ := hallows
      obtain ⟨hstarted, rfl⟩ := (hreach.knowsStart.1 _).base startedAt hbase
      obtain ⟨hstarted', hsame⟩ := startedAt_perform hperform hstarted
      obtain ⟨appended, d', u, hruns, rfl, -⟩ := perform_append ⟨c, hperform⟩
      rw [hsame, (append_mark hruns).2, hsteady]
      exact ⟨hstarted', rfl⟩

end Runs

/-! ### The first event -/

/-- Only the run opens the log, and no other goroutine records anything before it did. -/
structure Opening (cfg : Config) (history : History) (w : World) : Prop where
  events : if (reported cfg .run history).report.opened then Opens (recorded history)
    else recorded history = []
  spawned : w.spawned ≠ [] → (reported cfg .run history).report.opened = true
  begun : ∀ i, i ≠ .run → (reported cfg i history).report.begun = true →
    (reported cfg .run history).report.opened = true
  base : ∀ i, i ≠ .run → (reported cfg i history).base.isSome = true →
    (reported cfg .run history).report.opened = true

section Opening

variable {cfg : Config} {store : EventStore} {directory : Directory} {history : History}
  {p : Pool managerActions Goroutine World}

theorem Opens.append {events : List Event} {event : Event} (h : Opens events)
    (hevent : event.mark ≠ .opened) :
  Opens (events ++ [event])
  := by
  obtain ⟨first, rest, rfl, hfirst, hrest⟩ := h
  refine ⟨first, rest ++ [event], rfl, hfirst, ?_⟩
  intro e he
  rcases List.mem_append.mp he with he | he
  · exact hrest e he
  · rw [List.mem_singleton.mp he]
    exact hevent

/-- An event leaves the log open. -/
theorem opened_next {q : Reporting} {a : Action} {r : a.Answer} (h : q.report.opened = true) :
  (q.next a r).report.opened = true
  := by
  cases a with
  | append now event =>
      simp only [Reporting.next]
      cases event.mark with
      | opened => rfl
      | _ => exact h
  | _ =>
      unfold Reporting.next
      grind [Reporting.commit]

theorem opened_next_of_ne {q : Reporting} {a : Action} {r : a.Answer}
    (ha : ∀ now event, a ≠ .append now event) :
  (q.next a r).report.opened = q.report.opened
  := by
  cases a with
  | append now event => exact absurd rfl (ha now event)
  | _ =>
      unfold Reporting.next
      grind [Reporting.commit]

theorem reportBegun_next {q : Reporting} {a : Action} {r : a.Answer}
    (h : (q.next a r).report.begun = true) :
  q.report.begun = true ∨ a = .begin ∨ a = .beginRun
  := by
  cases a with
  | append now event =>
      left
      simp only [Reporting.next] at h
      cases hmark : event.mark with
      | _ =>
          rw [hmark] at h
          exact h
  | _ =>
      unfold Reporting.next at h
      grind [Reporting.commit]

theorem base_next {q : Reporting} {a : Action} {r : a.Answer}
    (h : (q.next a r).base.isSome = true) :
  q.base.isSome = true ∨ a = .startedAt
  := by
  cases a with
  | _ =>
      unfold Reporting.next at h
      grind [Reporting.commit]

/-- What a run has recorded after one more event. -/
theorem Opening.append {i : Goroutine} {w : World} {now : Time} {event : Event}
    {answer : Event × Err} (h : Opening cfg history w)
    (hallows : (reported cfg i history).Allows cfg i (.append now event))
    (hmark : answer.1.mark = event.mark) :
  (reported cfg .run (history ++ [⟨i, .append now event, answer⟩])).report.opened = true ∧
    Opens (recorded history ++ [answer.1])
  := by
  obtain ⟨-, ⟨startedAt, hbase, -⟩, hcan⟩ := hallows
  have hevents := h.events
  cases i with
  | run =>
      rw [reported_snoc, if_pos rfl]
      change if (reported cfg .run history).report.opened then event.mark = .other
        else event.mark = .opened at hcan
      split at hcan
      · rename_i hopened
        refine ⟨opened_next hopened, ?_⟩
        rw [if_pos hopened] at hevents
        apply hevents.append
        rw [hmark, hcan]
        intro hother
        cases hother
      · rename_i hclosed
        rw [if_neg hclosed] at hevents
        rw [hevents]
        refine ⟨?_, answer.1, [], rfl, hmark.trans hcan, ?_⟩
        · simp only [Reporting.next, hcan]
          rfl
        · intro event hmem
          cases hmem
  | child name =>
      have hchild : Goroutine.child name ≠ .run := by
        intro heq
        cases heq
      have hopened := h.base (.child name) hchild (by rw [hbase, Option.isSome_some])
      rw [reported_snoc, if_neg hchild]
      refine ⟨hopened, ?_⟩
      rw [if_pos hopened] at hevents
      apply hevents.append
      rw [hmark]
      intro heq
      rw [heq] at hcan
      cases hcan.2.2
  | _ => cases hcan

theorem Manages.opening (h : Manages cfg store directory history p) :
  Opening cfg history p.shared
  := by
  apply Manages.reporting_invariant (Opening cfg) _ _ h
  · exact ⟨rfl, fun hne => absurd rfl hne, nofun, nofun⟩
  · rintro history p i a r w - hinv hallows hexec
    have hopened : (reported cfg .run history).report.opened = true →
        (reported cfg .run (history ++ [⟨i, a, r⟩])).report.opened = true := by
      intro hopen
      rw [reported_snoc]
      split
      · exact opened_next hopen
      · exact hopen
    refine ⟨?_, ?_, ?_, ?_⟩
    · by_cases ha : ∃ now event, a = .append now event
      · obtain ⟨now, event, rfl⟩ := ha
        obtain ⟨appended, d', u, hruns, rfl, -⟩ := perform_append hexec
        obtain ⟨hopen, hevents⟩ :
            (reported cfg .run (history ++
              [⟨i, .append now event, (appended.event, appended.err)⟩])).report.opened = true ∧
                Opens (recorded history ++ [appended.event]) :=
          hinv.append hallows (append_mark hruns).1
        rw [if_pos hopen, recorded_snoc_append]
        exact hevents
      · push Not at ha
        have hsame : (reported cfg .run (history ++ [⟨i, a, r⟩])).report.opened =
            (reported cfg .run history).report.opened := by
          rw [reported_snoc]
          split
          · exact opened_next_of_ne ha
          · rfl
        rw [hsame, recorded_snoc_of_ne ha]
        exact hinv.events
    · intro hspawned
      obtain ⟨c, hperform⟩ := hexec
      by_cases ha : ∃ g, a = .spawn g
      · obtain ⟨g, rfl⟩ := ha
        obtain ⟨rfl, hopen⟩ := hallows
        exact hopened hopen
      · push Not at ha
        rw [spawned_perform hperform ha] at hspawned
        exact hopened (hinv.spawned hspawned)
    · intro j hj hbegun
      apply hopened
      rw [reported_snoc] at hbegun
      split at hbegun
      · rename_i hij
        rcases reportBegun_next hbegun with hbegun | rfl | rfl
        · exact hinv.begun j hj (by rw [← hij] at hbegun ⊢; exact hbegun)
        · obtain ⟨c, hperform⟩ := hexec
          apply hinv.spawned
          simp only [World.perform] at hperform
          grind
        · exact absurd (hij.symm.trans hallows) hj
      · exact hinv.begun j hj hbegun
    · intro j hj hbase
      apply hopened
      rw [reported_snoc] at hbase
      split at hbase
      · rename_i hij
        subst hij
        rcases base_next hbase with hbase | rfl
        · exact hinv.base i hj hbase
        · exact hinv.begun i hj hallows
      · exact hinv.base j hj hbase

end Opening

end Supervisor

end RobotestLab
