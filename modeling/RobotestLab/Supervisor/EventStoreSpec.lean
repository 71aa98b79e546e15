import Mathlib.Tactic.Common
import RobotestLab.Supervisor.EventStore

/-!
# What the operations of the event store do

For every behaviour of the file system, what an operation of the event store leaves in the state
directory and what it returns, also when the process stops in it: replacing the metadata file
(`runs_persistMetadata`), appending an event (`runs_append`) and opening the store
(`runs_newEventStore`).
-/

namespace RobotestLab

namespace Supervisor

open Program

variable {d d' : Directory} {u : List ioSignature.Interaction}

/-! ### Interactions with the file system -/

/-- The operation succeeded. -/
def succeeded (o : FileOperation) : ioSignature.Interaction := ⟨.operation o, .ok ([] : Err)⟩

/-- The call succeeded, or the process stopped in it. -/
def Clean : ioSignature.Interaction → Prop
  | ⟨_, .error _⟩ => True
  | ⟨.operation _, .ok err⟩ => (err : Err) = []
  | ⟨.writeLog payload, .ok answer⟩ => (answer : Nat × Err) = (payload.length, [])

/-- The metadata file was replaced. -/
def Renamed (u : List ioSignature.Interaction) : Prop := succeeded .rename ∈ u

/-- A write to the log returned. -/
def Wrote (u : List ioSignature.Interaction) : Prop :=
  ∃ (payload : List UInt8) (answer : Nat × Err), ⟨.writeLog payload, .ok answer⟩ ∈ u

theorem not_renamed_nil :
  ¬ Renamed []
  := List.not_mem_nil

theorem not_wrote_nil :
  ¬ Wrote []
  := by
  rintro ⟨payload, answer, h⟩
  cases h

theorem renamed_append {v w : List ioSignature.Interaction} :
  Renamed (v ++ w) ↔ Renamed v ∨ Renamed w
  := List.mem_append

theorem wrote_append {v w : List ioSignature.Interaction} :
  Wrote (v ++ w) ↔ Wrote v ∨ Wrote w
  := by
  constructor
  · rintro ⟨payload, answer, h⟩
    rcases List.mem_append.mp h with h | h
    · exact Or.inl ⟨payload, answer, h⟩
    · exact Or.inr ⟨payload, answer, h⟩
  · rintro (⟨payload, answer, h⟩ | ⟨payload, answer, h⟩)
    · exact ⟨payload, answer, List.mem_append_left _ h⟩
    · exact ⟨payload, answer, List.mem_append_right _ h⟩

variable {o : FileOperation}

theorem not_wrote_cons {r : Except Crash Err} {v : List ioSignature.Interaction} (h : ¬ Wrote v) :
  ¬ Wrote (⟨.operation o, r⟩ :: v)
  := by
  rintro ⟨payload, answer, hmem⟩
  rcases List.mem_cons.mp hmem with hmem | hmem
  · cases hmem
  · exact h ⟨payload, answer, hmem⟩

theorem not_wrote_operation (o : FileOperation) (r : Except Crash Err) :
  ¬ Wrote [⟨.operation o, r⟩]
  := not_wrote_cons not_wrote_nil

theorem not_renamed_operation (ho : o ≠ .rename) (r : Except Crash Err) :
  ¬ Renamed [⟨.operation o, r⟩]
  := by
  intro h
  apply ho
  cases List.mem_singleton.mp h
  rfl

theorem runs_io {r : Except Crash Err} (h : Runs (io o) d u r d') :
  d' = d ∧ u = [⟨.operation o, r⟩]
  := runs_ask h

/-! ### Replacing the metadata file -/

/-- An operation fails or the process stops in it, or the rest runs. -/
theorem runs_orFail {text : String} {next : Io Err} {r : Except Crash Err}
    (h : Runs (orFail o text next) d u r d') :
  (∃ x : Except Crash Err, d' = d ∧ u = [⟨.operation o, x⟩] ∧ x ≠ .ok [] ∧ r ≠ .ok [] ∧
    (Clean ⟨.operation o, x⟩ → ∃ e, r = .error e)) ∨
  ∃ v, u = succeeded o :: v ∧ Runs next d v r d'
  := by
  obtain ⟨x, d₁, u₁, u₂, rfl, hio, hok, herror⟩ := runs_bind h
  obtain ⟨rfl, rfl⟩ := runs_io hio
  cases x with
  | error e =>
      left
      obtain ⟨rfl, rfl, rfl⟩ := herror e rfl
      exact ⟨.error e, rfl, rfl, nofun, nofun, fun _ => ⟨e, rfl⟩⟩
  | ok err =>
      have hnext := hok err rfl
      split at hnext
      · rename_i hnil
        right
        rw [hnil]
        exact ⟨u₂, rfl, hnext⟩
      · rename_i hfails
        left
        obtain ⟨rfl, rfl, rfl⟩ := runs_pure hnext
        refine ⟨.ok err, rfl, rfl, ?_, ?_, ?_⟩
        · intro hx
          exact hfails (Except.ok.inj hx)
        · intro hr
          cases Except.ok.inj hr
        · intro hclean
          exact absurd hclean hfails

/-- The metadata file is as before, or replaced by the payload. When there is no error it is
replaced, and without failures of the file system there is no error. -/
structure Replaces (payload : List UInt8) (d : Directory) (u : List ioSignature.Interaction)
    (r : Except Crash Err) (d' : Directory) : Prop where
  directory : d' = d ∧ ¬ Renamed u ∨ d' = { d with metadata := some payload } ∧ Renamed u
  renamed : r = .ok [] → Renamed u
  unwritten : ¬ Wrote u
  clean : (∀ x ∈ u, Clean x) → ∀ err, r = .ok err → err = []

section Replaces

variable {payload : List UInt8} {r : Except Crash Err}

theorem replaces_orFail {o : FileOperation} (ho : o ≠ .rename) {text : String} {next : Io Err}
    (hnext : ∀ d u r d', Runs next d u r d' → Replaces payload d u r d')
    (h : Runs (orFail o text next) d u r d') :
  Replaces payload d u r d'
  := by
  rcases runs_orFail h with ⟨x, rfl, rfl, hx, hr, hclean⟩ | ⟨v, rfl, hrest⟩
  · refine ⟨Or.inl ⟨rfl, not_renamed_operation ho x⟩, ?_, not_wrote_operation o x, ?_⟩
    · intro hr'
      exact absurd hr' hr
    · intro hall err hr'
      obtain ⟨e, he⟩ := hclean (hall _ List.mem_cons_self)
      rw [hr'] at he
      cases he
  · have hrep := hnext d v r d' hrest
    have hrenamed : Renamed (succeeded o :: v) ↔ Renamed v := by
      rw [← List.singleton_append, renamed_append]
      exact or_iff_right (not_renamed_operation ho _)
    have hwrote : Wrote (succeeded o :: v) ↔ Wrote v := by
      rw [← List.singleton_append, wrote_append]
      exact or_iff_right (not_wrote_operation o _)
    refine ⟨?_, ?_, ?_, ?_⟩
    · rw [hrenamed]
      exact hrep.directory
    · rw [hrenamed]
      exact hrep.renamed
    · rw [hwrote]
      exact hrep.unwritten
    · intro hall
      apply hrep.clean
      intro x hx
      exact hall x (List.mem_cons_of_mem _ hx)

/-- The directory is synced after the file was renamed. -/
theorem runs_syncDirectory {text text' : String}
    (h : Runs (orFail .openDirectory text (do
      let syncErr ← io .syncDirectory
      let closeErr ← io .closeDirectory
      if syncErr = [] ∧ closeErr = [] then pure []
      else pure (Err.wrap (syncErr ++ closeErr) text'))) d u r d') :
  d' = d ∧ ¬ Wrote u ∧ ((∀ x ∈ u, Clean x) → ∀ err, r = .ok err → err = [])
  := by
  rcases runs_orFail h with ⟨x, rfl, rfl, hx, hr, hclean⟩ | ⟨v, rfl, hrest⟩
  · refine ⟨rfl, not_wrote_operation _ x, ?_⟩
    intro hall err hr'
    obtain ⟨e, he⟩ := hclean (hall _ List.mem_cons_self)
    rw [hr'] at he
    cases he
  · obtain ⟨x, d₁, u₁, u₂, rfl, hsync, hok, herror⟩ := runs_bind hrest
    obtain ⟨rfl, rfl⟩ := runs_io hsync
    cases x with
    | error e =>
        obtain ⟨rfl, rfl, rfl⟩ := herror e rfl
        exact ⟨rfl, not_wrote_cons (not_wrote_cons not_wrote_nil), by rintro _ _ ⟨⟩⟩
    | ok syncErr =>
        obtain ⟨y, d₂, u₃, u₄, rfl, hclose, hok', herror'⟩ := runs_bind (hok syncErr rfl)
        obtain ⟨rfl, rfl⟩ := runs_io hclose
        have hunwritten : ¬ Wrote (succeeded .openDirectory ::
            (⟨.operation .syncDirectory, .ok syncErr⟩ :: [⟨.operation .closeDirectory, y⟩])) :=
          not_wrote_cons (not_wrote_cons (not_wrote_cons not_wrote_nil))
        cases y with
        | error e =>
            obtain ⟨rfl, rfl, rfl⟩ := herror' e rfl
            exact ⟨rfl, hunwritten, by rintro _ _ ⟨⟩⟩
        | ok closeErr =>
            have hend := hok' closeErr rfl
            split at hend
            · obtain ⟨rfl, rfl, rfl⟩ := runs_pure hend
              refine ⟨rfl, hunwritten, ?_⟩
              intro _ err herr
              exact (Except.ok.inj herr).symm
            · rename_i hfails
              obtain ⟨rfl, rfl, rfl⟩ := runs_pure hend
              refine ⟨rfl, hunwritten, ?_⟩
              intro hall
              apply absurd _ hfails
              exact ⟨hall ⟨.operation .syncDirectory, .ok syncErr⟩ (by simp),
                hall ⟨.operation .closeDirectory, .ok closeErr⟩ (by simp)⟩

theorem replaces_writeFileAtomic (h : Runs (writeFileAtomic payload) d u r d') :
  Replaces payload d u r d'
  := by
  unfold writeFileAtomic at h
  refine replaces_orFail (show FileOperation.createTemporary ≠ .rename from nofun) ?_ h
  clear h
  intro d u r d' h
  refine replaces_orFail (show FileOperation.chmodTemporary ≠ .rename from nofun) ?_ h
  clear h
  intro d u r d' h
  refine replaces_orFail (show FileOperation.writeTemporary ≠ .rename from nofun) ?_ h
  clear h
  intro d u r d' h
  refine replaces_orFail (show FileOperation.syncTemporary ≠ .rename from nofun) ?_ h
  clear h
  intro d u r d' h
  refine replaces_orFail (show FileOperation.closeTemporary ≠ .rename from nofun) ?_ h
  clear h
  intro d u r d' h
  rcases runs_orFail h with ⟨x, rfl, rfl, hx, hr, hclean⟩ | ⟨v, rfl, hrest⟩
  · refine ⟨Or.inl ⟨rfl, ?_⟩, fun hr' => absurd hr' hr, not_wrote_operation _ x, ?_⟩
    · intro hrenamed
      apply hx
      cases List.mem_singleton.mp hrenamed
      rfl
    · intro hall err hr'
      obtain ⟨e, he⟩ := hclean (hall _ List.mem_cons_self)
      rw [hr'] at he
      cases he
  · have hrenamed : Renamed (succeeded .rename :: v) := List.mem_cons_self
    obtain ⟨x, d₁, u₁, u₂, rfl, hmodify, hok, -⟩ := runs_bind hrest
    obtain ⟨rfl, rfl, rfl⟩ := runs_modifyState hmodify
    obtain ⟨rfl, hunwritten, hclean⟩ := runs_syncDirectory (hok () rfl)
    refine ⟨Or.inr ⟨rfl, hrenamed⟩, fun _ => hrenamed, ?_, ?_⟩
    · rw [← List.singleton_append, wrote_append]
      rintro (hwrote | hwrote)
      · exact not_wrote_operation _ _ hwrote
      · exact hunwritten hwrote
    · intro hall
      apply hclean
      intro x hx
      exact hall x (List.mem_cons_of_mem _ hx)

theorem runs_persistMetadata {metadata : EventStoreMetadata}
    (h : Runs (persistMetadata metadata) d u r d') :
  Replaces metadata.payload d u r d'
  := by
  obtain ⟨x, d₁, u₁, u₂, rfl, hwrite, hok, herror⟩ := runs_bind h
  have hrep := replaces_writeFileAtomic hwrite
  cases x with
  | error e =>
      obtain ⟨rfl, rfl, rfl⟩ := herror e rfl
      rw [List.append_nil]
      exact ⟨hrep.directory, nofun, hrep.unwritten, nofun⟩
  | ok err =>
      have hend := hok err rfl
      split at hend
      · rename_i hnil
        obtain ⟨rfl, rfl, rfl⟩ := runs_pure hend
        rw [List.append_nil]
        rw [hnil] at hrep
        exact hrep
      · rename_i hfails
        obtain ⟨rfl, rfl, rfl⟩ := runs_pure hend
        rw [List.append_nil]
        refine ⟨hrep.directory, ?_, hrep.unwritten, ?_⟩
        · intro hr
          cases Except.ok.inj hr
        · intro hall
          exact absurd (hrep.clean hall err rfl) hfails

end Replaces

/-! ### Writing a record -/

/-- Every call succeeded, or the process stopped in it. -/
def CleanRun (u : List ioSignature.Interaction) : Prop := ∀ x ∈ u, Clean x

theorem cleanRun_append {v w : List ioSignature.Interaction} :
  CleanRun (v ++ w) ↔ CleanRun v ∧ CleanRun w
  := List.forall_mem_append

/-- The log is as before, or a part of the payload from its beginning is written after it. -/
def LogExtends (payload : List UInt8) (d d' : Directory) : Prop :=
  d'.metadata = d.metadata ∧
    (d'.log = d.log ∨ ∃ count, d'.log = some (d.log.getD [] ++ payload.take count))

/-- The contents of the log. -/
def Directory.contents (d : Directory) : List UInt8 := d.log.getD []

theorem LogExtends.contents {payload : List UInt8} (h : LogExtends payload d d') :
  ∃ count, d'.contents = d.contents ++ payload.take count
  := by
  obtain ⟨-, hlog | ⟨count, hlog⟩⟩ := h
  · refine ⟨0, ?_⟩
    rw [Directory.contents, hlog, List.take_zero, List.append_nil]
    rfl
  · refine ⟨count, ?_⟩
    rw [Directory.contents, hlog]
    rfl

/-- The store after its event was dropped. -/
def EventStore.drop (store : EventStore) (sequence : UInt64) : EventStore :=
  { store with sequence := sequence, saturated := true, dropped := store.dropped + 1 }

/-- The store after its event was written. -/
def EventStore.written (store : EventStore) (sequence : UInt64) (payload : List UInt8) :
    EventStore :=
  { store with
    sequence := sequence
    entries := store.entries + 1
    bytes := store.bytes + payload.length }

/-- The metadata that record drops. -/
def droppedMetadata (dropped sequence : UInt64) : EventStoreMetadata where
  schemaVersion := 1
  saturated := true
  droppedEvents := dropped
  lastAttemptedSequence := sequence

/-- The metadata that reserve a sequence. -/
def reservation (sequence : UInt64) : EventStoreMetadata where
  schemaVersion := 1
  lastAttemptedSequence := sequence

variable {store : EventStore} {event : Event}

theorem runs_failReservedAppend {cause : Err}
    {r : Except Crash Appended} (h : Runs (failReservedAppend store event cause) d u r d') :
  ∃ y, Replaces (droppedMetadata (store.dropped + 1) store.sequence).payload d u y d' ∧
    r = y.map fun err => ⟨store.drop store.sequence, event, cause ++ err⟩
  := by
  obtain ⟨y, d₁, u₁, u₂, rfl, hpersist, hok, herror⟩ := runs_bind h
  have hrep := runs_persistMetadata hpersist
  refine ⟨y, ?_⟩
  cases y with
  | error e =>
      obtain ⟨rfl, rfl, rfl⟩ := herror e rfl
      rw [List.append_nil]
      exact ⟨hrep, rfl⟩
  | ok err =>
      obtain ⟨rfl, rfl, rfl⟩ := runs_pure (hok err rfl)
      rw [List.append_nil]
      exact ⟨hrep, rfl⟩

/-- How opening the log ends. -/
theorem runs_openLog {r : Except Crash Err} (h : Runs openLog d u r d') :
  ∃ x : Except Crash Err, u = [⟨.operation .openLog, x⟩] ∧
    (x = .ok [] ∧ r = .ok [] ∧ d' = { d with log := some d.contents } ∨
      d' = d ∧ r ≠ .ok [] ∧ ∀ err, r = .ok err → ¬ Clean ⟨.operation .openLog, x⟩)
  := by
  obtain ⟨x, d₁, u₁, u₂, rfl, hio, hok, herror⟩ := runs_bind h
  obtain ⟨rfl, rfl⟩ := runs_io hio
  refine ⟨x, ?_⟩
  cases x with
  | error e =>
      obtain ⟨rfl, rfl, rfl⟩ := herror e rfl
      exact ⟨rfl, Or.inr ⟨rfl, nofun, nofun⟩⟩
  | ok err =>
      have hrest := hok err rfl
      split at hrest
      · rename_i hnil
        obtain ⟨_, d₂, u₃, u₄, rfl, hmodify, hpure, -⟩ := runs_bind hrest
        obtain ⟨rfl, rfl, rfl⟩ := runs_modifyState hmodify
        obtain ⟨rfl, rfl, rfl⟩ := runs_pure (hpure () rfl)
        exact ⟨rfl, Or.inl ⟨congrArg Except.ok hnil, rfl, rfl⟩⟩
      · rename_i hfails
        obtain ⟨rfl, rfl, rfl⟩ := runs_pure hrest
        refine ⟨rfl, Or.inr ⟨rfl, ?_, ?_⟩⟩
        · intro hr
          cases Except.ok.inj hr
        · intro _ _
          exact hfails

/-- The error of a write to the log that was answered. -/
structure Answered (payload : List UInt8) (count : Nat) (err writeErr : Err) : Prop where
  full : writeErr = [] → payload.take count = payload
  whole : payload.take count = payload → writeErr = err
  clean : Clean ⟨.writeLog payload, .ok (count, err)⟩ → writeErr = []

/-- How a write to the log ends. -/
theorem runs_writeLog {payload : List UInt8} {r : Except Crash Err}
    (h : Runs (writeLog payload) d u r d') :
  (∃ e, u = [⟨.writeLog payload, .error e⟩] ∧ r = .error e ∧ d' = d) ∨
  ∃ (count : Nat) (err writeErr : Err), u = [⟨.writeLog payload, .ok (count, err)⟩] ∧
    r = .ok writeErr ∧ d' = { d with log := some (d.contents ++ payload.take count) } ∧
    Answered payload count err writeErr
  := by
  obtain ⟨x, d₁, u₁, u₂, rfl, hask, hok, herror⟩ := runs_bind h
  obtain ⟨rfl, rfl⟩ := runs_ask hask
  cases x with
  | error e =>
      left
      obtain ⟨rfl, rfl, rfl⟩ := herror e rfl
      exact ⟨e, rfl, rfl, rfl⟩
  | ok answer =>
      right
      obtain ⟨count, writeErr⟩ := answer
      obtain ⟨_, d₂, u₃, u₄, rfl, hmodify, hrest, -⟩ := runs_bind (hok (count, writeErr) rfl)
      obtain ⟨rfl, rfl, rfl⟩ := runs_modifyState hmodify
      have hend := hrest () rfl
      split at hend
      · rename_i hshort
        obtain ⟨rfl, rfl, rfl⟩ := runs_pure hend
        refine ⟨count, writeErr, _, rfl, rfl, rfl, nofun, ?_, ?_⟩
        · intro hwhole
          exact absurd (congrArg List.length hwhole) hshort.2
        intro hclean
        obtain ⟨rfl, -⟩ := Prod.mk.inj (show (count, writeErr) = (payload.length, []) from hclean)
        rw [List.take_length] at hshort
        exact absurd rfl hshort.2
      · rename_i hfull
        obtain ⟨rfl, rfl, rfl⟩ := runs_pure hend
        refine ⟨count, writeErr, _, rfl, rfl, rfl, ?_, fun _ => rfl, ?_⟩
        · intro hnil
          have hlength : (payload.take count).length = payload.length := by
            by_contra hne
            exact hfull ⟨hnil, hne⟩
          exact (List.take_prefix count payload).eq_of_length hlength
        · intro hclean
          exact (Prod.mk.inj (show (count, writeErr) = (payload.length, []) from hclean)).2

/-- Every write to the log is a write of the payload. -/
def WritesOnly (payload : List UInt8) (u : List ioSignature.Interaction) : Prop :=
  ∀ (payload' : List UInt8) (x : Except Crash (Nat × Err)), ⟨.writeLog payload', x⟩ ∈ u →
    payload' = payload

theorem writesOnly_nil (payload : List UInt8) :
  WritesOnly payload []
  := by
  intro payload' x hmem
  cases hmem

theorem WritesOnly.cons {payload : List UInt8} {o : FileOperation} {r : Except Crash Err}
    {v : List ioSignature.Interaction} (h : WritesOnly payload v) :
  WritesOnly payload (⟨.operation o, r⟩ :: v)
  := by
  intro payload' x hmem
  rcases List.mem_cons.mp hmem with hmem | hmem
  · cases hmem
  · exact h payload' x hmem

theorem WritesOnly.write {payload : List UInt8} {r : Except Crash (Nat × Err)}
    {v : List ioSignature.Interaction} (h : WritesOnly payload v) :
  WritesOnly payload (⟨.writeLog payload, r⟩ :: v)
  := by
  intro payload' x hmem
  rcases List.mem_cons.mp hmem with hmem | hmem
  · cases hmem
    rfl
  · exact h payload' x hmem

theorem not_renamed_cons {r : Except Crash Err}
    {v : List ioSignature.Interaction} (h : ¬ Renamed v) (ho : o ≠ .rename) :
  ¬ Renamed (⟨.operation o, r⟩ :: v)
  := by
  rw [← List.singleton_append, renamed_append]
  rintro (hrenamed | hrenamed)
  · exact not_renamed_operation ho r hrenamed
  · exact h hrenamed

theorem not_renamed_writeLog {payload : List UInt8} {r : Except Crash (Nat × Err)}
    {v : List ioSignature.Interaction} (h : ¬ Renamed v) :
  ¬ Renamed (⟨.writeLog payload, r⟩ :: v)
  := by
  intro hmem
  rcases List.mem_cons.mp hmem with hmem | hmem
  · cases hmem
  · exact h hmem

theorem wrote_writeLog {payload : List UInt8} {answer : Nat × Err}
    {v w : List ioSignature.Interaction} :
  Wrote (v ++ ⟨.writeLog payload, .ok answer⟩ :: w)
  := ⟨payload, answer, List.mem_append_right _ List.mem_cons_self⟩

/-- The interactions of a record whose write is answered. -/
def writing (payload : List UInt8) (count : Nat) (err : Err) (rest : List ioSignature.Interaction) :
    List ioSignature.Interaction :=
  succeeded .openLog :: ⟨.writeLog payload, .ok (count, err)⟩ :: rest

section Writing

variable {payload : List UInt8} {count : Nat} {err : Err} {v : List ioSignature.Interaction}

theorem not_renamed_writing (h : ¬ Renamed v) :
  ¬ Renamed (writing payload count err v)
  := not_renamed_cons (not_renamed_writeLog h) (by decide)

theorem wrote_writing :
  Wrote (writing payload count err v)
  := wrote_writeLog (v := [_])

theorem WritesOnly.writing (h : WritesOnly payload v) :
  WritesOnly payload (writing payload count err v)
  := h.write.cons

/-- When the write is clean, all of the payload is in the log. -/
theorem Answered.take_of_clean {writeErr : Err} (h : Answered payload count err writeErr)
    (hclean : CleanRun (Supervisor.writing payload count err v)) :
  payload.take count = payload
  := by
  apply h.full
  apply h.clean
  apply hclean
  exact List.mem_cons_of_mem _ List.mem_cons_self

end Writing

/-- Writing the log to the disk, and closing it. -/
def closing (syncErr closeErr : Except Crash Err) : List ioSignature.Interaction :=
  [⟨.operation .syncLog, syncErr⟩, ⟨.operation .closeLog, closeErr⟩]

theorem not_renamed_closing (syncErr closeErr : Except Crash Err) :
  ¬ Renamed (closing syncErr closeErr)
  := not_renamed_cons (not_renamed_operation (by decide) _) (by decide)

/-- The steps of writing a record. The process stops while the log is opened, the log is refused, or
the process stops in the write, before the log is written to the disk or before it is closed.
Otherwise a failure drops the event, or the record is in the log. -/
inductive RecordSteps (store : EventStore) (event : Event) (payload : List UInt8) (d : Directory) :
    List ioSignature.Interaction → Except Crash Appended → Directory → Prop
  | unopened (x : Except Crash Err) (e : Crash) :
      RecordSteps store event payload d [⟨.operation .openLog, x⟩] (.error e) d
  | refused {x y : Except Crash Err} {openErr : Err} {w : List ioSignature.Interaction}
      {d' : Directory} (fails : openErr ≠ []) (unclean : ¬ Clean ⟨.operation .openLog, x⟩)
      (replaces : Replaces (droppedMetadata (store.dropped + 1) store.sequence).payload d w y d') :
      RecordSteps store event payload d (⟨.operation .openLog, x⟩ :: w)
        (y.map fun err => ⟨store.drop store.sequence, event, openErr ++ err⟩) d'
  | unwritten (e : Crash) :
      RecordSteps store event payload d [succeeded .openLog, ⟨.writeLog payload, .error e⟩]
        (.error e) { d with log := some d.contents }
  | unsynced {count : Nat} {err writeErr : Err} (e : Crash)
      (answered : Answered payload count err writeErr) :
      RecordSteps store event payload d
        (writing payload count err [⟨.operation .syncLog, .error e⟩]) (.error e)
        { d with log := some (d.contents ++ payload.take count) }
  | unclosed {count : Nat} {err writeErr syncErr : Err} (e : Crash)
      (answered : Answered payload count err writeErr) :
      RecordSteps store event payload d
        (writing payload count err (closing (.ok syncErr) (.error e))) (.error e)
        { d with log := some (d.contents ++ payload.take count) }
  | failed {count : Nat} {err writeErr syncErr closeErr : Err} {w : List ioSignature.Interaction}
      {y : Except Crash Err} {d' : Directory} (answered : Answered payload count err writeErr)
      (fails : writeErr ≠ [] ∨ syncErr ≠ [])
      (replaces : Replaces (droppedMetadata (store.dropped + 1) store.sequence).payload
        { d with log := some (d.contents ++ payload.take count) } w y d') :
      RecordSteps store event payload d
        (writing payload count err (closing (.ok syncErr) (.ok closeErr) ++ w))
        (y.map fun err =>
          ⟨store.drop store.sequence, event, writeErr ++ syncErr ++ closeErr ++ err⟩) d'
  | written {count : Nat} {closeErr : Err} (full : payload.take count = payload) :
      RecordSteps store event payload d
        (writing payload count [] (closing (.ok []) (.ok closeErr)))
        (.ok ⟨store.written store.sequence payload, event, closeErr⟩)
        { d with log := some (d.contents ++ payload) }

theorem recordSteps_of_runs {payload : List UInt8}
    {r : Except Crash Appended} (h : Runs (writeRecord store event payload) d u r d') :
  RecordSteps store event payload d u r d'
  := by
  obtain ⟨opened, d₁, u₁, u₂, rfl, hopen, hok, herror⟩ := runs_bind h
  obtain ⟨x, rfl, ⟨rfl, rfl, rfl⟩ | ⟨rfl, hne, hunclean⟩⟩ := runs_openLog hopen
  · have hrest := hok [] rfl
    rw [if_neg (not_not_intro rfl)] at hrest
    obtain ⟨w, d₂, u₃, u₄, rfl, hwrite, hok₂, herror₂⟩ := runs_bind hrest
    rcases runs_writeLog hwrite with
      ⟨e, rfl, rfl, rfl⟩ | ⟨count, err, writeErr, rfl, rfl, rfl, hanswered⟩
    · obtain ⟨rfl, rfl, rfl⟩ := herror₂ e rfl
      exact .unwritten e
    · obtain ⟨s, d₃, u₅, u₆, rfl, hsync, hok₃, herror₃⟩ := runs_bind (hok₂ writeErr rfl)
      obtain ⟨rfl, rfl⟩ := runs_io hsync
      cases s with
      | error e =>
          obtain ⟨rfl, rfl, rfl⟩ := herror₃ e rfl
          exact .unsynced e hanswered
      | ok syncErr =>
          obtain ⟨c, d₄, u₇, u₈, rfl, hclose, hok₄, herror₄⟩ := runs_bind (hok₃ syncErr rfl)
          obtain ⟨rfl, rfl⟩ := runs_io hclose
          cases c with
          | error e =>
              obtain ⟨rfl, rfl, rfl⟩ := herror₄ e rfl
              exact .unclosed e hanswered
          | ok closeErr =>
              have hend := hok₄ closeErr rfl
              split at hend
              · rename_i hfails
                obtain ⟨y, hrep, rfl⟩ := runs_failReservedAppend hend
                exact .failed hanswered hfails hrep
              · rename_i hfine
                rw [not_or, not_not, not_not] at hfine
                obtain ⟨rfl, rfl⟩ := hfine
                obtain ⟨rfl, rfl, rfl⟩ := runs_pure hend
                have hfull := hanswered.full rfl
                obtain rfl := hanswered.whole hfull
                rw [hfull]
                exact .written hfull
  · cases opened with
    | error e =>
        obtain ⟨rfl, rfl, rfl⟩ := herror e rfl
        exact .unopened x e
    | ok err =>
        have herr : err ≠ [] := fun hnil => hne (congrArg Except.ok hnil)
        have hrest := hok err rfl
        rw [if_pos herr] at hrest
        obtain ⟨y, hrep, rfl⟩ := runs_failReservedAppend hrest
        exact .refused herr (hunclean err rfl) hrep

/-- How writing a record ends: the process stops, the event is dropped because of a failure, or the
record is in the log. -/
inductive RecordOutcome (store : EventStore) (event : Event) (payload : List UInt8) (d : Directory)
    (u : List ioSignature.Interaction) : Except Crash Appended → Directory → Prop
  | stopped {e : Crash} {d' : Directory} (log : LogExtends payload d d') (unrenamed : ¬ Renamed u)
      (lines : WritesOnly payload u)
      (clean : CleanRun u → ¬ Wrote u ∧ d'.contents = d.contents ∨
        Wrote u ∧ d'.contents = d.contents ++ payload) :
      RecordOutcome store event payload d u (.error e) d'
  | failed {d₁ d' : Directory} {v w : List ioSignature.Interaction} {cause : Err}
      {y : Except Crash Err} (interactions : u = v ++ w) (log : LogExtends payload d d₁)
      (fails : cause ≠ []) (unclean : ¬ CleanRun v)
      (replaces : Replaces (droppedMetadata (store.dropped + 1) store.sequence).payload d₁ w y d') :
      RecordOutcome store event payload d u
        (y.map fun err => ⟨store.drop store.sequence, event, cause ++ err⟩) d'
  | written {closeErr : Err} (unrenamed : ¬ Renamed u) (wrote : Wrote u)
      (lines : WritesOnly payload u)
      (clean : CleanRun u → closeErr = []) :
      RecordOutcome store event payload d u
        (.ok ⟨store.written store.sequence payload, event, closeErr⟩)
        { d with log := some (d.contents ++ payload) }

theorem runs_writeRecord {payload : List UInt8}
    {r : Except Crash Appended} (h : Runs (writeRecord store event payload) d u r d') :
  RecordOutcome store event payload d u r d'
  := by
  have hnone := writesOnly_nil payload
  cases recordSteps_of_runs h with
  | unopened x e =>
      refine .stopped ⟨rfl, Or.inl rfl⟩ (not_renamed_operation (by decide) _) hnone.cons ?_
      intro _
      exact Or.inl ⟨not_wrote_operation _ _, rfl⟩
  | refused hfails hunclean hrep =>
      refine .failed (v := [_]) rfl ⟨rfl, Or.inl rfl⟩ hfails ?_ hrep
      intro hall
      exact hunclean (hall _ List.mem_cons_self)
  | unwritten e =>
      refine .stopped ⟨rfl, Or.inr ⟨0, ?_⟩⟩ ?_ hnone.write.cons ?_
      · rw [List.take_zero, List.append_nil]
        rfl
      · exact not_renamed_cons (not_renamed_writeLog not_renamed_nil) (by decide)
      · intro _
        left
        refine ⟨?_, rfl⟩
        apply not_wrote_cons
        rintro ⟨payload', answer, hmem⟩
        cases List.mem_singleton.mp hmem
  | unsynced e hanswered =>
      refine .stopped ⟨rfl, Or.inr ⟨_, rfl⟩⟩ ?_ hnone.cons.writing ?_
      · exact not_renamed_writing (not_renamed_operation (by decide) _)
      · intro hall
        right
        exact ⟨wrote_writing, congrArg (d.contents ++ ·) (hanswered.take_of_clean hall)⟩
  | unclosed e hanswered =>
      refine .stopped ⟨rfl, Or.inr ⟨_, rfl⟩⟩ ?_ hnone.cons.cons.writing ?_
      · exact not_renamed_writing (not_renamed_closing _ _)
      · intro hall
        right
        exact ⟨wrote_writing, congrArg (d.contents ++ ·) (hanswered.take_of_clean hall)⟩
  | @failed count err writeErr syncErr closeErr w y _ hanswered hfails hrep =>
      have hlog : LogExtends payload d { d with log := some (d.contents ++ payload.take count) } :=
        ⟨rfl, Or.inr ⟨count, rfl⟩⟩
      refine .failed (v := writing payload count err (closing (.ok syncErr) (.ok closeErr))) rfl
        hlog ?_ ?_ hrep
      · intro hnil
        simp only [List.append_eq_nil_iff] at hnil
        rcases hfails with hfails | hfails
        · exact hfails hnil.1.1
        · exact hfails hnil.1.2
      · intro hall
        rcases hfails with hfails | hfails
        · apply hfails
          apply hanswered.clean
          apply hall
          exact List.mem_cons_of_mem _ List.mem_cons_self
        · apply hfails
          exact hall ⟨.operation .syncLog, .ok syncErr⟩
            (List.mem_cons_of_mem _ (List.mem_cons_of_mem _ List.mem_cons_self))
  | @written count closeErr hfull =>
      refine .written (not_renamed_writing (not_renamed_closing _ _)) wrote_writing
        hnone.cons.cons.writing ?_
      intro hall
      exact hall ⟨.operation .closeLog, .ok closeErr⟩
        (List.mem_cons_of_mem _ (List.mem_cons_of_mem _
          (List.mem_cons_of_mem _ List.mem_cons_self)))

/-! ### Appending -/

/-- There is room for one more record. -/
theorem capacityDrop_eq_false {payload : List UInt8} :
  capacityDrop store payload = false ↔ store.saturated = false ∧
    store.entries < store.limits.maximumEntries ∧
    store.bytes + payload.length ≤ store.limits.maximumBytes
  := by
  simp only [capacityDrop, Bool.or_eq_false_iff, decide_eq_false_iff_not, not_le, not_lt, and_assoc]

/-- How an append of an event with its sequence ends: it is refused, the event is dropped because
the log is full, it is dropped because its sequence could not be reserved, the process stops before
the sequence is reserved, or the record is written. -/
inductive AppendOutcome (store : EventStore) (event : Event) (d : Directory)
    (u : List ioSignature.Interaction) : Except Crash Appended → Directory → Prop
  | refused {event' : Event} {err : Err} (interactions : u = []) (fails : err ≠ [])
      (exhausted : store.sequence = greatestSequence ∨ store.dropped = greatestSequence) :
      AppendOutcome store event d u (.ok ⟨store, event', err⟩) d
  | dropped {y : Except Crash Err} {d' : Directory} (room : store.sequence ≠ greatestSequence)
      (capacity : capacityDrop store event.line = true) (counts : store.dropped ≠ greatestSequence)
      (replaces : Replaces (droppedMetadata (store.dropped + 1) (store.sequence + 1)).payload
        d u y d') :
      AppendOutcome store event d u
        (y.map fun err => ⟨store.drop (store.sequence + 1), event, err⟩) d'
  | unreserved {d₁ d' : Directory} {v w : List ioSignature.Interaction} {cause : Err}
      {y : Except Crash Err} (room : store.sequence ≠ greatestSequence)
      (capacity : capacityDrop store event.line = false) (interactions : u = v ++ w)
      (reserves : Replaces (reservation (store.sequence + 1)).payload d v (.ok cause) d₁)
      (fails : cause ≠ [])
      (replaces : Replaces (droppedMetadata (store.dropped + 1) (store.sequence + 1)).payload
        d₁ w y d') :
      AppendOutcome store event d u
        (y.map fun err => ⟨store.drop (store.sequence + 1), event, cause ++ err⟩) d'
  | stopped {e : Crash} {d' : Directory} (room : store.sequence ≠ greatestSequence)
      (capacity : capacityDrop store event.line = false)
      (reserves : Replaces (reservation (store.sequence + 1)).payload d u (.error e) d') :
      AppendOutcome store event d u (.error e) d'
  | recorded {v w : List ioSignature.Interaction} {r : Except Crash Appended} {d' : Directory}
      (room : store.sequence ≠ greatestSequence)
      (capacity : capacityDrop store event.line = false) (interactions : u = v ++ w)
      (renamed : Renamed v) (unwritten : ¬ Wrote v)
      (record : RecordOutcome { store with sequence := store.sequence + 1 } event event.line
        { d with metadata := some (reservation (store.sequence + 1)).payload } w r d') :
      AppendOutcome store event d u r d'

theorem runs_append {now : Utc} {r : Except Crash Appended}
    (h : Runs (append store now event) d u r d') :
  AppendOutcome store (stampEvent event (store.sequence + 1) now) d u r d'
  := by
  unfold append at h
  split at h
  · rename_i hexhausted
    obtain ⟨rfl, rfl, rfl⟩ := runs_pure h
    exact .refused rfl (List.cons_ne_nil _ _) (Or.inl hexhausted)
  · rename_i hroom
    simp only at h
    split at h
    · rename_i hcapacity
      split at h
      · rename_i hexhausted
        obtain ⟨rfl, rfl, rfl⟩ := runs_pure h
        exact .refused rfl (List.cons_ne_nil _ _) (Or.inr hexhausted)
      · rename_i hcounts
        obtain ⟨y, d₁, u₁, u₂, rfl, hpersist, hok, herror⟩ := runs_bind h
        have hrep := runs_persistMetadata hpersist
        cases y with
        | error e =>
            obtain ⟨rfl, rfl, rfl⟩ := herror e rfl
            rw [List.append_nil]
            exact .dropped hroom hcapacity hcounts hrep
        | ok err =>
            obtain ⟨rfl, rfl, rfl⟩ := runs_pure (hok err rfl)
            rw [List.append_nil]
            exact .dropped hroom hcapacity hcounts hrep
    · rename_i hcapacity
      rw [Bool.not_eq_true] at hcapacity
      obtain ⟨y, d₁, u₁, u₂, rfl, hpersist, hok, herror⟩ := runs_bind h
      have hrep := runs_persistMetadata hpersist
      cases y with
      | error e =>
          obtain ⟨rfl, rfl, rfl⟩ := herror e rfl
          rw [List.append_nil]
          exact .stopped hroom hcapacity hrep
      | ok err =>
          have hrest := hok err rfl
          split at hrest
          · rename_i hfails
            obtain ⟨y, hrep', rfl⟩ := runs_failReservedAppend hrest
            exact .unreserved hroom hcapacity rfl hrep hfails hrep'
          · rename_i hnil
            rw [not_not] at hnil
            have hrenamed := hrep.renamed (congrArg Except.ok hnil)
            rcases hrep.directory with ⟨-, hkept⟩ | ⟨rfl, -⟩
            · exact absurd hrenamed hkept
            · exact .recorded hroom hcapacity rfl hrenamed hrep.unwritten (runs_writeRecord hrest)

/-! ### Opening -/

/-- The store that is opened on a log and metadata. -/
def openedStore (limits : Limits) (d : Directory) (metadata : EventStoreMetadata) : EventStore where
  limits := limits
  entries := d.contents.count 10
  bytes := d.contents.length
  dropped := metadata.droppedEvents
  sequence := metadata.lastAttemptedSequence
  saturated := metadata.saturated

/-- The metadata file that is found is absent, or holds the metadata. -/
def FoundIn (d : Directory) (found : Option EventStoreMetadata) : Prop :=
  match d.metadata with
  | none => found = none
  | some payload => ∃ metadata, EventStoreMetadata.decode payload = some metadata ∧
      found = some metadata

/-- The files are accepted: the log is a sequence of complete records within the limits, and the
metadata agree with it. -/
structure Accepts (limits : Limits) (d : Directory) (previousSequence : UInt64)
    (found : Option EventStoreMetadata) (metadata : EventStoreMetadata) : Prop where
  bytes : d.contents.length ≤ limits.maximumBytes
  complete : d.contents = [] ∨ d.contents.getLast? = some 10
  entries : d.contents.count 10 ≤ limits.maximumEntries
  scan : scanLog d.contents = .ok previousSequence
  foundIn : FoundIn d found
  reconciles : reconcile previousSequence found = .ok metadata

/-- How opening the store ends: it fails and leaves the files as they are, or the files are accepted
and the metadata file may be replaced. -/
inductive OpenOutcome (limits : Limits) (d : Directory) :
    Except Crash (Except Err EventStore) → Directory → Prop
  | rejected {r : Except Crash (Except Err EventStore)}
      (fails : ∀ store, r ≠ .ok (.ok store)) : OpenOutcome limits d r d
  | unchanged {previousSequence : UInt64} {metadata : EventStoreMetadata}
      (accepts : Accepts limits d previousSequence (some metadata) metadata) :
      OpenOutcome limits d (.ok (.ok (openedStore limits d metadata))) d
  | persisted {previousSequence : UInt64} {found : Option EventStoreMetadata}
      {metadata : EventStoreMetadata} {v : List ioSignature.Interaction} {y : Except Crash Err}
      {d' : Directory} (accepts : Accepts limits d previousSequence found metadata)
      (replaces : Replaces metadata.payload d v y d') :
      OpenOutcome limits d
        (y.map fun err => if err = [] then .ok (openedStore limits d metadata) else .error err) d'

variable {limits : Limits}

/-- A store is opened on files that are accepted. -/
theorem accepts_of_opened (hopen : OpenOutcome limits d (.ok (.ok store)) d') :
  ∃ previousSequence found metadata, Accepts limits d previousSequence found metadata
  := by
  generalize hr : (.ok (.ok store) : Except Crash (Except Err EventStore)) = r at hopen
  cases hopen with
  | rejected fails => exact absurd hr.symm (fails store)
  | unchanged accepts => exact ⟨_, _, _, accepts⟩
  | persisted accepts _ => exact ⟨_, _, _, accepts⟩

theorem runs_loadEventStoreMetadata {r : Except Crash (Except Err (Option EventStoreMetadata))}
    (h : Runs loadEventStoreMetadata d u r d') :
  d' = d ∧ ∀ found, r = .ok (.ok found) → FoundIn d found
  := by
  obtain ⟨x, d₁, u₁, u₂, rfl, hget, hok, -⟩ := runs_bind h
  obtain ⟨rfl, rfl, rfl⟩ := runs_getState hget
  obtain ⟨y, d₂, u₃, u₄, rfl, hio, hok', herror⟩ := runs_bind (hok _ rfl)
  obtain ⟨rfl, rfl⟩ := runs_io hio
  cases y with
  | error e =>
      obtain ⟨rfl, rfl, rfl⟩ := herror e rfl
      exact ⟨rfl, nofun⟩
  | ok err =>
      have hrest := hok' err rfl
      split at hrest
      · obtain ⟨rfl, rfl, rfl⟩ := runs_pure hrest
        exact ⟨rfl, nofun⟩
      · split at hrest
        · rename_i hnone
          obtain ⟨rfl, rfl, rfl⟩ := runs_pure hrest
          refine ⟨rfl, ?_⟩
          rintro found ⟨⟩
          simp only [FoundIn, hnone]
        · rename_i payload hsome
          split at hrest
          · obtain ⟨rfl, rfl, rfl⟩ := runs_pure hrest
            exact ⟨rfl, nofun⟩
          · rename_i metadata hdecode
            obtain ⟨rfl, rfl, rfl⟩ := runs_pure hrest
            refine ⟨rfl, ?_⟩
            rintro found ⟨⟩
            simp only [FoundIn, hsome]
            exact ⟨metadata, hdecode, rfl⟩

theorem runs_newEventStore {r : Except Crash (Except Err EventStore)}
    (h : Runs (newEventStore limits) d u r d') :
  OpenOutcome limits d r d'
  := by
  obtain ⟨x, d₁, u₁, u₂, rfl, hmake, hok, herror⟩ := runs_bind h
  obtain ⟨rfl, rfl⟩ := runs_io hmake
  cases x with
  | error e =>
      obtain ⟨rfl, rfl, rfl⟩ := herror e rfl
      exact .rejected nofun
  | ok err =>
  have h₁ := hok err rfl
  split at h₁
  · obtain ⟨rfl, rfl, rfl⟩ := runs_pure h₁
    exact .rejected nofun
  obtain ⟨_, d₂, u₃, u₄, rfl, hget, hok₁, -⟩ := runs_bind h₁
  obtain ⟨rfl, rfl, rfl⟩ := runs_getState hget
  obtain ⟨y, d₃, u₅, u₆, rfl, hread, hok₂, herror₂⟩ := runs_bind (hok₁ _ rfl)
  obtain ⟨rfl, rfl⟩ := runs_io hread
  cases y with
  | error e =>
      obtain ⟨rfl, rfl, rfl⟩ := herror₂ e rfl
      exact .rejected nofun
  | ok err =>
  have h₂ := hok₂ err rfl
  split at h₂
  · obtain ⟨rfl, rfl, rfl⟩ := runs_pure h₂
    exact .rejected nofun
  simp only at h₂
  split at h₂
  · obtain ⟨rfl, rfl, rfl⟩ := runs_pure h₂
    exact .rejected nofun
  rename_i hbytes
  split at h₂
  · obtain ⟨rfl, rfl, rfl⟩ := runs_pure h₂
    exact .rejected nofun
  rename_i hcomplete
  split at h₂
  · obtain ⟨rfl, rfl, rfl⟩ := runs_pure h₂
    exact .rejected nofun
  rename_i hentries
  split at h₂
  · obtain ⟨rfl, rfl, rfl⟩ := runs_pure h₂
    exact .rejected nofun
  rename_i previousSequence hscan
  obtain ⟨z, d₄, u₇, u₈, rfl, hload, hok₃, herror₃⟩ := runs_bind h₂
  obtain ⟨rfl, hfound⟩ := runs_loadEventStoreMetadata hload
  cases z with
  | error e =>
      obtain ⟨rfl, rfl, rfl⟩ := herror₃ e rfl
      exact .rejected nofun
  | ok loaded =>
  have h₃ := hok₃ loaded rfl
  cases loaded with
  | error err =>
      obtain ⟨rfl, rfl, rfl⟩ := runs_pure h₃
      exact .rejected nofun
  | ok found =>
  simp only at h₃
  split at h₃
  · obtain ⟨rfl, rfl, rfl⟩ := runs_pure h₃
    exact .rejected nofun
  rename_i metadata hreconcile
  have haccepts : Accepts limits d₄ previousSequence found metadata := by
    refine ⟨Nat.le_of_not_lt hbytes, ?_, Nat.le_of_not_lt hentries, hscan, hfound found rfl,
      hreconcile⟩
    rw [not_and_or, not_not, not_not] at hcomplete
    exact hcomplete
  split at h₃
  · rename_i hsame
    obtain ⟨rfl, rfl, rfl⟩ := runs_pure h₃
    rw [hsame] at haccepts
    exact .unchanged haccepts
  obtain ⟨p, d₅, u₉, u₁₀, rfl, hpersist, hok₄, herror₄⟩ := runs_bind h₃
  have hrep := runs_persistMetadata hpersist
  cases p with
  | error e =>
      obtain ⟨rfl, rfl, rfl⟩ := herror₄ e rfl
      exact .persisted haccepts hrep
  | ok err =>
      have h₄ := hok₄ err rfl
      have hend : Runs (pure (if err = [] then .ok (openedStore limits d₄ metadata)
          else .error err) : Io (Except Err EventStore)) d₅ u₁₀ r d' := by
        split at h₄
        · rename_i hnil
          rw [if_pos hnil]
          exact h₄
        · rename_i hfails
          rw [if_neg hfails]
          exact h₄
      obtain ⟨rfl, rfl, rfl⟩ := runs_pure hend
      exact .persisted haccepts hrep

/-! ### A file system without failures -/

/-- The file system without failures. -/
def healthy : ioSignature.Environment := fun _ c =>
  match c with
  | .operation _ => { result := .ok ([] : Err) }
  | .writeLog payload => { result := .ok (payload.length, ([] : Err)) }

/-- A part of a program that ends with a value is followed by the rest. -/
theorem bind_eq {α β : Type} {m : Io α} {f : α → Io β} {env : ioSignature.Environment} {fuel : Nat}
    {d d' : Directory} {history u : List ioSignature.Interaction} {a : α}
    (h : m env fuel d history = some (.ok a, d', u)) :
  (m >>= f) env fuel d history = (f a env fuel d' (history ++ u)).map fun w =>
    (w.1, w.2.1, u ++ w.2.2)
  := by
  simp only [bind, andThen, h]
  cases f a env fuel d' (history ++ u) <;> rfl

/-- Files that are accepted are opened when the file system does not fail. -/
theorem newEventStore_healthy {d : Directory} {previousSequence : UInt64}
    {found : Option EventStoreMetadata} {metadata : EventStoreMetadata}
    (h : Accepts limits d previousSequence found metadata) (fuel : Nat)
    (history : List ioSignature.Interaction) :
  ∃ d' u, newEventStore limits healthy fuel d history =
      some (.ok (.ok (openedStore limits d metadata)), d', u) ∧
    (found = some metadata ∧ d' = d ∨ d' = { d with metadata := some metadata.payload })
  := by
  have hio : ∀ o d history, io o healthy fuel d history = some (.ok [], d, [succeeded o]) := by
    intro o d history
    rfl
  have hget : ∀ d history, (Program.getState : Io Directory) healthy fuel d history =
      some (.ok d, d, []) := by
    intro d history
    rfl
  have hload : ∀ history, loadEventStoreMetadata healthy fuel d history =
      some (.ok (.ok found), d, [succeeded .readMetadata]) := by
    intro history
    have hfound := h.foundIn
    unfold FoundIn at hfound
    unfold loadEventStoreMetadata
    rw [bind_eq (hget _ _), bind_eq (hio _ _ _)]
    simp only [ne_eq, not_true_eq_false, if_false]
    cases hm : d.metadata with
    | none =>
        rw [hm] at hfound
        rw [hfound]
        rfl
    | some payload =>
        rw [hm] at hfound
        obtain ⟨m, hdecode, rfl⟩ := hfound
        simp only [hdecode]
        rfl
  have hpersist : ∀ history, ∃ u, persistMetadata metadata healthy fuel d history =
      some (.ok [], { d with metadata := some metadata.payload }, u) := by
    intro history
    exact ⟨_, rfl⟩
  have hcomplete : ¬ (d.contents ≠ [] ∧ d.contents.getLast? ≠ some 10) := by
    rw [not_and_or, not_not, not_not]
    exact h.complete
  unfold newEventStore
  rw [bind_eq (hio _ _ _)]
  simp only [ne_eq, not_true_eq_false, if_false]
  rw [bind_eq (hget _ _), bind_eq (hio _ _ _)]
  simp only [not_true_eq_false, if_false]
  have hcontents : d.log.getD [] = d.contents := rfl
  simp only [hcontents]
  rw [if_neg (Nat.not_lt.mpr h.bytes), if_neg hcomplete, if_neg (Nat.not_lt.mpr h.entries)]
  simp only [h.scan]
  rw [bind_eq (hload _)]
  simp only [h.reconciles]
  by_cases hsame : found = some metadata
  · simp only [hsame, if_true]
    exact ⟨_, _, rfl, Or.inl ⟨trivial, rfl⟩⟩
  · rw [if_neg hsame]
    obtain ⟨u, hu⟩ := hpersist (history ++ [succeeded .makeDirectory] ++ [] ++
      [succeeded .readLog] ++ [succeeded .readMetadata])
    rw [bind_eq hu]
    exact ⟨_, _, rfl, Or.inr rfl⟩

end Supervisor

end RobotestLab
