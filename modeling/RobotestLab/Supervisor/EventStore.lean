import RobotestLab.Library.Program
import RobotestLab.Supervisor.Event

/-!
# The event store of the supervisor

The append-only event log with its metadata file (state.go). The store keeps counters in memory,
replaces the metadata file as a whole, and appends whole lines to the log. Every operation on the
file system is a call that may succeed, may fail, or may never return because the process stops
there. A stopped process loses the counters and keeps the files.
-/

namespace RobotestLab

namespace Supervisor

/-! ### Errors -/

/-- An error is the list of the texts that are joined in it. No error is the empty list. -/
abbrev Err : Type := List String

def Err.text (err : Err) : String := "\n".intercalate err

/-- An error with a text in front of it. -/
def Err.wrap (err : Err) (text : String) : Err := [text ++ ": " ++ err.text]

/-! ### The file system -/

/-- The two files of the state directory. A file that does not exist is `none`. -/
structure Directory where
  log : Option (List UInt8) := none
  metadata : Option (List UInt8) := none
deriving DecidableEq

/-- An operation on the file system that succeeds or fails. -/
inductive FileOperation where
  | makeDirectory
  | readLog
  | readMetadata
  | createTemporary
  | chmodTemporary
  | writeTemporary
  | syncTemporary
  | closeTemporary
  | rename
  | openDirectory
  | syncDirectory
  | closeDirectory
  | openLog
  | syncLog
  | closeLog
deriving DecidableEq

/-- The calls of the file system. -/
inductive IoCall where
  | operation (o : FileOperation)
  | writeLog (payload : List UInt8)
deriving DecidableEq

/-- The process stops. -/
inductive Crash where
  | crash
deriving DecidableEq

/-- An operation answers its error. A write answers how many bytes it wrote, and its error. -/
@[reducible]
def IoCall.Answer : IoCall → Type
  | .operation _ => Err
  | .writeLog _ => Nat × Err

abbrev ioSignature : Signature where
  Call := IoCall
  Answer := IoCall.Answer
  Callback := Empty
  Raised := Crash

abbrev Io (α : Type) : Type := Program ioSignature Directory α

def io (o : FileOperation) : Io Err := Program.ask ioSignature (.operation o)

/-- Continue when the operation has no error, and end with its error and a text otherwise. -/
def orFail (o : FileOperation) (text : String) (next : Io Err) : Io Err := do
  let err ← io o
  if err = [] then next else pure (err.wrap text)

/-- Replace the metadata file as a whole. -/
def writeFileAtomic (payload : List UInt8) : Io Err :=
  orFail .createTemporary "create temporary file" <|
  orFail .chmodTemporary "chmod temporary file" <|
  orFail .writeTemporary "write temporary file" <|
  orFail .syncTemporary "sync temporary file" <|
  orFail .closeTemporary "close temporary file" <|
  orFail .rename "rename temporary file" <| do
    Program.modifyState fun directory => { directory with metadata := some payload }
    orFail .openDirectory "open target directory for sync" <| do
      let syncErr ← io .syncDirectory
      let closeErr ← io .closeDirectory
      if syncErr = [] ∧ closeErr = [] then pure []
      else pure (Err.wrap (syncErr ++ closeErr) "sync target directory")

def persistMetadata (metadata : EventStoreMetadata) : Io Err := do
  let err ← writeFileAtomic metadata.payload
  if err = [] then pure [] else pure (err.wrap "persist event metadata")

/-! ### The store -/

/-- The limits of the log. -/
structure Limits where
  maximumEntries : Nat
  maximumBytes : Nat
  maximumEntries_lt : maximumEntries < 2 ^ 63
deriving DecidableEq

structure EventStore where
  limits : Limits
  entries : Nat := 0
  bytes : Nat := 0
  dropped : UInt64 := 0
  sequence : UInt64 := 0
  saturated : Bool := false
deriving DecidableEq

/-- The greatest sequence. -/
def greatestSequence : UInt64 := 18446744073709551615

/-! ### Opening -/

/-- The lines of a file. -/
def splitLines : List UInt8 → List (List UInt8)
  | [] => []
  | b :: bs =>
      if b = 10 then [] :: splitLines bs
      else match splitLines bs with
        | [] => [[b]]
        | line :: lines => (b :: line) :: lines

/-- A line without a carriage return at its end. -/
def dropCr (line : List UInt8) : List UInt8 :=
  if line.getLast? = some 13 then line.dropLast else line

/-- The longest line that is scanned, with the newline. -/
def scannerLimit : Nat := 1048576

/-- The sequence of the record in a line, which has to follow the one of the line before. -/
def scanRecord (previousSequence : UInt64) (line : List UInt8) : Except Err UInt64 :=
  if scannerLimit < line.length + 1 then
    .error ["scan existing event log: bufio.Scanner: token too long"]
  else match EventHeader.unmarshal (dropCr line) with
    | none => .error ["decode existing event record"]
    | some header =>
        if header.schemaVersion ≠ 1 then
          .error ["existing event log has an unsupported schema_version"]
        else if header.sequence ≠ previousSequence + 1 then
          .error ["existing event log sequences are not contiguous"]
        else if header.kind = "" ∨ header.steadyWallNs < 0 then
          .error ["existing event log has an invalid kind or steady_wall_ns"]
        else if isTimestamp header.timestampUtc.toList = false then
          .error ["existing event record has invalid timestamp"]
        else .ok header.sequence

/-- The sequence of the last record of the log. -/
def scanLog (payload : List UInt8) : Except Err UInt64 :=
  (splitLines payload).foldlM scanRecord 0

/-- The metadata in the file, if it exists. -/
def loadEventStoreMetadata : Io (Except Err (Option EventStoreMetadata)) := do
  let directory ← Program.getState
  let err ← io .readMetadata
  if err ≠ [] then pure (.error (err.wrap "read event metadata"))
  else match directory.metadata with
    | none => pure (.ok none)
    | some payload =>
        match EventStoreMetadata.decode payload with
        | none => pure (.error ["decode event metadata"])
        | some metadata => pure (.ok (some metadata))

/-- The metadata that the log and the metadata file amount to. A reserved sequence without a
complete record is a drop. -/
def reconcile (previousSequence : UInt64) (found : Option EventStoreMetadata) :
    Except Err EventStoreMetadata :=
  let metadata := found.getD { schemaVersion := 1, lastAttemptedSequence := previousSequence }
  if metadata.schemaVersion ≠ 1 then
    .error ["event metadata has an unsupported schema_version"]
  else if metadata.lastAttemptedSequence < previousSequence then
    .error ["event metadata sequence precedes the persisted event log"]
  else
    let missingAttempts := metadata.lastAttemptedSequence - previousSequence
    if missingAttempts < metadata.droppedEvents then
      .error ["event metadata dropped count exceeds missing attempted sequences"]
    else
      let dropped := if metadata.droppedEvents < missingAttempts then missingAttempts
        else metadata.droppedEvents
      let saturated := metadata.saturated || dropped ≠ 0
      if saturated = true ∧ dropped = 0 then
        .error ["event metadata is saturated without a dropped event"]
      else .ok { metadata with droppedEvents := dropped, saturated := saturated }

/-- Open the store in the state directory. -/
def newEventStore (limits : Limits) : Io (Except Err EventStore) := do
  let err ← io .makeDirectory
  if err ≠ [] then pure (.error (err.wrap "create state directory"))
  else
    let directory ← Program.getState
    let err ← io .readLog
    if err ≠ [] then pure (.error (err.wrap "read existing event log"))
    else
      let payload := directory.log.getD []
      if limits.maximumBytes < payload.length then
        pure (.error ["existing event log exceeds maximum_event_bytes"])
      else if payload ≠ [] ∧ payload.getLast? ≠ some 10 then
        pure (.error ["existing event log has an incomplete final record"])
      else if limits.maximumEntries < payload.count 10 then
        pure (.error ["existing event log exceeds maximum_event_entries"])
      else match scanLog payload with
        | .error err => pure (.error err)
        | .ok previousSequence => do
            match ← loadEventStoreMetadata with
            | .error err => pure (.error err)
            | .ok found =>
                match reconcile previousSequence found with
                | .error err => pure (.error err)
                | .ok metadata =>
                    let store : EventStore := {
                      limits := limits
                      entries := payload.count 10
                      bytes := payload.length
                      dropped := metadata.droppedEvents
                      sequence := metadata.lastAttemptedSequence
                      saturated := metadata.saturated }
                    if found = some metadata then pure (.ok store)
                    else do
                      let err ← persistMetadata metadata
                      if err = [] then pure (.ok store) else pure (.error err)

/-! ### Appending -/

/-- What an append leaves and returns. -/
structure Appended where
  store : EventStore
  event : Event
  err : Err

/-- The event with what the store adds to it. -/
def stampEvent (event : Event) (sequence : UInt64) (now : Utc) : Event :=
  { event with
    schemaVersion := 1
    sequence := sequence
    timestampUtc := String.ofList now.format }

/-- The event does not get a record. -/
def capacityDrop (store : EventStore) (payload : List UInt8) : Bool :=
  store.saturated || store.limits.maximumEntries ≤ store.entries ||
    store.limits.maximumBytes < store.bytes + payload.length

/-- Turn the reserved sequence into a drop. -/
def failReservedAppend (store : EventStore) (event : Event) (cause : Err) : Io Appended := do
  let metadata : EventStoreMetadata := {
    schemaVersion := 1
    saturated := true
    droppedEvents := store.dropped + 1
    lastAttemptedSequence := store.sequence }
  let err ← persistMetadata metadata
  pure {
    store := { store with saturated := true, dropped := metadata.droppedEvents }
    event := event
    err := cause ++ err }

/-- Open the log for appending. The log is created when it does not exist. -/
def openLog : Io Err := do
  let err ← io .openLog
  if err = [] then do
    Program.modifyState fun directory => { directory with log := some (directory.log.getD []) }
    pure []
  else pure (err.wrap "open event log")

/-- Write the payload at the end of the log. -/
def writeLog (payload : List UInt8) : Io Err := do
  let (count, err) : Nat × Err ← Program.ask ioSignature (.writeLog payload)
  let written := payload.take count
  Program.modifyState fun directory =>
    { directory with log := some (directory.log.getD [] ++ written) }
  if err = [] ∧ written.length ≠ payload.length then pure ["short write"] else pure err

/-- Append the record of an event whose sequence is reserved. -/
def writeRecord (store : EventStore) (event : Event) (payload : List UInt8) : Io Appended := do
  let err ← openLog
  if err ≠ [] then failReservedAppend store event err
  else do
    let writeErr ← writeLog payload
    let syncErr ← io .syncLog
    let closeErr ← io .closeLog
    if writeErr ≠ [] ∨ syncErr ≠ [] then
      failReservedAppend store event (writeErr ++ syncErr ++ closeErr)
    else pure {
      store := { store with
        entries := store.entries + 1
        bytes := store.bytes + payload.length }
      event := event
      err := closeErr }

/-- Append an event, or drop it durably. -/
def append (store : EventStore) (now : Utc) (event : Event) : Io Appended :=
  if store.sequence = greatestSequence then
    pure { store := store, event := event, err := ["event sequence space is exhausted"] }
  else
    let nextSequence := store.sequence + 1
    let event := stampEvent event nextSequence now
    let payload := event.line
    if capacityDrop store payload then
      if store.dropped = greatestSequence then
        pure { store := store, event := event, err := ["dropped event counter is exhausted"] }
      else do
        let store := { store with
          sequence := nextSequence
          saturated := true
          dropped := store.dropped + 1 }
        let err ← persistMetadata {
          schemaVersion := 1
          saturated := true
          droppedEvents := store.dropped
          lastAttemptedSequence := nextSequence }
        pure { store := store, event := event, err := err }
    else do
      -- The reservation is persisted first, so a crash cannot make the sequence available again.
      let store := { store with sequence := nextSequence }
      let err ← persistMetadata { schemaVersion := 1, lastAttemptedSequence := nextSequence }
      if err ≠ [] then failReservedAppend store event err
      else writeRecord store event payload

end Supervisor

end RobotestLab
