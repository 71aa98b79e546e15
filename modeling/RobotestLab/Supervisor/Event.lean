import Mathlib.Data.Int.Basic
import Mathlib.Data.List.Forall2
import RobotestLab.Library.Fields
import RobotestLab.Library.Marshal
import RobotestLab.Library.Timestamp

/-!
# Events of the supervisor

The records of the supervisor's event log and the metadata beside the log (state.go), how they are
marshalled, and how they are read back. A record is one line of the log. The fields of a record that
the supervisor looks at when it opens a log are its header; the other fields are only checked for
their types.
-/

namespace RobotestLab

namespace Supervisor

/-! ### Marshalled fields -/

/-- A value of a record. -/
inductive Scalar where
  | int (n : Int)
  | str (s : String)
  | bool (b : Bool)
deriving DecidableEq

namespace Scalar

def text : Scalar → List Char
  | .int n => Json.renderInt n
  | .str s => Json.marshalString s
  | .bool b => Json.marshalBool b

def value : Scalar → Json
  | .int n => .int n
  | .str s => .str s
  | .bool b => .bool b

theorem denotes (v : Scalar) :
  Json.Denotes v.text v.value
  := by
  cases v with
  | int n => apply Json.denotes_int
  | str s => apply Json.denotes_string
  | bool b => apply Json.denotes_bool

theorem newline_notMem_text (v : Scalar) :
  '\n' ∉ v.text
  := by
  cases v with
  | int n => apply Json.newline_notMem_renderInt
  | str s => apply Json.newline_notMem_marshalString
  | bool b => apply Json.newline_notMem_marshalBool

end Scalar

/-- A field of a record: a value, or a map with the keys in their order. -/
inductive Field where
  | scalar (v : Scalar)
  | map (entries : List (String × Scalar))
deriving DecidableEq

namespace Field

def text : Field → List Char
  | .scalar v => v.text
  | .map entries => Json.marshalObject (entries.map (fun (k, v) => (k, v.text)))

def value : Field → Json
  | .scalar v => v.value
  | .map entries => .obj (entries.map (fun (k, v) => (k, v.value)))

theorem denotes (f : Field) :
  Json.Denotes f.text f.value
  := by
  cases f with
  | scalar v => apply Scalar.denotes
  | map entries =>
      apply Json.denotes_object
      rw [List.forall₂_map_left_iff, List.forall₂_map_right_iff, List.forall₂_same]
      intro entry _
      exact ⟨rfl, entry.2.denotes⟩

theorem newline_notMem_text (f : Field) :
  '\n' ∉ f.text
  := by
  cases f with
  | scalar v => apply Scalar.newline_notMem_text
  | map entries =>
      apply Json.newline_notMem_marshalObject
      intro m hm
      obtain ⟨entry, -, rfl⟩ := List.mem_map.mp hm
      apply Scalar.newline_notMem_text

end Field

/-- A marshalled record, in UTF-8. -/
def marshal (fields : List (String × Field)) : List UInt8 :=
  (Json.marshalObject (fields.map (fun (k, f) => (k, f.text)))).flatMap String.utf8EncodeChar

theorem denotes_marshal (fields : List (String × Field)) :
  Json.Denotes (Json.marshalObject (fields.map (fun (k, f) => (k, f.text))))
    (.obj (fields.map (fun (k, f) => (k, f.value))))
  := by
  apply Json.denotes_object
  rw [List.forall₂_map_left_iff, List.forall₂_map_right_iff, List.forall₂_same]
  intro field _
  exact ⟨rfl, field.2.denotes⟩

/-- A record is read back. -/
theorem unmarshal_marshal (fields : List (String × Field)) :
  Json.unmarshal (marshal fields) = some (.obj (fields.map (fun (k, f) => (k, f.value))))
  := by
  have hvalue := Json.unmarshal_of_denotes (denotes_marshal fields)
    (show Json.skipSpace [] = [] from rfl) (by simp [Json.EndsNumber])
  rw [List.append_nil] at hvalue
  exact hvalue

/-- A record is read back from its line. -/
theorem unmarshal_line (fields : List (String × Field)) :
  Json.unmarshal (marshal fields ++ [10]) = some (.obj (fields.map (fun (k, f) => (k, f.value))))
  := by
  have hspace : Json.skipSpace ['\n'] = [] := by
    decide
  have hvalue := Json.unmarshal_of_denotes (denotes_marshal fields) hspace
    (by simp [Json.EndsNumber])
  rw [List.flatMap_append] at hvalue
  exact hvalue

theorem newline_notMem_marshal (fields : List (String × Field)) :
  (10 : UInt8) ∉ marshal fields
  := by
  apply Json.newline_notMem_encoding
  apply Json.newline_notMem_marshalObject
  intro m hm
  obtain ⟨field, -, rfl⟩ := List.mem_map.mp hm
  apply Field.newline_notMem_text

/-! ### Decoded fields -/

def decodeInt (v : Json) (old : Int64) : Option Int64 := (Json.decodeInt v old.toInt).map .ofInt

def decodeUint : Json → UInt64 → Option UInt64
  | .null, x => some x
  | .int n, _ => if 0 ≤ n ∧ n < 2 ^ 64 then some (.ofNat n.toNat) else none
  | _, _ => none

/-- A map whose values are not looked at. -/
def decodeMap : Json → Option Unit
  | .null => some ()
  | .obj _ => some ()
  | _ => none

theorem decodeInt_toInt (old n : Int64) :
  decodeInt (.int n.toInt) old = some n
  := by
  rw [decodeInt, Json.decodeInt, if_pos ⟨n.le_toInt, n.toInt_lt⟩, Option.map_some,
    Int64.ofInt_toInt]

theorem decodeUint_toNat (old n : UInt64) :
  decodeUint (.int n.toNat) old = some n
  := by
  have hlt : (n.toNat : Int) < 2 ^ 64 := by
    exact_mod_cast n.toNat_lt
  rw [decodeUint, if_pos ⟨Int.natCast_nonneg _, hlt⟩]
  simp

/-! ### Events -/

/-- One bounded structured lifecycle transition. -/
structure Event where
  schemaVersion : Int64 := 0
  sequence : UInt64 := 0
  timestampUtc : String := ""
  steadyWallNs : Int64 := 0
  kind : String
  ready : Option Bool := none
  child : String := ""
  pid : Int64 := 0
  pgid : Int64 := 0
  exitCode : Option Int64 := none
  restartAttempt : Int64 := 0
  backoffMs : Int64 := 0
  failureKind : String := ""
  details : List (String × Scalar) := []
deriving DecidableEq

/-- A field that is left out when it is empty. -/
def omitEmpty (name : String) (empty : Bool) (f : Field) : List (String × Field) :=
  if empty then [] else [(name, f)]

/-- The fields that are left out of a record when they are empty. -/
def Event.optionalFields (event : Event) : List (String × Field) :=
  omitEmpty "ready" event.ready.isNone (.scalar (.bool (event.ready.getD false))) ++
  omitEmpty "child" (event.child = "") (.scalar (.str event.child)) ++
  omitEmpty "pid" (event.pid = 0) (.scalar (.int event.pid.toInt)) ++
  omitEmpty "pgid" (event.pgid = 0) (.scalar (.int event.pgid.toInt)) ++
  omitEmpty "exit_code" event.exitCode.isNone (.scalar (.int (event.exitCode.getD 0).toInt)) ++
  omitEmpty "restart_attempt" (event.restartAttempt = 0)
    (.scalar (.int event.restartAttempt.toInt)) ++
  omitEmpty "backoff_ms" (event.backoffMs = 0) (.scalar (.int event.backoffMs.toInt)) ++
  omitEmpty "failure_kind" (event.failureKind = "") (.scalar (.str event.failureKind)) ++
  omitEmpty "details" event.details.isEmpty
    (.map (event.details.mergeSort (fun a b => a.1 ≤ b.1)))

/-- The fields of a record. -/
def Event.fields (event : Event) : List (String × Field) :=
  ("schema_version", .scalar (.int event.schemaVersion.toInt)) ::
  ("sequence", .scalar (.int event.sequence.toNat)) ::
  ("timestamp_utc", .scalar (.str event.timestampUtc)) ::
  ("steady_wall_ns", .scalar (.int event.steadyWallNs.toInt)) ::
  ("kind", .scalar (.str event.kind)) :: event.optionalFields

/-- The names of the fields. -/
def Event.names : List String :=
  ["schema_version", "sequence", "timestamp_utc", "steady_wall_ns", "kind", "ready", "child",
    "pid", "pgid", "exit_code", "restart_attempt", "backoff_ms", "failure_kind", "details"]

/-- The line of a record. -/
def Event.line (event : Event) : List UInt8 := marshal event.fields ++ [10]

/-- The fields of a record that are looked at when a log is opened. -/
structure EventHeader where
  schemaVersion : Int64 := 0
  sequence : UInt64 := 0
  timestampUtc : String := ""
  steadyWallNs : Int64 := 0
  kind : String := ""
deriving DecidableEq

namespace EventHeader

/-- Assign the value of a member of a record. -/
def assign (h : EventHeader) (member : String × Json) : Option EventHeader :=
  let (k, v) := member
  match Json.select id Event.names k with
  | some "schema_version" => (decodeInt v h.schemaVersion).map ({ h with schemaVersion := · })
  | some "sequence" => (decodeUint v h.sequence).map ({ h with sequence := · })
  | some "timestamp_utc" =>
      (Json.decodeString v h.timestampUtc).map ({ h with timestampUtc := · })
  | some "steady_wall_ns" => (decodeInt v h.steadyWallNs).map ({ h with steadyWallNs := · })
  | some "kind" => (Json.decodeString v h.kind).map ({ h with kind := · })
  | some "ready" => (Json.decodeBool v false).map (fun _ => h)
  | some "child" => (Json.decodeString v "").map (fun _ => h)
  | some "pid" => (decodeInt v 0).map (fun _ => h)
  | some "pgid" => (decodeInt v 0).map (fun _ => h)
  | some "exit_code" => (decodeInt v 0).map (fun _ => h)
  | some "restart_attempt" => (decodeInt v 0).map (fun _ => h)
  | some "backoff_ms" => (decodeInt v 0).map (fun _ => h)
  | some "failure_kind" => (Json.decodeString v "").map (fun _ => h)
  | some "details" => (decodeMap v).map (fun _ => h)
  | _ => some h

/-- The header of the record that the bytes of a line hold. -/
def unmarshal (bytes : List UInt8) : Option EventHeader :=
  match Json.unmarshal bytes with
  | some (.obj members) => members.foldlM assign {}
  | some .null => some {}
  | _ => none

end EventHeader

/-- The header of an event. -/
def Event.header (event : Event) : EventHeader where
  schemaVersion := event.schemaVersion
  sequence := event.sequence
  timestampUtc := event.timestampUtc
  steadyWallNs := event.steadyWallNs
  kind := event.kind

/-- The members of a record that do not belong to the header leave it unchanged. -/
theorem foldlM_assign_of_keeps {members : List (String × Json)} {h : EventHeader}
    (hkeeps : ∀ m ∈ members, h.assign m = some h) :
  members.foldlM EventHeader.assign h = some h
  := by
  induction members with
  | nil => rfl
  | cons m members ih =>
      rw [List.foldlM_cons, hkeeps m List.mem_cons_self]
      apply ih
      intro m' hm'
      exact hkeeps m' (List.mem_cons_of_mem _ hm')

theorem mem_omitEmpty {name : String} {empty : Bool} {f : Field} {m : String × Field}
    (h : m ∈ omitEmpty name empty f) :
  m = (name, f)
  := by
  unfold omitEmpty at h
  split at h
  · cases h
  · apply List.mem_singleton.mp h

/-- The optional fields of an event leave the header unchanged. -/
theorem assign_optionalFields {event : Event} {h : EventHeader} {m : String × Field}
    (hm : m ∈ event.optionalFields) :
  h.assign (m.1, m.2.value) = some h
  := by
  simp only [Event.optionalFields, List.mem_append] at hm
  rcases hm with (((((((hm | hm) | hm) | hm) | hm) | hm) | hm) | hm) | hm <;>
    obtain rfl := mem_omitEmpty hm <;>
    simp [EventHeader.assign, Event.names, Json.select_self, Field.value, Scalar.value,
      Json.decodeBool, Json.decodeString, decodeInt_toInt, decodeMap]

/-- The header of an event is read back from its record. -/
theorem unmarshal_marshal_event (event : Event) :
  EventHeader.unmarshal (marshal event.fields) = some event.header
  := by
  have hschema : ∀ h : EventHeader, h.assign ("schema_version", .int event.schemaVersion.toInt) =
      some { h with schemaVersion := event.schemaVersion } := by
    intro h
    simp [EventHeader.assign, Event.names, Json.select_self, decodeInt_toInt]
  have hsequence : ∀ h : EventHeader, h.assign ("sequence", .int event.sequence.toNat) =
      some { h with sequence := event.sequence } := by
    intro h
    simp [EventHeader.assign, Event.names, Json.select_self, decodeUint_toNat]
  have hsteady : ∀ h : EventHeader, h.assign ("steady_wall_ns", .int event.steadyWallNs.toInt) =
      some { h with steadyWallNs := event.steadyWallNs } := by
    intro h
    simp [EventHeader.assign, Event.names, Json.select_self, decodeInt_toInt]
  have htimestamp : ∀ h : EventHeader, h.assign ("timestamp_utc", .str event.timestampUtc) =
      some { h with timestampUtc := event.timestampUtc } := by
    intro h
    simp [EventHeader.assign, Event.names, Json.select_self, Json.decodeString]
  have hkind : ∀ h : EventHeader, h.assign ("kind", .str event.kind) =
      some { h with kind := event.kind } := by
    intro h
    simp [EventHeader.assign, Event.names, Json.select_self, Json.decodeString]
  have hoptional : (event.optionalFields.map (fun (k, f) => (k, f.value))).foldlM
      EventHeader.assign event.header = some event.header := by
    apply foldlM_assign_of_keeps
    intro m hm
    obtain ⟨m', hm', rfl⟩ := List.mem_map.mp hm
    apply assign_optionalFields hm'
  rw [EventHeader.unmarshal, unmarshal_marshal]
  simp only [Event.fields, List.map_cons, Field.value, Scalar.value, List.foldlM_cons, hschema,
    hsequence, htimestamp, hsteady, hkind, Option.bind_eq_bind, Option.bind_some]
  exact hoptional

/-- The record of an event is one line. -/
theorem newline_notMem_event (event : Event) :
  (10 : UInt8) ∉ marshal event.fields
  := newline_notMem_marshal event.fields

/-! ### Metadata -/

/-- What is kept beside the log about the sequences that were attempted. -/
structure EventStoreMetadata where
  schemaVersion : Int64 := 0
  saturated : Bool := false
  droppedEvents : UInt64 := 0
  lastAttemptedSequence : UInt64 := 0
deriving DecidableEq

namespace EventStoreMetadata

def fields (metadata : EventStoreMetadata) : List (String × Field) :=
  [("schema_version", .scalar (.int metadata.schemaVersion.toInt)),
    ("saturated", .scalar (.bool metadata.saturated)),
    ("dropped_events", .scalar (.int metadata.droppedEvents.toNat)),
    ("last_attempted_sequence", .scalar (.int metadata.lastAttemptedSequence.toNat))]

/-- The contents of the metadata file. -/
def payload (metadata : EventStoreMetadata) : List UInt8 := marshal metadata.fields ++ [10]

def names : List String :=
  ["schema_version", "saturated", "dropped_events", "last_attempted_sequence"]

/-- Assign the value of a member of the metadata. Unknown members are refused. -/
def assign (metadata : EventStoreMetadata) (member : String × Json) : Option EventStoreMetadata :=
  let (k, v) := member
  match Json.select id names k with
  | some "schema_version" =>
      (decodeInt v metadata.schemaVersion).map ({ metadata with schemaVersion := · })
  | some "saturated" => (Json.decodeBool v metadata.saturated).map
      ({ metadata with saturated := · })
  | some "dropped_events" =>
      (decodeUint v metadata.droppedEvents).map ({ metadata with droppedEvents := · })
  | some "last_attempted_sequence" =>
      (decodeUint v metadata.lastAttemptedSequence).map
        ({ metadata with lastAttemptedSequence := · })
  | _ => none

/-- The metadata that the contents of the file hold. -/
def decode (bytes : List UInt8) : Option EventStoreMetadata :=
  match Json.unmarshal bytes with
  | some (.obj members) => members.foldlM assign {}
  | some .null => some {}
  | _ => none

/-- The metadata are read back from the contents of the file. -/
theorem decode_payload (metadata : EventStoreMetadata) :
  decode metadata.payload = some metadata
  := by
  have hschema : ∀ m : EventStoreMetadata,
      m.assign ("schema_version", .int metadata.schemaVersion.toInt) =
        some { m with schemaVersion := metadata.schemaVersion } := by
    intro m
    simp [assign, names, Json.select_self, decodeInt_toInt]
  have hsaturated : ∀ m : EventStoreMetadata, m.assign ("saturated", .bool metadata.saturated) =
      some { m with saturated := metadata.saturated } := by
    intro m
    simp [assign, names, Json.select_self, Json.decodeBool]
  have hdropped : ∀ m : EventStoreMetadata,
      m.assign ("dropped_events", .int metadata.droppedEvents.toNat) =
        some { m with droppedEvents := metadata.droppedEvents } := by
    intro m
    simp [assign, names, Json.select_self, decodeUint_toNat]
  have hlast : ∀ m : EventStoreMetadata,
      m.assign ("last_attempted_sequence", .int metadata.lastAttemptedSequence.toNat) =
        some { m with lastAttemptedSequence := metadata.lastAttemptedSequence } := by
    intro m
    simp [assign, names, Json.select_self, decodeUint_toNat]
  rw [decode, payload, unmarshal_line]
  simp only [fields, List.map_cons, List.map_nil, Field.value, Scalar.value, List.foldlM_cons,
    List.foldlM_nil, hschema, hsaturated, hdropped, hlast, Option.bind_eq_bind, Option.bind_some]
  rfl

end EventStoreMetadata

end Supervisor

end RobotestLab
