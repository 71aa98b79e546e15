import RobotestLab.Supervisor.StoreRecovery

/-!
# Restarting after a failed append

Every operation on the file system may fail. What an append leaves in the state directory is
opened again, unless the log holds something that opening rejects, or a record that the metadata
count as dropped. The second happens when a record is written as a whole and then disowned: its
write or its sync reports an error, and the handler of the failure records a drop
(`append_restartable`).
-/

namespace RobotestLab

namespace Supervisor

open Program

variable {d d' : Directory} {u v w : List ioSignature.Interaction}

/-! ### What the interactions of an append show -/

/-- The interactions from the first write to the log that returns. -/
def fromWrite (u : List ioSignature.Interaction) : List ioSignature.Interaction :=
  u.dropWhile fun x => !isWrite x

/-- The bytes that the append wrote to the log. -/
def landed (u : List ioSignature.Interaction) : List UInt8 :=
  match fromWrite u with
  | ⟨.writeLog payload, .ok answer⟩ :: _ => payload.take (answer : Nat × Err).1
  | _ => []

/-- The write to the log, or the sync of the log after it, reported an error. -/
def errorReported (u : List ioSignature.Interaction) : Bool :=
  match fromWrite u with
  | ⟨.writeLog _, .ok answer⟩ :: rest =>
      (answer : Nat × Err).2 ≠ [] || match rest with
        | ⟨.operation .syncLog, .ok err⟩ :: _ => decide ((err : Err) ≠ [])
        | _ => false
  | _ => false

/-- The metadata file was replaced after the write to the log. -/
def disowned (u : List ioSignature.Interaction) : Bool := (fromWrite u).any isRename

theorem fromWrite_append (h : ¬ Wrote v) :
  fromWrite (v ++ w) = fromWrite w
  := by
  apply List.dropWhile_append_of_pos
  intro x hx
  rw [Bool.not_eq_true', ← Bool.not_eq_true]
  intro hwrite
  apply h
  apply any_isWrite.mp
  apply List.any_eq_true.mpr ⟨x, hx, hwrite⟩

theorem fromWrite_of_not_wrote (h : ¬ Wrote u) :
  fromWrite u = []
  := by
  have happend := fromWrite_append (w := []) h
  rwa [List.append_nil] at happend

theorem landed_append (h : ¬ Wrote v) :
  landed (v ++ w) = landed w
  := by
  rw [landed, fromWrite_append h]
  rfl

theorem reported_append (h : ¬ Wrote v) :
  errorReported (v ++ w) = errorReported w
  := by
  rw [errorReported, fromWrite_append h]
  rfl

theorem disowned_append (h : ¬ Wrote v) :
  disowned (v ++ w) = disowned w
  := by
  rw [disowned, fromWrite_append h]
  rfl

theorem landed_of_not_wrote (h : ¬ Wrote u) :
  landed u = []
  := by
  rw [landed, fromWrite_of_not_wrote h]

/-- How the record of an event is written: the bytes that land follow the log, and the metadata
file is as before, or replaced by the handler of a failure. -/
structure RecordRun (store : EventStore) (event : Event) (payload : List UInt8) (d : Directory)
    (u : List ioSignature.Interaction) (r : Except Crash Appended) (d' : Directory) : Prop where
  contents : d'.contents = d.contents ++ landed u
  part : landed u <+: payload
  metadata : d'.metadata = d.metadata ∧ ¬ Renamed u ∨
    d'.metadata = some (droppedMetadata (store.dropped + 1) store.sequence).payload ∧ Renamed u
  disowns : landed u ≠ [] → (disowned u = true ↔ Renamed u)
  kept : landed u = payload → errorReported u = false → ¬ Renamed u
  result : ∀ result, r = .ok result →
    (result.store = store.written store.sequence payload ∧ landed u = payload ∧
      errorReported u = false) ∨
    (result.store = store.drop store.sequence ∧ (landed u = payload → errorReported u = true))

variable {payload : List UInt8}

theorem disowned_iff_of_write {answer : Nat × Err} (h : ¬ Renamed v) (hv : ¬ Wrote v) :
  disowned (v ++ ⟨.writeLog payload, .ok answer⟩ :: w) = true
    ↔ Renamed (v ++ ⟨.writeLog payload, .ok answer⟩ :: w)
  := by
  have hhead : fromWrite (⟨.writeLog payload, .ok answer⟩ :: w : List ioSignature.Interaction)
      = ⟨.writeLog payload, .ok answer⟩ :: w := rfl
  rw [disowned_append hv, renamed_append, disowned, hhead, any_isRename]
  exact (or_iff_right h).symm

/-- The log is not written: the bytes stay as they are, and so do the metadata unless the handler of
a failure replaces them. -/
theorem RecordRun.unwritten {store : EventStore} {event : Event}
    {r : Except Crash Appended} (hpayload : payload ≠ []) (h : ¬ Wrote u)
    (hcontents : d'.contents = d.contents) (hmetadata : d'.metadata = d.metadata ∧ ¬ Renamed u ∨
      d'.metadata = some (droppedMetadata (store.dropped + 1) store.sequence).payload ∧ Renamed u)
    (hresult : ∀ result, r = .ok result → result.store = store.drop store.sequence) :
  RecordRun store event payload d u r d'
  := by
  have hlanded := landed_of_not_wrote h
  constructor
  · rw [hlanded, List.append_nil, hcontents]
  · rw [hlanded]
    apply List.nil_prefix
  · exact hmetadata
  · exact fun hne => absurd hlanded hne
  · intro hwhole
    exact absurd (hwhole.symm.trans hlanded) hpayload
  · intro result hr
    right
    refine ⟨hresult result hr, ?_⟩
    intro hwhole
    exact absurd (hwhole.symm.trans hlanded) hpayload

/-- What replacing the metadata file leaves of the metadata. -/
theorem metadata_of_replaces {r : Except Crash Err} (h : Replaces payload d u r d') :
  d'.metadata = d.metadata ∧ ¬ Renamed u ∨ d'.metadata = some payload ∧ Renamed u
  := by
  rcases h.directory with ⟨rfl, hkept⟩ | ⟨rfl, hrenamed⟩
  · exact Or.inl ⟨rfl, hkept⟩
  · exact Or.inr ⟨rfl, hrenamed⟩

theorem landed_writing (payload : List UInt8) (count : Nat) (err : Err)
    (rest : List ioSignature.Interaction) :
  landed (writing payload count err rest) = payload.take count
  := rfl

/-- A write to the log returns: its bytes land, and the rest decides what becomes of the
metadata. -/
theorem RecordRun.writing {store : EventStore} {event : Event}
    {r : Except Crash Appended} {count : Nat} {err : Err} {rest : List ioSignature.Interaction}
    (hcontents : d'.contents = d.contents ++ payload.take count)
    (hmetadata : d'.metadata = d.metadata ∧ ¬ Renamed (writing payload count err rest) ∨
      d'.metadata = some (droppedMetadata (store.dropped + 1) store.sequence).payload ∧
        Renamed (Supervisor.writing payload count err rest))
    (hkept : payload.take count = payload →
      errorReported (Supervisor.writing payload count err rest) = false →
      ¬ Renamed (Supervisor.writing payload count err rest)) (hresult : ∀ result, r = .ok result →
      (result.store = store.written store.sequence payload ∧ payload.take count = payload ∧
        errorReported (Supervisor.writing payload count err rest) = false) ∨
      (result.store = store.drop store.sequence ∧ (payload.take count = payload →
          errorReported (Supervisor.writing payload count err rest) = true))) :
  RecordRun store event payload d (Supervisor.writing payload count err rest) r d'
  := by
  constructor
  · exact hcontents
  · apply List.take_prefix
  · exact hmetadata
  · intro _
    apply disowned_iff_of_write (v := [succeeded .openLog])
    · exact not_renamed_operation (by decide) _
    · exact not_wrote_operation _ _
  · exact hkept
  · exact hresult

/-- When all of the payload lands although something failed, an error is reported. -/
theorem reported_of_fails {payload : List UInt8} {count : Nat} {err writeErr syncErr : Err}
    {c : Except Crash Err} (h : Answered payload count err writeErr)
    (hfails : writeErr ≠ [] ∨ syncErr ≠ []) (hwhole : payload.take count = payload) :
  errorReported (writing payload count err (closing (.ok syncErr) c ++ w)) = true
  := by
  rw [h.whole hwhole] at hfails
  change (decide (err ≠ []) || decide (syncErr ≠ [])) = true
  rwa [Bool.or_eq_true, decide_eq_true_eq, decide_eq_true_eq]

/-- What the handler of a failure leaves of the metadata, after steps that replaced nothing. -/
theorem metadata_of_fails {r : Except Crash Err} {log : Option (List UInt8)}
    (hv : ¬ Renamed v) (h : Replaces payload { d with log } w r d') :
  d'.metadata = d.metadata ∧ ¬ Renamed (v ++ w) ∨ d'.metadata = some payload ∧ Renamed (v ++ w)
  := by
  have hmetadata := metadata_of_replaces h
  rw [renamed_append, or_iff_right hv]
  exact hmetadata

/-- What the handler of a failure leaves of the store. -/
theorem store_of_fails {store : EventStore} {event : Event} {cause : Err} {y : Except Crash Err} :
  ∀ result, y.map (fun err => (⟨store.drop store.sequence, event, cause ++ err⟩ : Appended)) =
    .ok result → result.store = store.drop store.sequence
  := by
  intro result hr
  cases y with
  | error e => cases hr
  | ok err =>
      obtain rfl := Except.ok.inj hr
      rfl

theorem recordRun_of_runs {store : EventStore} {event : Event}
    {r : Except Crash Appended} (hpayload : payload ≠ [])
    (h : Runs (writeRecord store event payload) d u r d') :
  RecordRun store event payload d u r d'
  := by
  cases recordSteps_of_runs h with
  | unopened x e =>
      refine RecordRun.unwritten hpayload (not_wrote_operation _ _) rfl (Or.inl ⟨rfl, ?_⟩) ?_
      · exact not_renamed_operation (by decide) _
      · intro result hr
        cases hr
  | @refused x y err w _ _ _ hrep =>
      refine RecordRun.unwritten hpayload (not_wrote_cons hrep.unwritten)
        (contents_of_replaces hrep) ?_ store_of_fails
      exact metadata_of_fails (v := [_]) (not_renamed_operation (by decide) x) hrep
  | unwritten e =>
      refine RecordRun.unwritten hpayload ?_ rfl (Or.inl ⟨rfl, ?_⟩) ?_
      · apply not_wrote_cons
        rintro ⟨payload', answer, hmem⟩
        cases List.mem_singleton.mp hmem
      · exact not_renamed_cons (not_renamed_writeLog not_renamed_nil) (by decide)
      · intro result hr
        cases hr
  | @unsynced count err _ e _ =>
      have hkept : ¬ Renamed (writing payload count err [⟨.operation .syncLog, .error e⟩]) :=
        not_renamed_writing (not_renamed_operation (by decide) _)
      refine RecordRun.writing rfl (Or.inl ⟨rfl, hkept⟩) (fun _ _ => hkept) ?_
      intro result hr
      cases hr
  | @unclosed count err _ syncErr e _ =>
      have hkept : ¬ Renamed (writing payload count err (closing (.ok syncErr) (.error e))) :=
        not_renamed_writing (not_renamed_closing _ _)
      refine RecordRun.writing rfl (Or.inl ⟨rfl, hkept⟩) (fun _ _ => hkept) ?_
      intro result hr
      cases hr
  | @failed count err _ syncErr closeErr w y _ hanswered hfails hrep =>
      have hreported := @reported_of_fails w _ _ _ _ _ (.ok closeErr) hanswered hfails
      have hkept : ¬ Renamed (writing payload count err (closing (.ok syncErr) (.ok closeErr))) :=
        not_renamed_writing (not_renamed_closing _ _)
      refine RecordRun.writing (contents_of_replaces hrep) (metadata_of_fails hkept hrep) ?_ ?_
      · intro hwhole hnot
        exact absurd (hreported hwhole) (ne_true_of_eq_false hnot)
      · intro result hr
        exact Or.inr ⟨store_of_fails result hr, hreported⟩
  | @written count closeErr hfull =>
      have hkept : ¬ Renamed (writing payload count [] (closing (.ok []) (.ok closeErr))) :=
        not_renamed_writing (not_renamed_closing _ _)
      refine RecordRun.writing ?_ (Or.inl ⟨rfl, hkept⟩) (fun _ _ => hkept) ?_
      · rw [hfull]
        rfl
      · intro result hr
        left
        obtain rfl := Except.ok.inj hr
        exact ⟨rfl, hfull, rfl⟩

/-! ### How an append ends -/

/-- How an append ends: it is refused, nothing of its record lands in the log, or a part or all of
the record does. -/
inductive AppendRun (store : EventStore) (event : Event) (d : Directory)
    (u : List ioSignature.Interaction) (r : Except Crash Appended) (d' : Directory) : Prop
  | refused (interactions : u = []) (directory : d' = d)
      (result : ∀ result, r = .ok result → result.store = store)
  | lost (room : store.sequence ≠ greatestSequence) (counts : store.dropped ≠ greatestSequence)
      (unwritten : landed u = []) (contents : d'.contents = d.contents)
      (metadata : d'.metadata = d.metadata ∧ ¬ Renamed u ∨
        d'.metadata = some (droppedMetadata (store.dropped + 1) (store.sequence + 1)).payload ∧
          Renamed u ∨
        store.saturated = false ∧
          d'.metadata = some (reservation (store.sequence + 1)).payload ∧ Renamed u)
      (result : ∀ result, r = .ok result → result.store = store.drop (store.sequence + 1))
  | written (room : store.sequence ≠ greatestSequence)
      (capacity : capacityDrop store event.line = false) (lands : landed u ≠ [])
      (contents : d'.contents = d.contents ++ landed u) (part : landed u <+: event.line)
      (renamed : Renamed u)
      (metadata : d'.metadata = some (reservation (store.sequence + 1)).payload ∧
          disowned u = false ∨
        d'.metadata = some (droppedMetadata (store.dropped + 1) (store.sequence + 1)).payload ∧
          disowned u = true)
      (kept : landed u = event.line → errorReported u = false → disowned u = false)
      (result : ∀ result, r = .ok result →
        (result.store = store.written (store.sequence + 1) event.line ∧ landed u = event.line ∧
          errorReported u = false) ∨
        (result.store = store.drop (store.sequence + 1) ∧
          (landed u = event.line → errorReported u = true)))

theorem line_ne_nil (event : Event) :
  event.line ≠ []
  := by
  intro hnil
  have hlength := congrArg List.length hnil
  rw [Event.line, List.length_append] at hlength
  cases hlength

/-- An append whose sequence is reserved. -/
theorem RecordRun.appendRun {store : EventStore} {event : Event} {r : Except Crash Appended}
    (room : store.sequence ≠ greatestSequence) (counts : store.dropped ≠ greatestSequence)
    (capacity : capacityDrop store event.line = false) (hrenamed : Renamed v) (hv : ¬ Wrote v)
    (h : RecordRun { store with sequence := store.sequence + 1 } event event.line
      { d with metadata := some (reservation (store.sequence + 1)).payload } w r d') :
  AppendRun store event d (v ++ w) r d'
  := by
  have hsaturated : store.saturated = false := by
    simp only [capacityDrop, Bool.or_eq_false_iff] at capacity
    exact capacity.1.1
  have hlanded := landed_append (w := w) hv
  have hreported := reported_append (w := w) hv
  have hall : Renamed (v ++ w) := renamed_append.mpr (Or.inl hrenamed)
  by_cases hlands : landed w = []
  · apply AppendRun.lost room counts (hlanded.trans hlands)
    · rw [h.contents, hlands, List.append_nil]
      rfl
    · right
      rcases h.metadata with ⟨hmetadata, -⟩ | ⟨hmetadata, -⟩
      · exact Or.inr ⟨hsaturated, hmetadata, hall⟩
      · exact Or.inl ⟨hmetadata, hall⟩
    · intro result hr
      rcases h.result result hr with ⟨-, hwhole, -⟩ | ⟨hstore, -⟩
      · exact absurd (hwhole.symm.trans hlands) (line_ne_nil event)
      · exact hstore
  · have hdisowned : disowned (v ++ w) = true ↔ Renamed w := by
      rw [disowned_append hv, h.disowns hlands]
    apply AppendRun.written room capacity (fun hnil => hlands (hlanded.symm.trans hnil))
    · rw [hlanded]
      exact h.contents
    · rw [hlanded]
      exact h.part
    · exact hall
    · rcases h.metadata with ⟨hmetadata, hkept⟩ | ⟨hmetadata, hreplaced⟩
      · exact Or.inl ⟨hmetadata, eq_false_of_ne_true (hdisowned.not.mpr hkept)⟩
      · exact Or.inr ⟨hmetadata, hdisowned.mpr hreplaced⟩
    · rw [hlanded, hreported]
      intro hwhole hfine
      exact eq_false_of_ne_true (hdisowned.not.mpr (h.kept hwhole hfine))
    · rw [hlanded, hreported]
      exact h.result

theorem appendRun_of_runs {store : EventStore} {now : Utc} {event : Event}
    {r : Except Crash Appended} (hfresh : store.saturated = false → store.dropped = 0)
    (h : Runs (append store now event) d u r d') :
  AppendRun store (stampEvent event (store.sequence + 1) now) d u r d'
  := by
  unfold append at h
  split at h
  · obtain ⟨rfl, rfl, rfl⟩ := runs_pure h
    apply AppendRun.refused rfl rfl
    rintro _ ⟨⟩
    rfl
  · rename_i hroom
    simp only at h
    split at h
    · rename_i hcapacity
      split at h
      · obtain ⟨rfl, rfl, rfl⟩ := runs_pure h
        apply AppendRun.refused rfl rfl
        rintro _ ⟨⟩
        rfl
      · rename_i hcounts
        obtain ⟨y, d₁, u₁, u₂, rfl, hpersist, hok, herror⟩ := runs_bind h
        have hrep := runs_persistMetadata hpersist
        have hmetadata := metadata_of_replaces hrep
        cases y with
        | error e =>
            obtain ⟨rfl, rfl, rfl⟩ := herror e rfl
            rw [List.append_nil]
            apply AppendRun.lost hroom hcounts (landed_of_not_wrote hrep.unwritten)
              (contents_of_replaces hrep) (hmetadata.imp_right Or.inl)
            intro result hr
            cases hr
        | ok err =>
            obtain ⟨rfl, rfl, rfl⟩ := runs_pure (hok err rfl)
            rw [List.append_nil]
            apply AppendRun.lost hroom hcounts (landed_of_not_wrote hrep.unwritten)
              (contents_of_replaces hrep) (hmetadata.imp_right Or.inl)
            rintro _ ⟨⟩
            rfl
    · rename_i hcapacity
      rw [Bool.not_eq_true] at hcapacity
      have hsaturated : store.saturated = false := by
        simp only [capacityDrop, Bool.or_eq_false_iff] at hcapacity
        exact hcapacity.1.1
      have hcounts : store.dropped ≠ greatestSequence := by
        rw [hfresh hsaturated]
        decide
      obtain ⟨y, d₁, u₁, u₂, rfl, hpersist, hok, herror⟩ := runs_bind h
      have hrep := runs_persistMetadata hpersist
      cases y with
      | error e =>
          obtain ⟨rfl, rfl, rfl⟩ := herror e rfl
          rw [List.append_nil]
          apply AppendRun.lost hroom hcounts (landed_of_not_wrote hrep.unwritten)
            (contents_of_replaces hrep)
            ((metadata_of_replaces hrep).imp_right fun hreserved => Or.inr ⟨hsaturated, hreserved⟩)
          intro result hr
          cases hr
      | ok err =>
          have hrest := hok err rfl
          split at hrest
          · obtain ⟨y, hrep', rfl⟩ := runs_failReservedAppend hrest
            have hunwritten : ¬ Wrote (u₁ ++ u₂) :=
              wrote_append.not.mpr (not_or.mpr ⟨hrep.unwritten, hrep'.unwritten⟩)
            apply AppendRun.lost hroom hcounts (landed_of_not_wrote hunwritten)
            · rw [contents_of_replaces hrep', contents_of_replaces hrep]
            · rcases metadata_of_replaces hrep' with ⟨hmetadata', hkept'⟩ | ⟨hmetadata', hrenamed'⟩
              · rw [hmetadata']
                rcases metadata_of_replaces hrep with ⟨hmetadata, hkept⟩ | ⟨hmetadata, hrenamed⟩
                · left
                  exact ⟨hmetadata, renamed_append.not.mpr (not_or.mpr ⟨hkept, hkept'⟩)⟩
                · right
                  right
                  exact ⟨hsaturated, hmetadata, renamed_append.mpr (Or.inl hrenamed)⟩
              · right
                left
                exact ⟨hmetadata', renamed_append.mpr (Or.inr hrenamed')⟩
            · intro result hr
              cases y with
              | error e => cases hr
              | ok err' =>
                  obtain rfl := Except.ok.inj hr
                  rfl
          · rename_i hnil
            rw [not_not] at hnil
            have hrenamed := hrep.renamed (congrArg Except.ok hnil)
            rcases hrep.directory with ⟨-, hkept⟩ | ⟨rfl, -⟩
            · exact absurd hrenamed hkept
            · exact (recordRun_of_runs (line_ne_nil _) hrest).appendRun hroom hcounts hcapacity
                hrenamed hrep.unwritten

/-! ### Logs that are rejected -/

/-- What follows a complete log is split by itself. -/
theorem splitLines_complete (h : CompleteLog payload) (rest : List UInt8) :
  splitLines (payload ++ rest) = splitLines payload ++ splitLines rest
  := by
  induction payload with
  | nil => rfl
  | cons b bs ih =>
      have hrest : CompleteLog bs := by
        cases bs with
        | nil => exact Or.inl rfl
        | cons c cs =>
            rcases h with h | h
            · cases h
            · rw [List.getLast?_cons_cons] at h
              exact Or.inr h
      rw [List.cons_append, splitLines, splitLines, ih hrest]
      by_cases hb : b = 10
      · rw [if_pos hb, if_pos hb]
        rfl
      · rw [if_neg hb, if_neg hb]
        cases hsplit : splitLines bs with
        | nil =>
            -- Nothing is left after the byte, so the log does not end with a newline.
            have hjoin := (joinLines_splitLines hrest).1
            rw [hsplit] at hjoin
            rw [← hjoin] at h
            rcases h with h | h
            · cases h
            · exact absurd (Option.some.inj h) hb
        | cons line' lines => rfl

/-- The log begins with complete lines that are rejected. -/
def Unreadable (payload : List UInt8) : Prop :=
  ∃ front rest, payload = front ++ rest ∧ CompleteLog front ∧ ∃ err, scanLog front = .error err

theorem Unreadable.append (h : Unreadable payload) (more : List UInt8) :
  Unreadable (payload ++ more)
  := by
  obtain ⟨front, rest, rfl, hcomplete, hscan⟩ := h
  exact ⟨front, rest ++ more, List.append_assoc .., hcomplete, hscan⟩

theorem Unreadable.scan (h : Unreadable payload) :
  ∃ err, scanLog payload = .error err
  := by
  obtain ⟨front, rest, rfl, hcomplete, err, hscan⟩ := h
  unfold scanLog at hscan ⊢
  rw [splitLines_complete hcomplete, List.foldlM_append, hscan]
  exact ⟨err, rfl⟩

/-- The event is one that opening reads back: it has a kind, its time is not negative, and its
line fits the scanner. -/
structure Legible (event : Event) (line : List UInt8) : Prop where
  recordable : Recordable event
  fits : line.length ≤ scannerLimit

/-- The record of an event that is not read back. -/
theorem scanRecord_illegible {event : Event} {previous sequence : UInt64} {now : Utc}
    (h : ¬ Legible event (stampEvent event sequence now).line) :
  ∃ err, scanRecord previous (marshal (stampEvent event sequence now).fields) = .error err
  := by
  have hheader := unmarshal_marshal_event (stampEvent event sequence now)
  cases hscan : scanRecord previous (marshal (stampEvent event sequence now).fields) with
  | error err => exact ⟨err, rfl⟩
  | ok next =>
      exfalso
      apply h
      unfold scanRecord at hscan
      rw [dropCr_marshal, hheader] at hscan
      split at hscan
      · cases hscan
      · rename_i hlength
        simp only at hscan
        split at hscan
        · cases hscan
        split at hscan
        · cases hscan
        split at hscan
        · cases hscan
        rename_i hvalid
        obtain ⟨hkind, hsteady⟩ := not_or.mp hvalid
        refine ⟨⟨hkind, Int64.not_lt.mp hsteady⟩, ?_⟩
        rw [Event.line, List.length_append]
        exact Nat.not_lt.mp hlength

/-- A record that is not read back spoils the log it is written to. -/
theorem unreadable_of_illegible (hcomplete : CompleteLog payload)
    {event : Event} {sequence : UInt64} {now : Utc}
    (h : ¬ Legible event (stampEvent event sequence now).line) :
  Unreadable (payload ++ (stampEvent event sequence now).line)
  := by
  refine ⟨payload ++ (stampEvent event sequence now).line, [], (List.append_nil _).symm, ?_, ?_⟩
  · right
    rw [Event.line, ← List.append_assoc]
    apply List.getLast?_concat
  · have hsplit := splitLines_append hcomplete
      (newline_notMem_event (stampEvent event sequence now))
    unfold scanLog
    rw [Event.line, hsplit, List.foldlM_append]
    cases hscan : (splitLines payload).foldlM scanRecord (0 : UInt64) with
    | error err => exact ⟨err, rfl⟩
    | ok previous =>
        obtain ⟨err, hrecord⟩ := @scanRecord_illegible _ previous _ _ h
        refine ⟨err, ?_⟩
        simp only [bind, Except.bind, List.foldlM_cons, hrecord]

/-- A part of a line leaves no complete log. -/
theorem not_complete_of_part {payload part line : List UInt8} (hline : 10 ∉ line)
    (hpart : part <+: line ++ [10]) (hne : part ≠ []) (hopen : part ≠ line ++ [10]) :
  ¬ CompleteLog (payload ++ part)
  := by
  have hinit : part <+: line := by
    rcases List.prefix_concat_iff.mp hpart with h | h
    · exact absurd h hopen
    · exact h
  rintro (hnil | hlast)
  · exact hne (List.append_eq_nil_iff.mp hnil).2
  · rw [List.getLast?_append_of_ne_nil _ hne] at hlast
    exact hline (hinit.subset (List.mem_of_getLast? hlast))

/-! ### Where a state directory stands -/

instance (event : Event) (line : List UInt8) : Decidable (Legible event line) :=
  decidable_of_iff (event.kind ≠ "" ∧ 0 ≤ event.steadyWallNs ∧ line.length ≤ scannerLimit)
    ⟨fun h => ⟨⟨h.1, h.2.1⟩, h.2.2⟩, fun h =>
      ⟨h.recordable.kind, h.recordable.steadyWallNs, h.fits⟩⟩

/-- Where a state directory stands: its files agree with the running store, or the log ends in a
record that the store counts as dropped and the metadata do not, or the files are rejected. -/
inductive Standing where
  | sound
  | stranded
  | bricked
  deriving DecidableEq

/-- An append moves the standing by what its interactions show. A record strands when it is written
as a whole and an error is reported all the same. It is rejected once the metadata are replaced. -/
def Standing.append (standing : Standing) (event : Event) (u : List ioSignature.Interaction) :
    Standing :=
  match standing with
  | .bricked => .bricked
  | .stranded => if u.any isRename then .bricked else .stranded
  | .sound =>
      if landed u = [] then .sound
      else if (landed u).getLast? ≠ some 10 ∨ ¬ Legible event (landed u) then .bricked
      else if errorReported u = false then .sound
      else if disowned u then .bricked else .stranded

/-- A process that is gone forgets what it counted. -/
def Standing.next (standing : Standing) : StoreLabel → Standing
  | .opens _ _ => if standing = .bricked then .bricked else .sound
  | .appends _ event u _ => standing.append event u
  | .stops => standing

/-- Where the directory stands after a history. -/
def standing (tr : List StoreLabel) : Standing := tr.foldl Standing.next .sound

/-- The store agrees with the log, and the metadata file accounts for a part of what it
attempted. -/
structure Sound (store : EventStore) (d : Directory) : Prop where
  log : LogHolds store.limits d store.entries
  bytes : store.bytes = d.contents.length
  counts : store.sequence.toNat = store.entries + store.dropped.toNat
  saturation : store.saturated = true ↔ 0 < store.dropped.toNat
  metadata : ∃ attempts, MetadataHolds d attempts store.entries ∧ attempts ≤ store.sequence.toNat

/-- The log holds one record more than the store, which counts it as dropped. -/
structure Stranded (store : EventStore) (d : Directory) : Prop where
  log : LogHolds store.limits d (store.entries + 1)
  counts : store.sequence.toNat = store.entries + store.dropped.toNat
  saturation : store.saturated = true
  drops : 0 < store.dropped.toNat
  metadata : ∃ attempts, MetadataHolds d attempts (store.entries + 1) ∧
    attempts ≤ store.sequence.toNat

/-- The files are rejected: the log ends in a part of a record, it begins with lines that are
rejected, or the metadata count a record as dropped that is in the log. -/
inductive Spoiled (d : Directory) (store : Option EventStore) : Prop
  | torn (log : ¬ CompleteLog d.contents) (running : ∀ s ∈ store, s.saturated = true)
  | unreadable (log : Unreadable d.contents)
  | overdrawn {limits : Limits} {records : Nat} {m : EventStoreMetadata}
      (log : LogHolds limits d records) (file : d.metadata = some m.payload)
      (drops : 0 < m.droppedEvents.toNat)
      (last : m.lastAttemptedSequence.toNat + 1 = records + m.droppedEvents.toNat)
      (running : ∀ s ∈ store, s.saturated = true ∧
        s.sequence.toNat + 1 = records + s.dropped.toNat)

/-- What a standing says about the files and the store of the running process. -/
def Standing.Describes (standing : Standing) (d : Directory) (store : Option EventStore) : Prop :=
  match standing, store with
  | .bricked, store => Spoiled d store
  | .sound, some store => Sound store d
  | .stranded, some store => Stranded store d
  | _, none => ∃ limits attempts records, Files limits d attempts records

theorem Sound.files {store : EventStore} (h : Sound store d) :
  ∃ attempts, Files store.limits d attempts store.entries ∧ attempts ≤ store.sequence.toNat
  := by
  obtain ⟨attempts, hmetadata, hle⟩ := h.metadata
  exact ⟨attempts, ⟨h.log, hmetadata⟩, hle⟩

theorem Stranded.files {store : EventStore} (h : Stranded store d) :
  ∃ attempts, Files store.limits d attempts (store.entries + 1) ∧ attempts ≤ store.sequence.toNat
  := by
  obtain ⟨attempts, hmetadata, hle⟩ := h.metadata
  exact ⟨attempts, ⟨h.log, hmetadata⟩, hle⟩

/-- Spoiled files are not accepted, whatever the limits are. -/
theorem Spoiled.not_accepts {store : Option EventStore} (h : Spoiled d store) {limits : Limits}
    {previousSequence : UInt64} {found : Option EventStoreMetadata}
    {metadata : EventStoreMetadata} :
  ¬ Accepts limits d previousSequence found metadata
  := by
  intro haccepts
  cases h with
  | torn log _ => exact log haccepts.complete
  | unreadable log =>
      obtain ⟨err, hscan⟩ := log.scan
      cases hscan.symm.trans haccepts.scan
  | @overdrawn limits' records m log file drops last _ =>
      have hrecords := log.toNat_ofNat
      obtain rfl := Except.ok.inj (log.scan.symm.trans haccepts.scan)
      have hfound : FoundIn d (some m) := by
        simp only [FoundIn, file]
        exact ⟨m, EventStoreMetadata.decode_payload m, rfl⟩
      obtain rfl := foundIn_unique haccepts.foundIn hfound
      have hle : UInt64.ofNat records ≤ m.lastAttemptedSequence := by
        rw [UInt64.le_iff_toNat_le, hrecords]
        omega
      have hexceeds : m.lastAttemptedSequence - .ofNat records < m.droppedEvents := by
        rw [UInt64.lt_iff_toNat_lt, UInt64.toNat_sub_of_le _ _ hle, hrecords]
        omega
      have hreconciles := haccepts.reconciles
      unfold reconcile at hreconciles
      simp only [Option.getD_some] at hreconciles
      rw [if_neg (UInt64.not_lt.mpr hle), if_pos hexceeds] at hreconciles
      split at hreconciles <;> cases hreconciles

/-- A process that is gone leaves the standing of its files. -/
theorem Standing.Describes.stopped {standing : Standing} {store : Option EventStore}
    (h : standing.Describes d store) :
  standing.Describes d none
  := by
  cases standing with
  | bricked =>
      cases h with
      | torn log _ => exact Spoiled.torn log (by simp)
      | unreadable log => exact Spoiled.unreadable log
      | overdrawn log file drops last _ => exact Spoiled.overdrawn log file drops last (by simp)
  | sound =>
      cases store with
      | none => exact h
      | some store =>
          obtain ⟨attempts, hfiles, -⟩ := Sound.files h
          exact ⟨_, _, _, hfiles⟩
  | stranded =>
      cases store with
      | none => exact h
      | some store =>
          obtain ⟨attempts, hfiles, -⟩ := Stranded.files h
          exact ⟨_, _, _, hfiles⟩

/-- The store of the process after an append, unless it stopped in it. -/
def storeAfter : Except Crash Appended → Option EventStore
  | .ok result => some result.store
  | .error _ => none

theorem Standing.Describes.after {standing : Standing} {store : EventStore}
    {r : Except Crash Appended} (h : standing.Describes d (some store))
    (hresult : ∀ result, r = .ok result → result.store = store) :
  standing.Describes d (storeAfter r)
  := by
  cases r with
  | error e => exact h.stopped
  | ok result =>
      rw [← hresult result rfl] at h
      exact h

section Steps

variable {store : EventStore} {event : Event} {now : Utc} {r : Except Crash Appended}

/-- A store that has dropped nothing has a record for each sequence. -/
theorem Sound.fresh (h : Sound store d) (hsaturated : store.saturated = false) :
  store.dropped = 0 ∧ store.sequence.toNat = store.entries
  := by
  have hzero : store.dropped.toNat = 0 := by
    apply Nat.eq_zero_of_not_pos
    rw [← h.saturation, hsaturated]
    exact Bool.false_ne_true
  refine ⟨UInt64.toNat_inj.mp hzero, ?_⟩
  have hcounts := h.counts
  omega

variable {attempts records : Nat}

/-- The metadata of a drop account for it. -/
theorem metadataHolds_dropped {dropped sequence : UInt64}
    (hmetadata : d.metadata = some (droppedMetadata dropped sequence).payload)
    (hsequence : sequence.toNat = attempts) (hdropped : 0 < dropped.toNat)
    (hcounts : attempts = records + dropped.toNat) :
  MetadataHolds d attempts records
  := .dropped _ hmetadata rfl hsequence rfl hdropped hcounts

theorem metadataHolds_reservation {sequence : UInt64}
    (hmetadata : d.metadata = some (reservation sequence).payload)
    (hsequence : sequence.toNat = attempts) (hle : records ≤ attempts)
    (hle' : attempts ≤ records + 1) :
  MetadataHolds d attempts records
  := .reserved _ hmetadata rfl hsequence rfl rfl hle hle'

theorem MetadataHolds.of_metadata (h : MetadataHolds d attempts records)
    (hmetadata : d'.metadata = d.metadata) :
  MetadataHolds d' attempts records
  := by
  cases h with
  | absent file attempts_eq records_eq =>
      exact .absent (hmetadata.trans file) attempts_eq records_eq
  | dropped m file schema last saturated some_dropped counts =>
      exact .dropped m (hmetadata.trans file) schema last saturated some_dropped counts
  | reserved m file schema last unsaturated none_dropped records_le attempts_le =>
      exact .reserved m (hmetadata.trans file) schema last unsaturated none_dropped records_le
        attempts_le

/-- A sound store stays sound when nothing of the record lands in the log. -/
theorem Sound.lost (h : Sound store d) (room : store.sequence ≠ greatestSequence)
    (counts : store.dropped ≠ greatestSequence) (hcontents : d'.contents = d.contents)
    (hmetadata : d'.metadata = d.metadata ∧ ¬ Renamed u ∨
      d'.metadata = some (droppedMetadata (store.dropped + 1) (store.sequence + 1)).payload ∧
        Renamed u ∨
      store.saturated = false ∧
        d'.metadata = some (reservation (store.sequence + 1)).payload ∧ Renamed u) :
  Sound (store.drop (store.sequence + 1)) d'
  := by
  have hsequence := toNat_next room
  have hdropped := toNat_next counts
  have hcounts := h.counts
  constructor
  · exact h.log.of_contents hcontents
  · rw [hcontents]
    exact h.bytes
  · change (store.sequence + 1).toNat = store.entries + (store.dropped + 1).toNat
    omega
  · refine iff_of_true rfl ?_
    change 0 < (store.dropped + 1).toNat
    omega
  · change ∃ attempts, MetadataHolds d' attempts store.entries ∧
      attempts ≤ (store.sequence + 1).toNat
    rcases hmetadata with ⟨hsame, -⟩ | ⟨hdrop, -⟩ | ⟨hsaturated, hreserved, -⟩
    · obtain ⟨attempts, hholds, hle⟩ := h.metadata
      exact ⟨attempts, hholds.of_metadata hsame, by omega⟩
    · refine ⟨(store.sequence + 1).toNat, ?_, Nat.le_refl _⟩
      apply metadataHolds_dropped hdrop rfl
      · omega
      · omega
    · obtain ⟨-, hfresh⟩ := h.fresh hsaturated
      refine ⟨(store.sequence + 1).toNat, ?_, Nat.le_refl _⟩
      apply metadataHolds_reservation hreserved rfl
      · omega
      · omega

/-- The log of a sound store after a whole record that is read back. -/
theorem Sound.recorded (h : Sound store d)
    (capacity : capacityDrop store (stampEvent event (store.sequence + 1) now).line = false)
    (hlegible : Legible event (stampEvent event (store.sequence + 1) now).line)
    (hcontents : d'.contents = d.contents ++ (stampEvent event (store.sequence + 1) now).line) :
  store.saturated = false ∧ LogHolds store.limits d' (store.entries + 1)
  := by
  simp only [capacityDrop, Bool.or_eq_false_iff, decide_eq_false_iff_not, not_le, not_lt]
    at capacity
  obtain ⟨⟨hsaturated, hentries⟩, hbytes⟩ := capacity
  refine ⟨hsaturated, ?_⟩
  have hsequence : store.sequence = .ofNat store.entries := by
    apply UInt64.toNat_inj.mp
    rw [h.log.toNat_ofNat, (h.fresh hsaturated).2]
  rw [hsequence] at hlegible hcontents hbytes
  apply h.log.append hlegible.recordable hentries hlegible.fits hcontents
  rw [hcontents, List.length_append, ← h.bytes]
  exact hbytes

/-- The record is confirmed, and the metadata still reserve its sequence. -/
theorem Sound.confirmed (h : Sound store d) (room : store.sequence ≠ greatestSequence)
    (capacity : capacityDrop store (stampEvent event (store.sequence + 1) now).line = false)
    (hlegible : Legible event (stampEvent event (store.sequence + 1) now).line)
    (hcontents : d'.contents = d.contents ++ (stampEvent event (store.sequence + 1) now).line)
    (hmetadata : d'.metadata = some (reservation (store.sequence + 1)).payload) :
  Sound (store.written (store.sequence + 1) (stampEvent event (store.sequence + 1) now).line) d'
  := by
  obtain ⟨hsaturated, hlog⟩ := h.recorded capacity hlegible hcontents
  obtain ⟨-, hentries⟩ := h.fresh hsaturated
  have hsequence := toNat_next room
  constructor
  · exact hlog
  · rw [hcontents, List.length_append, ← h.bytes]
    rfl
  · change (store.sequence + 1).toNat = store.entries + 1 + store.dropped.toNat
    rw [hsequence, h.counts]
    omega
  · exact h.saturation
  · refine ⟨(store.sequence + 1).toNat, ?_, Nat.le_refl _⟩
    apply metadataHolds_reservation hmetadata rfl
    · change store.entries + 1 ≤ _
      omega
    · change _ ≤ store.entries + 1 + 1
      omega

/-- The record is in the log, and the store counts it as dropped. The metadata reserve its sequence
and leave the store stranded, or record the drop and spoil the files. -/
theorem Sound.uncounted (h : Sound store d) (room : store.sequence ≠ greatestSequence)
    (capacity : capacityDrop store (stampEvent event (store.sequence + 1) now).line = false)
    (hlegible : Legible event (stampEvent event (store.sequence + 1) now).line)
    (hcontents : d'.contents = d.contents ++ (stampEvent event (store.sequence + 1) now).line) :
  (d'.metadata = some (reservation (store.sequence + 1)).payload →
    Stranded (store.drop (store.sequence + 1)) d') ∧
  (d'.metadata = some (droppedMetadata (store.dropped + 1) (store.sequence + 1)).payload →
    Spoiled d' (some (store.drop (store.sequence + 1))))
  := by
  obtain ⟨hsaturated, hlog⟩ := h.recorded capacity hlegible hcontents
  obtain ⟨hzero, hentries⟩ := h.fresh hsaturated
  have hsequence := toNat_next room
  have hdropped : (store.dropped + 1).toNat = 1 := by
    rw [hzero]
    rfl
  constructor
  · intro hreserved
    constructor
    · exact hlog
    · change (store.sequence + 1).toNat = store.entries + (store.dropped + 1).toNat
      omega
    · rfl
    · change 0 < (store.dropped + 1).toNat
      omega
    · refine ⟨(store.sequence + 1).toNat, ?_, Nat.le_refl _⟩
      apply metadataHolds_reservation hreserved rfl
      · change store.entries + 1 ≤ _
        omega
      · change _ ≤ store.entries + 1 + 1
        omega
  · intro hdrop
    have hdrawn : (store.sequence + 1).toNat + 1 =
        store.entries + 1 + (store.dropped + 1).toNat := by
      omega
    refine Spoiled.overdrawn hlog hdrop ?_ hdrawn ?_
    · change 0 < (store.dropped + 1).toNat
      omega
    · rintro _ ⟨⟩
      exact ⟨rfl, hdrawn⟩

/-- An append to a sound store. -/
theorem Sound.append (h : Sound store d)
    (hrun : AppendRun store (stampEvent event (store.sequence + 1) now) d u r d') :
  (Standing.sound.append event u).Describes d' (storeAfter r)
  := by
  cases hrun with
  | refused interactions directory result =>
      subst interactions directory
      rw [Standing.append, if_pos (landed_of_not_wrote not_wrote_nil)]
      apply Standing.Describes.after _ result
      exact h
  | lost room counts unwritten contents metadata result =>
      rw [Standing.append, if_pos unwritten]
      apply Standing.Describes.after _ result
      exact h.lost room counts contents metadata
  | written room capacity lands contents part renamed metadata kept result =>
      have hnewline := newline_notMem_event (stampEvent event (store.sequence + 1) now)
      rw [Standing.append, if_neg lands]
      by_cases hwhole : landed u = (stampEvent event (store.sequence + 1) now).line
      · have hlast : (landed u).getLast? = some 10 := by
          rw [hwhole]
          apply List.getLast?_concat
        rw [hwhole] at contents
        by_cases hlegible : Legible event (landed u)
        · rw [if_neg (not_or.mpr ⟨not_not_intro hlast, not_not_intro hlegible⟩)]
          rw [hwhole] at hlegible
          cases hreported : errorReported u with
          | false =>
              have hreserved := (metadata.resolve_right fun hdrop =>
                ne_true_of_eq_false (kept hwhole hreported) hdrop.2).1
              rw [if_pos rfl]
              have hsound : Standing.sound.Describes d' (some _) :=
                h.confirmed room capacity hlegible contents hreserved
              apply hsound.after
              intro after hr
              rcases result after hr with ⟨hstore, -⟩ | ⟨-, hfails⟩
              · exact hstore
              · rw [hfails hwhole] at hreported
                cases hreported
          | true =>
              rw [if_neg (by simp)]
              obtain ⟨hstranded, hspoiled⟩ := h.uncounted room capacity hlegible contents
              have hafter : ∀ after, r = .ok after →
                  after.store = store.drop (store.sequence + 1) := by
                intro after hr
                rcases result after hr with ⟨-, -, hfine⟩ | ⟨hstore, -⟩
                · rw [hreported] at hfine
                  cases hfine
                · exact hstore
              rcases metadata with ⟨hreserved, hdisowned⟩ | ⟨hdrop, hdisowned⟩
              · rw [hdisowned, if_neg Bool.false_ne_true]
                apply Standing.Describes.after _ hafter
                exact hstranded hreserved
              · rw [hdisowned, if_pos rfl]
                apply Standing.Describes.after _ hafter
                exact hspoiled hdrop
        · rw [if_pos (Or.inr hlegible)]
          rw [hwhole] at hlegible
          apply Spoiled.unreadable
          rw [contents]
          exact unreadable_of_illegible h.log.complete hlegible
      · have hopen : ∀ payload, ¬ CompleteLog (payload ++ landed u) := fun payload =>
          not_complete_of_part hnewline part lands hwhole
        have hlast : (landed u).getLast? ≠ some 10 := fun hlast => hopen [] (Or.inr hlast)
        rw [if_pos (Or.inl hlast)]
        apply Spoiled.torn
        · rw [contents]
          apply hopen
        · intro s hs
          cases r with
          | error e => cases hs
          | ok after =>
              obtain rfl := Option.some.inj hs
              rcases result after rfl with ⟨-, hall, -⟩ | ⟨hstore, -⟩
              · exact absurd hall hwhole
              · rw [hstore]
                rfl

/-- An append to a store that counts a record of the log as dropped. -/
theorem Stranded.append (h : Stranded store d)
    (hrun : AppendRun store (stampEvent event (store.sequence + 1) now) d u r d') :
  (Standing.stranded.append event u).Describes d' (storeAfter r)
  := by
  have hcounts := h.counts
  cases hrun with
  | refused interactions directory result =>
      subst interactions directory
      apply Standing.Describes.after _ result
      exact h
  | lost room counts unwritten contents metadata result =>
      have hsequence := toNat_next room
      have hdropped := toNat_next counts
      rcases metadata with ⟨hsame, hkept⟩ | ⟨hdrop, hrenamed⟩ | ⟨hsaturated, -⟩
      · rw [Standing.append, if_neg (any_isRename.not.mpr hkept)]
        apply Standing.Describes.after _ result
        constructor
        · exact h.log.of_contents contents
        · change (store.sequence + 1).toNat = store.entries + (store.dropped + 1).toNat
          omega
        · rfl
        · change 0 < (store.dropped + 1).toNat
          omega
        · obtain ⟨attempts, hholds, hle⟩ := h.metadata
          refine ⟨attempts, hholds.of_metadata hsame, ?_⟩
          change attempts ≤ (store.sequence + 1).toNat
          omega
      · rw [Standing.append, if_pos (any_isRename.mpr hrenamed)]
        have hdescribes : Standing.bricked.Describes d'
            (some (store.drop (store.sequence + 1))) := by
          refine Spoiled.overdrawn (h.log.of_contents contents) hdrop ?_ ?_ ?_
          · change 0 < (store.dropped + 1).toNat
            omega
          · change (store.sequence + 1).toNat + 1 = store.entries + 1 + (store.dropped + 1).toNat
            omega
          · rintro _ ⟨⟩
            refine ⟨rfl, ?_⟩
            change (store.sequence + 1).toNat + 1 = store.entries + 1 + (store.dropped + 1).toNat
            omega
        exact hdescribes.after result
      · rw [h.saturation] at hsaturated
        cases hsaturated
  | written room capacity =>
      simp [capacityDrop, h.saturation] at capacity

/-- An append to a store whose files are rejected. -/
theorem Spoiled.append (h : Spoiled d (some store))
    (hrun : AppendRun store (stampEvent event (store.sequence + 1) now) d u r d') :
  Spoiled d' (storeAfter r)
  := by
  have hfull : store.saturated = true → ∀ payload, capacityDrop store payload ≠ false := by
    intro hsaturated payload
    simp [capacityDrop, hsaturated]
  cases hrun with
  | refused interactions directory result =>
      subst interactions directory
      have hdescribes : Standing.bricked.Describes d' (some store) := h
      exact hdescribes.after result
  | lost room counts unwritten contents metadata result =>
      have hsequence := toNat_next room
      have hdropped := toNat_next counts
      suffices hdescribes : Standing.bricked.Describes d'
          (some (store.drop (store.sequence + 1))) from hdescribes.after result
      cases h with
      | torn log running =>
          apply Spoiled.torn
          · rw [contents]
            exact log
          · rintro _ ⟨⟩
            rfl
      | unreadable log =>
          apply Spoiled.unreadable
          rw [contents]
          exact log
      | @overdrawn limits records m log file drops last running =>
          obtain ⟨hsaturated, hcounts⟩ := running store rfl
          have hrunning : ∀ s ∈ some (store.drop (store.sequence + 1)), s.saturated = true ∧
              s.sequence.toNat + 1 = records + s.dropped.toNat := by
            rintro _ ⟨⟩
            refine ⟨rfl, ?_⟩
            change (store.sequence + 1).toNat + 1 = records + (store.dropped + 1).toNat
            omega
          rcases metadata with ⟨hsame, -⟩ | ⟨hdrop, -⟩ | ⟨hunsaturated, -⟩
          · exact Spoiled.overdrawn (log.of_contents contents)
              (hsame.trans file) drops last hrunning
          · refine Spoiled.overdrawn (log.of_contents contents) hdrop ?_ ?_ hrunning
            · change 0 < (store.dropped + 1).toNat
              omega
            · change (store.sequence + 1).toNat + 1 = records + (store.dropped + 1).toNat
              omega
          · rw [hsaturated] at hunsaturated
            cases hunsaturated
  | written room capacity lands contents =>
      cases h with
      | torn log running => exact absurd capacity (hfull (running store rfl) _)
      | unreadable log =>
          apply Spoiled.unreadable
          rw [contents]
          exact log.append _
      | overdrawn _ _ _ _ running => exact absurd capacity (hfull (running store rfl).1 _)

end Steps

/-! ### Histories -/

/-- Files that are accepted with other limits are left by a process with these limits, too. -/
theorem Files.with_limits {limits limits' : Limits} {attempts records : Nat}
    (h : Files limits d attempts records) {previousSequence : UInt64}
    {found : Option EventStoreMetadata} {metadata : EventStoreMetadata}
    (haccepts : Accepts limits' d previousSequence found metadata) :
  Files limits' d attempts records
  := by
  obtain ⟨⟨hcomplete, hscan, hcount, -, -⟩, hmetadata⟩ := h
  have hentries := haccepts.entries
  rw [hcount] at hentries
  exact ⟨⟨hcomplete, hscan, hcount, hentries, haccepts.bytes⟩, hmetadata⟩

/-- A process that opens the files finds them sound. -/
theorem Standing.Describes.opened {standing : Standing} {limits : Limits} {store : EventStore}
    (h : standing.Describes d none) (hopen : OpenOutcome limits d (.ok (.ok store)) d') :
  standing ≠ .bricked ∧ Sound store d' ∧ store.limits = limits
  := by
  obtain ⟨previousSequence, found, metadata, haccepts⟩ := accepts_of_opened hopen
  have hfiles : standing ≠ .bricked → Sound store d' ∧ store.limits = limits := by
    intro hne
    obtain ⟨limits₀, attempts, records, hfiles⟩ :
        ∃ limits attempts records, Files limits d attempts records := by
      cases standing with
      | bricked => exact absurd rfl hne
      | sound => exact h
      | stranded => exact h
    have hrunning := running_of_open (hfiles.with_limits haccepts) hopen
    refine ⟨?_, hrunning.limits_eq⟩
    constructor
    · rw [hrunning.limits_eq, hrunning.entries]
      exact hrunning.log
    · exact hrunning.bytes
    · rw [hrunning.sequence, hrunning.entries]
      exact hrunning.counts
    · rw [hrunning.saturated, decide_eq_true_eq, Nat.pos_iff_ne_zero, ne_eq, ne_eq,
        ← UInt64.toNat_inj]
      rfl
    · refine ⟨attempts, ?_, ?_⟩
      · rw [hrunning.entries]
        exact hrunning.files.metadata
      · rw [hrunning.sequence]
  have hne : standing ≠ .bricked := by
    rintro rfl
    exact Spoiled.not_accepts h haccepts
  exact ⟨hne, hfiles hne⟩

/-- A process that does not get to open the files leaves them as good as they are. -/
theorem Standing.Describes.notOpened {standing : Standing} {limits : Limits}
    {r : Except Crash (Except Err EventStore)} (h : standing.Describes d none)
    (hopen : OpenOutcome limits d r d') :
  (if standing = .bricked then Standing.bricked else .sound).Describes d' none
  := by
  split_ifs with hbricked
  · subst hbricked
    cases hopen with
    | rejected => exact h
    | unchanged => exact h
    | persisted accepts => exact absurd accepts (Spoiled.not_accepts h)
  · obtain ⟨limits₀, attempts, records, hfiles⟩ :
        ∃ limits attempts records, Files limits d attempts records := by
      cases standing with
      | bricked => exact absurd rfl hbricked
      | sound => exact h
      | stranded => exact h
    cases hopen with
    | rejected => exact ⟨_, _, _, hfiles⟩
    | unchanged => exact ⟨_, _, _, hfiles⟩
    | persisted accepts replaces =>
        exact ⟨_, _, _, files_of_open (hfiles.with_limits accepts) (.persisted accepts replaces)⟩

theorem standing_append (tr : List StoreLabel) (l : StoreLabel) :
  standing (tr ++ [l]) = (standing tr).next l
  := List.foldl_concat ..

/-- What an append leaves. -/
theorem Standing.Describes.appended {standing : Standing} {store : EventStore} {event : Event}
    {now : Utc} {r : Except Crash Appended} (h : standing.Describes d (some store))
    (hfresh : store.saturated = false → store.dropped = 0)
    (hrun : Runs (Supervisor.append store now event) d u r d') :
  (standing.append event u).Describes d' (storeAfter r)
  := by
  have hends := appendRun_of_runs hfresh hrun
  cases standing with
  | sound => exact Sound.append h hends
  | stranded => exact Stranded.append h hends
  | bricked => exact Spoiled.append h hends

/-- A store of a history that is not saturated has dropped nothing. -/
theorem fresh_of_history {initial : Directory} {tr : List StoreLabel} {store : EventStore}
    (h : StoreHistory initial tr ⟨d, some store⟩) (hsaturated : store.saturated = false) :
  store.dropped = 0
  := by
  have hconsistent := (storeInvariant_of_history h).consistent store rfl
  apply UInt64.toNat_inj.mp
  apply Nat.eq_zero_of_not_pos
  rw [← hconsistent.saturation, hsaturated]
  exact Bool.false_ne_true

/-- The standing of a history describes its directory. -/
theorem standing_describes {tr : List StoreLabel} {s : StoreSystem} (h : StoreHistory {} tr s) :
  (standing tr).Describes s.directory s.store
  := by
  induction h with
  | start => exact ⟨⟨0, 0, by decide⟩, 0, 0, files_empty _⟩
  | step history hstep ih =>
      rw [standing_append]
      cases hstep with
      | opened run =>
          obtain ⟨hne, hsound, -⟩ := ih.opened (runs_newEventStore run)
          rw [Standing.next, if_neg hne]
          exact hsound
      | notOpened run fails => exact ih.notOpened (runs_newEventStore run)
      | appended run => exact ih.appended (fresh_of_history history) run
      | crashed run => exact ih.appended (fresh_of_history history) run
      | stopped => exact ih.stopped

/-! ### Restarting -/

/-- Without further failures a process opens the files, and its store is as described. -/
def Restarts (limits : Limits) (d : Directory) (P : EventStore → Prop) : Prop :=
  ∀ fuel history, ∃ store d' u,
    newEventStore limits healthy fuel d history = some (.ok (.ok store), d', u) ∧ P store

/-- The log has the record of the event and the store counts it, or the log is as before, and the
store is saturated and counts the event as dropped. -/
def Accounted (d d' : Directory) (line : List UInt8) (sequence : Nat) (store : EventStore) : Prop :=
  d'.contents = d.contents ++ line ∧ store.entries = sequence ∨
    d'.contents = d.contents ∧ store.saturated = true ∧ store.entries < sequence ∧
      sequence ≤ store.sequence.toNat

theorem Files.restarts {limits : Limits} {attempts records : Nat}
    (h : Files limits d attempts records) :
  Restarts limits d fun store => store.entries = records ∧ store.sequence.toNat = attempts ∧
    (store.saturated = true ↔ records < attempts)
  := by
  intro fuel history
  obtain ⟨store, d', u, hrun, hrecovers⟩ := h.recovers fuel history
  refine ⟨store, d', u, hrun, hrecovers.entries, hrecovers.sequence, ?_⟩
  rw [hrecovers.saturated, hrecovers.dropped]
  apply Nat.sub_pos_iff_lt

theorem Restarts.imp {limits : Limits} {P Q : EventStore → Prop} (h : Restarts limits d P)
    (hPQ : ∀ store, P store → Q store) :
  Restarts limits d Q
  := by
  intro fuel history
  obtain ⟨store, d', u, hrun, hstore⟩ := h fuel history
  exact ⟨store, d', u, hrun, hPQ store hstore⟩

/-- Two descriptions of the store that opens the files describe the same store. -/
theorem Restarts.both {limits : Limits} {P Q : EventStore → Prop} (h : Restarts limits d P)
    (h' : Restarts limits d Q) :
  ∃ store, P store ∧ Q store
  := by
  obtain ⟨store, d₁, u, hrun, hP⟩ := h 0 []
  obtain ⟨store', d₁', u', hrun', hQ⟩ := h' 0 []
  rw [hrun] at hrun'
  obtain rfl := Except.ok.inj (Except.ok.inj (congrArg Prod.fst (Option.some.inj hrun')))
  exact ⟨store, hP, hQ⟩

/-- Spoiled files are not opened again. -/
theorem Spoiled.not_restarts {store : Option EventStore} (h : Spoiled d store) {limits : Limits}
    {P : EventStore → Prop} :
  ¬ Restarts limits d P
  := by
  intro hrestarts
  obtain ⟨opened, d', u, hrun, -⟩ := hrestarts 0 []
  obtain ⟨_, _, _, haccepts⟩ := accepts_of_opened (runs_newEventStore ⟨healthy, 0, [], hrun⟩)
  exact h.not_accepts haccepts

section Accounts

variable {store : EventStore} {event : Event} {now : Utc} {r : Except Crash Appended}

/-- What the directory of a running store holds, unless it is rejected. -/
theorem Standing.Describes.files {standing : Standing} (h : standing.Describes d (some store))
    (hne : standing ≠ .bricked) :
  ∃ attempts records, Files store.limits d attempts records ∧
    attempts ≤ store.sequence.toNat ∧ records ≤ store.sequence.toNat
  := by
  cases standing with
  | bricked => exact absurd rfl hne
  | sound =>
      obtain ⟨attempts, hfiles, hle⟩ := Sound.files h
      have hcounts := Sound.counts h
      exact ⟨attempts, _, hfiles, hle, by omega⟩
  | stranded =>
      obtain ⟨attempts, hfiles, hle⟩ := Stranded.files h
      have hcounts := Stranded.counts h
      have hdrops := Stranded.drops h
      exact ⟨attempts, _, hfiles, hle, by omega⟩

/-- The directory after an append whose metadata were replaced, unless it is rejected. -/
theorem Sound.accounted (h : Sound store d)
    (hrun : AppendRun store (stampEvent event (store.sequence + 1) now) d u r d')
    (hrenamed : Renamed u) (hne : Standing.sound.append event u ≠ .bricked) :
  Restarts store.limits d' (Accounted d d' (stampEvent event (store.sequence + 1) now).line
    (store.sequence.toNat + 1))
  := by
  have hcounts := h.counts
  cases hrun with
  | refused interactions =>
      subst interactions
      cases hrenamed
  | lost room counts unwritten contents metadata result =>
      have hsequence := toNat_next room
      have hdropped := toNat_next counts
      have hfiles : Files store.limits d' (store.sequence.toNat + 1) store.entries := by
        refine ⟨h.log.of_contents contents, ?_⟩
        rcases metadata with ⟨-, hkept⟩ | ⟨hdrop, -⟩ | ⟨hsaturated, hreserved, -⟩
        · exact absurd hrenamed hkept
        · apply metadataHolds_dropped hdrop hsequence
          · omega
          · omega
        · obtain ⟨-, hfresh⟩ := h.fresh hsaturated
          apply metadataHolds_reservation hreserved hsequence
          · omega
          · omega
      apply hfiles.restarts.imp
      rintro opened ⟨hentries, hlast, hsaturated⟩
      right
      refine ⟨contents, hsaturated.mpr ?_, ?_, ?_⟩
      · omega
      · omega
      · omega
  | written room capacity lands contents part renamed metadata kept result =>
      have hsequence := toNat_next room
      have hnewline := newline_notMem_event (stampEvent event (store.sequence + 1) now)
      rw [Standing.append, if_neg lands] at hne
      have hsound : (landed u).getLast? = some 10 ∧ Legible event (landed u) := by
        by_contra hnot
        apply hne
        rw [if_pos]
        tauto
      have hwhole : landed u = (stampEvent event (store.sequence + 1) now).line := by
        by_contra hpart
        have hopen : ¬ CompleteLog ([] ++ landed u) :=
          not_complete_of_part hnewline part lands hpart
        exact hopen (Or.inr hsound.1)
      rw [if_neg (by tauto)] at hne
      rw [hwhole] at contents hsound
      obtain ⟨hsaturated, hlog⟩ := h.recorded capacity hsound.2 contents
      obtain ⟨-, hfresh⟩ := h.fresh hsaturated
      have hdisowned : disowned u = false := by
        cases hreported : errorReported u with
        | false => exact kept hwhole hreported
        | true =>
            apply eq_false_of_ne_true
            intro hdisowned
            apply hne
            rw [hreported, hdisowned, if_neg (by simp), if_pos rfl]
      have hfiles : Files store.limits d' (store.sequence.toNat + 1) (store.entries + 1) := by
        refine ⟨hlog, ?_⟩
        rcases metadata with ⟨hreserved, -⟩ | ⟨-, hnot⟩
        · apply metadataHolds_reservation hreserved hsequence
          · omega
          · omega
        · rw [hdisowned] at hnot
          cases hnot
      apply hfiles.restarts.imp
      rintro opened ⟨hentries, -, -⟩
      left
      refine ⟨contents, ?_⟩
      omega

/-- Without a replacement of the metadata an append leaves the files as they are. -/
theorem Files.of_not_renamed {limits : Limits} {attempts records : Nat}
    (h : Files limits d attempts records) (hrun : AppendRun store event d u r d')
    (hkept : ¬ Renamed u) :
  Files limits d' attempts records
  := by
  cases hrun with
  | refused _ directory =>
      rw [directory]
      exact h
  | lost _ _ _ contents metadata _ =>
      refine ⟨h.log.of_contents contents, ?_⟩
      rcases metadata with ⟨hmetadata, -⟩ | ⟨-, hrenamed⟩ | ⟨-, -, hrenamed⟩
      · exact h.metadata.of_metadata hmetadata
      · exact absurd hrenamed hkept
      · exact absurd hrenamed hkept
  | written _ _ _ _ _ renamed => exact absurd renamed hkept

/-- Files that do not cover a sequence account for no event with it. -/
theorem Files.not_accounted {limits : Limits} {attempts records sequence : Nat} {line : List UInt8}
    (h : Files limits d' attempts records) (hle : attempts < sequence) (hle' : records < sequence) :
  ¬ Restarts limits d' (Accounted d d' line sequence)
  := by
  intro hrestarts
  obtain ⟨opened, ⟨hentries, hlast, -⟩, haccounted⟩ := h.restarts.both hrestarts
  rcases haccounted with ⟨-, hcount⟩ | ⟨-, -, -, hsequence⟩
  · omega
  · omega

end Accounts

/-- An append to bricked files does not repair them. -/
theorem standing_of_append {standing : Standing} {event : Event}
    (h : standing.append event u ≠ .bricked) (hrenamed : Renamed u) :
  standing = .sound
  := by
  cases standing with
  | sound => rfl
  | stranded =>
      rw [Standing.append, if_pos (any_isRename.mpr hrenamed)] at h
      exact absurd rfl h
  | bricked => exact absurd rfl h

/-- Over every history of a state directory that starts empty, and for every behaviour of the file
system, an append leaves files that the next process opens with the same limits exactly when the
standing of the directory is not bricked. Exactly when the metadata file was replaced in the append
as well, the process finds the record of the event, or counts the event as dropped. -/
theorem append_restartable {tr : List StoreLabel} {store : EventStore} {event : Event} {now : Utc}
    {r : Except Crash Appended} (h : StoreHistory {} tr ⟨d, some store⟩)
    (hrun : Runs (append store now event) d u r d') :
  (Restarts store.limits d' (fun _ => True) ↔ (standing tr).append event u ≠ .bricked) ∧
  (Restarts store.limits d' (Accounted d d' (stampEvent event (store.sequence + 1) now).line
      (store.sequence.toNat + 1)) ↔
    (standing tr).append event u ≠ .bricked ∧ Renamed u)
  := by
  have hfresh := fresh_of_history h
  have hbefore : (standing tr).Describes d (some store) := standing_describes h
  have hends := appendRun_of_runs hfresh hrun
  have hspoiled : ∀ P, Restarts store.limits d' P → (standing tr).append event u ≠ .bricked := by
    intro P hrestarts hbricked
    have hafter := hbefore.appended hfresh hrun
    rw [hbricked] at hafter
    exact Spoiled.not_restarts hafter hrestarts
  have haccounted : (standing tr).append event u ≠ .bricked → Renamed u →
      Restarts store.limits d' (Accounted d d' (stampEvent event (store.sequence + 1) now).line
        (store.sequence.toNat + 1)) := by
    intro hne hrenamed
    have hsound := standing_of_append hne hrenamed
    rw [hsound] at hbefore hne
    exact Sound.accounted hbefore hends hrenamed hne
  have hsame : (standing tr).append event u ≠ .bricked → ¬ Renamed u →
      ∃ attempts records, Files store.limits d' attempts records ∧
        attempts ≤ store.sequence.toNat ∧ records ≤ store.sequence.toNat := by
    intro hne hkept
    have hnot : standing tr ≠ .bricked := by
      intro hbricked
      rw [hbricked] at hne
      exact hne rfl
    obtain ⟨attempts, records, hfiles, hle, hle'⟩ := hbefore.files hnot
    exact ⟨attempts, records, hfiles.of_not_renamed hends hkept, hle, hle'⟩
  constructor
  · constructor
    · apply hspoiled
    · intro hne
      by_cases hrenamed : Renamed u
      · exact (haccounted hne hrenamed).imp fun _ _ => trivial
      · obtain ⟨attempts, records, hfiles, -⟩ := hsame hne hrenamed
        exact hfiles.restarts.imp fun _ _ => trivial
  · constructor
    · intro hrestarts
      have hne := hspoiled _ hrestarts
      refine ⟨hne, ?_⟩
      by_contra hkept
      obtain ⟨attempts, records, hfiles, hle, hle'⟩ := hsame hne hkept
      exact hfiles.not_accounted (Nat.lt_succ_of_le hle) (Nat.lt_succ_of_le hle') hrestarts
    · rintro ⟨hne, hrenamed⟩
      exact haccounted hne hrenamed

/-! ### A record that is disowned -/

namespace Sample

/-- The file system that cannot sync the log. -/
def failsSync : ioSignature.Environment := fun history c =>
  match c with
  | .operation .syncLog => { result := .ok (["input/output error"] : Err) }
  | c => healthy history c

/-- The interactions of a process that opens the empty directory. -/
def opening : List ioSignature.Interaction :=
  [succeeded .makeDirectory, succeeded .readLog, succeeded .readMetadata] ++ replacing

/-- The interactions of a record whose sync fails. -/
def disowning (payload : List UInt8) : List ioSignature.Interaction :=
  writing payload payload.length []
    (⟨.operation .syncLog, .ok (["input/output error"] : Err)⟩ :: succeeded .closeLog :: replacing)

/-- The interactions of an append whose sync fails. -/
def failing : List ioSignature.Interaction := replacing ++ disowning (stampEvent event 1 noon).line

/-- The directory that the append leaves: the record is in the log, and counted as dropped. -/
def disownedDirectory : Directory where
  log := some (stampEvent event 1 noon).line
  metadata := some (droppedMetadata 1 1).payload

theorem not_wrote_replacing :
  ¬ Wrote replacing
  := by
  unfold replacing
  iterate 9 apply not_wrote_cons
  exact not_wrote_nil

theorem opened :
  StoreHistory {} [.opens limits opening]
    ⟨{ metadata := some (reservation 0).payload }, some { limits := limits }⟩
  := by
  have hopen : Runs (newEventStore limits) {} opening (.ok (.ok { limits := limits }))
      { metadata := some (reservation 0).payload } := ⟨healthy, 0, [], rfl⟩
  exact .step .start (.opened hopen)

theorem writeLog_failing (payload : List UInt8) (d : Directory)
    (history : List ioSignature.Interaction) :
  writeLog payload failsSync 0 d history = some (.ok [],
    { d with log := some (d.contents ++ payload) }, [⟨.writeLog payload, .ok (payload.length, [])⟩])
  := by
  have hask : Program.ask ioSignature (.writeLog payload) failsSync 0 d history =
      some (.ok (payload.length, []), d, [⟨.writeLog payload, .ok (payload.length, [])⟩]) := rfl
  unfold writeLog
  rw [bind_eq hask]
  simp only [List.take_length]
  rw [if_neg (fun h => h.2 rfl)]
  rfl

/-- A record whose sync fails is written and disowned. -/
theorem writeRecord_failing (store : EventStore) (event : Event) (payload : List UInt8)
    (d : Directory) (history : List ioSignature.Interaction) :
  writeRecord store event payload failsSync 0 d history = some
    (.ok ⟨store.drop store.sequence, event, ["input/output error"]⟩,
      { log := some (d.contents ++ payload)
        metadata := some (droppedMetadata (store.dropped + 1) store.sequence).payload },
      disowning payload)
  := by
  have hopen : openLog failsSync 0 d history =
      some (.ok [], { d with log := some d.contents }, [succeeded .openLog]) := rfl
  unfold writeRecord
  rw [bind_eq hopen]
  simp only [ne_eq, not_true_eq_false, if_false]
  rw [bind_eq (writeLog_failing payload _ _)]
  rfl

theorem append_failing :
  Runs (append { limits := limits } noon event) { metadata := some (reservation 0).payload } failing
    (.ok ⟨({ limits := limits } : EventStore).drop 1, stampEvent event 1 noon,
      ["input/output error"]⟩) disownedDirectory
  := by
  have hcapacity : capacityDrop { limits := limits }
    (stampEvent event (0 + 1) noon).line = false := by
    decide +kernel
  have hreserve : persistMetadata { schemaVersion := 1, lastAttemptedSequence := 0 + 1 } failsSync 0
      { metadata := some (reservation 0).payload } [] =
        some (.ok [], { metadata := some (reservation 1).payload }, replacing) := rfl
  refine ⟨failsSync, 0, [], ?_⟩
  unfold append
  rw [if_neg (show (0 : UInt64) ≠ greatestSequence by decide)]
  simp only
  rw [hcapacity, if_neg Bool.false_ne_true, bind_eq hreserve]
  simp only [ne_eq, not_true_eq_false, if_false]
  rw [writeRecord_failing]
  rfl

end Sample

/-- The sync of the log fails after the record was written: the files are not opened again. -/
theorem append_bricks :
  StoreHistory {} [.opens Sample.limits Sample.opening]
      ⟨{ metadata := some (reservation 0).payload }, some { limits := Sample.limits }⟩ ∧
    Runs (append { limits := Sample.limits } Sample.noon Sample.event)
      { metadata := some (reservation 0).payload } Sample.failing
      (.ok ⟨({ limits := Sample.limits } : EventStore).drop 1,
        stampEvent Sample.event 1 Sample.noon,
        ["input/output error"]⟩) Sample.disownedDirectory ∧
    landed Sample.failing = (stampEvent Sample.event 1 Sample.noon).line ∧
    ¬ Restarts Sample.limits Sample.disownedDirectory (fun _ => True)
  := by
  have hlanded : landed Sample.failing = (stampEvent Sample.event 1 Sample.noon).line := by
    rw [Sample.failing, landed_append Sample.not_wrote_replacing, Sample.disowning, landed_writing,
      List.take_length]
  refine ⟨Sample.opened, Sample.append_failing, hlanded, ?_⟩
  have hfits : (stampEvent Sample.event (.ofNat 0 + 1) Sample.noon).line.length ≤ scannerLimit := by
    decide +kernel
  have hbytes : Sample.disownedDirectory.contents.length ≤ Sample.limits.maximumBytes := by
    decide +kernel
  have hlog : LogHolds Sample.limits Sample.disownedDirectory (0 + 1) :=
    (files_empty Sample.limits).log.append Sample.recordable_event (by decide) hfits rfl hbytes
  have hspoiled : Spoiled Sample.disownedDirectory none :=
    .overdrawn hlog rfl (by decide) rfl nofun
  exact hspoiled.not_restarts

/-- The append of the sample bricks its directory. -/
theorem append_restartable_sample :
  ¬ Restarts Sample.limits Sample.disownedDirectory (fun _ => True)
  := by
  have hbricked : (standing [.opens Sample.limits Sample.opening]).append Sample.event
      Sample.failing = .bricked := by
    decide +kernel
  intro hrestarts
  exact (append_restartable Sample.opened Sample.append_failing).1.mp hrestarts hbricked

end Supervisor

end RobotestLab
