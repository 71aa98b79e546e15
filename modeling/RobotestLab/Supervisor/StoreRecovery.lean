import RobotestLab.Supervisor.StoreInvariant

/-!
# Recovery of the event store

A state directory that starts empty, whose file system does not fail, and whose processes may stop
between any two operations. Whatever they left is accepted by the next process
(`eventStore_recovers`): it finds every complete record and every sequence that was attempted, and
counts the sequences without a record as dropped.
-/

namespace RobotestLab

namespace Supervisor

open Program

/-! ### Histories without failures -/

/-- An event that the supervisor records: it has a kind, and its time is not negative. -/
structure Recordable (event : Event) : Prop where
  kind : event.kind ≠ ""
  steadyWallNs : 0 ≤ event.steadyWallNs

/-- The lines that are written fit the scanner. -/
def LinesFit (u : List ioSignature.Interaction) : Prop :=
  ∀ (payload : List UInt8) (answer : Nat × Err), ⟨.writeLog payload, .ok answer⟩ ∈ u →
    payload.length ≤ scannerLimit

/-- The step uses the limits and does not meet a failure of the file system. -/
def StoreLabel.Faultless (limits : Limits) : StoreLabel → Prop
  | .opens limits' u => limits' = limits ∧ CleanRun u
  | .appends _ event u _ => Recordable event ∧ LinesFit u ∧ CleanRun u
  | .stops => True

/-- The step uses the limits, and no operation of it fails. -/
def StoreLabel.Unfailing (limits : Limits) : StoreLabel → Prop
  | .opens limits' u => limits' = limits ∧ CleanRun u
  | .appends _ _ u _ => CleanRun u
  | .stops => True

def isRename : ioSignature.Interaction → Bool
  | ⟨.operation .rename, .ok err⟩ => (err : Err) = []
  | _ => false

def isWrite : ioSignature.Interaction → Bool
  | ⟨.writeLog _, .ok _⟩ => true
  | _ => false

/-- The append reserved its sequence, or dropped its event, in the metadata file. -/
def StoreLabel.attempts : StoreLabel → Bool
  | .appends _ _ u _ => u.any isRename
  | _ => false

/-- The append wrote its record. -/
def StoreLabel.writes : StoreLabel → Bool
  | .appends _ _ u _ => u.any isWrite
  | _ => false

/-- The last sequence that was reserved or attempted: they are attempted one after the other. -/
def attempted (tr : List StoreLabel) : Nat := tr.countP StoreLabel.attempts

/-- The number of records that were written. -/
def written (tr : List StoreLabel) : Nat := tr.countP StoreLabel.writes

theorem any_isRename {u : List ioSignature.Interaction} :
  u.any isRename = true ↔ Renamed u
  := by
  rw [List.any_eq_true]
  constructor
  · rintro ⟨⟨c, r⟩, hmem, hx⟩
    match c, r with
    | .operation .rename, .ok err =>
        obtain rfl : err = [] := of_decide_eq_true hx
        exact hmem
  · intro h
    exact ⟨_, h, rfl⟩

theorem any_isWrite {u : List ioSignature.Interaction} :
  u.any isWrite = true ↔ Wrote u
  := by
  rw [List.any_eq_true]
  constructor
  · rintro ⟨⟨c, r⟩, hmem, hx⟩
    match c, r with
    | .writeLog payload, .ok answer => exact ⟨payload, answer, hmem⟩
  · rintro ⟨payload, answer, h⟩
    exact ⟨_, h, rfl⟩

theorem attempted_append (tr : List StoreLabel) (l : StoreLabel) :
  attempted (tr ++ [l]) = attempted tr + if l.attempts then 1 else 0
  := by
  rw [attempted, List.countP_append, List.countP_singleton]
  rfl

theorem written_append (tr : List StoreLabel) (l : StoreLabel) :
  written (tr ++ [l]) = written tr + if l.writes then 1 else 0
  := by
  rw [written, List.countP_append, List.countP_singleton]
  rfl

/-! ### Logs that are scanned -/

/-- The log ends with a newline, unless it is empty. -/
def CompleteLog (payload : List UInt8) : Prop := payload = [] ∨ payload.getLast? = some 10

/-- A line is split off after a complete log. -/
theorem splitLines_append {payload : List UInt8} (h : CompleteLog payload) {line : List UInt8}
    (hline : 10 ∉ line) :
  splitLines (payload ++ (line ++ [10])) = splitLines payload ++ [line]
  := by
  have hsingle : ∀ line : List UInt8, 10 ∉ line → splitLines (line ++ [10]) = [line] := by
    intro line hline
    induction line with
    | nil => rfl
    | cons b bs ih =>
        have hb : b ≠ 10 := fun heq => hline (heq ▸ List.mem_cons_self)
        rw [List.cons_append, splitLines, if_neg hb,
          ih (fun hmem => hline (List.mem_cons_of_mem _ hmem))]
  induction payload with
  | nil => exact hsingle line hline
  | cons b bs ih =>
      have hrest : CompleteLog bs := by
        cases bs with
        | nil => exact Or.inl rfl
        | cons c cs =>
            rcases h with h | h
            · cases h
            · rw [List.getLast?_cons_cons] at h
              exact Or.inr h
      rw [List.cons_append, splitLines, splitLines, ih hrest]
      by_cases hb : b = 10
      · rw [if_pos hb, if_pos hb]
        rfl
      · rw [if_neg hb, if_neg hb]
        cases hsplit : splitLines bs with
        | nil =>
            -- Nothing is left after the byte, so the log does not end with a newline.
            have hjoin := (joinLines_splitLines hrest).1
            rw [hsplit] at hjoin
            rw [← hjoin] at h
            rcases h with h | h
            · cases h
            · exact absurd (Option.some.inj h) hb
        | cons line' lines => rfl

/-- The record of an event that the supervisor records is scanned. -/
theorem scanRecord_line {event : Event} (h : Recordable event) {sequence : UInt64} {now : Utc}
    (hfits : (stampEvent event (sequence + 1) now).line.length ≤ scannerLimit) :
  scanRecord sequence (marshal (stampEvent event (sequence + 1) now).fields) = .ok (sequence + 1)
  := by
  have hlength : (marshal (stampEvent event (sequence + 1) now).fields).length + 1 ≤
      scannerLimit := by
    rw [Event.line, List.length_append] at hfits
    exact hfits
  have hheader := unmarshal_marshal_event (stampEvent event (sequence + 1) now)
  have htimestamp : isTimestamp (String.ofList now.format).toList = true := by
    rw [String.toList_ofList]
    apply isTimestamp_format
  have hvalid : ¬ (event.kind = "" ∨ event.steadyWallNs < 0) := by
    rintro (hkind | hsteady)
    · exact h.kind hkind
    · exact absurd h.steadyWallNs (Int64.not_le.mpr hsteady)
  unfold scanRecord
  rw [if_neg (Nat.not_lt.mpr hlength), dropCr_marshal, hheader]
  simp only [Event.header, stampEvent, htimestamp]
  rw [if_neg (not_not_intro rfl), if_neg (not_not_intro rfl), if_neg hvalid]
  exact if_neg fun heq => Bool.noConfusion heq

/-- The log holds the given number of complete records, within the limits. -/
structure LogHolds (limits : Limits) (d : Directory) (records : Nat) : Prop where
  complete : CompleteLog d.contents
  scan : scanLog d.contents = .ok (.ofNat records)
  count : d.contents.count 10 = records
  entries : records ≤ limits.maximumEntries
  bytes : d.contents.length ≤ limits.maximumBytes

theorem LogHolds.of_contents {limits : Limits} {d d' : Directory} {records : Nat}
    (h : LogHolds limits d records) (hcontents : d'.contents = d.contents) :
  LogHolds limits d' records
  := by
  obtain ⟨hcomplete, hscan, hcount, hentries, hbytes⟩ := h
  rw [← hcontents] at hcomplete hscan hcount hbytes
  exact ⟨hcomplete, hscan, hcount, hentries, hbytes⟩

/-- The number of records fits a sequence. -/
theorem LogHolds.toNat_ofNat {limits : Limits} {d : Directory} {records : Nat}
    (h : LogHolds limits d records) :
  (UInt64.ofNat records).toNat = records
  := by
  apply UInt64.toNat_ofNat_of_lt'
  have := h.entries
  have := limits.maximumEntries_lt
  change records < 2 ^ 64
  omega

/-- The log after one more record. -/
theorem LogHolds.append {limits : Limits} {d d' : Directory} {records : Nat}
    (h : LogHolds limits d records) {event : Event} (hevent : Recordable event) {now : Utc}
    (hentries : records < limits.maximumEntries)
    (hfits : (stampEvent event (.ofNat records + 1) now).line.length ≤ scannerLimit)
    (hcontents : d'.contents =
      d.contents ++ (stampEvent event (.ofNat records + 1) now).line)
    (hbytes : d'.contents.length ≤ limits.maximumBytes) :
  LogHolds limits d' (records + 1)
  := by
  have hnewline := newline_notMem_event (stampEvent event (.ofNat records + 1) now)
  constructor
  · right
    rw [hcontents, Event.line, ← List.append_assoc]
    apply List.getLast?_concat
  · have hsplit := splitLines_append h.complete hnewline
    have hscan := h.scan
    unfold scanLog at hscan ⊢
    rw [hcontents, Event.line, hsplit, List.foldlM_append, hscan]
    simp only [bind, Except.bind, List.foldlM_cons, List.foldlM_nil,
      scanRecord_line hevent hfits]
    rw [UInt64.ofNat_add]
    rfl
  · rw [hcontents, List.count_append, h.count, Event.line, List.count_append,
      List.count_eq_zero.mpr hnewline]
    rfl
  · exact hentries
  · exact hbytes

/-! ### Metadata that are accepted -/

/-- The metadata file accounts for the attempted sequences: all of them have a record or are counted
as dropped, or the last one is only reserved. -/
inductive MetadataHolds (d : Directory) (attempts records : Nat) : Prop
  | absent (file : d.metadata = none) (attempts_eq : attempts = 0) (records_eq : records = 0)
  | dropped (m : EventStoreMetadata) (file : d.metadata = some m.payload)
      (schema : m.schemaVersion = 1) (last : m.lastAttemptedSequence.toNat = attempts)
      (saturated : m.saturated = true) (some_dropped : 0 < m.droppedEvents.toNat)
      (counts : attempts = records + m.droppedEvents.toNat)
  | reserved (m : EventStoreMetadata) (file : d.metadata = some m.payload)
      (schema : m.schemaVersion = 1) (last : m.lastAttemptedSequence.toNat = attempts)
      (unsaturated : m.saturated = false) (none_dropped : m.droppedEvents = 0)
      (records_le : records ≤ attempts) (attempts_le : attempts ≤ records + 1)

/-- The metadata that are persisted when the files are accepted. -/
def recoveredMetadata (last dropped : UInt64) : EventStoreMetadata where
  schemaVersion := 1
  saturated := dropped ≠ 0
  droppedEvents := dropped
  lastAttemptedSequence := last

theorem reconcile_eq {previousSequence : UInt64} {found : Option EventStoreMetadata}
    {m : EventStoreMetadata}
    (hm : found.getD { schemaVersion := 1, lastAttemptedSequence := previousSequence } = m)
    (hschema : m.schemaVersion = 1) (hprevious : previousSequence ≤ m.lastAttemptedSequence)
    (hdropped : m.droppedEvents ≤ m.lastAttemptedSequence - previousSequence)
    (hsaturated : m.saturated = true → m.lastAttemptedSequence - previousSequence ≠ 0) :
  reconcile previousSequence found = .ok
    (recoveredMetadata m.lastAttemptedSequence (m.lastAttemptedSequence - previousSequence))
  := by
  have hmissing : (if m.droppedEvents < m.lastAttemptedSequence - previousSequence then
      m.lastAttemptedSequence - previousSequence else m.droppedEvents) =
        m.lastAttemptedSequence - previousSequence := by
    split
    · rfl
    · rename_i hnot
      exact UInt64.le_antisymm hdropped (UInt64.not_lt.mp hnot)
  unfold reconcile
  rw [hm]
  simp only
  rw [if_neg (not_not_intro hschema), if_neg (UInt64.not_lt.mpr hprevious),
    if_neg (UInt64.not_lt.mpr hdropped), hmissing]
  generalize m.lastAttemptedSequence - previousSequence = missing at hsaturated
  have hor : (m.saturated || decide (missing ≠ 0)) = decide (missing ≠ 0) := by
    cases hsat : m.saturated with
    | false => rfl
    | true => simp [hsaturated hsat]
  rw [hor, if_neg, recoveredMetadata, hschema]
  simp

/-- The files that a process may leave. -/
structure Files (limits : Limits) (d : Directory) (attempts records : Nat) : Prop where
  log : LogHolds limits d records
  metadata : MetadataHolds d attempts records

/-- What is accepted from the files that a process may leave. -/
theorem Files.accepts {limits : Limits} {d : Directory} {attempts records : Nat}
    (h : Files limits d attempts records) :
  ∃ found last dropped, FoundIn d found ∧
    reconcile (.ofNat records) found = .ok (recoveredMetadata last dropped) ∧
    last.toNat = attempts ∧ attempts = records + dropped.toNat ∧
    (found = some (recoveredMetadata last dropped) →
      d.metadata = some (recoveredMetadata last dropped).payload)
  := by
  have hrecords := h.log.toNat_ofNat
  cases h.metadata with
  | absent file attempts_eq records_eq =>
      subst attempts_eq records_eq
      refine ⟨none, 0, 0, ?_, rfl, rfl, rfl, ?_⟩
      · simp only [FoundIn, file]
      · intro hfound
        cases hfound
  | dropped m file schema last saturated some_dropped counts =>
      have hle : UInt64.ofNat records ≤ m.lastAttemptedSequence := by
        rw [UInt64.le_iff_toNat_le, hrecords, last]
        omega
      have hmissing : (m.lastAttemptedSequence - .ofNat records).toNat = m.droppedEvents.toNat := by
        rw [UInt64.toNat_sub_of_le _ _ hle, hrecords, last]
        omega
      refine ⟨some m, m.lastAttemptedSequence, m.lastAttemptedSequence - .ofNat records, ?_, ?_,
        last, ?_, ?_⟩
      · simp only [FoundIn, file]
        exact ⟨m, EventStoreMetadata.decode_payload m, rfl⟩
      · apply reconcile_eq (m := m) rfl schema hle
        · rw [UInt64.le_iff_toNat_le]
          exact Nat.le_of_eq hmissing.symm
        · intro _ hzero
          rw [hzero] at hmissing
          rw [← hmissing] at some_dropped
          cases some_dropped
      · rw [hmissing]
        exact counts
      · intro hsame
        rw [file]
        exact congrArg (fun m => some m.payload) (Option.some.inj hsame)
  | reserved m file schema last unsaturated none_dropped records_le attempts_le =>
      have hle : UInt64.ofNat records ≤ m.lastAttemptedSequence := by
        rw [UInt64.le_iff_toNat_le, hrecords, last]
        exact records_le
      refine ⟨some m, m.lastAttemptedSequence, m.lastAttemptedSequence - .ofNat records, ?_, ?_,
        last, ?_, ?_⟩
      · simp only [FoundIn, file]
        exact ⟨m, EventStoreMetadata.decode_payload m, rfl⟩
      · apply reconcile_eq (m := m) rfl schema hle
        · rw [none_dropped, UInt64.le_iff_toNat_le]
          exact Nat.zero_le _
        · rw [unsaturated]
          intro hsaturated
          cases hsaturated
      · rw [UInt64.toNat_sub_of_le _ _ hle, hrecords, last]
        omega
      · intro hsame
        rw [file]
        exact congrArg (fun m => some m.payload) (Option.some.inj hsame)

/-! ### Steps without failures -/

theorem metadataHolds_of_recovered {d : Directory} {attempts records : Nat} {last dropped : UInt64}
    (hlast : last.toNat = attempts) (hcounts : attempts = records + dropped.toNat)
    (hmetadata : d.metadata = some (recoveredMetadata last dropped).payload) :
  MetadataHolds d attempts records
  := by
  by_cases hzero : dropped = 0
  · rw [hzero] at hcounts
    change attempts = records + 0 at hcounts
    apply MetadataHolds.reserved _ hmetadata rfl hlast
    · simp [recoveredMetadata, hzero]
    · exact hzero
    · omega
    · omega
  · apply MetadataHolds.dropped _ hmetadata rfl hlast
    · simp [recoveredMetadata, hzero]
    · apply Nat.pos_of_ne_zero
      intro h'
      exact hzero (UInt64.toNat_inj.mp h')
    · exact hcounts

theorem foundIn_unique {d : Directory} {found found' : Option EventStoreMetadata}
    (h : FoundIn d found) (h' : FoundIn d found') :
  found = found'
  := by
  unfold FoundIn at h h'
  cases hm : d.metadata with
  | none =>
      rw [hm] at h h'
      exact h.trans h'.symm
  | some payload =>
      rw [hm] at h h'
      obtain ⟨m, hdecode, rfl⟩ := h
      obtain ⟨m', hdecode', rfl⟩ := h'
      rw [hdecode] at hdecode'
      exact hdecode'

/-- What is accepted from the files is what they account for. -/
theorem Files.accepted {limits : Limits} {d : Directory} {attempts records : Nat}
    (h : Files limits d attempts records) {previousSequence : UInt64}
    {found : Option EventStoreMetadata} {metadata : EventStoreMetadata}
    (haccepts : Accepts limits d previousSequence found metadata) :
  ∃ last dropped, metadata = recoveredMetadata last dropped ∧ last.toNat = attempts ∧
    attempts = records + dropped.toNat ∧
    (found = some metadata → d.metadata = some metadata.payload)
  := by
  obtain ⟨found', last, dropped, hfound, hreconcile, hlast, hcounts, hsame⟩ := h.accepts
  obtain rfl := foundIn_unique haccepts.foundIn hfound
  obtain rfl := Except.ok.inj (haccepts.scan.symm.trans h.log.scan)
  obtain rfl := Except.ok.inj (haccepts.reconciles.symm.trans hreconcile)
  exact ⟨last, dropped, rfl, hlast, hcounts, hsame⟩

/-- Opening leaves files that are accepted again, whether it returns or not. -/
theorem files_of_open {limits : Limits} {d d' : Directory} {attempts records : Nat}
    {r : Except Crash (Except Err EventStore)} (h : Files limits d attempts records)
    (hopen : OpenOutcome limits d r d') :
  Files limits d' attempts records
  := by
  cases hopen with
  | rejected => exact h
  | unchanged => exact h
  | persisted accepts replaces =>
      obtain ⟨last, dropped, rfl, hlast, hcounts, -⟩ := h.accepted accepts
      rcases replaces.directory with ⟨rfl, -⟩ | ⟨rfl, -⟩
      · exact h
      · exact ⟨h.log.of_contents rfl, metadataHolds_of_recovered hlast hcounts rfl⟩

/-- The store of the running process agrees with the files and with what was attempted. -/
structure RunningStore (limits : Limits) (d : Directory) (attempts records : Nat)
    (store : EventStore) : Prop where
  log : LogHolds limits d records
  limits_eq : store.limits = limits
  sequence : store.sequence.toNat = attempts
  entries : store.entries = records
  counts : attempts = records + store.dropped.toNat
  saturated : store.saturated = decide (store.dropped ≠ 0)
  bytes : store.bytes = d.contents.length
  metadata : d.metadata = some (recoveredMetadata store.sequence store.dropped).payload

theorem RunningStore.files {limits : Limits} {d : Directory} {attempts records : Nat}
    {store : EventStore} (h : RunningStore limits d attempts records store) :
  Files limits d attempts records
  := ⟨h.log, metadataHolds_of_recovered h.sequence h.counts h.metadata⟩

theorem runningStore_openedStore {limits : Limits} {d d' : Directory} {attempts records : Nat}
    (h : LogHolds limits d records) {last dropped : UInt64} (hlast : last.toNat = attempts)
    (hcounts : attempts = records + dropped.toNat) (hcontents : d'.contents = d.contents)
    (hmetadata : d'.metadata = some (recoveredMetadata last dropped).payload) :
  RunningStore limits d' attempts records (openedStore limits d (recoveredMetadata last dropped))
  := by
  refine ⟨h.of_contents hcontents, rfl, hlast, h.count, hcounts, rfl, ?_, hmetadata⟩
  rw [hcontents]
  rfl

theorem running_of_open {limits : Limits} {d d' : Directory} {attempts records : Nat}
    {store : EventStore} (h : Files limits d attempts records)
    (hopen : OpenOutcome limits d (.ok (.ok store)) d') :
  RunningStore limits d' attempts records store
  := by
  generalize hr : (.ok (.ok store) : Except Crash (Except Err EventStore)) = r at hopen
  cases hopen with
  | rejected fails => exact absurd hr.symm (fails store)
  | unchanged accepts =>
      obtain rfl := Except.ok.inj (Except.ok.inj hr)
      obtain ⟨last, dropped, rfl, hlast, hcounts, hsame⟩ := h.accepted accepts
      exact runningStore_openedStore h.log hlast hcounts rfl (hsame rfl)
  | @persisted previousSequence found metadata v y d' accepts replaces =>
      obtain ⟨last, dropped, rfl, hlast, hcounts, -⟩ := h.accepted accepts
      cases y with
      | error e => cases hr
      | ok err =>
          simp only [Except.map] at hr
          split at hr
          · rename_i hnil
            obtain rfl := Except.ok.inj (Except.ok.inj hr)
            have hrenamed := replaces.renamed (congrArg Except.ok hnil)
            rcases replaces.directory with ⟨-, hkept⟩ | ⟨rfl, -⟩
            · exact absurd hrenamed hkept
            · exact runningStore_openedStore h.log hlast hcounts rfl rfl
          · cases Except.ok.inj hr

/-! ### Appends without failures -/

section Append

variable {limits : Limits} {d d' : Directory} {attempts records : Nat} {store : EventStore}
  {u : List ioSignature.Interaction}

/-- The store after a durable drop. -/
theorem RunningStore.drop (h : RunningStore limits d attempts records store)
    (hroom : store.sequence ≠ greatestSequence) (hcounts : store.dropped ≠ greatestSequence) :
  RunningStore limits
    { d with metadata := some (droppedMetadata (store.dropped + 1) (store.sequence + 1)).payload }
    (attempts + 1) records (store.drop (store.sequence + 1))
  := by
  have hdropped := toNat_next hcounts
  have hne : store.dropped + 1 ≠ 0 := by
    intro hzero
    rw [hzero] at hdropped
    exact absurd hdropped (Nat.zero_ne_add_one _)
  refine ⟨h.log.of_contents rfl, h.limits_eq, ?_, h.entries, ?_, ?_, h.bytes, ?_⟩
  · change (store.sequence + 1).toNat = attempts + 1
    rw [toNat_next hroom, h.sequence]
  · change attempts + 1 = records + (store.dropped + 1).toNat
    rw [hdropped, h.counts]
    omega
  · change true = decide (store.dropped + 1 ≠ 0)
    simp [hne]
  · simp [recoveredMetadata, droppedMetadata, EventStore.drop, hne]

/-- A store that writes a record has dropped nothing. -/
theorem RunningStore.writes (h : RunningStore limits d attempts records store)
    {payload : List UInt8}
    (hcapacity : capacityDrop store payload = false) :
  store.saturated = false ∧ store.dropped = 0 ∧ attempts = records ∧
    records < limits.maximumEntries ∧ d.contents.length + payload.length ≤ limits.maximumBytes ∧
    store.sequence = .ofNat records
  := by
  obtain ⟨hsaturated, hentries, hbytes⟩ := capacityDrop_eq_false.mp hcapacity
  have hdropped : store.dropped = 0 := by
    have hsat := h.saturated
    rw [hsaturated] at hsat
    simpa using hsat.symm
  have hcounts : attempts = records := by
    have := h.counts
    rw [hdropped] at this
    exact this
  refine ⟨hsaturated, hdropped, hcounts, ?_, ?_, ?_⟩
  · rw [← h.limits_eq, ← h.entries]
    exact hentries
  · rw [← h.limits_eq, ← h.bytes]
    exact hbytes
  · apply UInt64.toNat_inj.mp
    rw [h.sequence, h.log.toNat_ofNat, hcounts]

/-- The files after the sequence of an event was reserved. -/
theorem RunningStore.reserved (h : RunningStore limits d attempts records store)
    {payload : List UInt8} (hroom : store.sequence ≠ greatestSequence)
    (hcapacity : capacityDrop store payload = false) (hcontents : d'.contents = d.contents)
    (hmetadata : d'.metadata = some (reservation (store.sequence + 1)).payload) :
  Files limits d' (attempts + 1) records
  := by
  obtain ⟨-, -, hcounts, -⟩ := h.writes hcapacity
  refine ⟨h.log.of_contents hcontents, ?_⟩
  apply MetadataHolds.reserved _ hmetadata rfl
  · change (store.sequence + 1).toNat = attempts + 1
    rw [toNat_next hroom, h.sequence]
  · rfl
  · rfl
  · omega
  · omega

/-- The log after the record of an event was written. -/
theorem RunningStore.recorded (h : RunningStore limits d attempts records store) {event : Event}
    (hevent : Recordable event) {now : Utc}
    (hcapacity : capacityDrop store (stampEvent event (store.sequence + 1) now).line = false)
    (hfits : (stampEvent event (store.sequence + 1) now).line.length ≤ scannerLimit)
    (hcontents : d'.contents =
      d.contents ++ (stampEvent event (store.sequence + 1) now).line) :
  LogHolds limits d' (records + 1)
  := by
  obtain ⟨-, -, -, hentries, hbytes, hsequence⟩ := h.writes hcapacity
  rw [hsequence] at hfits hcontents hbytes
  apply h.log.append hevent hentries hfits hcontents
  rw [hcontents, List.length_append]
  exact hbytes

/-- The event of an append that returns without an error is the event with its sequence. -/
theorem event_of_append {event : Event} {result : Appended}
    (happend : AppendOutcome store event d u (.ok result) d') (hnil : result.err = []) :
  store.sequence ≠ greatestSequence ∧ result.event = event
  := by
  generalize hr : (.ok result : Except Crash Appended) = r at happend
  cases happend with
  | refused _ fails _ =>
      obtain rfl := Except.ok.inj hr
      exact absurd hnil fails
  | @dropped y d' room =>
      cases y with
      | error e => cases hr
      | ok err =>
          obtain rfl := Except.ok.inj hr
          exact ⟨room, rfl⟩
  | @unreserved d₁ d' v w cause y room =>
      cases y with
      | error e => cases hr
      | ok err =>
          obtain rfl := Except.ok.inj hr
          exact ⟨room, rfl⟩
  | stopped => cases hr
  | recorded room _ _ _ _ record =>
      cases record with
      | stopped => cases hr
      | @failed d₁ d' v w cause y =>
          cases y with
          | error e => cases hr
          | ok err =>
              obtain rfl := Except.ok.inj hr
              exact ⟨room, rfl⟩
      | written =>
          obtain rfl := Except.ok.inj hr
          exact ⟨room, rfl⟩

/-- How many sequences are attempted, and how many records are written, in the interactions. -/
def renames (u : List ioSignature.Interaction) : Nat := if u.any isRename then 1 else 0

def recordsIn (u : List ioSignature.Interaction) : Nat := if u.any isWrite then 1 else 0

theorem renames_of_renamed (h : Renamed u) :
  renames u = 1
  := if_pos (any_isRename.mpr h)

theorem renames_of_not (h : ¬ Renamed u) :
  renames u = 0
  := if_neg (any_isRename.not.mpr h)

theorem recordsIn_of_wrote (h : Wrote u) :
  recordsIn u = 1
  := if_pos (any_isWrite.mpr h)

theorem recordsIn_of_not (h : ¬ Wrote u) :
  recordsIn u = 0
  := if_neg (any_isWrite.not.mpr h)

theorem LinesFit.right {v w : List ioSignature.Interaction} (h : LinesFit (v ++ w)) :
  LinesFit w
  := fun payload answer hmem => h payload answer (List.mem_append_right _ hmem)

theorem line_of_wrote {payload : List UInt8} (h : WritesOnly payload u) (hwrote : Wrote u)
    (hfits : LinesFit u) :
  payload.length ≤ scannerLimit
  := by
  obtain ⟨payload', answer, hmem⟩ := hwrote
  rw [← h payload' _ hmem]
  exact hfits payload' _ hmem

/-- An append that returns leaves a store that agrees with the files. -/
theorem running_of_append (h : RunningStore limits d attempts records store) {event : Event}
    (hevent : Recordable event) {now : Utc} {result : Appended}
    (happend : AppendOutcome store (stampEvent event (store.sequence + 1) now) d u (.ok result) d')
    (hfits : LinesFit u) (hclean : CleanRun u) :
  RunningStore limits d' (attempts + renames u) (records + recordsIn u) result.store
  := by
  generalize hr : (.ok result : Except Crash Appended) = r at happend
  cases happend with
  | refused interactions fails exhausted =>
      obtain rfl := Except.ok.inj hr
      rw [interactions]
      exact h
  | @dropped y d' room capacity counts replaces =>
      cases y with
      | error e => cases hr
      | ok err =>
          obtain rfl := Except.ok.inj hr
          have hrenamed := replaces.renamed (congrArg Except.ok (replaces.clean hclean err rfl))
          rw [renames_of_renamed hrenamed, recordsIn_of_not replaces.unwritten]
          rcases replaces.directory with ⟨-, hkept⟩ | ⟨rfl, -⟩
          · exact absurd hrenamed hkept
          · exact h.drop room counts
  | unreserved _ _ interactions reserves fails _ =>
      rw [interactions, cleanRun_append] at hclean
      exact absurd (reserves.clean hclean.1 _ rfl) fails
  | stopped => cases hr
  | @recorded v w r d' room capacity interactions renamed unwritten record =>
      rw [interactions, cleanRun_append] at hclean
      cases record with
      | stopped => cases hr
      | failed interactions' log fails unclean replaces =>
          rw [interactions', cleanRun_append] at hclean
          exact absurd hclean.2.1 unclean
      | written unrenamed wrote lines clean =>
          obtain rfl := Except.ok.inj hr
          have hrenames : renames u = 1 := by
            apply renames_of_renamed
            rw [interactions]
            exact renamed_append.mpr (Or.inl renamed)
          have hrecords : recordsIn u = 1 := by
            apply recordsIn_of_wrote
            rw [interactions]
            exact wrote_append.mpr (Or.inr wrote)
          rw [hrenames, hrecords]
          obtain ⟨hsaturated, hdropped, hcounts, hentries, hbytes, -⟩ := h.writes capacity
          have hline := line_of_wrote lines wrote (LinesFit.right (interactions ▸ hfits))
          refine ⟨h.recorded hevent capacity hline rfl, h.limits_eq, ?_, ?_, ?_, ?_, ?_, ?_⟩
          · change (store.sequence + 1).toNat = attempts + 1
            rw [toNat_next room, h.sequence]
          · change store.entries + 1 = records + 1
            rw [h.entries]
          · change attempts + 1 = records + 1 + store.dropped.toNat
            rw [hdropped, hcounts]
            rfl
          · exact h.saturated
          · change store.bytes + _ = (d.contents ++ _).length
            rw [List.length_append, h.bytes]
          · simp [recoveredMetadata, reservation, EventStore.written, hdropped]

/-- An append that never returns leaves files that are accepted. -/
theorem files_of_crash (h : RunningStore limits d attempts records store) {event : Event}
    (hevent : Recordable event) {now : Utc} {e : Crash}
    (happend : AppendOutcome store (stampEvent event (store.sequence + 1) now) d u (.error e) d')
    (hfits : LinesFit u) (hclean : CleanRun u) :
  Files limits d' (attempts + renames u) (records + recordsIn u)
  := by
  generalize hr : (.error e : Except Crash Appended) = r at happend
  cases happend with
  | refused => cases hr
  | @dropped y d' room capacity counts replaces =>
      rw [recordsIn_of_not replaces.unwritten]
      rcases replaces.directory with ⟨rfl, hkept⟩ | ⟨rfl, hrenamed⟩
      · rw [renames_of_not hkept]
        exact h.files
      · rw [renames_of_renamed hrenamed]
        exact (h.drop room counts).files
  | unreserved _ _ interactions reserves fails _ =>
      rw [interactions, cleanRun_append] at hclean
      exact absurd (reserves.clean hclean.1 _ rfl) fails
  | stopped room capacity reserves =>
      rw [recordsIn_of_not reserves.unwritten]
      rcases reserves.directory with ⟨rfl, hkept⟩ | ⟨rfl, hrenamed⟩
      · rw [renames_of_not hkept]
        exact h.files
      · rw [renames_of_renamed hrenamed]
        exact h.reserved room capacity rfl rfl
  | @recorded v w r d' room capacity interactions renamed unwritten record =>
      rw [interactions, cleanRun_append] at hclean
      have hrenames : renames u = 1 := by
        apply renames_of_renamed
        rw [interactions]
        exact renamed_append.mpr (Or.inl renamed)
      have hwrote : Wrote u ↔ Wrote w := by
        rw [interactions, wrote_append]
        exact or_iff_right unwritten
      rw [hrenames]
      cases record with
      | stopped log unrenamed lines clean =>
          rcases clean hclean.2 with ⟨hnone, hcontents⟩ | ⟨hsome, hcontents⟩
          · rw [recordsIn_of_not (hwrote.not.mpr hnone)]
            exact h.reserved room capacity hcontents log.1
          · rw [recordsIn_of_wrote (hwrote.mpr hsome)]
            obtain ⟨-, -, hcounts, -⟩ := h.writes capacity
            have hline := line_of_wrote lines hsome (LinesFit.right (interactions ▸ hfits))
            refine ⟨h.recorded hevent capacity hline hcontents, ?_⟩
            apply MetadataHolds.reserved _ log.1 rfl
            · change (store.sequence + 1).toNat = attempts + 1
              rw [toNat_next room, h.sequence]
            · rfl
            · rfl
            · omega
            · omega
      | failed interactions' log fails unclean replaces =>
          rw [interactions', cleanRun_append] at hclean
          exact absurd hclean.2.1 unclean
      | written => cases hr

end Append

/-! ### Recovery -/

/-- What holds of a state directory without failures at any time. -/
structure Recoverable (limits : Limits) (tr : List StoreLabel) (s : StoreSystem) : Prop where
  files : Files limits s.directory (attempted tr) (written tr)
  running : ∀ store, s.store = some store →
    RunningStore limits s.directory (attempted tr) (written tr) store

theorem files_empty (limits : Limits) :
  Files limits {} 0 0
  := ⟨⟨Or.inl rfl, rfl, rfl, Nat.zero_le _, Nat.zero_le _⟩, .absent rfl rfl rfl⟩

variable {tr : List StoreLabel} {s : StoreSystem}

/-- A step that is no append. -/
theorem recoverable_of_silent {limits : Limits}
    {l : StoreLabel} (hattempts : l.attempts = false) (hwrites : l.writes = false)
    (hfiles : Files limits s.directory (attempted tr) (written tr))
    (hrunning : ∀ store, s.store = some store →
      RunningStore limits s.directory (attempted tr) (written tr) store) :
  Recoverable limits (tr ++ [l]) s
  := by
  have hattempted : attempted (tr ++ [l]) = attempted tr := by
    rw [attempted_append, hattempts]
    rfl
  have hwritten : written (tr ++ [l]) = written tr := by
    rw [written_append, hwrites]
    rfl
  constructor
  · rw [hattempted, hwritten]
    exact hfiles
  · rw [hattempted, hwritten]
    exact hrunning

theorem recoverable_step {limits : Limits} {s s' : StoreSystem}
    {l : StoreLabel} (h : Recoverable limits tr s) (hl : l.Faultless limits)
    (hstep : StoreStep s l s') :
  Recoverable limits (tr ++ [l]) s'
  := by
  cases hstep with
  | opened run =>
      obtain ⟨rfl, -⟩ := hl
      have hrunning := running_of_open h.files (runs_newEventStore run)
      apply recoverable_of_silent rfl rfl hrunning.files
      rintro _ ⟨⟩
      exact hrunning
  | notOpened run fails =>
      obtain ⟨rfl, -⟩ := hl
      apply recoverable_of_silent rfl rfl (files_of_open h.files (runs_newEventStore run))
      rintro _ ⟨⟩
  | appended run =>
      obtain ⟨hevent, hfits, hclean⟩ := hl
      have hrunning := running_of_append (h.running _ rfl) hevent (runs_append run) hfits hclean
      constructor
      · rw [attempted_append, written_append]
        exact hrunning.files
      · rw [attempted_append, written_append]
        rintro _ ⟨⟩
        exact hrunning
  | crashed run =>
      obtain ⟨hevent, hfits, hclean⟩ := hl
      constructor
      · rw [attempted_append, written_append]
        exact files_of_crash (h.running _ rfl) hevent (runs_append run) hfits hclean
      · rintro _ ⟨⟩
  | stopped =>
      apply recoverable_of_silent rfl rfl
      · exact h.files
      · rintro _ ⟨⟩

theorem recoverable_of_history {limits : Limits}
    (h : StoreHistory {} tr s) (hfaultless : ∀ l ∈ tr, l.Faultless limits) :
  Recoverable limits tr s
  := by
  induction h with
  | start => exact ⟨files_empty limits, nofun⟩
  | step _ hstep ih =>
      rw [List.forall_mem_append] at hfaultless
      apply recoverable_step (ih hfaultless.1) _ hstep
      exact hfaultless.2 _ (List.mem_singleton.mpr rfl)

/-- The store that the next process gets from the files: its entries are the complete records, its
sequence is the last attempted one, and every attempted sequence without a record is a durable
drop. -/
structure Recovers (limits : Limits) (d : Directory) (attempts records : Nat) (store : EventStore)
    (d' : Directory) : Prop where
  limits_eq : store.limits = limits
  entries : store.entries = records
  complete : d.contents.count 10 = records
  sequence : store.sequence.toNat = attempts
  dropped : store.dropped.toNat = attempts - records
  saturated : store.saturated = true ↔ 0 < store.dropped.toNat
  log : d'.log = d.log
  durable : d'.metadata = some (recoveredMetadata store.sequence store.dropped).payload

theorem Files.recovers {limits : Limits} {d : Directory} {attempts records : Nat}
    (h : Files limits d attempts records) (fuel : Nat) (history : List ioSignature.Interaction) :
  ∃ store d' u, newEventStore limits healthy fuel d history = some (.ok (.ok store), d', u) ∧
    Recovers limits d attempts records store d'
  := by
  obtain ⟨found, last, dropped, hfound, hreconcile, hlast, hcounts, hsame⟩ := h.accepts
  have hentries : d.contents.count 10 ≤ limits.maximumEntries := by
    rw [h.log.count]
    exact h.log.entries
  have haccepts : Accepts limits d (.ofNat records) found (recoveredMetadata last dropped) :=
    ⟨h.log.bytes, h.log.complete, hentries, h.log.scan, hfound, hreconcile⟩
  obtain ⟨d', u, hrun, hdirectory⟩ := newEventStore_healthy haccepts fuel history
  refine ⟨_, d', u, hrun, rfl, h.log.count, h.log.count, hlast, ?_, ?_, ?_, ?_⟩
  · change dropped.toNat = attempts - records
    omega
  · change decide (dropped ≠ 0) = true ↔ 0 < dropped.toNat
    rw [decide_eq_true_eq, Nat.pos_iff_ne_zero, ne_eq, ne_eq, ← UInt64.toNat_inj]
    rfl
  · rcases hdirectory with ⟨-, rfl⟩ | rfl
    · rfl
    · rfl
  · rcases hdirectory with ⟨hfound', rfl⟩ | rfl
    · exact hsame hfound'
    · rfl

/-- From an empty directory, without failures of the file system, whatever processes left that
stopped at any point is opened with the same limits, and accounts for every record and every
attempted sequence. A running store gives its next event a fresh sequence. A process that stops
between the reservation of a sequence and the write of its record leaves one durable drop. -/
theorem eventStore_recovers {limits : Limits} {tr : List StoreLabel} {s : StoreSystem}
    (h : StoreHistory {} tr s) (hfaultless : ∀ l ∈ tr, l.Faultless limits) :
  (∀ fuel history, ∃ store d' u,
    newEventStore limits healthy fuel s.directory history = some (.ok (.ok store), d', u) ∧
      Recovers limits s.directory (attempted tr) (written tr) store d') ∧
  ∀ store, s.store = some store →
    (∀ now event u result d', Runs (append store now event) s.directory u (.ok result) d' →
      result.err = [] → result.event.sequence.toNat = attempted tr + 1) ∧
    ∀ now event u e d', store.saturated = false → Recordable event → CleanRun u →
      Runs (append store now event) s.directory u (.error e) d' → Renamed u → ¬ Wrote u →
      ∀ fuel history, ∃ store' d'' v,
        newEventStore limits healthy fuel d' history = some (.ok (.ok store'), d'', v) ∧
          store'.dropped = 1 ∧ store'.sequence.toNat = attempted tr + 1 ∧
          d''.metadata = some (recoveredMetadata store'.sequence 1).payload
  := by
  have hrecoverable := recoverable_of_history h hfaultless
  refine ⟨hrecoverable.files.recovers, ?_⟩
  intro store hstore
  have hrunning := hrecoverable.running store hstore
  constructor
  · intro now event u result d' hrun hnil
    obtain ⟨hroom, hevent⟩ := event_of_append (runs_append hrun) hnil
    rw [hevent]
    change (store.sequence + 1).toNat = attempted tr + 1
    rw [toNat_next hroom, hrunning.sequence]
  · intro now event u e d' hunsaturated hevent hclean hrun hrenamed hunwritten fuel history
    have hfits : LinesFit u := by
      intro payload answer hmem
      exact absurd ⟨payload, answer, hmem⟩ hunwritten
    have hfiles := files_of_crash hrunning hevent (runs_append hrun) hfits hclean
    rw [renames_of_renamed hrenamed, recordsIn_of_not hunwritten] at hfiles
    obtain ⟨store', d'', v, hopen, hrecovers⟩ := hfiles.recovers fuel history
    have hzero : store.dropped = 0 := by
      have hsaturated := hrunning.saturated
      rw [hunsaturated] at hsaturated
      simpa using hsaturated.symm
    have hcounts : attempted tr = written tr := by
      have hcounts := hrunning.counts
      rw [hzero] at hcounts
      exact hcounts
    have hdropped : store'.dropped = 1 := by
      apply UInt64.toNat_inj.mp
      rw [hrecovers.dropped, hcounts]
      exact Nat.add_sub_cancel_left _ _
    refine ⟨store', d'', v, hopen, hdropped, hrecovers.sequence, ?_⟩
    rw [hrecovers.durable, hdropped]

/-! ### A log that is not longer than a line of the scanner -/

/-- The step appends an event that the supervisor records, or it appends nothing. -/
def StoreLabel.Records : StoreLabel → Prop
  | .appends _ event _ _ => Recordable event
  | _ => True

theorem linesFit_of_not {u : List ioSignature.Interaction} (h : ¬ Wrote u) :
  LinesFit u
  := fun payload answer hmem => absurd ⟨payload, answer, hmem⟩ h

/-- A log that is not longer than a line of the scanner only gets lines that fit it. -/
theorem linesFit_of_append {store : EventStore} {event : Event} {d d' : Directory}
    {u : List ioSignature.Interaction} {r : Except Crash Appended}
    (h : AppendOutcome store event d u r d') (hclean : CleanRun u)
    (hbytes : store.limits.maximumBytes ≤ scannerLimit) :
  LinesFit u
  := by
  cases h with
  | refused interactions _ _ =>
      rw [interactions]
      exact linesFit_of_not not_wrote_nil
  | dropped _ _ _ replaces => exact linesFit_of_not replaces.unwritten
  | unreserved _ _ interactions reserves fails _ =>
      rw [interactions, cleanRun_append] at hclean
      exact absurd (reserves.clean hclean.1 _ rfl) fails
  | stopped _ _ reserves => exact linesFit_of_not reserves.unwritten
  | @recorded v w _ _ _ capacity interactions _ unwritten record =>
      rw [interactions] at hclean ⊢
      have hline : event.line.length ≤ scannerLimit := by
        have hroom := (capacityDrop_eq_false.mp capacity).2.2
        omega
      have hlines : WritesOnly event.line w → LinesFit (v ++ w) := by
        intro hlines payload answer hmem
        rcases List.mem_append.mp hmem with hmem | hmem
        · exact absurd ⟨payload, answer, hmem⟩ unwritten
        · rw [hlines payload _ hmem]
          exact hline
      cases record with
      | stopped _ _ lines _ => exact hlines lines
      | failed interactions' _ _ unclean _ =>
          rw [interactions', cleanRun_append, cleanRun_append] at hclean
          exact absurd hclean.2.1 unclean
      | written _ _ lines _ => exact hlines lines

theorem limits_of_append {store : EventStore} {event : Event} {d d' : Directory}
    {u : List ioSignature.Interaction} {result : Appended}
    (h : AppendOutcome store event d u (.ok result) d') :
  result.store.limits = store.limits
  := by
  generalize hr : (Except.ok result : Except Crash Appended) = r at h
  cases h with
  | refused =>
      obtain rfl := Except.ok.inj hr
      rfl
  | @dropped y =>
      cases y with
      | error e => cases hr
      | ok err =>
          obtain rfl := Except.ok.inj hr
          rfl
  | @unreserved d₁ d' v w cause y =>
      cases y with
      | error e => cases hr
      | ok err =>
          obtain rfl := Except.ok.inj hr
          rfl
  | stopped => cases hr
  | @recorded v w r d' room capacity interactions renamed unwritten record =>
      cases record with
      | stopped => cases hr
      | @failed d₁ d' v w cause y =>
          cases y with
          | error e => cases hr
          | ok err =>
              obtain rfl := Except.ok.inj hr
              rfl
      | written =>
          obtain rfl := Except.ok.inj hr
          rfl

theorem limits_of_open {limits : Limits} {store : EventStore} {d d' : Directory}
    (h : OpenOutcome limits d (.ok (.ok store)) d') :
  store.limits = limits
  := by
  generalize hr : (.ok (.ok store) : Except Crash (Except Err EventStore)) = r at h
  cases h with
  | rejected fails => exact absurd hr.symm (fails store)
  | unchanged =>
      obtain rfl := Except.ok.inj (Except.ok.inj hr)
      rfl
  | @persisted _ _ _ _ y =>
      cases y with
      | error e => cases hr
      | ok err =>
          simp only [Except.map] at hr
          split at hr
          · obtain rfl := Except.ok.inj (Except.ok.inj hr)
            rfl
          · cases Except.ok.inj hr

/-- With a log that is not longer than a line of the scanner, no step fails that appends what the
supervisor records on a file system without failures. -/
theorem faultless_of_history {limits : Limits}
    (h : StoreHistory {} tr s) (hbytes : limits.maximumBytes ≤ scannerLimit)
    (hrecords : ∀ l ∈ tr, l.Records) (hunfailing : ∀ l ∈ tr, l.Unfailing limits) :
  (∀ l ∈ tr, l.Faultless limits) ∧ ∀ store, s.store = some store → store.limits = limits
  := by
  induction h with
  | start =>
      constructor
      · intro l hl
        cases hl
      · rintro _ ⟨⟩
  | @step tr s s' l _ hstep ih =>
      rw [List.forall_mem_append, List.forall_mem_singleton] at hrecords hunfailing
      obtain ⟨hfaultless, hlimits⟩ := ih hrecords.1 hunfailing.1
      suffices hlast : l.Faultless limits ∧ ∀ store, s'.store = some store →
          store.limits = limits by
        rw [List.forall_mem_append, List.forall_mem_singleton]
        exact ⟨⟨hfaultless, hlast.1⟩, hlast.2⟩
      have hrecord := hrecords.2
      have hclean := hunfailing.2
      cases hstep with
      | opened run =>
          obtain ⟨rfl, hclean⟩ := hclean
          refine ⟨⟨rfl, hclean⟩, ?_⟩
          rintro _ ⟨⟩
          exact limits_of_open (runs_newEventStore run)
      | notOpened run fails =>
          refine ⟨hclean, ?_⟩
          rintro _ ⟨⟩
      | appended run =>
          have hstore := hlimits _ rfl
          constructor
          · refine ⟨hrecord, linesFit_of_append (runs_append run) hclean ?_, hclean⟩
            rw [hstore]
            exact hbytes
          · rintro _ ⟨⟩
            exact (limits_of_append (runs_append run)).trans hstore
      | crashed run =>
          constructor
          · refine ⟨hrecord, linesFit_of_append (runs_append run) hclean ?_, hclean⟩
            rw [hlimits _ rfl]
            exact hbytes
          · rintro _ ⟨⟩
      | stopped =>
          refine ⟨trivial, ?_⟩
          rintro _ ⟨⟩

/-! ### A sample crash -/

namespace Sample

/-- The file system of a process that stops before it opens the log. -/
def stopsAtLog : ioSignature.Environment := fun history c =>
  match c with
  | .operation .openLog => { result := .error .crash }
  | c => healthy history c

/-- The interactions of the append that never returns. -/
def crashing : List ioSignature.Interaction :=
  replacing ++ [⟨.operation .openLog, .error .crash⟩]

theorem cleanRun_crashing :
  CleanRun crashing
  := by
  apply cleanRun_append.mpr ⟨cleanRun_replacing, ?_⟩
  intro x hx
  obtain rfl := List.mem_singleton.mp hx
  exact trivial

theorem cleanRun_opening :
  CleanRun ([succeeded .makeDirectory, succeeded .readLog, succeeded .readMetadata] ++ replacing)
  := by
  apply cleanRun_append.mpr ⟨?_, cleanRun_replacing⟩
  intro x hx
  simp only [List.mem_cons, List.not_mem_nil, or_false] at hx
  rcases hx with rfl | rfl | rfl <;> rfl

theorem not_wrote_crashing :
  ¬ Wrote crashing
  := by
  unfold crashing replacing
  iterate 10 apply not_wrote_cons
  exact not_wrote_nil

theorem recordable_event :
  Recordable event
  := ⟨by decide, by decide⟩

/-- A process opens the empty directory, reserves the first sequence, and stops. -/
theorem crashes :
  ∃ tr, StoreHistory {} tr ⟨{ metadata := some (reservation 1).payload }, none⟩ ∧
    (∀ l ∈ tr, l.Faultless limits) ∧ attempted tr = 1 ∧ written tr = 0
  := by
  have hcapacity : capacityDrop { limits := limits } (stampEvent event 1 noon).line = false := by
    decide +kernel
  have happend : Runs (append { limits := limits } noon event)
      { metadata := some (reservation 0).payload } crashing (.error .crash)
        { metadata := some (reservation 1).payload } := by
    refine ⟨stopsAtLog, 0, [], ?_⟩
    have hreserve :
        persistMetadata { schemaVersion := 1, lastAttemptedSequence := 0 + 1 } stopsAtLog 0
            { metadata := some (reservation 0).payload } [] =
          some (.ok [], { metadata := some (reservation 1).payload }, replacing) := rfl
    unfold append
    rw [if_neg (show (0 : UInt64) ≠ greatestSequence by decide)]
    simp only
    rw [show capacityDrop { limits := limits } (stampEvent event (0 + 1) noon).line = false from
      hcapacity, if_neg Bool.false_ne_true, bind_eq hreserve]
    rfl
  refine ⟨_, .step (.step .start (.opened runs_newEventStore_empty)) (.crashed happend), ?_, rfl,
    rfl⟩
  intro l hl
  simp only [List.nil_append, List.cons_append, List.mem_cons, List.not_mem_nil, or_false] at hl
  rcases hl with rfl | rfl
  · exact ⟨rfl, cleanRun_opening⟩
  · refine ⟨recordable_event, ?_, cleanRun_crashing⟩
    intro payload answer hmem
    exact absurd ⟨payload, answer, hmem⟩ not_wrote_crashing

end Sample

/-- The next process finds the reserved sequence of the sample as a durable drop. -/
theorem eventStore_recovers_sample :
  ∃ store d' u, newEventStore Sample.limits healthy 0
    { metadata := some (reservation 1).payload } [] =
      some (.ok (.ok store), d', u) ∧
    Recovers Sample.limits { metadata := some (reservation 1).payload } 1 0 store d'
  := by
  obtain ⟨tr, hhistory, hfaultless, hattempted, hwritten⟩ := Sample.crashes
  have hrecovers := (eventStore_recovers hhistory hfaultless).1 0 []
  rw [hattempted, hwritten] at hrecovers
  exact hrecovers

/-! ### An event without a kind -/

namespace Sample

def kindless : Event := { kind := "" }

/-- The directory after an event without a kind. -/
def kindlessDirectory : Directory where
  log := some (stampEvent kindless 1 noon).line
  metadata := some (reservation 1).payload

theorem scanLog_kindless :
  scanLog kindlessDirectory.contents =
    .error ["existing event log has an invalid kind or steady_wall_ns"]
  := by
  decide +kernel

end Sample

/-- A process appends an event without a kind to the empty directory. No operation fails, and the
record is written, but no process opens the log again. -/
theorem kindless_event_refused :
  ∃ tr s, StoreHistory {} tr s ∧ (∀ l ∈ tr, l.Unfailing Sample.limits) ∧
    ∀ env fuel history store d' u,
      newEventStore Sample.limits env fuel s.directory history ≠ some (.ok (.ok store), d', u)
  := by
  have hcapacity : capacityDrop { limits := Sample.limits }
      (stampEvent Sample.kindless 1 Sample.noon).line = false := by
    decide +kernel
  have hroom : (0 : UInt64) ≠ greatestSequence := by
    decide
  have happend : Runs (append { limits := Sample.limits } Sample.noon Sample.kindless)
      { metadata := some (reservation 0).payload } _ _ Sample.kindlessDirectory :=
    Sample.runs_append_healthy hroom hcapacity
  refine ⟨_, _, .step (.step .start (.opened Sample.runs_newEventStore_empty)) (.appended happend),
    ?_, ?_⟩
  · intro l hl
    simp only [List.nil_append, List.cons_append, List.mem_cons, List.not_mem_nil, or_false] at hl
    rcases hl with rfl | rfl
    · exact ⟨rfl, Sample.cleanRun_opening⟩
    · exact cleanRun_append.mpr ⟨Sample.cleanRun_replacing, Sample.cleanRun_recording _⟩
  · intro env fuel history store d' u hrun
    obtain ⟨_, _, _, haccepts⟩ :=
      accepts_of_opened (runs_newEventStore ⟨env, fuel, history, hrun⟩)
    have hscan := Sample.scanLog_kindless.symm.trans haccepts.scan
    cases hscan

end Supervisor

end RobotestLab
