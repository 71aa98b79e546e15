import Mathlib.Data.List.Forall2
import RobotestLab.Supervisor.EventStoreSpec

/-!
# The event store over all its lifetimes

A state directory is opened, appended to and left by one process after another, and every operation
on the file system may fail or never return. The counters of a running store agree with each other,
with its limits and with the log (`Consistent`), and the sequences that were acknowledged, over all
processes, increase (`eventStore_consistent`).
-/

namespace RobotestLab

namespace Supervisor

open Program

/-! ### Histories of a state directory -/

/-- The files, and the store of the process that runs. -/
structure StoreSystem where
  directory : Directory
  store : Option EventStore := none

/-- What happens to a state directory: a process opens it, appends an event, or is gone. An append
that never returns has no result. -/
inductive StoreLabel where
  | opens (limits : Limits) (u : List ioSignature.Interaction)
  | appends (now : Utc) (event : Event) (u : List ioSignature.Interaction)
      (result : Option Appended)
  | stops

inductive StoreStep : StoreSystem → StoreLabel → StoreSystem → Prop
  | opened {limits : Limits} {d d' : Directory} {u : List ioSignature.Interaction}
      {store : EventStore} (run : Runs (newEventStore limits) d u (.ok (.ok store)) d') :
      StoreStep ⟨d, none⟩ (.opens limits u) ⟨d', some store⟩
  | notOpened {limits : Limits} {d d' : Directory} {u : List ioSignature.Interaction}
      {r : Except Crash (Except Err EventStore)} (run : Runs (newEventStore limits) d u r d')
      (fails : ∀ store, r ≠ .ok (.ok store)) :
      StoreStep ⟨d, none⟩ (.opens limits u) ⟨d', none⟩
  | appended {store : EventStore} {now : Utc} {event : Event} {d d' : Directory}
      {u : List ioSignature.Interaction} {result : Appended}
      (run : Runs (append store now event) d u (.ok result) d') :
      StoreStep ⟨d, some store⟩ (.appends now event u (some result)) ⟨d', some result.store⟩
  | crashed {store : EventStore} {now : Utc} {event : Event} {d d' : Directory}
      {u : List ioSignature.Interaction} {e : Crash}
      (run : Runs (append store now event) d u (.error e) d') :
      StoreStep ⟨d, some store⟩ (.appends now event u none) ⟨d', none⟩
  | stopped {store : EventStore} {d : Directory} :
      StoreStep ⟨d, some store⟩ .stops ⟨d, none⟩

/-- The steps lead from the initial directory, with no process, to the system. -/
inductive StoreHistory (initial : Directory) : List StoreLabel → StoreSystem → Prop
  | start : StoreHistory initial [] ⟨initial, none⟩
  | step {tr : List StoreLabel} {s s' : StoreSystem} {l : StoreLabel} :
      StoreHistory initial tr s → StoreStep s l s' → StoreHistory initial (tr ++ [l]) s'

/-- The sequence of the event whose append returned without an error. -/
def StoreLabel.acknowledged : StoreLabel → Option UInt64
  | .appends _ _ _ (some result) => if result.err = [] then some result.event.sequence else none
  | _ => none

/-- The sequences of the events whose append returned without an error. -/
def acknowledged (tr : List StoreLabel) : List UInt64 := tr.filterMap StoreLabel.acknowledged

/-! ### Logs -/

/-- The lines, each ended by a newline. -/
def joinLines (lines : List (List UInt8)) : List UInt8 := lines.flatMap (· ++ [10])

/-- The line is a record with the given sequence. -/
def RecordWith (sequence : Nat) (line : List UInt8) : Prop :=
  10 ∉ line ∧
    ∃ header, EventHeader.unmarshal (dropCr line) = some header ∧ header.sequence.toNat = sequence

/-- The lines are records whose sequences are 1, 2 and so on, up to the given one. -/
def Numbered (count : Nat) (lines : List (List UInt8)) : Prop :=
  List.Forall₂ RecordWith (List.range' 1 count) lines

/-- The bytes at the end of the log belong to the one event after the numbered records, whose append
failed. -/
def Unconfirmed (store : EventStore) (tail : List UInt8) : Prop :=
  store.saturated = true ∧
    ∃ event : Event, event.sequence.toNat = store.entries + 1 ∧ tail <+: event.line

/-- The counters of the store agree with each other, with the limits and with the log. -/
structure Consistent (store : EventStore) (d : Directory) : Prop where
  counts : store.sequence.toNat = store.entries + store.dropped.toNat
  saturation : store.saturated = true ↔ 0 < store.dropped.toNat
  entries_le : store.entries ≤ store.limits.maximumEntries
  bytes_le : store.bytes ≤ store.limits.maximumBytes
  log : ∃ lines tail, d.contents = joinLines lines ++ tail ∧ Numbered store.entries lines ∧
    (joinLines lines).length = store.bytes ∧ (tail = [] ∨ Unconfirmed store tail)

theorem joinLines_append (lines lines' : List (List UInt8)) :
  joinLines (lines ++ lines') = joinLines lines ++ joinLines lines'
  := List.flatMap_append

theorem joinLines_singleton (line : List UInt8) :
  joinLines [line] = line ++ [10]
  := by
  simp [joinLines]

variable {lines : List (List UInt8)} {count : Nat}

theorem numbered_length (h : Numbered count lines) :
  lines.length = count
  := by
  rw [← h.length_eq, List.length_range']

/-- A log of complete records holds one newline for each of them. -/
theorem count_joinLines (h : Numbered count lines) :
  (joinLines lines).count 10 = count
  := by
  have hlines : ∀ line ∈ lines, (10 : UInt8) ∉ line := by
    intro line hline
    obtain ⟨i, hi, rfl⟩ := List.getElem_of_mem hline
    have hrecord := List.forall₂_iff_get.mp h
    exact (hrecord.2 i (by rw [hrecord.1]; exact hi) hi).1
  have hcount : ∀ lines : List (List UInt8), (∀ line ∈ lines, (10 : UInt8) ∉ line) →
      (joinLines lines).count 10 = lines.length := by
    intro lines hlines
    induction lines with
    | nil => rfl
    | cons line lines ih =>
        rw [← List.singleton_append, joinLines_append, joinLines_singleton, List.count_append,
          List.count_append, List.count_eq_zero.mpr (hlines line List.mem_cons_self),
          ih (fun line' h' => hlines line' (List.mem_cons_of_mem _ h'))]
        simp
        omega
  rw [hcount lines hlines, numbered_length h]

theorem Numbered.concat {line : List UInt8}
    (h : Numbered count lines) (hline : RecordWith (count + 1) line) :
  Numbered (count + 1) (lines ++ [line])
  := by
  unfold Numbered
  rw [List.range'_concat]
  apply List.rel_append h
  rw [Nat.one_mul, Nat.add_comm]
  exact .cons hline .nil

/-! ### Records of events -/

theorem getLast?_marshalObject (members : List (String × List Char)) :
  (Json.marshalObject members).getLast? = some '}'
  := by
  cases members with
  | nil => rfl
  | cons m members =>
      obtain ⟨k, text⟩ := m
      simp [Json.marshalObject, List.getLast?_cons, List.getLast?_append]

theorem getLast?_marshal (fields : List (String × Field)) :
  (marshal fields).getLast? = some 125
  := by
  unfold marshal
  obtain ⟨front, hfront⟩ := List.getLast?_eq_some_iff.mp (getLast?_marshalObject _)
  rw [hfront, List.flatMap_append]
  simp only [List.flatMap_cons, List.flatMap_nil, List.append_nil]
  exact List.getLast?_append_of_ne_nil _ (by decide)

theorem dropCr_marshal (fields : List (String × Field)) :
  dropCr (marshal fields) = marshal fields
  := by
  rw [dropCr, getLast?_marshal]
  rfl

theorem recordWith_marshal (event : Event) :
  RecordWith event.sequence.toNat (marshal event.fields)
  := by
  refine ⟨newline_notMem_event event, event.header, ?_, rfl⟩
  rw [dropCr_marshal]
  apply unmarshal_marshal_event

/-! ### Reading a log back -/

/-- A log that ends with a newline is the lines it falls into. -/
theorem joinLines_splitLines {payload : List UInt8}
    (h : payload = [] ∨ payload.getLast? = some 10) :
  joinLines (splitLines payload) = payload ∧ (∀ line ∈ splitLines payload, 10 ∉ line) ∧
    (splitLines payload).length = payload.count 10
  := by
  induction payload with
  | nil => simp [splitLines, joinLines]
  | cons b bs ih =>
      have hrest : bs = [] ∨ bs.getLast? = some 10 := by
        cases bs with
        | nil => exact Or.inl rfl
        | cons c cs =>
            rcases h with h | h
            · cases h
            · rw [List.getLast?_cons_cons] at h
              exact Or.inr h
      obtain ⟨hjoin, hlines, hlength⟩ := ih hrest
      by_cases hb : b = 10
      · rw [splitLines, if_pos hb]
        refine ⟨?_, ?_, ?_⟩
        · rw [← List.singleton_append, joinLines_append, hjoin, hb]
          rfl
        · intro line hline
          rcases List.mem_cons.mp hline with rfl | hline
          · exact List.not_mem_nil
          · exact hlines line hline
        · rw [List.length_cons, hlength, hb, List.count_cons_self]
      · rw [splitLines, if_neg hb]
        cases hsplit : splitLines bs with
        | nil =>
            -- Nothing is left after the byte, so the log does not end with a newline.
            rw [hsplit] at hjoin
            rw [← hjoin] at h
            rcases h with h | h
            · cases h
            · exact absurd (Option.some.inj h) hb
        | cons line lines =>
            rw [hsplit] at hjoin hlines hlength
            refine ⟨?_, ?_, ?_⟩
            · rw [← hjoin]
              rfl
            · intro line' hline'
              rcases List.mem_cons.mp hline' with rfl | hline'
              · intro hmem
                rcases List.mem_cons.mp hmem with hmem | hmem
                · exact hb hmem.symm
                · exact hlines line List.mem_cons_self hmem
              · exact hlines line' (List.mem_cons_of_mem _ hline')
            · rw [List.length_cons] at hlength ⊢
              rw [hlength, List.count_cons_of_ne hb]

theorem scanRecord_eq_ok {previousSequence sequence : UInt64} {line : List UInt8}
    (h : scanRecord previousSequence line = .ok sequence) :
  ∃ header, EventHeader.unmarshal (dropCr line) = some header ∧ header.sequence = sequence ∧
    sequence = previousSequence + 1
  := by
  unfold scanRecord at h
  split at h
  · cases h
  split at h
  · cases h
  rename_i header hheader
  split at h
  · cases h
  split at h
  · cases h
  rename_i hsequence
  split at h
  · cases h
  split at h
  · cases h
  rw [not_not] at hsequence
  obtain rfl := Except.ok.inj h
  exact ⟨header, hheader, rfl, hsequence⟩

/-- The lines that are scanned without an error are records, numbered from the sequence before
them. -/
theorem numbered_of_scan (hlines : ∀ line ∈ lines, 10 ∉ line)
    {previous sequence : UInt64} (h : lines.foldlM scanRecord previous = .ok sequence)
    (hbound : previous.toNat + lines.length < 2 ^ 64) :
  List.Forall₂ RecordWith (List.range' (previous.toNat + 1) lines.length) lines ∧
    sequence.toNat = previous.toNat + lines.length
  := by
  induction lines generalizing previous with
  | nil =>
      obtain rfl := Except.ok.inj h
      exact ⟨.nil, rfl⟩
  | cons line lines ih =>
      rw [List.foldlM_cons] at h
      cases hscan : scanRecord previous line with
      | error err =>
          rw [hscan] at h
          cases h
      | ok next =>
          rw [hscan] at h
          obtain ⟨header, hheader, hsequence, hnext⟩ := scanRecord_eq_ok hscan
          rw [List.length_cons] at hbound
          have hnextNat : next.toNat = previous.toNat + 1 := by
            rw [hnext, UInt64.toNat_add]
            apply Nat.mod_eq_of_lt
            change previous.toNat + 1 < 2 ^ 64
            omega
          obtain ⟨hrest, hlast⟩ := ih (fun line' h' => hlines line' (List.mem_cons_of_mem _ h')) h
            (by omega)
          rw [hnextNat] at hrest hlast
          refine ⟨.cons ⟨hlines line List.mem_cons_self, header, hheader, ?_⟩ hrest, ?_⟩
          · rw [hsequence, hnextNat]
          · rw [hlast, List.length_cons]
            omega

variable {metadata : EventStoreMetadata} {found : Option EventStoreMetadata}
  {previousSequence : UInt64}

/-- A log that is accepted is made of the records 1, 2 and so on. -/
theorem Accepts.numbered {limits : Limits} {d : Directory}
    (h : Accepts limits d previousSequence found metadata) :
  previousSequence.toNat = d.contents.count 10 ∧
    ∃ lines, d.contents = joinLines lines ∧ Numbered (d.contents.count 10) lines
  := by
  obtain ⟨hjoin, hlines, hlength⟩ := joinLines_splitLines h.complete
  have hbound : (0 : UInt64).toNat + (splitLines d.contents).length < 2 ^ 64 := by
    rw [hlength]
    have := h.entries
    have := limits.maximumEntries_lt
    change 0 + _ < _
    omega
  obtain ⟨hnumbered, hsequence⟩ := numbered_of_scan hlines h.scan hbound
  rw [hlength] at hnumbered hsequence
  refine ⟨?_, splitLines d.contents, hjoin.symm, hnumbered⟩
  rw [hsequence]
  exact Nat.zero_add _

/-- The metadata that are accepted account for every sequence up to the last attempted one. -/
structure Reconciled (previousSequence : UInt64) (found : Option EventStoreMetadata)
    (metadata : EventStoreMetadata) : Prop where
  counts : metadata.lastAttemptedSequence.toNat =
    previousSequence.toNat + metadata.droppedEvents.toNat
  saturation : metadata.saturated = true ↔ 0 < metadata.droppedEvents.toNat
  last : ∀ m, found = some m → metadata.lastAttemptedSequence = m.lastAttemptedSequence

theorem reconciled_of_reconcile (h : reconcile previousSequence found = .ok metadata) :
  Reconciled previousSequence found metadata
  := by
  unfold reconcile at h
  generalize hm : found.getD { schemaVersion := 1, lastAttemptedSequence := previousSequence } = m
    at h
  simp only at h
  split at h
  · cases h
  split at h
  · cases h
  rename_i hprecedes
  split at h
  · cases h
  rename_i hexceeds
  have hle : previousSequence ≤ m.lastAttemptedSequence := UInt64.not_lt.mp hprecedes
  have hmissing : (if m.droppedEvents < m.lastAttemptedSequence - previousSequence then
      m.lastAttemptedSequence - previousSequence else m.droppedEvents) =
        m.lastAttemptedSequence - previousSequence := by
    split
    · rfl
    · rename_i hnot
      exact UInt64.le_antisymm (UInt64.not_lt.mp hexceeds) (UInt64.not_lt.mp hnot)
  rw [hmissing] at h
  have hcounts : m.lastAttemptedSequence.toNat =
      previousSequence.toNat + (m.lastAttemptedSequence - previousSequence).toNat := by
    rw [UInt64.toNat_sub_of_le _ _ hle]
    have := UInt64.le_iff_toNat_le.mp hle
    omega
  generalize m.lastAttemptedSequence - previousSequence = missing at h hcounts
  have hpos : 0 < missing.toNat ↔ missing ≠ 0 := by
    rw [Nat.pos_iff_ne_zero, ne_eq, ne_eq, ← UInt64.toNat_inj, UInt64.toNat_zero]
  split at h
  · cases h
  rename_i hsaturated
  obtain rfl := Except.ok.inj h
  refine ⟨hcounts, ?_, ?_⟩
  · rw [hpos]
    simp only [Bool.or_eq_true, decide_eq_true_eq] at hsaturated ⊢
    constructor
    · rintro (hsat | hne)
      · intro hzero
        exact hsaturated ⟨Or.inl hsat, hzero⟩
      · exact hne
    · exact Or.inr
  · rintro m' rfl
    obtain rfl := hm
    rfl

/-- A store that is opened agrees with its files. -/
theorem consistent_openedStore {limits : Limits} {d : Directory}
    (h : Accepts limits d previousSequence found metadata) :
  Consistent (openedStore limits d metadata) d
  := by
  have hreconciled := reconciled_of_reconcile h.reconciles
  obtain ⟨hprevious, lines, hcontents, hnumbered⟩ := h.numbered
  refine ⟨?_, hreconciled.saturation, h.entries, h.bytes, lines, [], ?_, hnumbered, ?_, Or.inl rfl⟩
  · have hcounts := hreconciled.counts
    rw [hprevious] at hcounts
    exact hcounts
  · rw [List.append_nil]
    exact hcontents
  · rw [← hcontents]
    rfl

/-! ### What the files vouch for -/

/-- The last sequence that the metadata file vouches for. -/
def Directory.lastAttempted (d : Directory) : Nat :=
  match d.metadata.bind EventStoreMetadata.decode with
  | none => 0
  | some metadata => metadata.lastAttemptedSequence.toNat

/-- The last sequence that the files vouch for. -/
def Directory.durable (d : Directory) : Nat := max (d.contents.count 10) d.lastAttempted

/-- The log is longer, and the metadata file is as before or vouches for the sequence. -/
structure Keeps (sequence : UInt64) (d d' : Directory) : Prop where
  contents : ∃ part, d'.contents = d.contents ++ part
  metadata : d'.metadata = d.metadata ∨
    ∃ metadata : EventStoreMetadata, d'.metadata = some metadata.payload ∧
      metadata.lastAttemptedSequence = sequence

theorem Keeps.refl (sequence : UInt64) (d : Directory) :
  Keeps sequence d d
  := ⟨⟨[], (List.append_nil _).symm⟩, Or.inl rfl⟩

variable {sequence : UInt64}

theorem Keeps.trans {d d₁ d₂ : Directory} (h : Keeps sequence d d₁) (h' : Keeps sequence d₁ d₂) :
  Keeps sequence d d₂
  := by
  obtain ⟨part, hpart⟩ := h.contents
  obtain ⟨part', hpart'⟩ := h'.contents
  refine ⟨⟨part ++ part', ?_⟩, ?_⟩
  · rw [hpart', hpart, List.append_assoc]
  · rcases h'.metadata with hsame | hnew
    · rw [hsame]
      exact h.metadata
    · exact Or.inr hnew

theorem keeps_of_replaces {d d' : Directory}
    {u : List ioSignature.Interaction} {r : Except Crash Err}
    (h : Replaces metadata.payload d u r d') :
  Keeps metadata.lastAttemptedSequence d d'
  := by
  rcases h.directory with ⟨rfl, -⟩ | ⟨rfl, -⟩
  · apply Keeps.refl
  · exact ⟨⟨[], (List.append_nil _).symm⟩, Or.inr ⟨metadata, rfl, rfl⟩⟩

theorem keeps_of_logExtends {payload : List UInt8} {d d' : Directory}
    (h : LogExtends payload d d') :
  Keeps sequence d d'
  := by
  obtain ⟨count, hcount⟩ := h.contents
  exact ⟨⟨_, hcount⟩, Or.inl h.1⟩

/-- What the files vouch for is not lost. -/
theorem Keeps.le_durable {d d' : Directory} (h : Keeps sequence d d') {n : Nat}
    (hn : n ≤ sequence.toNat) (hdurable : n ≤ d.durable) :
  n ≤ d'.durable
  := by
  obtain ⟨part, hpart⟩ := h.contents
  rcases h.metadata with hsame | ⟨metadata, hnew, hlast⟩
  · apply hdurable.trans
    apply max_le_max
    · rw [hpart, List.count_append]
      apply Nat.le_add_right
    · rw [Directory.lastAttempted, Directory.lastAttempted, hsame]
  · apply le_max_of_le_right
    rw [Directory.lastAttempted, hnew]
    simp only [Option.bind_some, EventStoreMetadata.decode_payload, hlast]
    exact hn

/-- An accepted log is covered by the sequence of the metadata. -/
theorem Accepts.durable_le {limits : Limits} {d : Directory}
    (h : Accepts limits d previousSequence found metadata) :
  d.durable ≤ metadata.lastAttemptedSequence.toNat
  := by
  have hreconciled := reconciled_of_reconcile h.reconciles
  apply max_le
  · rw [← h.numbered.1, hreconciled.counts]
    apply Nat.le_add_right
  · have hfound := h.foundIn
    unfold FoundIn at hfound
    unfold Directory.lastAttempted
    cases hm : d.metadata with
    | none => exact Nat.zero_le _
    | some payload =>
        rw [hm] at hfound
        obtain ⟨m, hdecode, hsome⟩ := hfound
        simp only [Option.bind_some, hdecode]
        rw [hreconciled.last m hsome]

/-- Opening loses nothing that the files vouch for. -/
theorem durable_le_of_open {limits : Limits} {d d' : Directory}
    {r : Except Crash (Except Err EventStore)} (h : OpenOutcome limits d r d') {n : Nat}
    (hn : n ≤ d.durable) :
  n ≤ d'.durable
  := by
  cases h with
  | rejected => exact hn
  | unchanged => exact hn
  | persisted accepts replaces =>
      apply (keeps_of_replaces replaces).le_durable (hn.trans accepts.durable_le) hn

/-- A store that was opened continues after everything that the files vouch for. -/
theorem opened_of_open {limits : Limits} {d d' : Directory} {store : EventStore}
    (h : OpenOutcome limits d (.ok (.ok store)) d') :
  Consistent store d' ∧ d.durable ≤ store.sequence.toNat
  := by
  generalize hr : (.ok (.ok store) : Except Crash (Except Err EventStore)) = r at h
  cases h with
  | rejected fails => exact absurd hr.symm (fails store)
  | unchanged accepts =>
      obtain rfl := Except.ok.inj (Except.ok.inj hr)
      exact ⟨consistent_openedStore accepts, accepts.durable_le⟩
  | @persisted previousSequence found metadata v y d' accepts replaces =>
      cases y with
      | error e => cases hr
      | ok err =>
          simp only [Except.map] at hr
          split at hr
          · obtain rfl := Except.ok.inj (Except.ok.inj hr)
            refine ⟨?_, accepts.durable_le⟩
            have hcontents : d'.contents = d.contents := by
              rcases replaces.directory with ⟨rfl, -⟩ | ⟨rfl, -⟩ <;> rfl
            have hconsistent := consistent_openedStore accepts
            obtain ⟨lines, tail, hlog, hrest⟩ := hconsistent.log
            exact { hconsistent with log := ⟨lines, tail, hcontents.trans hlog, hrest⟩ }
          · cases Except.ok.inj hr

/-! ### Appending to a consistent store -/

section Append

variable {store : EventStore} {event : Event} {d d' : Directory}
    {u : List ioSignature.Interaction}

/-- The next sequence does not overflow. -/
theorem toNat_next {n : UInt64} (h : n ≠ greatestSequence) :
  (n + 1).toNat = n.toNat + 1
  := by
  have hlt := n.toNat_lt
  have hne : n.toNat ≠ 18446744073709551615 := by
    intro heq
    apply h
    apply UInt64.toNat_inj.mp
    exact heq
  rw [UInt64.toNat_add]
  apply Nat.mod_eq_of_lt
  change n.toNat + 1 < 2 ^ 64
  omega

theorem lt_next {n : UInt64} (h : n ≠ greatestSequence) :
  n < n + 1
  := by
  rw [UInt64.lt_iff_toNat_lt, toNat_next h]
  apply Nat.lt_succ_self

/-- The process may have stopped anywhere in an append: the files still vouch for everything they
vouched for. -/
theorem le_durable_of_append {r : Except Crash Appended} (h : AppendOutcome store event d u r d')
    {n : Nat} (hn : n ≤ store.sequence.toNat) (hdurable : n ≤ d.durable) :
  n ≤ d'.durable
  := by
  have hnext : store.sequence ≠ greatestSequence → n ≤ (store.sequence + 1).toNat := by
    intro hroom
    rw [toNat_next hroom]
    omega
  cases h with
  | refused => exact hdurable
  | dropped room _ _ replaces => exact (keeps_of_replaces replaces).le_durable (hnext room) hdurable
  | unreserved room _ _ reserves _ replaces =>
      have hreserved : Keeps (store.sequence + 1) d _ := keeps_of_replaces reserves
      exact (hreserved.trans (keeps_of_replaces replaces)).le_durable (hnext room) hdurable
  | stopped room _ reserves => exact (keeps_of_replaces reserves).le_durable (hnext room) hdurable
  | recorded room _ _ _ _ record =>
      have hreserved : Keeps (store.sequence + 1) d
          { d with metadata := some (reservation (store.sequence + 1)).payload } :=
        ⟨⟨[], (List.append_nil _).symm⟩, Or.inr ⟨reservation (store.sequence + 1), rfl, rfl⟩⟩
      cases record with
      | stopped log =>
          exact (hreserved.trans (keeps_of_logExtends log)).le_durable (hnext room) hdurable
      | failed _ log _ _ replaces =>
          have hlog : Keeps (store.sequence + 1) _ _ := keeps_of_logExtends log
          exact (hreserved.trans (hlog.trans (keeps_of_replaces replaces))).le_durable (hnext room)
            hdurable
      | written =>
          have hlog : Keeps (store.sequence + 1) d { d with
              log := some (d.contents ++ event.line)
              metadata := some (reservation (store.sequence + 1)).payload } :=
            ⟨⟨event.line, rfl⟩, Or.inr ⟨reservation (store.sequence + 1), rfl, rfl⟩⟩
          exact hlog.le_durable (hnext room) hdurable

/-- A store that writes a record has dropped nothing. -/
theorem Consistent.writes (h : Consistent store d)
    (hcapacity : capacityDrop store event.line = false) :
  store.saturated = false ∧ store.dropped = 0 ∧ store.entries < store.limits.maximumEntries ∧
    store.bytes + event.line.length ≤ store.limits.maximumBytes ∧
    ∃ lines, d.contents = joinLines lines ∧ Numbered store.entries lines ∧
      (joinLines lines).length = store.bytes
  := by
  obtain ⟨hsaturated, hentries, hbytes⟩ := capacityDrop_eq_false.mp hcapacity
  have hdropped : store.dropped = 0 := by
    apply UInt64.toNat_inj.mp
    have hnot := h.saturation.not.mp (by rw [hsaturated]; nofun)
    exact Nat.eq_zero_of_not_pos hnot
  obtain ⟨lines, tail, hlog, hnumbered, hlength, htail⟩ := h.log
  refine ⟨hsaturated, hdropped, hentries, hbytes, lines, ?_, hnumbered, hlength⟩
  rcases htail with rfl | ⟨hsat, -⟩
  · rw [hlog, List.append_nil]
  · rw [hsaturated] at hsat
    cases hsat

/-- A store whose log may end in an unconfirmed record, after an event is dropped. -/
theorem consistent_drop (h : Consistent store d) (hroom : store.sequence ≠ greatestSequence)
    (hcounts : store.dropped ≠ greatestSequence) (hcontents : d'.contents = d.contents) :
  Consistent (store.drop (store.sequence + 1)) d'
  := by
  have hdropped := toNat_next hcounts
  refine ⟨?_, ?_, h.entries_le, h.bytes_le, ?_⟩
  · change (store.sequence + 1).toNat = store.entries + (store.dropped + 1).toNat
    rw [toNat_next hroom, hdropped, h.counts, Nat.add_assoc]
  · change true = true ↔ 0 < (store.dropped + 1).toNat
    rw [hdropped]
    exact ⟨fun _ => Nat.succ_pos _, fun _ => rfl⟩
  · obtain ⟨lines, tail, hlog, hnumbered, hlength, htail⟩ := h.log
    refine ⟨lines, tail, hcontents.trans hlog, hnumbered, hlength, ?_⟩
    rcases htail with htail | ⟨-, hevent⟩
    · exact Or.inl htail
    · exact Or.inr ⟨rfl, hevent⟩

/-- A record that was not confirmed remains at the end of the log. -/
theorem consistent_failed (h : Consistent store d) (hroom : store.sequence ≠ greatestSequence)
    (hcapacity : capacityDrop store event.line = false)
    (hsequence : event.sequence = store.sequence + 1) {count : Nat}
    (hcontents : d'.contents = d.contents ++ event.line.take count) :
  Consistent (store.drop (store.sequence + 1)) d'
  := by
  obtain ⟨hsaturated, hdropped, hentries, hbytes, lines, hlog, hnumbered, hlength⟩ :=
    h.writes hcapacity
  have hcounts : store.dropped ≠ greatestSequence := by
    rw [hdropped]
    decide
  have hdrop := consistent_drop h hroom hcounts rfl
  refine { hdrop with log := ⟨lines, event.line.take count, ?_, hnumbered, hlength, Or.inr ?_⟩ }
  · rw [hcontents, hlog]
  · refine ⟨rfl, event, ?_, List.take_prefix _ _⟩
    rw [hsequence, toNat_next hroom, h.counts, hdropped]
    rfl

theorem consistent_written (h : Consistent store d) (hroom : store.sequence ≠ greatestSequence)
    (hcapacity : capacityDrop store event.line = false)
    (hsequence : event.sequence = store.sequence + 1)
    (hcontents : d'.contents = d.contents ++ event.line) :
  Consistent (store.written (store.sequence + 1) event.line) d' ∧
    event.sequence.toNat = d'.contents.count 10
  := by
  obtain ⟨hsaturated, hdropped, hentries, hbytes, lines, hlog, hnumbered, hlength⟩ :=
    h.writes hcapacity
  have hnext : event.sequence.toNat = store.entries + 1 := by
    rw [hsequence, toNat_next hroom, h.counts, hdropped]
    rfl
  have hrecord : RecordWith (store.entries + 1) (marshal event.fields) := by
    rw [← hnext]
    apply recordWith_marshal
  have hnumbered' := hnumbered.concat hrecord
  have hlog' : d'.contents = joinLines (lines ++ [marshal event.fields]) := by
    rw [hcontents, hlog, joinLines_append, joinLines_singleton]
    rfl
  have hcount : d'.contents.count 10 = store.entries + 1 := by
    rw [hlog', count_joinLines hnumbered']
  refine ⟨⟨?_, ?_, hentries, hbytes, _, [], ?_, hnumbered', ?_, Or.inl rfl⟩, ?_⟩
  · change (store.sequence + 1).toNat = store.entries + 1 + store.dropped.toNat
    rw [toNat_next hroom, h.counts]
    omega
  · exact h.saturation
  · rw [hlog', List.append_nil]
  · rw [joinLines_append, joinLines_singleton, List.length_append, hlength]
    rfl
  · rw [hnext, hcount]

/-- The file vouches for the sequence of the metadata it was replaced by. -/
theorem le_durable_of_renamed {metadata : EventStoreMetadata} {r : Except Crash Err}
    (h : Replaces metadata.payload d u r d') (hrenamed : Renamed u) :
  metadata.lastAttemptedSequence.toNat ≤ d'.durable
  := by
  rcases h.directory with ⟨-, hkept⟩ | ⟨rfl, -⟩
  · exact absurd hrenamed hkept
  · apply le_max_of_le_right
    rw [Directory.lastAttempted]
    simp only [Option.bind_some, EventStoreMetadata.decode_payload, le_refl]

theorem contents_of_replaces {payload : List UInt8} {r : Except Crash Err}
    (h : Replaces payload d u r d') :
  d'.contents = d.contents
  := by
  rcases h.directory with ⟨rfl, -⟩ | ⟨rfl, -⟩
  · rfl
  · rfl

/-- What an append returns: a consistent store, and, when there is no error, a new sequence that the
files vouch for. -/
structure Acknowledges (store : EventStore) (result : Appended) (d : Directory) : Prop where
  consistent : Consistent result.store d
  advances : store.sequence ≤ result.store.sequence
  fresh : result.err = [] → store.sequence < result.event.sequence
  current : result.err = [] → result.event.sequence = result.store.sequence
  durable : result.err = [] → result.event.sequence.toNat ≤ d.durable

theorem acknowledges_of_append {result : Appended} (h : Consistent store d)
    (hsequence : event.sequence = store.sequence + 1)
    (happend : AppendOutcome store event d u (.ok result) d') :
  Acknowledges store result d'
  := by
  generalize hr : (.ok result : Except Crash Appended) = r at happend
  cases happend with
  | refused _ fails _ =>
      obtain rfl := Except.ok.inj hr
      exact ⟨h, UInt64.le_refl _, fun hnil => absurd hnil fails, fun hnil => absurd hnil fails,
        fun hnil => absurd hnil fails⟩
  | @dropped y d' room capacity counts replaces =>
      have hlt := lt_next room
      cases y with
      | error e => cases hr
      | ok err =>
          obtain rfl := Except.ok.inj hr
          refine ⟨consistent_drop h room counts (contents_of_replaces replaces),
            UInt64.le_of_lt hlt, ?_, ?_, ?_⟩
          · intro _
            rw [hsequence]
            exact hlt
          · intro _
            exact hsequence
          · intro hnil
            have hdurable := le_durable_of_renamed replaces
              (replaces.renamed (congrArg Except.ok hnil))
            rw [hsequence]
            exact hdurable
  | @unreserved d₁ d' v w cause y room capacity _ reserves fails replaces =>
      cases y with
      | error e => cases hr
      | ok err =>
          obtain rfl := Except.ok.inj hr
          have hnil : cause ++ err ≠ [] := by
            intro hnil
            exact fails (List.append_eq_nil_iff.mp hnil).1
          refine ⟨?_, UInt64.le_of_lt (lt_next room), fun h' => absurd h' hnil,
            fun h' => absurd h' hnil, fun h' => absurd h' hnil⟩
          have hcounts : store.dropped ≠ greatestSequence := by
            rw [(h.writes capacity).2.1]
            decide
          apply consistent_drop h room hcounts
          rw [contents_of_replaces replaces, contents_of_replaces reserves]
  | stopped => cases hr
  | @recorded v w r d' room capacity _ renamed unwritten record =>
      have hlt := lt_next room
      cases record with
      | stopped => cases hr
      | @failed d₁ d' v w cause y _ log fails _ replaces =>
          cases y with
          | error e => cases hr
          | ok err =>
              obtain rfl := Except.ok.inj hr
              have hnil : cause ++ err ≠ [] := by
                intro hnil
                exact fails (List.append_eq_nil_iff.mp hnil).1
              obtain ⟨count, hcount⟩ := log.contents
              refine ⟨?_, UInt64.le_of_lt hlt, fun h' => absurd h' hnil,
                fun h' => absurd h' hnil, fun h' => absurd h' hnil⟩
              apply consistent_failed h room capacity hsequence
              rw [contents_of_replaces replaces]
              exact hcount
      | written =>
          obtain rfl := Except.ok.inj hr
          obtain ⟨hconsistent, hcount⟩ := @consistent_written _ _ _ { d with
            log := some (d.contents ++ event.line)
            metadata := some (reservation (store.sequence + 1)).payload }
            h room capacity hsequence rfl
          refine ⟨hconsistent, UInt64.le_of_lt hlt, ?_, ?_, ?_⟩
          · intro _
            rw [hsequence]
            exact hlt
          · intro _
            exact hsequence
          · intro _
            rw [hcount]
            apply le_max_left

/-- Once the store is saturated, an append leaves the log alone. -/
theorem log_of_saturated {r : Except Crash Appended} (hsaturated : store.saturated = true)
    (happend : AppendOutcome store event d u r d') :
  d'.log = d.log
  := by
  have hcapacity : capacityDrop store event.line = true := by
    simp [capacityDrop, hsaturated]
  cases happend with
  | refused => rfl
  | dropped _ _ _ replaces =>
      rcases replaces.directory with ⟨rfl, -⟩ | ⟨rfl, -⟩
      · rfl
      · rfl
  | unreserved _ capacity =>
      rw [hcapacity] at capacity
      cases capacity
  | stopped _ capacity =>
      rw [hcapacity] at capacity
      cases capacity
  | recorded _ capacity =>
      rw [hcapacity] at capacity
      cases capacity

end Append

/-! ### All lifetimes -/

/-- What holds of a state directory at any time: the acknowledged sequences increase, the files
vouch for them, and the running store continues after them and agrees with the files. -/
structure StoreInvariant (tr : List StoreLabel) (s : StoreSystem) : Prop where
  increasing : (acknowledged tr).Pairwise (· < ·)
  durable : ∀ n ∈ acknowledged tr, n.toNat ≤ s.directory.durable
  continues : ∀ store, s.store = some store → ∀ n ∈ acknowledged tr, n ≤ store.sequence
  consistent : ∀ store, s.store = some store → Consistent store s.directory

theorem acknowledged_append (tr : List StoreLabel) (l : StoreLabel) :
  acknowledged (tr ++ [l]) = acknowledged tr ++ l.acknowledged.toList
  := by
  rw [acknowledged, acknowledged, List.filterMap_append]
  cases h : l.acknowledged <;> simp [h]

variable {tr : List StoreLabel}

/-- A step that acknowledges nothing. -/
theorem storeInvariant_of_silent {s s' : StoreSystem} {l : StoreLabel}
    (h : StoreInvariant tr s) (hl : l.acknowledged = none)
    (hdurable : ∀ n ∈ acknowledged tr, n.toNat ≤ s'.directory.durable)
    (hstore : ∀ store, s'.store = some store →
      (∀ n ∈ acknowledged tr, n ≤ store.sequence) ∧ Consistent store s'.directory) :
  StoreInvariant (tr ++ [l]) s'
  := by
  have hacknowledged : acknowledged (tr ++ [l]) = acknowledged tr := by
    rw [acknowledged_append, hl]
    exact List.append_nil _
  constructor
  · rw [hacknowledged]
    exact h.increasing
  · rw [hacknowledged]
    exact hdurable
  · rw [hacknowledged]
    intro store hsome
    exact (hstore store hsome).1
  · intro store hsome
    exact (hstore store hsome).2

theorem storeInvariant_step {s s' : StoreSystem} {l : StoreLabel}
    (h : StoreInvariant tr s) (hstep : StoreStep s l s') :
  StoreInvariant (tr ++ [l]) s'
  := by
  cases hstep with
  | opened run =>
      have hopen := runs_newEventStore run
      obtain ⟨hconsistent, hsequence⟩ := opened_of_open hopen
      apply storeInvariant_of_silent h rfl
      · intro n hn
        apply durable_le_of_open hopen (h.durable n hn)
      · rintro _ ⟨⟩
        refine ⟨?_, hconsistent⟩
        intro n hn
        apply UInt64.le_iff_toNat_le.mpr
        exact (h.durable n hn).trans hsequence
  | notOpened run fails =>
      apply storeInvariant_of_silent h rfl
      · intro n hn
        apply durable_le_of_open (runs_newEventStore run) (h.durable n hn)
      · rintro _ ⟨⟩
  | @appended store now event d d' u result run =>
      have happend := runs_append run
      have hresult := acknowledges_of_append (h.consistent store rfl) rfl happend
      have hbefore : ∀ n ∈ acknowledged tr, n ≤ store.sequence := h.continues store rfl
      have hdurable : ∀ n ∈ acknowledged tr, n.toNat ≤ d'.durable := by
        intro n hn
        apply le_durable_of_append happend _ (h.durable n hn)
        exact UInt64.le_iff_toNat_le.mp (hbefore n hn)
      have hcontinues : ∀ n ∈ acknowledged tr, n ≤ result.store.sequence := by
        intro n hn
        exact UInt64.le_trans (hbefore n hn) hresult.advances
      by_cases hnil : result.err = []
      · have hacknowledged : acknowledged (tr ++ [.appends now event u (some result)]) =
            acknowledged tr ++ [result.event.sequence] := by
          rw [acknowledged_append, StoreLabel.acknowledged, if_pos hnil]
          rfl
        constructor
        · rw [hacknowledged, List.pairwise_append]
          refine ⟨h.increasing, List.pairwise_singleton _ _, ?_⟩
          intro n hn m hm
          rw [List.mem_singleton.mp hm]
          exact UInt64.lt_of_le_of_lt (hbefore n hn) (hresult.fresh hnil)
        · rw [hacknowledged, List.forall_mem_append]
          refine ⟨hdurable, ?_⟩
          intro n hn
          rw [List.mem_singleton.mp hn]
          exact hresult.durable hnil
        · rw [hacknowledged]
          rintro _ ⟨⟩
          rw [List.forall_mem_append]
          refine ⟨hcontinues, ?_⟩
          intro n hn
          rw [List.mem_singleton.mp hn, hresult.current hnil]
          apply UInt64.le_refl
        · rintro _ ⟨⟩
          exact hresult.consistent
      · have hsilent : StoreLabel.acknowledged (.appends now event u (some result)) = none :=
          if_neg hnil
        apply storeInvariant_of_silent h hsilent hdurable
        rintro _ ⟨⟩
        exact ⟨hcontinues, hresult.consistent⟩
  | @crashed store now event d d' u e run =>
      apply storeInvariant_of_silent h rfl
      · intro n hn
        apply le_durable_of_append (runs_append run) _ (h.durable n hn)
        exact UInt64.le_iff_toNat_le.mp (h.continues store rfl n hn)
      · rintro _ ⟨⟩
  | stopped => exact storeInvariant_of_silent h rfl h.durable nofun

theorem storeInvariant_of_history {initial : Directory} {s : StoreSystem}
    (h : StoreHistory initial tr s) :
  StoreInvariant tr s
  := by
  induction h with
  | start => exact ⟨.nil, nofun, nofun, nofun⟩
  | step _ hstep ih => exact storeInvariant_step ih hstep

/-- At all times, over all processes that share a state directory and for every failure of the file
system, the sequences of the events that were appended without an error increase, and the store of
the running process is consistent. Once it is saturated, an append leaves the log alone. -/
theorem eventStore_consistent {initial : Directory} {tr : List StoreLabel} {s : StoreSystem}
    (h : StoreHistory initial tr s) :
  (acknowledged tr).Pairwise (· < ·) ∧
  ∀ store, s.store = some store → Consistent store s.directory ∧
    (store.saturated = true → ∀ now event u r d',
      Runs (append store now event) s.directory u r d' → d'.log = s.directory.log)
  := by
  have hinvariant := storeInvariant_of_history h
  refine ⟨hinvariant.increasing, ?_⟩
  intro store hstore
  refine ⟨hinvariant.consistent store hstore, ?_⟩
  intro hsaturated now event u r d' hrun
  exact log_of_saturated hsaturated (runs_append hrun)

/-! ### A sample history -/

namespace Sample

def limits : Limits := ⟨16, 4096, by decide⟩

theorem minute_lt : 0 < 60 := by decide

theorem nanosecond_lt : 0 < 1000000000 := by decide

def noon : Utc := ⟨2026, 3, 1, 12, 0, 0, 0, by decide, by decide, by decide, by decide, minute_lt,
  minute_lt, nanosecond_lt⟩

def event : Event := { kind := "supervisor_started" }

/-- The store after its first event. -/
def store : EventStore where
  limits := limits
  entries := 1
  bytes := (stampEvent event 1 noon).line.length
  sequence := 1

/-- The directory after the first event. -/
def directory : Directory where
  log := some (stampEvent event 1 noon).line
  metadata := some (reservation 1).payload

/-- The interactions of replacing the metadata file. -/
def replacing : List ioSignature.Interaction :=
  [succeeded .createTemporary, succeeded .chmodTemporary, succeeded .writeTemporary,
    succeeded .syncTemporary, succeeded .closeTemporary, succeeded .rename,
    succeeded .openDirectory, succeeded .syncDirectory, succeeded .closeDirectory]

theorem cleanRun_replacing :
  CleanRun replacing
  := by
  intro x hx
  simp only [replacing, List.mem_cons, List.not_mem_nil, or_false] at hx
  rcases hx with rfl | rfl | rfl | rfl | rfl | rfl | rfl | rfl | rfl <;> rfl

/-- The interactions of writing a record. -/
def recording (payload : List UInt8) : List ioSignature.Interaction :=
  [succeeded .openLog, ⟨.writeLog payload, .ok (payload.length, [])⟩, succeeded .syncLog,
    succeeded .closeLog]

theorem cleanRun_recording (payload : List UInt8) :
  CleanRun (recording payload)
  := by
  intro x hx
  simp only [recording, List.mem_cons, List.not_mem_nil, or_false] at hx
  rcases hx with rfl | rfl | rfl | rfl <;> rfl

theorem writeLog_healthy (payload : List UInt8) (fuel : Nat) (d : Directory)
    (history : List ioSignature.Interaction) :
  writeLog payload healthy fuel d history =
    some (.ok [], { d with log := some (d.contents ++ payload) },
      [⟨.writeLog payload, .ok (payload.length, [])⟩])
  := by
  have hask : Program.ask ioSignature (.writeLog payload) healthy fuel d history =
      some (.ok (payload.length, []), d, [⟨.writeLog payload, .ok (payload.length, [])⟩]) := rfl
  unfold writeLog
  rw [bind_eq hask]
  simp only [List.take_length]
  rw [if_neg (fun h => h.2 rfl)]
  rfl

/-- An append to a store with room, on a file system without failures. -/
theorem runs_append_healthy {store : EventStore} {now : Utc} {event : Event} {d : Directory}
    (hroom : store.sequence ≠ greatestSequence)
    (hcapacity : capacityDrop store (stampEvent event (store.sequence + 1) now).line = false) :
  Runs (append store now event) d
    (replacing ++ recording (stampEvent event (store.sequence + 1) now).line)
    (.ok ⟨store.written (store.sequence + 1) (stampEvent event (store.sequence + 1) now).line,
      stampEvent event (store.sequence + 1) now, []⟩)
    { log := some (d.contents ++ (stampEvent event (store.sequence + 1) now).line)
      metadata := some (reservation (store.sequence + 1)).payload }
  := by
  refine ⟨healthy, 0, [], ?_⟩
  have hreserve :
      persistMetadata { schemaVersion := 1, lastAttemptedSequence := store.sequence + 1 }
        healthy 0 d [] =
          some (.ok [], { d with metadata := some (reservation (store.sequence + 1)).payload },
            replacing) :=
    rfl
  have hopen : ∀ d history, openLog healthy 0 d history =
      some (.ok [], { d with log := some d.contents }, [succeeded .openLog]) := by
    intro d history
    rfl
  unfold append
  rw [if_neg hroom]
  simp only
  rw [hcapacity, if_neg Bool.false_ne_true, bind_eq hreserve]
  simp only [ne_eq, not_true_eq_false, if_false, writeRecord]
  rw [bind_eq (hopen _ _)]
  simp only [not_true_eq_false, if_false]
  generalize (stampEvent event (store.sequence + 1) now).line = payload
  rw [bind_eq (writeLog_healthy payload 0 _ _)]
  rfl

/-- A process opens the empty directory. -/
theorem runs_newEventStore_empty :
  Runs (newEventStore limits) {}
    ([succeeded .makeDirectory, succeeded .readLog, succeeded .readMetadata] ++ replacing)
    (.ok (.ok { limits := limits })) { metadata := some (reservation 0).payload }
  := ⟨healthy, 0, [], rfl⟩

theorem history :
  ∃ tr, StoreHistory {} tr ⟨directory, some store⟩ ∧ acknowledged tr = [1]
  := by
  have hcapacity : capacityDrop { limits := limits } (stampEvent event 1 noon).line = false := by
    decide +kernel
  have hroom : (0 : UInt64) ≠ greatestSequence := by
    decide
  have hstored : ({ limits := limits } : EventStore).written 1 (stampEvent event 1 noon).line =
      store := by
    simp only [EventStore.written, store, Nat.zero_add]
  have happend : Runs (append { limits := limits } noon event)
      { metadata := some (reservation 0).payload }
      (replacing ++ recording (stampEvent event 1 noon).line)
      (.ok ⟨store, stampEvent event 1 noon, []⟩) directory := by
    rw [← hstored]
    exact runs_append_healthy hroom hcapacity
  exact ⟨_, .step (.step .start (.opened runs_newEventStore_empty)) (.appended happend), rfl⟩

end Sample

/-- The store of the sample after its first event. -/
theorem eventStore_consistent_sample :
  Consistent Sample.store Sample.directory ∧ ∃ tr, StoreHistory {} tr
    ⟨Sample.directory, some Sample.store⟩ ∧ (acknowledged tr).Pairwise (· < ·)
  := by
  obtain ⟨tr, hhistory, -⟩ := Sample.history
  obtain ⟨hincreasing, hstore⟩ := eventStore_consistent hhistory
  exact ⟨(hstore _ rfl).1, tr, hhistory, hincreasing⟩

end Supervisor

end RobotestLab
