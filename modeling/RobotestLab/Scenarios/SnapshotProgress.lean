import RobotestLab.Scenarios.EpisodeTrackers

/-!
# A snapshot in progress

What the steps of the callback change. The checks of a header and the end of a snapshot leave the
evidence of the episodes as it is. While the contacts of a snapshot are processed, its records are
retained, their pairs are collected for the trackers, and trackers are made that have not observed
anything (`eachContact_leaves`).
-/

namespace RobotestLab

namespace Scenarios

open Metrics (pairsOf countedRecords modelText)

namespace ContactMonitor

/-! ### Steps -/

/-- Nothing that the episodes depend on changes, and numbers are only given out. -/
structure SameEvidence (s s' : ContactMonitor) : Prop where
  trackers : s'.counterpartTrackers = s.counterpartTrackers
  summaries : s'.contactSnapshots.items = s.contactSnapshots.items
  overflow : s'.contactSnapshots.overflowCount = s.contactSnapshots.overflowCount
  records : s'.contactSnapshotRecords.items = s.contactSnapshotRecords.items
  last : s'.lastContactStampNs = s.lastContactStampNs
  sequence : s.sequence ≤ s'.sequence

section Steps

variable {s s' s'' : ContactMonitor} {repr : String → String} {manifest : ContactManifest}
  {stampNs : Int}

theorem SameEvidence.refl (s : ContactMonitor) : SameEvidence s s :=
    ⟨rfl, rfl, rfl, rfl, rfl, le_refl _⟩

theorem SameEvidence.trans (h : SameEvidence s s') (h' : SameEvidence s' s'') : SameEvidence s s''
  where
  trackers := h'.trackers.trans h.trackers
  summaries := h'.summaries.trans h.summaries
  overflow := h'.overflow.trans h.overflow
  records := h'.records.trans h.records
  last := h'.last.trans h.last
  sequence := h.sequence.trans h'.sequence

theorem sameEvidence_rejectSnapshot : SameEvidence s s.rejectSnapshot :=
    ⟨rfl, rfl, rfl, rfl, rfl, le_refl _⟩

theorem sameEvidence_rejectContact : SameEvidence s s.rejectContact :=
    ⟨rfl, rfl, rfl, rfl, rfl, le_refl _⟩

theorem sameEvidence_setFatal {error : Failure} : SameEvidence s (s.setFatal error)
  := by
  unfold setFatal
  split
  case isTrue => exact ⟨rfl, rfl, rfl, rfl, rfl, le_refl _⟩
  case isFalse => exact .refl s

theorem sameEvidence_checkGap : SameEvidence s (s.checkGap manifest stampNs).2
  := by
  unfold checkGap
  split
  · exact ⟨rfl, rfl, rfl, rfl, rfl, le_refl _⟩
  · exact .refl s
  · dsimp only
    split
    · exact ⟨rfl, rfl, rfl, rfl, rfl, le_refl _⟩
    · exact ⟨rfl, rfl, rfl, rfl, rfl, le_refl _⟩

theorem checkOrder_spec :
  SameEvidence s (s.checkOrder manifest stampNs).2
    ∧ ((s.checkOrder manifest stampNs).1 = .ok () → ∀ last, s.lastContactStampNs = some last →
      last < stampNs)
  := by
  unfold checkOrder
  split
  case isTrue => exact ⟨sameEvidence_rejectSnapshot, nofun⟩
  case isFalse horder =>
    refine ⟨sameEvidence_checkGap, ?_⟩
    intro _ last hlast
    rw [hlast] at horder
    simpa using horder

theorem stampToNs_positive {stamp : Time} (h : stampToNs stamp true = .ok stampNs) : 0 < stampNs
  := by
  unfold stampToNs at h
  dsimp only at h
  split at h
  case isTrue => cases h
  case isFalse =>
    split at h
    case isTrue => cases h
    case isFalse hpositive =>
      cases h
      simpa using hpositive

/-- An accepted header has a positive stamp after the last one. -/
theorem checkHeader_spec {message : ContactsMessage} :
  SameEvidence s (s.checkHeader manifest message).2
    ∧ ∀ stampNs offsetNs, (s.checkHeader manifest message).1 = .ok (stampNs, offsetNs) →
      0 < stampNs ∧ ∀ last, s.lastContactStampNs = some last → last < stampNs
  := by
  unfold checkHeader
  split
  case isTrue => exact ⟨sameEvidence_rejectSnapshot, nofun⟩
  case isFalse =>
    split
    case isTrue => exact ⟨sameEvidence_rejectSnapshot, nofun⟩
    case isFalse =>
      split
      case h_1 e he => exact ⟨.refl s, nofun⟩
      case h_2 stampNs hstamp =>
        dsimp only
        split
        case isTrue => exact ⟨sameEvidence_rejectSnapshot, nofun⟩
        case isFalse =>
          have hcount : ∀ b : Prop, [Decidable b] → SameEvidence s
              (if b then { s with futureSnapshotDeliveryCount := s.futureSnapshotDeliveryCount + 1 }
                else s) := by
            intro b _
            split
            · exact ⟨rfl, rfl, rfl, rfl, rfl, le_refl _⟩
            · exact .refl s
          have hnext := hcount (s.currentSimStampNs - stampNs < 0)
          generalize (if s.currentSimStampNs - stampNs < 0 then _ else s) = next at hnext ⊢
          obtain ⟨hsame, horder⟩ := @checkOrder_spec next manifest stampNs
          rw [hnext.last] at horder
          cases hcheck : next.checkOrder manifest stampNs with
          | mk result after =>
              rw [hcheck] at hsame horder
              cases result with
              | error e => exact ⟨hnext.trans hsame, nofun⟩
              | ok u =>
                  refine ⟨hnext.trans hsame, ?_⟩
                  rintro stamp offset ⟨⟩
                  exact ⟨stampToNs_positive hstamp, horder rfl⟩

theorem classifyContact_spec {contact : String × String} :
  SameEvidence s (s.classifyContact repr manifest contact).2
    ∧ ∀ classification disposition,
      (s.classifyContact repr manifest contact).1 = .ok (classification, disposition) →
      (disposition = .counted ↔ classification.isSome = true)
  := by
  unfold classifyContact
  dsimp only
  split
  case h_1 e he =>
    refine ⟨?_, nofun⟩
    dsimp only
    split
    · exact sameEvidence_rejectContact
    · exact .refl s
  case h_2 classification hclassified =>
    split
    case h_1 disposition hdisposition =>
      refine ⟨.refl s, ?_⟩
      rintro classification' disposition' ⟨⟩
      unfold dispositionOf at hdisposition
      cases classification with
      | some c =>
          cases hdisposition
          simp
      | none =>
          simp only [Option.isSome_none, Bool.false_eq_true, if_false, iff_false] at hdisposition ⊢
          rintro rfl
          split at hdisposition
          · cases hdisposition
          · split at hdisposition
            · cases hdisposition
            · cases hdisposition
    case h_2 => exact ⟨sameEvidence_rejectContact, nofun⟩

theorem sameEvidence_publishCommand {phase : String} :
  SameEvidence s (s.publishCommand phase).2
  := by
  unfold publishCommand
  split
  case isTrue => exact .refl s
  case isFalse =>
    dsimp only
    split
    · exact ⟨rfl, rfl, rfl, rfl, rfl, Nat.le_succ _⟩
    · exact ⟨rfl, rfl, rfl, rfl, rfl, Nat.le_succ _⟩

theorem sameEvidence_qualifyRelease {key : SnapshotKey} {progress : Progress} :
  SameEvidence s (s.qualifyRelease key progress)
  := by
  unfold qualifyRelease
  split
  · exact ⟨rfl, rfl, rfl, rfl, rfl, le_refl _⟩
  · exact .refl s

theorem sameEvidence_stopAtContact {candidate : QualifyingContact} :
  SameEvidence s (s.stopAtContact candidate stampNs).2
  := by
  unfold stopAtContact
  split
  case isTrue =>
    have hsame := @sameEvidence_publishCommand s "LATE_CONTACT_FAIL_SAFE_ZERO"
    cases hpublish : s.publishCommand "LATE_CONTACT_FAIL_SAFE_ZERO" with
    | mk result after =>
        rw [hpublish] at hsame
        cases result with
        | error e => exact hsame
        | ok u => exact hsame.trans ⟨rfl, rfl, rfl, rfl, rfl, le_refl _⟩
  case isFalse =>
    have hsame := @sameEvidence_publishCommand { s with firstQualifyingContact := some candidate }
      "CONTACT_STOP"
    cases hpublish : ContactMonitor.publishCommand "CONTACT_STOP"
        { s with firstQualifyingContact := some candidate } with
    | mk result after =>
        rw [hpublish] at hsame
        have hsame' : SameEvidence s after :=
          ⟨hsame.trackers, hsame.summaries, hsame.overflow, hsame.records, hsame.last,
            hsame.sequence⟩
        cases result with
        | error e => exact hsame'
        | ok u =>
            apply hsame'.trans
            dsimp only
            split
            · split
              · exact ⟨rfl, rfl, rfl, rfl, rfl, le_refl _⟩
              · exact ⟨rfl, rfl, rfl, rfl, rfl, le_refl _⟩
            · exact ⟨rfl, rfl, rfl, rfl, rfl, le_refl _⟩

end Steps

/-! ### A snapshot in progress -/

/-- Since the snapshot was opened, records of it were retained, and trackers at most made. -/
structure Interrupted (key : SnapshotKey) (opened s : ContactMonitor)
    (retained : List SnapshotRecord) : Prop where
  trackers : ∀ m, trackerAt s.counterpartTrackers m = trackerAt opened.counterpartTrackers m
  summaries : s.contactSnapshots.items = opened.contactSnapshots.items
  overflow : s.contactSnapshots.overflowCount = opened.contactSnapshots.overflowCount
  records : s.contactSnapshotRecords.items = opened.contactSnapshotRecords.items ++ retained
  last : s.lastContactStampNs = opened.lastContactStampNs
  sequence : opened.sequence ≤ s.sequence
  numbered : ∀ record ∈ retained, record.snapshotSequence = key.summarySequence

/-- The pairs so far are those of the records, and every counterpart of them has a tracker. -/
structure InProgress (key : SnapshotKey) (opened s : ContactMonitor)
    (retained : List SnapshotRecord)
    (progress : Progress) : Prop extends Interrupted key opened s retained where
  inhabited : progress.snapshotPairs.Inhabited
  pairs : ∀ m, progress.snapshotPairs.listOf m = pairsOf m (countedRecords retained)
  tracked : ∀ m, progress.snapshotPairs.listOf m ≠ [] → m ∈ s.counterpartTrackers.keys

section InProgress

variable {key : SnapshotKey} {opened s s' : ContactMonitor} {retained : List SnapshotRecord}
  {progress progress' : Progress} {repr : String → String} {manifest : ContactManifest}
  {record : SnapshotRecord} {counterpart : String}

theorem Interrupted.refl (key : SnapshotKey) (opened : ContactMonitor) :
    Interrupted key opened opened []
  where
  trackers _ := rfl
  summaries := rfl
  overflow := rfl
  records := (List.append_nil _).symm
  last := rfl
  sequence := le_refl _
  numbered := nofun

theorem InProgress.start (key : SnapshotKey) (opened : ContactMonitor) :
    InProgress key opened opened [] {}
  where
  toInterrupted := .refl key opened
  inhabited := Dict.inhabited_empty
  pairs _ := rfl
  tracked _ h := absurd rfl h

theorem Interrupted.same (h : Interrupted key opened s retained) (hsame : SameEvidence s s') :
  Interrupted key opened s' retained
  where
  trackers m := by rw [hsame.trackers, h.trackers]
  summaries := hsame.summaries.trans h.summaries
  overflow := hsame.overflow.trans h.overflow
  records := hsame.records.trans h.records
  last := hsame.last.trans h.last
  sequence := h.sequence.trans hsame.sequence
  numbered := h.numbered

theorem InProgress.same (h : InProgress key opened s retained progress)
    (hsame : SameEvidence s s') :
  InProgress key opened s' retained progress
  where
  toInterrupted := h.toInterrupted.same hsame
  inhabited := h.inhabited
  pairs := h.pairs
  tracked m hm := by
    rw [hsame.trackers]
    apply h.tracked m hm

/-- What a step leaves: the snapshot in progress, or interrupted. -/
def Leaves (key : SnapshotKey) (opened : ContactMonitor) : Outcome Progress → Prop
  | (.ok progress, s) => ∃ retained, InProgress key opened s retained progress
  | (.error _, s) => ∃ retained, Interrupted key opened s retained

/-- A record is retained, or the snapshot is interrupted. -/
theorem retainRecord_spec (h : Interrupted key opened s retained)
    (hrecord : record.snapshotSequence = key.summarySequence) :
  ((s.retainRecord key record).1 = .ok () ∧ Interrupted key opened (s.retainRecord key record).2
      (retained ++ [record]) ∧ (s.retainRecord key record).2.counterpartTrackers =
        s.counterpartTrackers)
    ∨ (∃ e, (s.retainRecord key record).1 = .error e)
      ∧ Interrupted key opened (s.retainRecord key record).2 retained
  := by
  unfold retainRecord
  cases hadd : s.contactSnapshotRecords.add record record.collectorSequence key.stampNs with
  | mk result buffer =>
      cases result with
      | error e =>
          have hitems := PrefixBuffer.add_overflow hadd
          refine .inr ⟨⟨e, rfl⟩, ?_⟩
          exact {
            trackers := h.trackers
            summaries := h.summaries
            overflow := h.overflow
            records := hitems.1.trans h.records
            last := h.last
            sequence := h.sequence
            numbered := h.numbered }
      | ok u =>
          have hitems := PrefixBuffer.add_items hadd
          refine .inl ⟨rfl, ?_, rfl⟩
          exact {
            trackers := h.trackers
            summaries := h.summaries
            overflow := h.overflow
            records := by
              change buffer.items = _
              rw [hitems.1, h.records, List.append_assoc]
            last := h.last
            sequence := h.sequence
            numbered := by
              intro r hr
              rcases List.mem_append.mp hr with hr | hr
              · apply h.numbered r hr
              · rw [List.mem_singleton.mp hr]
                exact hrecord }

/-- Making a tracker changes the tracker of no counterpart. -/
theorem ensureTracker_spec (h : Interrupted key opened s retained) :
  Interrupted key opened (s.ensureTracker counterpart).2 retained
    ∧ (∀ m ∈ s.counterpartTrackers.keys, m ∈
      (s.ensureTracker counterpart).2.counterpartTrackers.keys)
    ∧ ((s.ensureTracker counterpart).1 = .ok () →
      counterpart ∈ (s.ensureTracker counterpart).2.counterpartTrackers.keys)
  := by
  unfold ensureTracker
  cases hget : s.counterpartTrackers.get? counterpart with
  | some tracker =>
      refine ⟨h, fun _ hm => hm, ?_⟩
      intro _
      rw [Dict.mem_keys_iff, hget]
      rfl
  | none =>
      dsimp only
      split
      case isTrue => exact ⟨h, fun _ hm => hm, nofun⟩
      case isFalse =>
        refine ⟨{ h with trackers := ?_ }, ?_, ?_⟩
        · intro m
          rw [← h.trackers m]
          change trackerAt (s.counterpartTrackers.set counterpart _) m = _
          rw [trackerAt_set]
          split
          case isTrue heq =>
            rw [heq, trackerAt, hget]
            rfl
          case isFalse => rfl
        · intro m hm
          exact Dict.mem_keys_set.mpr (.inr hm)
        · intro _
          exact Dict.mem_keys_set.mpr (.inl rfl)

theorem qualify_leaves (h : InProgress key opened s retained progress) :
  Leaves key opened (s.qualify key record progress)
  := by
  have hcounted : InProgress key opened
      { s with exactPairSnapshotRecordCount := s.exactPairSnapshotRecordCount + 1 } retained
      { progress with exactCount := progress.exactCount + 1 } :=
    { @InProgress.same _ _ _
        { s with exactPairSnapshotRecordCount := s.exactPairSnapshotRecordCount + 1 }
        _ _ h ⟨rfl, rfl, rfl, rfl, rfl, le_refl _⟩ with
      inhabited := h.inhabited
      pairs := h.pairs
      tracked := h.tracked }
  unfold qualify
  dsimp only
  split
  case isTrue => exact ⟨retained, hcounted⟩
  case isFalse =>
    split
    case h_1 => exact ⟨retained, hcounted.toInterrupted⟩
    case h_2 =>
      split
      case isTrue => exact ⟨retained, hcounted.toInterrupted⟩
      case isFalse =>
        split
        case isTrue => exact ⟨retained, hcounted.toInterrupted⟩
        case isFalse => exact ⟨retained, { hcounted with }⟩

/-- A counted record has its counterpart. -/
theorem pairsOf_counted (hdisposition : record.disposition = .counted)
    (hmodel : record.counterpartModel = some counterpart) (m : String) :
  pairsOf m (countedRecords (retained ++ [record]))
    = if m = counterpart then pairsOf m (countedRecords retained) ++ [record.normalizedPair]
      else pairsOf m (countedRecords retained)
  := by
  have hcounted : countedRecords (retained ++ [record]) = countedRecords retained ++ [record] := by
    rw [countedRecords, List.filter_append, List.filter_cons_of_pos (by simpa using hdisposition)]
    rfl
  have htext : modelText record = counterpart := by
    rw [modelText, hmodel]
    rfl
  rw [hcounted, pairsOf, List.filter_append, List.map_append]
  split
  case isTrue hm =>
    rw [List.filter_cons_of_pos (by simp [htext, hm])]
    rfl
  case isFalse hm =>
    rw [List.filter_cons_of_neg (by simpa [htext] using Ne.symm hm), List.filter_nil, List.map_nil,
      List.append_nil]
    rfl

/-- A record that is not counted adds no pair. -/
theorem pairsOf_excluded (hdisposition : record.disposition ≠ .counted) (m : String) :
  pairsOf m (countedRecords (retained ++ [record])) = pairsOf m (countedRecords retained)
  := by
  rw [countedRecords, List.filter_append, List.filter_cons_of_neg (by simpa using hdisposition),
    List.filter_nil, List.append_nil]
  rfl

/-- Counting a retained record extends the pairs of its counterpart. -/
theorem countContact_leaves (h : Interrupted key opened s (retained ++ [record]))
    (hprogress : InProgress key opened s' retained progress)
    (htrackers : s.counterpartTrackers = s'.counterpartTrackers)
    (hdisposition : record.disposition = .counted)
    (hmodel : record.counterpartModel = some counterpart) :
  Leaves key opened (s.countContact manifest key record counterpart progress)
  := by
  have hnext : Interrupted key opened
      { s with classifiedContactRecordCount := s.classifiedContactRecordCount + 1 }
        (retained ++ [record]) :=
    h.same ⟨rfl, rfl, rfl, rfl, rfl, le_refl _⟩
  unfold countContact
  dsimp only
  split
  case isTrue => exact ⟨_, hnext⟩
  case isFalse =>
    obtain ⟨hafter, hkeys, hcounterpart⟩ := @ensureTracker_spec key opened _ _ counterpart hnext
    cases hensure : ContactMonitor.ensureTracker counterpart
        { s with classifiedContactRecordCount := s.classifiedContactRecordCount + 1 } with
    | mk result after =>
        rw [hensure] at hafter hkeys hcounterpart
        cases result with
        | error e => exact ⟨_, hafter⟩
        | ok u =>
            have hextended : InProgress key opened after (retained ++ [record]) {
                progress with
                classifiedCount := progress.classifiedCount + 1
                snapshotPairs := progress.snapshotPairs.append counterpart record.normalizedPair
                countedSnapshotRecords := progress.countedSnapshotRecords ++ [{
                  counterpartModel := counterpart
                  normalizedPair := record.normalizedPair
                  recordSequence := record.collectorSequence
                  snapshotSequence := key.summarySequence }] } := {
              toInterrupted := hafter
              inhabited := hprogress.inhabited.append counterpart record.normalizedPair
              pairs := by
                intro m
                rw [pairsOf_counted hdisposition hmodel, ← hprogress.pairs m, Dict.listOf_append]
                split
                case isTrue hm => rw [hm]
                case isFalse => rfl
              tracked := by
                intro m hm
                rw [Dict.listOf_append] at hm
                split at hm
                case isTrue heq =>
                  rw [heq]
                  apply hcounterpart rfl
                case isFalse =>
                  apply hkeys
                  change m ∈ s.counterpartTrackers.keys
                  rw [htrackers]
                  apply hprogress.tracked m hm }
            dsimp only
            split
            case isTrue => exact ⟨_, hextended⟩
            case isFalse =>
              split
              case isTrue => exact ⟨_, hextended⟩
              case isFalse => exact qualify_leaves hextended

theorem onContact_leaves {contact : String × String}
    (h : InProgress key opened s retained progress) :
  Leaves key opened (s.onContact repr manifest key contact progress)
  := by
  have hcounted := @InProgress.same _ _ _ { s with
    snapshotContactRecordCount := s.snapshotContactRecordCount + 1 } _ _ h ⟨rfl, rfl, rfl, rfl,
      rfl, le_refl _⟩
  unfold onContact
  dsimp only
  generalize ({ s with snapshotContactRecordCount := s.snapshotContactRecordCount + 1 } :
    ContactMonitor)
    = next at hcounted ⊢
  obtain ⟨hsame, hdisposition⟩ := @classifyContact_spec next repr manifest contact
  cases hclassify : next.classifyContact repr manifest contact with
  | mk result after =>
      rw [hclassify] at hsame hdisposition
      have hafter := hcounted.same hsame
      cases result with
      | error e => exact ⟨_, hafter.toInterrupted⟩
      | ok classified =>
          obtain ⟨classification, disposition⟩ := classified
          have hiff := hdisposition classification disposition rfl
          have hnumbered := @InProgress.same _ _ _ after.nextSequence _ _ hafter
            ⟨rfl, rfl, rfl, rfl, rfl, Nat.le_succ _⟩
          dsimp only
          generalize after.nextSequence = numbered at hnumbered ⊢
          have hretain := @retainRecord_spec key opened numbered retained
            (recordOf key numbered.sequence contact classification disposition)
              hnumbered.toInterrupted rfl
          cases hretained : numbered.retainRecord key
              (recordOf key numbered.sequence contact classification disposition) with
          | mk result' kept =>
              rw [hretained] at hretain
              rcases hretain with ⟨⟨⟩, hkept, htrackers⟩ | ⟨⟨e, ⟨⟩⟩, hkept⟩
              · cases classification with
                | none =>
                    have hexcluded : disposition ≠ .counted := fun heq => nomatch hiff.mp heq
                    refine ⟨_, {
                      toInterrupted := hkept
                      inhabited := hnumbered.inhabited
                      pairs := ?_
                      tracked := ?_ }⟩
                    · intro m
                      rw [pairsOf_excluded hexcluded]
                      apply hnumbered.pairs
                    · intro m hm
                      rw [htrackers]
                      apply hnumbered.tracked m hm
                | some classification =>
                    exact countContact_leaves hkept hnumbered htrackers (hiff.mpr rfl) rfl
              · exact ⟨_, hkept⟩

/-- The contacts of a snapshot leave it in progress, or interrupted. -/
theorem eachContact_leaves {contacts : List (String × String)}
    (h : InProgress key opened s retained progress) :
  Leaves key opened (s.eachContact repr manifest key contacts progress)
  := by
  induction contacts generalizing s retained progress with
  | nil => exact ⟨retained, h⟩
  | cons contact contacts ih =>
      rw [eachContact]
      have hcontact := @onContact_leaves _ _ _ _ _ repr manifest contact h
      cases hon : s.onContact repr manifest key contact progress with
      | mk result after =>
          rw [hon] at hcontact
          cases result with
          | error e => exact hcontact
          | ok progress' =>
              obtain ⟨retained', hprogress⟩ := hcontact
              exact ih hprogress

end InProgress

end ContactMonitor

end Scenarios

end RobotestLab
