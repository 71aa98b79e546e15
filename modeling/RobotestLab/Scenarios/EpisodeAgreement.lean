import RobotestLab.Scenarios.SnapshotProgress

/-!
# Agreement of the episodes

The trackers of the contact control hold, in every state that the control reaches, the episodes that
the reconciliation computes again from the retained summaries and records, as long as no summary was
turned away for want of room (`episodes_agree`). A summary that is turned away was observed by the
trackers, and the reconciliation does not know of it.
-/

namespace RobotestLab

namespace Scenarios

open Metrics (observationsOf pairsOf countedRecords recomputed EndedEpisode ControlBoundary
  reconcileSummaries reconcileContactSnapshots)

namespace ContactMonitor

/-! ### The invariant -/

/-- The trackers hold the episodes of the retained snapshots, unless a summary was turned away. -/
structure Agrees (s : ContactMonitor) : Prop where
  records : ∀ record ∈ s.contactSnapshotRecords.items, record.snapshotSequence ≤ s.sequence
  summaries : ∀ summary ∈ s.contactSnapshots.items, summary.collectorSequence ≤ s.sequence
  stamps : ∀ m stamp, (trackerAt s.counterpartTrackers m).lastSnapshotStampNs = some stamp →
    ∃ last, s.lastContactStampNs = some last ∧ stamp ≤ last
  tracked : ∃ tracks, Tracked tracks s.counterpartTrackers
    ∧ (s.contactSnapshots.overflowCount = 0 → ∀ m, tracks m = Presence.Track.run
      (observationsOf m s.contactSnapshots.items s.contactSnapshotRecords.items))

section Agreement

variable {key : SnapshotKey} {s s' opened : ContactMonitor} {retained : List SnapshotRecord}
  {progress : Progress} {repr : String → String} {manifest : ContactManifest} {stampNs : Int}

theorem Agrees.same (h : Agrees s) (hsame : SameEvidence s s') : Agrees s'
  where
  records := by
    rw [hsame.records]
    exact fun record hrecord => (h.records record hrecord).trans hsame.sequence
  summaries := by
    rw [hsame.summaries]
    exact fun summary hsummary => (h.summaries summary hsummary).trans hsame.sequence
  stamps := by
    rw [hsame.trackers, hsame.last]
    exact h.stamps
  tracked := by
    rw [hsame.trackers, hsame.overflow, hsame.summaries, hsame.records]
    exact h.tracked

theorem Agrees.initial (surroundings : Surroundings) : Agrees { surroundings with }
  where
  records := by
    intro record hrecord
    cases hrecord
  summaries := by
    intro summary hsummary
    cases hsummary
  stamps := by
    intro m stamp hstamp
    rw [trackerAt_set] at hstamp
    split at hstamp
    · cases hstamp
    · cases hstamp
  tracked := by
    refine ⟨fun _ => {}, ⟨?_, ?_⟩, fun _ _ => rfl⟩
    · intro m
      rw [trackerAt_set]
      split
      case isTrue h => exact h.symm
      case isFalse => rfl
    · intro m
      rw [trackerAt_set]
      split
      case isTrue => exact .new
      case isFalse => exact .new

/-- The state after a snapshot was opened. -/
structure Opened (key : SnapshotKey) (s : ContactMonitor) : Prop where
  positive : 0 < key.stampNs
  last : s.lastContactStampNs = some key.stampNs
  number : key.summarySequence = s.sequence
  records : ∀ record ∈ s.contactSnapshotRecords.items, record.snapshotSequence < key.summarySequence
  summaries : ∀ summary ∈ s.contactSnapshots.items, summary.collectorSequence < key.summarySequence
  advances : ∀ m, ComesAfter key.stampNs (trackerAt s.counterpartTrackers m)
  tracked : ∃ tracks, Tracked tracks s.counterpartTrackers
    ∧ (s.contactSnapshots.overflowCount = 0 → ∀ m, tracks m = Presence.Track.run
      (observationsOf m s.contactSnapshots.items s.contactSnapshotRecords.items))

theorem Agrees.open (h : Agrees s) (hpositive : 0 < stampNs)
    (hlast : ∀ last, s.lastContactStampNs = some last → last < stampNs) :
  Opened { stampNs := stampNs, summarySequence := (s.openSnapshot stampNs).sequence }
    (s.openSnapshot stampNs)
  where
  positive := hpositive
  last := rfl
  number := rfl
  records record hrecord := Nat.lt_succ_of_le (h.records record hrecord)
  summaries summary hsummary := Nat.lt_succ_of_le (h.summaries summary hsummary)
  advances m stamp hstamp := by
    obtain ⟨last, hlast', hle⟩ := h.stamps m stamp hstamp
    apply hle.trans_lt (hlast last hlast')
  tracked := h.tracked

/-- Records of a new snapshot do not change the observations of the old ones. -/
theorem observationsOf_append {m : String} {summaries : List SnapshotSummary}
    {records : List SnapshotRecord}
    (hsummaries : ∀ summary ∈ summaries, summary.collectorSequence < key.summarySequence)
    (hretained : ∀ record ∈ retained, record.snapshotSequence = key.summarySequence) :
  observationsOf m summaries (records ++ retained) = observationsOf m summaries records
  := by
  apply List.map_congr_left
  intro summary hsummary
  have hnone : retained.filter (fun record => record.snapshotSequence = summary.collectorSequence) =
      [] := by
    rw [List.filter_eq_nil_iff]
    intro record hrecord
    rw [decide_eq_true_eq, hretained record hrecord]
    exact (hsummaries summary hsummary).ne'
  rw [List.filter_append, hnone, List.append_nil]

/-- An interrupted snapshot leaves the agreement. -/
theorem Opened.interrupted (ho : Opened key opened)
    (h : Interrupted key opened s retained) : Agrees s
  where
  records := by
    rw [h.records]
    intro record hrecord
    rcases List.mem_append.mp hrecord with hrecord | hrecord
    · exact (ho.records record hrecord).le.trans (ho.number.le.trans h.sequence)
    · exact (h.numbered record hrecord).le.trans (ho.number.le.trans h.sequence)
  summaries := by
    rw [h.summaries]
    exact fun summary hsummary => (ho.summaries summary hsummary).le.trans
      (ho.number.le.trans h.sequence)
  stamps m stamp hstamp := by
    rw [h.trackers] at hstamp
    exact ⟨key.stampNs, h.last.trans ho.last, (ho.advances m stamp hstamp).le⟩
  tracked := by
    obtain ⟨tracks, htracked, hobservations⟩ := ho.tracked
    refine ⟨tracks, ⟨?_, ?_⟩, ?_⟩
    · intro m
      rw [h.trackers]
      apply htracked.names
    · intro m
      rw [h.trackers]
      apply htracked.holds
    · rw [h.overflow, h.summaries, h.records]
      intro hoverflow m
      rw [hobservations hoverflow m, observationsOf_append ho.summaries h.numbered]

/-- The observation of a new snapshot is the last one. -/
theorem observationsOf_concat {m : String} {summaries : List SnapshotSummary}
    {records : List SnapshotRecord}
    {summary : SnapshotSummary} (hkey : summary.collectorSequence = key.summarySequence)
    (hstamp : summary.simStampNs = key.stampNs)
    (hsummaries : ∀ summary ∈ summaries, summary.collectorSequence < key.summarySequence)
    (hrecords : ∀ record ∈ records, record.snapshotSequence < key.summarySequence)
    (hretained : ∀ record ∈ retained, record.snapshotSequence = key.summarySequence) :
  observationsOf m (summaries ++ [summary]) (records ++ retained)
    = observationsOf m summaries records ++ [(key.stampNs, pairsOf m (countedRecords retained))]
  := by
  have hold : records.filter (fun record => record.snapshotSequence = summary.collectorSequence) =
      [] := by
    rw [List.filter_eq_nil_iff]
    intro record hrecord
    rw [decide_eq_true_eq, hkey]
    exact (hrecords record hrecord).ne
  have hnew : retained.filter (fun record => record.snapshotSequence = summary.collectorSequence)
      = retained := by
    rw [List.filter_eq_self]
    intro record hrecord
    rw [decide_eq_true_eq, hkey]
    apply hretained record hrecord
  have happend : observationsOf m (summaries ++ [summary]) (records ++ retained)
      = observationsOf m summaries (records ++ retained) ++
        observationsOf m [summary] (records ++ retained) :=
    List.map_append
  rw [happend, observationsOf_append hsummaries hretained]
  rw [show observationsOf m [summary] (records ++ retained) =
    [(key.stampNs, pairsOf m (countedRecords retained))]
    by rw [observationsOf, List.map_singleton, List.filter_append, hold, hnew, hstamp,
      List.nil_append]]

/-- The trackers observe the snapshot when its contacts are processed. -/
theorem Opened.observeTrackers (ho : Opened key opened)
    (h : InProgress key opened s retained progress) :
  ∃ trackers, ContactMonitor.observeTrackers key.stampNs progress.snapshotPairs
    s.counterpartTrackers.keys s.counterpartTrackers = (.ok (), trackers) ∧
      trackers.keys = s.counterpartTrackers.keys ∧
        (∀ m stamp, (trackerAt trackers m).lastSnapshotStampNs = some stamp → stamp ≤ key.stampNs)
    ∧ ∃ tracks, Tracked tracks opened.counterpartTrackers
      ∧ (opened.contactSnapshots.overflowCount = 0 → ∀ m, tracks m = Presence.Track.run
        (observationsOf m opened.contactSnapshots.items opened.contactSnapshotRecords.items))
      ∧ Tracked (fun m => (tracks m).observe key.stampNs (progress.snapshotPairs.listOf m)) trackers
  := by
  obtain ⟨tracks, htracked, hobservations⟩ := ho.tracked
  have htracked' : Tracked tracks s.counterpartTrackers := {
    names := fun m => by
      rw [h.trackers]
      apply htracked.names
    holds := fun m => by
      rw [h.trackers]
      apply htracked.holds }
  obtain ⟨trackers, hrun, hkeys, hafter, hstamps⟩ := htracked'.observeTrackers ho.positive
    (fun m => by
      rw [h.trackers]
      apply ho.advances) h.tracked
  exact ⟨trackers, hrun, hkeys, hstamps, tracks, htracked, hobservations, hafter⟩

/-- A closed snapshot leaves the agreement. -/
theorem Opened.close {offsetNs : Int} {contacts : List (String × String)} (ho : Opened key opened)
    (h : InProgress key opened s retained progress) :
  Agrees (s.closeSnapshot key offsetNs contacts progress).2
  := by
  obtain ⟨trackers, hrun, -, hstamps, tracks, -, hobservations, hafter⟩ := ho.observeTrackers h
  have hagrees : ∀ buffer : PrefixBuffer SnapshotSummary,
      (∀ summary ∈ buffer.items, summary.collectorSequence ≤ s.sequence) →
      (buffer.overflowCount = 0 → ∀ m,
        (tracks m).observe key.stampNs (progress.snapshotPairs.listOf m) =
          Presence.Track.run (observationsOf m buffer.items s.contactSnapshotRecords.items)) →
      Agrees { s with counterpartTrackers := trackers, contactSnapshots := buffer } := by
    intro buffer hsummaries hbuffer
    exact {
      records := (ho.interrupted h.toInterrupted).records
      summaries := hsummaries
      stamps := fun m stamp hstamp => ⟨key.stampNs, h.last.trans ho.last, hstamps m stamp hstamp⟩
      tracked := ⟨_, hafter, hbuffer⟩ }
  have hold := (ho.interrupted h.toInterrupted).summaries
  rw [closeSnapshot, hrun]
  dsimp only
  cases hadd : s.contactSnapshots.add
      (summaryOf key offsetNs contacts progress { s with counterpartTrackers := trackers })
      key.summarySequence key.stampNs with
  | mk result buffer =>
      cases result with
      | error e =>
          obtain ⟨hitems, hcount⟩ := PrefixBuffer.add_overflow hadd
          apply hagrees buffer
          · rw [hitems]
            exact hold
          · intro hzero
            rw [hcount] at hzero
            cases hzero
      | ok u =>
          obtain ⟨hitems, hcount⟩ := PrefixBuffer.add_items hadd
          have hclosed :
              Agrees { s with counterpartTrackers := trackers, contactSnapshots := buffer } := by
            apply hagrees buffer
            · rw [hitems]
              intro summary hsummary
              rcases List.mem_append.mp hsummary with hsummary | hsummary
              · apply hold summary hsummary
              · rw [List.mem_singleton.mp hsummary]
                exact ho.number.le.trans h.sequence
            · intro hzero m
              rw [hcount, h.overflow] at hzero
              rw [hitems, h.summaries, h.records,
                observationsOf_concat rfl rfl ho.summaries ho.records h.numbered,
                Presence.Track.run_concat, ← hobservations hzero m, h.pairs m]
          have hrelease := hclosed.same (@sameEvidence_qualifyRelease _ key progress)
          dsimp only
          split
          case h_1 => exact hrelease
          case h_2 => exact hrelease.same sameEvidence_stopAtContact

/-- A snapshot whose contacts are processed leaves the agreement. -/
theorem Opened.process {offsetNs : Int} {contacts : List (String × String)}
    (ho : Opened key opened) :
  Agrees (match opened.eachContact repr manifest key contacts {} with
    | (.error e, s) => (.error e, s)
    | (.ok progress, s) => s.closeSnapshot key offsetNs contacts progress : Outcome Unit).2
  := by
  have hleaves := @eachContact_leaves _ _ _ _ _ repr manifest contacts (.start key opened)
  cases heach : opened.eachContact repr manifest key contacts {} with
  | mk result after =>
      rw [heach] at hleaves
      cases result with
      | error e =>
          obtain ⟨retained, hinterrupted⟩ := hleaves
          exact ho.interrupted hinterrupted
      | ok progress =>
          obtain ⟨retained, hprogress⟩ := hleaves
          exact ho.close hprogress

/-- The callback keeps the agreement, whatever it returns or raises. -/
theorem Agrees.onContacts {message : ContactsMessage} (h : Agrees s) :
  Agrees (s.onContacts repr manifest message).2
  := by
  unfold ContactMonitor.onContacts
  split
  case isTrue => exact h.same ⟨rfl, rfl, rfl, rfl, rfl, le_refl _⟩
  case isFalse =>
    obtain ⟨hsame, hstamp⟩ := @checkHeader_spec s manifest message
    cases hcheck : s.checkHeader manifest message with
    | mk result next =>
        rw [hcheck] at hsame hstamp
        have hnext := h.same hsame
        cases result with
        | error e => exact hnext
        | ok header =>
            obtain ⟨stampNs, offsetNs⟩ := header
            obtain ⟨hpositive, hlast⟩ := hstamp stampNs offsetNs rfl
            rw [← hsame.last] at hlast
            exact (hnext.open hpositive hlast).process

theorem Agrees.receive {message : ContactsMessage} (h : Agrees s) :
  Agrees (s.receive repr manifest message)
  := by
  unfold ContactMonitor.receive
  split
  case isTrue => exact h
  case isFalse =>
    have hcallback := @Agrees.onContacts s repr manifest message h
    cases hon : s.onContacts repr manifest message with
    | mk result after =>
        rw [hon] at hcallback
        cases result with
        | error e => exact hcallback.same sameEvidence_setFatal
        | ok u => exact hcallback

end Agreement

/-! ### Runs -/

/-- The states that the control reaches. Whatever else happens between the snapshots only changes
the surroundings, and gives out numbers. -/
inductive Reaches (repr : String → String) (manifest : ContactManifest) :
    ContactMonitor → Prop where
  | initial (surroundings : Surroundings) : Reaches repr manifest { surroundings with }
  | contacts {s : ContactMonitor} (message : ContactsMessage) :
      Reaches repr manifest s → Reaches repr manifest (s.receive repr manifest message)
  | other {s : ContactMonitor} (surroundings : Surroundings) :
      Reaches repr manifest s → s.sequence ≤ surroundings.sequence →
      Reaches repr manifest { s with toSurroundings := surroundings }

theorem Reaches.agrees {repr : String → String} {manifest : ContactManifest} {s : ContactMonitor}
    (h : Reaches repr manifest s) :
  Agrees s
  := by
  induction h with
  | initial surroundings => exact .initial surroundings
  | contacts message _ ih => exact ih.receive
  | other surroundings _ hle ih => exact ih.same ⟨rfl, rfl, rfl, rfl, rfl, hle⟩

/-! ### Agreement -/

theorem closedEpisodes_eq (s : ContactMonitor) :
  s.closedEpisodes
    = s.counterpartTrackers.keys.flatMap fun m => (trackerAt s.counterpartTrackers m).episodes
  := by
  rw [closedEpisodes, Dict.values, Dict.keys, List.flatMap_map, List.flatMap_map]
  apply List.flatMap_congr
  intro entry hentry
  rw [trackerAt_eq (Dict.get?_eq_some_iff.mpr hentry)]

theorem isActive_iff {s : ContactMonitor} {m : String} :
  s.IsActive m ↔ (trackerAt s.counterpartTrackers m).activeStartNs.isSome = true
  := by
  rw [IsActive, trackerAt]
  cases s.counterpartTrackers.get? m with
  | none => simp
  | some tracker => simp

/-- The trackers hold what is computed again. -/
theorem Agrees.episodes {s : ContactMonitor} (h : Agrees s)
    (hroom : s.contactSnapshots.overflowCount = 0) :
  s.closedEpisodes.Perm
    ((recomputed s.contactSnapshots.items s.contactSnapshotRecords.items).episodes.map
      EndedEpisode.normalized) ∧ ∀ m, s.IsActive m ↔
        m ∈ (recomputed s.contactSnapshots.items s.contactSnapshotRecords.items).active.keys
  := by
  obtain ⟨tracks, htracked, hobservations⟩ := h.tracked
  have hfollow := Metrics.follow_recomputed s.contactSnapshots.items s.contactSnapshotRecords.items
  generalize recomputed s.contactSnapshots.items s.contactSnapshotRecords.items = r at hfollow ⊢
  have htracks : tracks = _ := funext (hobservations hroom)
  rw [← htracks] at hfollow
  have hepisodes : ∀ m, (trackerAt s.counterpartTrackers m).episodes
      = (Metrics.episodesOf m r.episodes).map EndedEpisode.normalized := by
    intro m
    rw [(htracked.holds m).episodes, htracked.names m, hfollow.episodes m, List.map_map]
    rfl
  have hkeys : ∀ episode ∈ r.episodes, episode.counterpartModel ∈ s.counterpartTrackers.keys := by
    intro episode hepisode
    by_contra hmissing
    have hnone := hepisodes episode.counterpartModel
    rw [trackerAt, Dict.get?_eq_none_iff.mpr hmissing, Option.getD_none, eq_comm,
      List.map_eq_nil_iff] at hnone
    have hmem : episode ∈ Metrics.episodesOf episode.counterpartModel r.episodes :=
      List.mem_filter.mpr ⟨hepisode, by simp⟩
    rw [hnone] at hmem
    cases hmem
  constructor
  · rw [closedEpisodes_eq, List.flatMap_congr fun m _ => hepisodes m, ← List.map_flatMap]
    apply List.Perm.map
    apply List.perm_flatMap_filter s.counterpartTrackers.nodup_keys hkeys
  · intro m
    rw [isActive_iff, (htracked.holds m).start, Dict.mem_keys_iff, hfollow.active m,
      Option.isSome_map, Option.isSome_map]

/-- As long as no summary was turned away, the closed episodes of the trackers are those that the
reconciliation computes, and the same counterparts are active. -/
theorem episodes_agree (repr : String → String) (manifest : ContactManifest) (s : ContactMonitor)
    (hs : Reaches repr manifest s) (hroom : s.contactSnapshots.overflowCount = 0) :
  (s.closedEpisodes.Perm
    ((recomputed s.contactSnapshots.items s.contactSnapshotRecords.items).episodes.map
      EndedEpisode.normalized)) ∧ (∀ m, s.IsActive m ↔
        m ∈ (recomputed s.contactSnapshots.items s.contactSnapshotRecords.items).active.keys) ∧
          (∀ boundary loop,
      reconcileSummaries boundary s.contactSnapshots.items
        s.contactSnapshotRecords.items = .ok loop →
      s.closedEpisodes.Perm (loop.reconciled.episodes.map EndedEpisode.normalized)
        ∧ ∀ m, s.IsActive m ↔ m ∈ loop.reconciled.active.keys)
    ∧ ∀ boundary episodes recordsBySnapshot,
      reconcileContactSnapshots boundary s.contactSnapshots.items s.contactSnapshotRecords.items
        = .ok (episodes, recordsBySnapshot) →
      s.closedEpisodes.Perm episodes
  := by
  obtain ⟨hepisodes, hactive⟩ := hs.agrees.episodes hroom
  refine ⟨hepisodes, hactive, ?_, ?_⟩
  · intro boundary loop hloop
    rw [Metrics.reconcileSummaries_reconciled hloop]
    exact ⟨hepisodes, hactive⟩
  · intro boundary episodes recordsBySnapshot hreconcile
    rw [Metrics.reconcileContactSnapshots_episodes hreconcile]
    exact hepisodes

def sampleManifest : ContactManifest where
  robotCollisions := {"robotest::base_link::base_collision",
    "robotest::lidar_link::lidar_collision"}
  supportExclusions := ∅
  contactSnapshotMaxGapNs := 220000000
  contactSnapshotMaxClockLagNs := 220000000
  expectedControlPair := ("phase3_contact_control_wall::wall_link::wall_collision",
    "robotest::base_link::base_collision")

/-- A contact of the robot with itself. -/
def internalContact : String × String :=
  ("robotest::base_link::base_collision", "robotest::lidar_link::lidar_collision")

/-- A contact of the robot with a box. -/
def boxContact : String × String := ("robotest::base_link::base_collision", "box::link::collision")

/-- The message with one contact, at the given nanosecond. -/
def sampleMessage (k : Nat) (contact : String × String) : ContactsMessage where
  header := { stamp := { sec := 0, nanosec := UInt32.ofNat k } }
  contacts := [contact]

/-- The box is seen in the first snapshot, and not in the second one. -/
def sampleRun : ContactMonitor :=
  (({ toSurroundings := { clockSeen := true, currentSimStampNs := 1 } } : ContactMonitor).receive id
    sampleManifest
    (sampleMessage 1 boxContact)).receive id sampleManifest (sampleMessage 2 internalContact)

/-- The forward command comes after both snapshots. -/
def sampleBoundary : Metrics.ControlBoundary where
  expected := sampleManifest.expectedControlPair
  commandSequences := [100]
  firstForwardSequence := 100
  firstForwardStampNs := 100

/-- The episode of the box ends with the second snapshot, and the reconciliation accepts the
evidence. -/
theorem episodes_agree_sample :
  (sampleRun.closedEpisodes.map fun episode => (episode.startStampNs, episode.endStampNs)) =
    [(1, 2)] ∧ sampleRun.closedEpisodes.Perm
      ((recomputed sampleRun.contactSnapshots.items
        sampleRun.contactSnapshotRecords.items).episodes.map EndedEpisode.normalized) ∧
          (∃ loop, reconcileSummaries sampleBoundary sampleRun.contactSnapshots.items
        sampleRun.contactSnapshotRecords.items = .ok loop
      ∧ sampleRun.closedEpisodes.Perm (loop.reconciled.episodes.map EndedEpisode.normalized)
      ∧ ∀ m, sampleRun.IsActive m ↔ m ∈ loop.reconciled.active.keys)
    ∧ ∃ result, reconcileContactSnapshots sampleBoundary sampleRun.contactSnapshots.items
        sampleRun.contactSnapshotRecords.items = .ok result
      ∧ sampleRun.closedEpisodes.Perm result.1
  := by
  have hagree := episodes_agree id sampleManifest sampleRun
    (.contacts _ (.contacts _ (.initial _))) (by decide +kernel)
  have haccepted : (reconcileContactSnapshots sampleBoundary sampleRun.contactSnapshots.items
      sampleRun.contactSnapshotRecords.items).toOption.isSome = true := by
    decide +kernel
  have hlooped : (reconcileSummaries sampleBoundary sampleRun.contactSnapshots.items
      sampleRun.contactSnapshotRecords.items).toOption.isSome = true := by
    decide +kernel
  obtain ⟨loop, hloop⟩ := Option.isSome_iff_exists.mp hlooped
  obtain ⟨result, hresult⟩ := Option.isSome_iff_exists.mp haccepted
  rw [← Except.eq_ok_iff_toOption] at hloop hresult
  refine ⟨?_, hagree.1, ⟨loop, hloop, hagree.2.2.1 _ _ hloop⟩, result, hresult, ?_⟩
  · decide +kernel
  · exact hagree.2.2.2 _ _ _ hresult

/-! ### A full buffer -/

section Overflow

theorem classify_internal {s : ContactMonitor} :
  s.classifyContact id sampleManifest internalContact = (.ok (none, .robotInternalExcluded), s)
  := by
  have hclassified : (do
      let collisionA ← collisionName internalContact.1
      let collisionB ← collisionName internalContact.2
      sampleManifest.classify id collisionA collisionB) = .ok none := by decide +kernel
  have hdisposition : dispositionOf sampleManifest internalContact none =
      some .robotInternalExcluded := by
    decide +kernel
  rw [classifyContact, hclassified]
  dsimp only
  rw [hdisposition]

def boxClassification : CoverageClassification where
  counterpartCollision := "box::link::collision"
  counterpartModel := "box"
  normalizedPair := ["box::link::collision", "robotest::base_link::base_collision"]
  robotCollision := "robotest::base_link::base_collision"

theorem classify_box {s : ContactMonitor} :
  s.classifyContact id sampleManifest boxContact = (.ok (some boxClassification, .counted), s)
  := by
  have hclassified : (do
      let collisionA ← collisionName boxContact.1
      let collisionB ← collisionName boxContact.2
      sampleManifest.classify id collisionA collisionB) = .ok (some boxClassification) := by rfl
  rw [classifyContact, hclassified]
  rfl

theorem stampToNs_sample {k : Nat} (h : 0 < k) (hk : k ≤ CONTACT_SUMMARY_CAPACITY + 1) :
  stampToNs { sec := 0, nanosec := UInt32.ofNat k } true = .ok k
  := by
  have hnat : (UInt32.ofNat k).toNat = k := by
    apply UInt32.toNat_ofNat_of_lt'
    unfold CONTACT_SUMMARY_CAPACITY at hk
    exact hk.trans_lt (by decide)
  unfold CONTACT_SUMMARY_CAPACITY at hk
  have hsec : (0 : Int32).toInt = 0 := rfl
  rw [stampToNs]
  dsimp only
  rw [hnat, hsec, if_neg (by simp; omega), if_neg (by simp; omega)]
  simp

/-- Only contacts of the robot with itself were seen so far. -/
structure Quiet (last : Option Int) (summaries records : Nat) (s : ContactMonitor) : Prop where
  clock : s.clockSeen = true ∧ s.currentSimStampNs = 1
  idle : s.cleanupMode = false ∧ s.fatalError = none ∧ s.controlStartedStampNs = none
  last : s.lastContactStampNs = last
  summaries : s.contactSnapshots.items.length = summaries
  capacity : s.contactSnapshots.capacity = CONTACT_SUMMARY_CAPACITY
  room : s.contactSnapshots.overflowCount = 0
  records : s.contactSnapshotRecords.items.length = records
  recordCapacity : s.contactSnapshotRecords.capacity = CONTACT_RECORD_CAPACITY
  trackers : s.counterpartTrackers.keys = [WALL_NAME]

variable {k summaries records : Nat} {last : Option Int} {s opened : ContactMonitor}
  {contact : String × String} {stampNs : Int} {key : SnapshotKey} {progress : Progress}

/-- The counters of the headers do not matter. -/
theorem Quiet.counters (h : Quiet last summaries records s) (future : Nat)
    (first : Option Int) (gap : Int) :
  Quiet last summaries records
    { s with
      futureSnapshotDeliveryCount := future, contactFirstStampNs := first, contactMaxGapNs := gap }
  := { h with }

/-- The stamp that is one more than the last one, if there is one, is accepted. -/
theorem Quiet.checkOrder (h : Quiet last summaries records s)
    (hlast : ∀ stamp, last = some stamp → stampNs = stamp + 1) :
  ∃ s', s.checkOrder sampleManifest stampNs = (.ok (), s') ∧ Quiet last summaries records s'
  := by
  have horder : ¬ s.lastContactStampNs.any (stampNs ≤ ·) = true := by
    rw [h.last]
    cases last with
    | none => nofun
    | some stamp =>
        rw [hlast stamp rfl]
        simp
  rw [ContactMonitor.checkOrder, if_neg horder, checkGap]
  split
  · exact ⟨_, rfl, h.counters _ _ _⟩
  · exact ⟨_, rfl, h⟩
  · rename_i stamp _ hstamp
    have hgap : ¬ sampleManifest.contactSnapshotMaxGapNs < stampNs - stamp := by
      rw [hlast stamp (h.last.symm.trans hstamp), add_sub_cancel_left]
      decide
    rw [if_neg hgap]
    exact ⟨_, rfl, h.counters _ _ _⟩

/-- The header of the next snapshot is accepted. -/
theorem Quiet.checkHeader (h : Quiet last summaries records s) (hk : k ≤ CONTACT_SUMMARY_CAPACITY)
    (hlast : ∀ stamp, last = some stamp → ((k + 1 : Nat) : Int) = stamp + 1) :
  ∃ offsetNs s', s.checkHeader sampleManifest (sampleMessage (k + 1) contact)
      = (.ok (((k + 1 : Nat) : Int), offsetNs), s')
    ∧ Quiet last summaries records s'
  := by
  have hframe : ¬ (sampleMessage (k + 1) contact).header.frameId ≠ "" := not_not_intro rfl
  have hlength : ¬ (!(1 ≤ (sampleMessage (k + 1) contact).contacts.length
      && (sampleMessage (k + 1) contact).contacts.length ≤ 16)) = true := Bool.noConfusion
  have hstamp : stampToNs (sampleMessage (k + 1) contact).header.stamp true =
      .ok ((k + 1 : Nat) : Int) :=
    stampToNs_sample (Nat.succ_pos k) (Nat.succ_le_succ hk)
  have hlag : ¬ (s.controlStartedStampNs.isSome && sampleManifest.contactSnapshotMaxClockLagNs
      < (s.currentSimStampNs - ((k + 1 : Nat) : Int)).natAbs) = true := by
    rw [h.idle.2.2]
    exact Bool.noConfusion
  rw [ContactMonitor.checkHeader, if_neg hframe, if_neg hlength, hstamp]
  dsimp only
  rw [if_neg hlag]
  have hcounted : ∀ b : Prop, [Decidable b] → Quiet last summaries records
      (if b then { s with futureSnapshotDeliveryCount := s.futureSnapshotDeliveryCount + 1 }
        else s) := by
    intro b _
    split
    · exact h.counters _ _ _
    · exact h
  obtain ⟨s', hcheck, hquiet⟩ :=
    (hcounted (s.currentSimStampNs - ((k + 1 : Nat) : Int) < 0)).checkOrder hlast
  rw [hcheck]
  exact ⟨_, s', rfl, hquiet⟩

/-- A record is retained. -/
theorem Quiet.retainRecord {record : SnapshotRecord} (h : Quiet last summaries records s)
    (hrecords : records < CONTACT_RECORD_CAPACITY) :
  ∃ s', s.retainRecord key record = (.ok (), s') ∧ Quiet last summaries (records + 1) s'
    ∧ s'.contactSnapshots = s.contactSnapshots
  := by
  have hroom : s.contactSnapshotRecords.items.length < s.contactSnapshotRecords.capacity := by
    rw [h.records, h.recordCapacity]
    exact hrecords
  rw [ContactMonitor.retainRecord, PrefixBuffer.add_of_lt hroom]
  refine ⟨_, rfl, { h with records := ?_ }, rfl⟩
  rw [← h.records]
  apply List.length_append

/-- A contact of the robot with itself is retained, and not counted. -/
theorem Quiet.onContact (h : Quiet last summaries records s)
    (hrecords : records < CONTACT_RECORD_CAPACITY) :
  ∃ s', s.onContact id sampleManifest key internalContact progress = (.ok progress, s')
    ∧ Quiet last summaries (records + 1) s'
  := by
  rw [ContactMonitor.onContact]
  dsimp only
  rw [classify_internal]
  dsimp only
  have hnext : Quiet last summaries records (ContactMonitor.nextSequence
      { s with snapshotContactRecordCount := s.snapshotContactRecordCount + 1 }) := { h with }
  obtain ⟨s', hretain, hquiet, -⟩ := @Quiet.retainRecord _ _ _ _ key _ hnext hrecords
  rw [hretain]
  exact ⟨s', rfl, hquiet⟩

/-- A snapshot without counted contacts is closed. -/
theorem Quiet.closeSnapshot {offsetNs : Int} {contacts : List (String × String)}
    {retained : List SnapshotRecord}
    (h : Quiet last summaries records s) (hsummaries : summaries < CONTACT_SUMMARY_CAPACITY)
    (ho : Opened key opened) (hp : InProgress key opened s retained {}) :
  ∃ s', s.closeSnapshot key offsetNs contacts {} = (.ok (), s') ∧
    Quiet last (summaries + 1) records s'
  := by
  obtain ⟨trackers, hrun, hkeys, -⟩ := ho.observeTrackers hp
  have hroom : s.contactSnapshots.items.length < s.contactSnapshots.capacity := by
    rw [h.summaries, h.capacity]
    exact hsummaries
  rw [ContactMonitor.closeSnapshot, hrun]
  dsimp only
  rw [PrefixBuffer.add_of_lt hroom]
  dsimp only
  rw [qualifyRelease]
  have hlength : ∀ summary, (s.contactSnapshots.items ++ [summary]).length = summaries + 1 := by
    intro summary
    rw [← h.summaries]
    apply List.length_append
  split
  · exact ⟨_, rfl, { h with summaries := hlength _, trackers := hkeys.trans h.trackers }⟩
  · exact ⟨_, rfl, { h with summaries := hlength _, trackers := hkeys.trans h.trackers }⟩

/-- The header of the next snapshot is accepted, and the snapshot is opened. -/
theorem Quiet.open (h : Quiet last summaries records s) (hs : Agrees s)
    (hk : k ≤ CONTACT_SUMMARY_CAPACITY)
    (hlast : ∀ stamp, last = some stamp → stamp = k) :
  ∃ offsetNs opened key, Opened key opened
    ∧ Quiet (some ((k + 1 : Nat) : Int)) summaries records opened
    ∧ opened.contactSnapshots.items = s.contactSnapshots.items
    ∧ s.onContacts id sampleManifest (sampleMessage (k + 1) contact)
      = match opened.eachContact id sampleManifest key [contact] {} with
        | (.error e, s) => (.error e, s)
        | (.ok progress, s) => s.closeSnapshot key offsetNs [contact] progress
  := by
  have hstamps : ∀ stamp, last = some stamp → ((k + 1 : Nat) : Int) = stamp + 1 := by
    intro stamp hstamp
    rw [hlast stamp hstamp, Nat.cast_succ]
  obtain ⟨offsetNs, next, hheader, hnext⟩ := @Quiet.checkHeader k _ _ _ s contact h hk hstamps
  obtain ⟨hsame, hspec⟩ := @checkHeader_spec s sampleManifest (sampleMessage (k + 1) contact)
  rw [hheader] at hsame hspec
  obtain ⟨hpositive, hadvances⟩ := hspec _ _ rfl
  rw [← hsame.last] at hadvances
  refine ⟨offsetNs, _, _, (hs.same hsame).open hpositive hadvances, { hnext with last := rfl },
    hsame.summaries, ?_⟩
  rw [onContacts, h.clock.1, h.clock.2, if_neg (by decide), hheader]
  rfl

/-- A snapshot of the robot with itself. -/
theorem Quiet.receive (h : Quiet last k k s) (hs : Agrees s) (hk : k < CONTACT_SUMMARY_CAPACITY)
    (hlast : ∀ stamp, last = some stamp → stamp = k) :
  Quiet (some ((k + 1 : Nat) : Int)) (k + 1) (k + 1)
    (s.receive id sampleManifest (sampleMessage (k + 1) internalContact))
  := by
  obtain ⟨offsetNs, opened, key, ho, hopened, -, hon⟩ :=
    @Quiet.open k _ _ _ s internalContact h hs hk.le hlast
  have hleaves := @eachContact_leaves _ _ _ _ _ id sampleManifest [internalContact]
    (.start key opened)
  obtain ⟨after, hcontact, hafter⟩ := @Quiet.onContact _ _ _ _ key {} hopened (hk.trans (by decide))
  have heach : opened.eachContact id sampleManifest key [internalContact] {} = (.ok {}, after) := by
    rw [eachContact, hcontact]
    rfl
  rw [heach] at hleaves hon
  obtain ⟨retained, hprogress⟩ := hleaves
  obtain ⟨closed, hclose, hclosed⟩ :=
    @Quiet.closeSnapshot _ _ _ _ _ _ offsetNs [internalContact] _ hafter hk ho hprogress
  dsimp only at hon
  rw [hclose] at hon
  rw [ContactMonitor.receive, h.idle.1, h.idle.2.1, if_neg (by decide), hon]
  exact hclosed

/-- The control has seen the given number of snapshots of the robot with itself. -/
theorem exists_quiet (hk : k ≤ CONTACT_SUMMARY_CAPACITY) :
  ∃ s last, Reaches id sampleManifest s ∧ Quiet last k k s ∧ ∀ stamp, last = some stamp → stamp = k
  := by
  induction k with
  | zero =>
      refine ⟨_, none, .initial { clockSeen := true, currentSimStampNs := 1 }, ?_, nofun⟩
      exact ⟨⟨rfl, rfl⟩, ⟨rfl, rfl, rfl⟩, rfl, rfl, rfl, rfl, rfl, rfl, rfl⟩
  | succ k ih =>
      obtain ⟨s, last, hs, hquiet, hlast⟩ := ih (Nat.le_of_succ_le hk)
      refine ⟨_, _, .contacts (sampleMessage (k + 1) internalContact) hs,
        hquiet.receive hs.agrees hk hlast, ?_⟩
      rintro stamp ⟨⟩
      rfl

/-- Before the buffer turns a summary away, the trackers observe its snapshot. A counterpart that
begins with it is active, and the reconciliation does not know of it. -/
theorem Opened.turnedAway {offsetNs : Int} {contacts : List (String × String)}
    {retained : List SnapshotRecord}
    {m : String} (ho : Opened key opened) (h : InProgress key opened s retained progress)
    (hfull : s.contactSnapshots.capacity ≤ s.contactSnapshots.items.length)
    (hroom : opened.contactSnapshots.overflowCount = 0)
    (hidle : m ∉ opened.counterpartTrackers.keys)
    (hm : progress.snapshotPairs.listOf m ≠ []) :
  ∃ e after, s.closeSnapshot key offsetNs contacts progress = (.error e, after) ∧ after.IsActive m
    ∧ m ∉ (recomputed after.contactSnapshots.items after.contactSnapshotRecords.items).active.keys
  := by
  obtain ⟨trackers, hrun, -, -, tracks, htracked, hobservations, hafter⟩ := ho.observeTrackers h
  obtain ⟨e, buffer, hadd⟩ := @PrefixBuffer.add_of_le _ _ (summaryOf key offsetNs contacts progress
    { s with counterpartTrackers := trackers }) key.summarySequence key.stampNs hfull
  rw [closeSnapshot, hrun]
  dsimp only
  rw [hadd]
  refine ⟨e, _, rfl, ?_, ?_⟩
  · rw [isActive_iff, (hafter.holds m).start, Presence.Track.observe_present hm]
    rfl
  · have hfollow := Metrics.follow_recomputed buffer.items s.contactSnapshotRecords.items
    rw [(PrefixBuffer.add_overflow hadd).1, h.summaries, h.records] at hfollow ⊢
    have htrack := (htracked.holds m).start
    rw [trackerAt, Dict.get?_eq_none_iff.mpr hidle, hobservations hroom m] at htrack
    have hnone := hfollow.active m
    rw [observationsOf_append ho.summaries h.numbered,
      Option.map_eq_none_iff.mp htrack.symm] at hnone
    rw [Dict.mem_keys_iff, hnone]
    exact Bool.noConfusion

/-- A contact with the box is counted, and a tracker is made for the box. -/
theorem Quiet.onContact_box (h : Quiet last summaries records s)
    (hrecords : records < CONTACT_RECORD_CAPACITY) :
  ∃ progress after, s.onContact id sampleManifest key boxContact {} = (.ok progress, after)
    ∧ progress.snapshotPairs.listOf "box" ≠ []
    ∧ after.contactSnapshots = s.contactSnapshots
  := by
  rw [ContactMonitor.onContact]
  dsimp only
  rw [classify_box]
  dsimp only
  have hnext : Quiet last summaries records (ContactMonitor.nextSequence
        { s with snapshotContactRecordCount := s.snapshotContactRecordCount + 1 })
      ∧ (ContactMonitor.nextSequence { s with
        snapshotContactRecordCount := s.snapshotContactRecordCount + 1 }).contactSnapshots
        = s.contactSnapshots := ⟨{ h with }, rfl⟩
  generalize ContactMonitor.nextSequence { s with
    snapshotContactRecordCount := s.snapshotContactRecordCount + 1 } = next at hnext ⊢
  obtain ⟨s', hretain, hquiet, hbuffer⟩ := @Quiet.retainRecord _ _ _ _ key
    (recordOf key next.sequence boxContact (some boxClassification) .counted) hnext.1 hrecords
  have hnew : s'.counterpartTrackers.get? "box" = none := by
    rw [Dict.get?_eq_none_iff, hquiet.trackers]
    decide
  have hcapacity : ¬ CONTACT_RECORD_CAPACITY ≤ s'.counterpartTrackers.keys.length := by
    rw [hquiet.trackers]
    decide
  have hensure : ContactMonitor.ensureTracker "box"
        { s' with classifiedContactRecordCount := s'.classifiedContactRecordCount + 1 }
      = (.ok (), { s' with
        classifiedContactRecordCount := s'.classifiedContactRecordCount + 1
        counterpartTrackers := s'.counterpartTrackers.set "box"
          { counterpartModel := "box" } }) := by
    rw [ensureTracker]
    dsimp only
    rw [hnew]
    dsimp only
    rw [if_neg hcapacity]
  have hwall : ¬ ("box" = WALL_NAME ∧ s'.controlStartedStampNs = none) :=
    fun h => absurd h.1 (by decide)
  have hbox : ("box" : String) ≠ WALL_NAME := by decide
  rw [hretain]
  dsimp only [boxClassification]
  rw [countContact]
  dsimp only
  rw [if_neg hwall, hensure]
  dsimp only
  rw [if_pos hbox]
  refine ⟨_, _, rfl, ?_, hbuffer.trans hnext.2⟩
  exact List.cons_ne_nil _ _

/-- The snapshot after the last one that there is room for. -/
theorem Quiet.receive_box (h : Quiet last CONTACT_SUMMARY_CAPACITY CONTACT_SUMMARY_CAPACITY s)
    (hs : Agrees s)
    (hlast : ∀ stamp, last = some stamp → stamp = CONTACT_SUMMARY_CAPACITY) :
  let after := s.receive id sampleManifest (sampleMessage (CONTACT_SUMMARY_CAPACITY + 1) boxContact)
  after.IsActive "box"
    ∧ "box" ∉ (recomputed after.contactSnapshots.items
      after.contactSnapshotRecords.items).active.keys
  := by
  obtain ⟨offsetNs, opened, key, ho, hopened, -, hon⟩ :=
    @Quiet.open CONTACT_SUMMARY_CAPACITY _ _ _ s boxContact h hs (le_refl _) hlast
  have hleaves := @eachContact_leaves _ _ _ _ _ id sampleManifest [boxContact] (.start key opened)
  obtain ⟨progress, after, hcontact, hbox, hbuffer⟩ :=
    @Quiet.onContact_box _ _ _ _ key hopened (by decide)
  have heach : opened.eachContact id sampleManifest key [boxContact] {} =
      (.ok progress, after) := by
    rw [eachContact, hcontact]
    rfl
  rw [heach] at hleaves hon
  obtain ⟨retained, hprogress⟩ := hleaves
  have hfull : after.contactSnapshots.capacity ≤ after.contactSnapshots.items.length := by
    rw [hbuffer, hopened.capacity, hopened.summaries]
  have hidle : "box" ∉ opened.counterpartTrackers.keys := by
    rw [hopened.trackers]
    decide
  obtain ⟨e, final, hclose, hactive, hunknown⟩ :=
    @Opened.turnedAway _ _ _ _ offsetNs [boxContact] _ "box" ho hprogress hfull
      hopened.room hidle hbox
  dsimp only at hon
  rw [hclose] at hon
  have hsame := @sameEvidence_setFatal final e
  rw [ContactMonitor.receive, h.idle.1, h.idle.2.1, if_neg (by decide), hon]
  dsimp only
  rw [IsActive, hsame.trackers, hsame.summaries, hsame.records]
  exact ⟨hactive, hunknown⟩

/-- When the buffer of the summaries is full, the trackers know of an episode that the
reconciliation does not know of. -/
theorem episodes_differ :
  ¬ ∀ (repr : String → String) (manifest : ContactManifest) (s : ContactMonitor),
    Reaches repr manifest s →
    s.closedEpisodes.Perm
      ((recomputed s.contactSnapshots.items s.contactSnapshotRecords.items).episodes.map
        EndedEpisode.normalized)
    ∧ ∀ m, s.IsActive m
      ↔ m ∈ (recomputed s.contactSnapshots.items s.contactSnapshotRecords.items).active.keys
  := by
  intro hclaim
  obtain ⟨s, last, hs, hquiet, hlast⟩ := @exists_quiet CONTACT_SUMMARY_CAPACITY (le_refl _)
  obtain ⟨hactive, hunknown⟩ := hquiet.receive_box hs.agrees hlast
  apply hunknown
  apply ((hclaim id sampleManifest _ (.contacts _ hs)).2 "box").mp hactive

end Overflow
end ContactMonitor

end Scenarios

end RobotestLab
