import RobotestLab.Metrics.EpisodePresence

/-!
# The episode trackers as tracks

A tracker that observes the pairs of its counterpart, snapshot after snapshot, holds the open and
the closed periods of a track. A counterpart without a tracker has the same track as one whose
tracker has not seen it yet. The trackers of all counterparts observe a snapshot together
(`Tracked.observeTrackers`).
-/

namespace RobotestLab

namespace Scenarios

open Metrics (ContactTrack endedOf)

/-- The tracker holds the periods of the track. -/
structure Holds (track : ContactTrack) (tracker : ContactEpisodeTracker) : Prop where
  start : tracker.activeStartNs = track.active.map (·.start)
  pairs : ∀ period, track.active = some period → tracker.activePairs = period.values
  count : ∀ period, track.active = some period → tracker.activeSnapshotRecordCount = period.count
  episodes : tracker.episodes
    = track.closed.map fun period => (endedOf tracker.counterpartModel period).normalized

/-- The stamp is after the snapshot that the tracker observed last. -/
def ComesAfter (stampNs : Int) (tracker : ContactEpisodeTracker) : Prop :=
  ∀ last, tracker.lastSnapshotStampNs = some last → last < stampNs

section Tracker

variable {track : ContactTrack} {tracker : ContactEpisodeTracker} {stampNs : Int}
  {pairs : List CollisionPair}

theorem Holds.new {counterpart : String} : Holds {} { counterpartModel := counterpart }
  where
  start := rfl
  pairs := nofun
  count := nofun
  episodes := rfl

theorem not_refused (h : ComesAfter stampNs tracker) :
  ¬ tracker.lastSnapshotStampNs.any (stampNs ≤ ·) = true
  := by
  unfold ComesAfter at h
  cases hlast : tracker.lastSnapshotStampNs with
  | none => nofun
  | some last => simpa using h last hlast

/-- A tracker observes a snapshot as its track does. -/
theorem Holds.observeSnapshot (h : Holds track tracker) (hpositive : 0 < stampNs)
    (hadvances : ComesAfter stampNs tracker) :
  ∃ tracker', tracker.observeSnapshot stampNs pairs = .ok tracker'
    ∧ Holds (track.observe stampNs pairs) tracker'
    ∧ tracker'.counterpartModel = tracker.counterpartModel ∧
      tracker'.lastSnapshotStampNs = some stampNs
  := by
  rw [ContactEpisodeTracker.observeSnapshot, if_neg (not_le.mpr hpositive),
    if_neg (not_refused hadvances)]
  dsimp only
  have hstart := h.start
  by_cases hpairs : pairs = []
  · subst hpairs
    rw [if_pos rfl]
    cases hactive : track.active with
    | none =>
        rw [hactive, Option.map_none] at hstart
        rw [Presence.Track.observe_absent hactive, hstart]
        exact ⟨_, rfl, ⟨by rw [hactive]; rfl, h.pairs, h.count, h.episodes⟩, rfl, rfl⟩
    | some period =>
        rw [hactive, Option.map_some] at hstart
        rw [Presence.Track.observe_close hactive, hstart]
        refine ⟨_, rfl, ⟨rfl, nofun, nofun, ?_⟩, rfl, rfl⟩
        rw [ContactEpisodeTracker.close, List.map_append, ← h.episodes]
        simp only [h.pairs period hactive, h.count period hactive]
        rfl
  · rw [if_neg hpairs, Presence.Track.observe_present hpairs, ContactEpisodeTracker.begin]
    cases hactive : track.active with
    | none =>
        rw [hactive, Option.map_none] at hstart
        rw [hstart]
        refine ⟨_, rfl, ⟨rfl, ?_, ?_, h.episodes⟩, rfl, rfl⟩
        · rintro period ⟨⟩
          rfl
        · rintro period ⟨⟩
          rfl
    | some period =>
        rw [hactive, Option.map_some] at hstart
        rw [hstart]
        refine ⟨_, rfl, ⟨rfl, ?_, ?_, h.episodes⟩, rfl, rfl⟩
        · rintro period' ⟨⟩
          change tracker.activePairs.update pairs = period.values.update pairs
          rw [h.pairs period hactive]
        · rintro period' ⟨⟩
          change tracker.activeSnapshotRecordCount + _ = period.count + _
          rw [h.count period hactive]

end Tracker

/-! ### All trackers -/

/-- The tracker of a counterpart, which is new when there is none. -/
def trackerAt (trackers : Dict String ContactEpisodeTracker) (m : String) : ContactEpisodeTracker :=
  (trackers.get? m).getD { counterpartModel := m }

/-- The trackers are named after their counterparts, and hold the periods of the tracks. -/
structure Tracked (tracks : String → ContactTrack)
    (trackers : Dict String ContactEpisodeTracker) : Prop where
  names : ∀ m, (trackerAt trackers m).counterpartModel = m
  holds : ∀ m, Holds (tracks m) (trackerAt trackers m)

section Trackers

variable {tracks : String → ContactTrack} {trackers : Dict String ContactEpisodeTracker}
  {stampNs : Int}
  {pairs : Dict String (List CollisionPair)} {m : String}

theorem trackerAt_eq {tracker : ContactEpisodeTracker} (h : trackers.get? m = some tracker) :
  trackerAt trackers m = tracker
  := by
  rw [trackerAt, h]
  rfl

theorem trackerAt_set {tracker : ContactEpisodeTracker} {counterpart : String} :
  trackerAt (trackers.set counterpart tracker) m = if m = counterpart then tracker else
    trackerAt trackers m
  := by
  rw [trackerAt, Dict.get?_set]
  split
  case isTrue => rfl
  case isFalse => rfl

/-- Each tracker of a list of counterparts observes its pairs, and the others stay as they are. -/
theorem observeTrackers_ok {counterparts : List String} (hnodup : counterparts.Nodup)
    (hkeys : ∀ m ∈ counterparts, ∃ tracker tracker', trackers.get? m = some tracker
      ∧ tracker.observeSnapshot stampNs (pairs.listOf m) = .ok tracker') :
  ∃ trackers', ContactMonitor.observeTrackers stampNs pairs counterparts trackers = (.ok (),
    trackers') ∧ trackers'.keys = trackers.keys ∧
      (∀ m, m ∉ counterparts → trackerAt trackers' m = trackerAt trackers m) ∧ ∀ m ∈ counterparts,
      (trackerAt trackers m).observeSnapshot stampNs (pairs.listOf m) = .ok (trackerAt trackers' m)
  := by
  induction counterparts generalizing trackers with
  | nil => exact ⟨trackers, rfl, rfl, fun _ _ => rfl, nofun⟩
  | cons counterpart counterparts ih =>
      rw [List.nodup_cons] at hnodup
      obtain ⟨⟨tracker, tracker', hget, hobserve⟩, hkeys⟩ := List.forall_mem_cons.mp hkeys
      rw [ContactMonitor.observeTrackers, hget]
      dsimp only
      rw [hobserve]
      have hne : ∀ m ∈ counterparts, m ≠ counterpart := fun m hm heq => hnodup.1 (heq ▸ hm)
      obtain ⟨trackers', hrun, hnames, hother, hobserved⟩ :=
        @ih (trackers.set counterpart tracker') hnodup.2 <| by
        intro m hm
        rw [Dict.get?_set, if_neg (hne m hm)]
        apply hkeys m hm
      refine ⟨trackers', hrun, ?_, ?_, ?_⟩
      · rw [hnames, Dict.keys_set, if_pos]
        rw [Dict.mem_keys_iff, hget]
        rfl
      · intro m hm
        rw [List.mem_cons, not_or] at hm
        rw [hother m hm.2, trackerAt_set, if_neg hm.1]
      · rw [List.forall_mem_cons, hother counterpart hnodup.1, trackerAt_set, if_pos rfl,
          trackerAt_eq hget]
        refine ⟨hobserve, ?_⟩
        intro m hm
        have hm' := hobserved m hm
        rw [trackerAt_set, if_neg (hne m hm)] at hm'
        exact hm'

/-- The trackers observe a snapshot as the tracks of all counterparts do. -/
theorem Tracked.observeTrackers (h : Tracked tracks trackers) (hpositive : 0 < stampNs)
    (hadvances : ∀ m, ComesAfter stampNs (trackerAt trackers m))
    (hpairs : ∀ m, pairs.listOf m ≠ [] → m ∈ trackers.keys) :
  ∃ trackers', ContactMonitor.observeTrackers stampNs pairs trackers.keys trackers = (.ok (),
    trackers') ∧ trackers'.keys = trackers.keys ∧
      Tracked (fun m => (tracks m).observe stampNs (pairs.listOf m)) trackers' ∧ ∀ m stamp,
        (trackerAt trackers' m).lastSnapshotStampNs = some stamp → stamp ≤ stampNs
  := by
  have hstep := fun m => @Holds.observeSnapshot _ _ stampNs (pairs.listOf m)
    (h.holds m) hpositive (hadvances m)
  obtain ⟨trackers', hrun, hnames, hother, hobserved⟩ :=
    @observeTrackers_ok trackers stampNs pairs trackers.keys trackers.nodup_keys <| by
      intro m hm
      obtain ⟨tracker, htracker⟩ := Option.isSome_iff_exists.mp (Dict.mem_keys_iff.mp hm)
      obtain ⟨tracker', hobserve, -⟩ := hstep m
      rw [trackerAt_eq htracker] at hobserve
      exact ⟨tracker, tracker', htracker, hobserve⟩
  have hall : ∀ m, (trackerAt trackers' m).counterpartModel = m
      ∧ Holds ((tracks m).observe stampNs (pairs.listOf m)) (trackerAt trackers' m)
      ∧ ∀ stamp, (trackerAt trackers' m).lastSnapshotStampNs = some stamp → stamp ≤ stampNs := by
    intro m
    by_cases hm : m ∈ trackers.keys
    · obtain ⟨tracker', hobserve, hholds, hname, hlast⟩ := hstep m
      rw [hobserved m hm] at hobserve
      obtain rfl := Except.ok.inj hobserve
      refine ⟨hname.trans (h.names m), hholds, ?_⟩
      intro stamp hstamp
      rw [hlast] at hstamp
      exact (Option.some.inj hstamp).ge
    · have hnil : pairs.listOf m = [] := not_not.mp fun hne => hm (hpairs m hne)
      have hidle : (tracks m).active = none := by
        have hstart := (h.holds m).start
        rw [trackerAt, Dict.get?_eq_none_iff.mpr hm] at hstart
        exact Option.map_eq_none_iff.mp hstart.symm
      rw [hother m hm, hnil, Presence.Track.observe_absent hidle]
      refine ⟨h.names m, h.holds m, ?_⟩
      intro stamp hstamp
      exact (hadvances m stamp hstamp).le
  exact ⟨trackers', hrun, hnames, ⟨fun m => (hall m).1, fun m => (hall m).2.1⟩,
    fun m => (hall m).2.2⟩

end Trackers

end Scenarios

end RobotestLab
