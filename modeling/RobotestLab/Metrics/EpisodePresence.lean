import RobotestLab.Library.Presence
import RobotestLab.Metrics.ContactReconciliation

/-!
# The episodes of the reconciliation as tracks

For every counterpart, the dictionary of the active episodes and the list of the ended ones hold the
open and the closed periods of the track of the counterpart. Applying a snapshot observes, for every
counterpart at once, the pairs that the snapshot has of it (`Follow.applySnapshot`).
-/

namespace RobotestLab

namespace Metrics

open Scenarios (CollisionPair ContactEpisode SnapshotRecord SnapshotSummary)

/-- The track of a counterpart. -/
abbrev ContactTrack := Presence.Track Int CollisionPair

/-- The active episode of an open period. -/
def activeOf (counterpart : String) (period : Presence.Open Int CollisionPair) : ActiveEpisode where
  counterpartModel := counterpart
  normalizedPairs := period.values
  snapshotRecordCount := period.count
  startStampNs := period.start

/-- The ended episode of a closed period. -/
def endedOf (counterpart : String) (period : Presence.Closed Int CollisionPair) : EndedEpisode :=
  { activeOf counterpart period.toOpen with endStampNs := period.finish }

/-- The ended episodes of a counterpart. -/
def episodesOf (counterpart : String) (episodes : List EndedEpisode) : List EndedEpisode :=
  episodes.filter fun episode => episode.counterpartModel = counterpart

/-- The episodes are those of the tracks. -/
structure Follow (tracks : String → ContactTrack) (r : Reconciled) : Prop where
  active : ∀ m, r.active.get? m = (tracks m).active.map (activeOf m)
  episodes : ∀ m, episodesOf m r.episodes = (tracks m).closed.map (endedOf m)

/-- The pairs that the counted records of a snapshot have of a counterpart. -/
def pairsOf (counterpart : String) (counted : List SnapshotRecord) : List CollisionPair :=
  (counted.filter fun record => modelText record = counterpart).map (·.normalizedPair)

variable {tracks : String → ContactTrack} {r : Reconciled} {stamp : Int} {counterpart m : String}
  {counted : List SnapshotRecord}

theorem Follow.empty : Follow (fun _ => {}) {}
  where
  active _ := rfl
  episodes _ := rfl

theorem Follow.congr {tracks' : String → ContactTrack} (h : Follow tracks r)
    (heq : ∀ m, tracks m = tracks' m) :
  Follow tracks' r
  := funext heq ▸ h

/-- The tracks with one of them replaced. -/
def setTrack (tracks : String → ContactTrack) (counterpart : String) (track : ContactTrack) :
    String → ContactTrack :=
  fun m => if m = counterpart then track else tracks m

theorem setTrack_self {track : ContactTrack} : setTrack tracks counterpart track counterpart = track
  := if_pos rfl

theorem setTrack_of_ne {track : ContactTrack} (h : m ≠ counterpart) :
  setTrack tracks counterpart track m = tracks m
  := if_neg h

theorem get?_erase {d : Dict String ActiveEpisode} :
  (d.erase counterpart).get? m = if m = counterpart then none else d.get? m
  := by
  ext episode
  rw [Dict.get?_eq_some_iff, Dict.mem_items_erase]
  split
  case isTrue h => simp [h]
  case isFalse h => simp [h, Dict.get?_eq_some_iff]

/-! ### Absent counterparts -/

/-- Ending an episode closes the period of its track. -/
theorem Follow.close (h : Follow tracks r) {episode : ActiveEpisode}
    (hget : r.active.get? counterpart = some episode) :
  Follow (setTrack tracks counterpart ((tracks counterpart).observe stamp [])) {
    active := r.active.erase counterpart
    episodes := r.episodes ++ [{ episode with endStampNs := stamp }] }
  := by
  have hactive := h.active counterpart
  rw [hget, eq_comm, Option.map_eq_some_iff] at hactive
  obtain ⟨period, hperiod, rfl⟩ := hactive
  have hobserve := @Presence.Track.observe_close _ _ _ _ stamp _ hperiod
  constructor
  · intro m
    rw [get?_erase]
    by_cases hm : m = counterpart
    · subst hm
      rw [if_pos rfl, setTrack_self, hobserve]
      rfl
    · rw [if_neg hm, setTrack_of_ne hm]
      apply h.active m
  · intro m
    rw [episodesOf, List.filter_append]
    by_cases hm : m = counterpart
    · subst hm
      rw [setTrack_self, hobserve, List.map_append, ← h.episodes m,
        List.filter_cons_of_pos (by simp [activeOf])]
      rfl
    · have hne : (activeOf counterpart period).counterpartModel ≠ m := Ne.symm hm
      rw [setTrack_of_ne hm, List.filter_cons_of_neg (by simpa using hne), List.filter_nil,
        List.append_nil]
      apply h.episodes m

theorem Follow.closeAbsent {present : Dict String (List SnapshotRecord)}
    {counterparts : List String}
    (hnodup : counterparts.Nodup) (h : Follow tracks r) :
  Follow (fun m => if m ∈ counterparts ∧ m ∉ present.keys then (tracks m).observe stamp []
    else tracks m) (Reconciled.closeAbsent stamp present counterparts r)
  := by
  induction counterparts generalizing tracks r with
  | nil => simpa [Reconciled.closeAbsent] using h
  | cons counterpart counterparts ih =>
      rw [List.nodup_cons] at hnodup
      rw [Reconciled.closeAbsent]
      split
      case isTrue hpresent =>
        apply (ih hnodup.2 h).congr
        intro m
        by_cases hm : m = counterpart
        · simp [hm, hpresent]
        · simp [hm]
      case isFalse hpresent =>
        have hstep : ∀ r',
            Follow (setTrack tracks counterpart ((tracks counterpart).observe stamp [])) r' →
            Follow (fun m => if m ∈ counterpart :: counterparts ∧ m ∉ present.keys then
                (tracks m).observe stamp [] else tracks m)
              (Reconciled.closeAbsent stamp present counterparts r') := by
          intro r' h'
          apply (ih hnodup.2 h').congr
          intro m
          by_cases hm : m = counterpart
          · subst hm
            simp [hpresent, hnodup.1, setTrack_self]
          · simp [hm, setTrack_of_ne hm]
        cases hget : r.active.get? counterpart with
        | none =>
            apply hstep
            have hnone : (tracks counterpart).active = none := by
              have hactive := h.active counterpart
              rw [hget] at hactive
              exact Option.map_eq_none_iff.mp hactive.symm
            rw [Presence.Track.observe_absent hnone]
            apply h.congr
            intro m
            by_cases hm : m = counterpart
            · rw [hm, setTrack_self]
            · rw [setTrack_of_ne hm]
        | some episode => apply hstep _ (h.close hget)

/-! ### Present counterparts -/

/-- Extending an episode, or beginning one, observes the pairs of the counterpart. -/
theorem Follow.extend (h : Follow tracks r) {records : List SnapshotRecord}
    (hrecords : records ≠ []) :
  Follow (setTrack tracks counterpart
      ((tracks counterpart).observe stamp (records.map (·.normalizedPair))))
    (r.extendPresent stamp (counterpart, records))
  := by
  have hpairs : records.map (·.normalizedPair) ≠ [] := by simpa using hrecords
  have hobserve := @Presence.Track.observe_present _ _ _ (tracks counterpart) stamp _ hpairs
  constructor
  · intro m
    rw [Reconciled.extendPresent, Dict.get?_set]
    by_cases hm : m = counterpart
    · subst hm
      rw [if_pos rfl, setTrack_self, hobserve, h.active m]
      cases (tracks m).active with
      | none => simp [activeOf, Presence.Open.extend]
      | some period => simp [activeOf, Presence.Open.extend]
    · rw [if_neg hm, setTrack_of_ne hm]
      apply h.active m
  · intro m
    by_cases hm : m = counterpart
    · subst hm
      rw [setTrack_self, hobserve]
      apply h.episodes m
    · rw [setTrack_of_ne hm]
      apply h.episodes m

/-- The records that are listed under a counterpart. -/
def recordsAt (counterpart : String) (entries : List (String × List SnapshotRecord)) :
    List SnapshotRecord :=
  ((entries.find? fun entry => entry.1 = counterpart).map Prod.snd).getD []

theorem Follow.extendAll {entries : List (String × List SnapshotRecord)}
    (hnodup : (entries.map Prod.fst).Nodup) (hne : ∀ entry ∈ entries, entry.2 ≠ [])
    (h : Follow tracks r) :
  Follow (fun m => if m ∈ entries.map Prod.fst then
      (tracks m).observe stamp ((recordsAt m entries).map (·.normalizedPair)) else tracks m)
    (entries.foldl (Reconciled.extendPresent stamp) r)
  := by
  induction entries generalizing tracks r with
  | nil => simpa using h
  | cons entry entries ih =>
      obtain ⟨counterpart, records⟩ := entry
      rw [List.map_cons, List.nodup_cons] at hnodup
      rw [List.forall_mem_cons] at hne
      have hextended := @Follow.extend tracks r stamp counterpart h records hne.1
      apply (ih hnodup.2 hne.2 hextended).congr
      intro m
      by_cases hm : m = counterpart
      · subst hm
        rw [if_neg hnodup.1, setTrack_self, if_pos (by simp), recordsAt,
          List.find?_cons_of_pos (by simp)]
        rfl
      · rw [setTrack_of_ne hm, recordsAt, recordsAt,
          List.find?_cons_of_neg (by simpa using Ne.symm hm)]
        simp only [List.map_cons, List.mem_cons, or_iff_right hm]

/-! ### Snapshots -/

theorem recordsAt_items {d : Dict String (List SnapshotRecord)} :
  recordsAt m d.items = d.listOf m
  := rfl

/-- A snapshot is observed for every counterpart. -/
theorem Follow.applySnapshot (h : Follow tracks r) :
  Follow (fun m => (tracks m).observe stamp (pairsOf m counted)) (r.applySnapshot stamp counted)
  := by
  have hpresent : ∀ m, (presentOf counted).Inhabited
      ∧ (presentOf counted).listOf m = counted.filter fun record => modelText record = m :=
    Dict.inhabited_groupBy modelText counted
  have hclosed := @Follow.closeAbsent tracks r stamp
    (presentOf counted) r.active.keys r.active.nodup_keys h
  have hne : ∀ entry ∈ (presentOf counted).items, entry.2 ≠ [] := by
    intro entry hentry
    have hget := Dict.get?_eq_some_iff.mpr hentry
    rw [(hpresent entry.1).1.get?_eq] at hget
    split at hget
    case isTrue => cases hget
    case isFalse hne =>
      rw [← Option.some.inj hget]
      exact hne
  have hextended := @Follow.extendAll _ _ stamp _ (presentOf counted).nodup_keys hne hclosed
  apply hextended.congr
  intro m
  have hkeys : m ∈ (presentOf counted).keys ↔ (presentOf counted).listOf m ≠ [] :=
    (hpresent m).1.mem_keys_iff
  change (if m ∈ (presentOf counted).keys then _ else _) = _
  by_cases hm : m ∈ (presentOf counted).keys
  · rw [if_pos hm, if_neg fun hboth => hboth.2 hm, recordsAt_items, (hpresent m).2]
    rfl
  · have hnil : pairsOf m counted = [] := by
      rw [hkeys, not_not, (hpresent m).2] at hm
      rw [pairsOf, hm]
      rfl
    rw [if_neg hm, hnil]
    split
    case isTrue => rfl
    case isFalse hactive =>
      have hnone : (tracks m).active = none := by
        have hmap := h.active m
        rw [Dict.get?_eq_none_iff.mpr fun hmem => hactive ⟨hmem, hm⟩] at hmap
        exact Option.map_eq_none_iff.mp hmap.symm
      rw [Presence.Track.observe_absent hnone]

/-- The observations of a counterpart in the retained summaries. -/
def observationsOf (counterpart : String) (snapshots : List SnapshotSummary)
    (records : List SnapshotRecord) :
    List (Int × List CollisionPair) :=
  snapshots.map fun summary => (summary.simStampNs, pairsOf counterpart (countedRecords
    (records.filter fun record => record.snapshotSequence = summary.collectorSequence)))

/-- The episodes that are computed again are those of the observations. -/
theorem follow_recomputed (snapshots : List SnapshotSummary) (records : List SnapshotRecord) :
  Follow (fun m => Presence.Track.run (observationsOf m snapshots records))
    (recomputed snapshots records)
  := by
  have hrun : ∀ (tracks : String → ContactTrack) (r : Reconciled), Follow tracks r →
      Follow (fun m => (observationsOf m snapshots records).foldl
          (fun track observation => track.observe observation.1 observation.2) (tracks m))
        (snapshots.foldl (fun r summary => r.applySnapshot summary.simStampNs (countedRecords
          (records.filter fun record => record.snapshotSequence = summary.collectorSequence)))
            r) := by
    induction snapshots with
    | nil => exact fun tracks r h => h
    | cons summary snapshots ih =>
        intro tracks r h
        apply ih _ _ h.applySnapshot
  exact hrun _ _ .empty

end Metrics

end RobotestLab
