import RobotestLab.Library.Grouping

/-!
# Presence

A thing is observed at instants, each time with the values that it shows. It is present from an
instant at which it shows values to the first instant after it at which it shows none. A track keeps
the open period and the closed ones. Instants at which nothing is shown leave a track without an
open period as it is, so that they need not be observed before the thing is first seen
(`Track.observe_absent`).
-/

namespace Presence

variable {T D : Type} [DecidableEq D]

/-- A period that has begun, with the distinct values that were shown and their number. -/
structure Open (T D : Type) where
  start : T
  values : List D := []
  count : Nat := 0
deriving DecidableEq

/-- A period that has ended. -/
structure Closed (T D : Type) extends Open T D where
  finish : T
deriving DecidableEq

/-- More values are shown. -/
def Open.extend (period : Open T D) (values : List D) : Open T D :=
  { period with
    values := period.values.update values
    count := period.count + values.length }

/-- The open period and the closed ones. -/
structure Track (T D : Type) where
  active : Option (Open T D) := none
  closed : List (Closed T D) := []
deriving DecidableEq

namespace Track

variable {track : Track T D} {stamp : T} {values : List D}

/-- Observe the values that are shown at an instant. -/
def observe (track : Track T D) (stamp : T) (values : List D) : Track T D :=
  if values = [] then
    match track.active with
    | none => track
    | some period => { active := none, closed := track.closed ++ [{ period with finish := stamp }] }
  else { track with active := some ((track.active.getD { start := stamp }).extend values) }

theorem observe_absent (h : track.active = none) :
  track.observe stamp [] = track
  := by
  rw [observe, if_pos rfl, h]

theorem observe_close {period : Open T D} (h : track.active = some period) :
  track.observe stamp [] =
    { active := none, closed := track.closed ++ [{ period with finish := stamp }] }
  := by
  rw [observe, if_pos rfl, h]

theorem observe_present (h : values ≠ []) :
  track.observe stamp values
    = { track with active := some ((track.active.getD { start := stamp }).extend values) }
  := by
  rw [observe, if_neg h]

/-- Observe one instant after another. -/
def run (observations : List (T × List D)) : Track T D :=
  observations.foldl (fun track observation => track.observe observation.1 observation.2) {}

theorem run_concat {observations : List (T × List D)} {observation : T × List D} :
  run (observations ++ [observation]) = (run observations).observe observation.1 observation.2
  := by
  rw [run, List.foldl_append]
  rfl

end Track

end Presence
