import Mathlib.Data.List.Basic

/-!
# Scoped names

The name of a collision is scoped with the separator `::`. The gate searches for one separator after
the other, and the analysis splits the name. The search stops with a count exactly when no segment
is empty, and counts the segments of the split.
-/

namespace RobotestLab

namespace Collisions

namespace Ros

/-- Split at the separators `::`, from the left. -/
def splitScopes : List Char → List (List Char)
  | [] => [[]]
  | ':' :: ':' :: rest => [] :: splitScopes rest
  | c :: rest =>
      match splitScopes rest with
      | [] => [[c]]
      | segment :: segments => (c :: segment) :: segments

/-- The segments of a scoped name. -/
def scopedSegments (name : String) : List String :=
  (splitScopes name.toList).map String.ofList

/-- What precedes the first separator, and what follows it. -/
def findSeparator : List Char → Option (List Char × List Char)
  | [] => none
  | ':' :: ':' :: rest => some ([], rest)
  | c :: rest => (findSeparator rest).map fun (segment, rest) => (c :: segment, rest)

/-- The loop over the separators, from the given rest of the name and with the segments counted so
far: the number of segments, unless one is empty. The fuel exceeds the length of the name. -/
def countSegments : Nat → List Char → Nat → Option Nat
  | 0, _, _ => none
  | fuel + 1, name, segmentCount =>
      match findSeparator name with
      | none => if name.isEmpty then none else some (segmentCount + 1)
      | some (segment, rest) =>
          if segment.isEmpty then none
          else if rest.isEmpty then none
          else countSegments fuel rest (segmentCount + 1)

/-- The name has a separator, and what comes before the first one is the model of the robot. -/
def isRobotModelName (name : String) : Bool :=
  match findSeparator name.toList with
  | none => false
  | some (model, _) => String.ofList model = "robotest"

/-- The name has at least three segments, and none of them is empty. -/
def isValidScopedName (name : String) : Bool :=
  if name = "" then false
  else
    match countSegments (name.toList.length + 1) name.toList 0 with
    | none => false
    | some segmentCount => segmentCount ≥ 3

/-! ### Searching and splitting -/

theorem findSeparator_length {name segment rest : List Char}
    (h : findSeparator name = some (segment, rest)) :
  segment.length + 2 + rest.length = name.length
  := by
  induction name using findSeparator.induct generalizing segment rest with
  | case1 => cases h
  | case2 tail =>
      cases h
      simp only [List.length_nil, List.length_cons]
      omega
  | case3 c tail hcolons ih =>
      rw [findSeparator, Option.map_eq_some_iff] at h
      · obtain ⟨⟨before, after⟩, hfind, heq⟩ := h
        cases heq
        have hlength := ih hfind
        simp only [List.length_cons]
        omega
      · exact hcolons

/-- The split starts at the first separator. -/
theorem splitScopes_eq (name : List Char) :
  splitScopes name =
    match findSeparator name with
    | none => [name]
    | some (segment, rest) => segment :: splitScopes rest
  := by
  induction name using findSeparator.induct with
  | case1 => rfl
  | case2 tail => rfl
  | case3 c tail hcolons ih =>
      rw [splitScopes, findSeparator, ih]
      · cases findSeparator tail with
        | none => rfl
        | some found => rfl
      · exact hcolons
      · exact hcolons

/-- The loop counts the segments of the split, if none is empty. -/
theorem countSegments_eq {fuel : Nat} {name : List Char} {segmentCount : Nat}
    (hfuel : name.length < fuel) :
  countSegments fuel name segmentCount =
    if (splitScopes name).all (· ≠ []) then
      some (segmentCount + (splitScopes name).length) else none
  := by
  induction fuel generalizing name segmentCount with
  | zero => exact absurd hfuel (Nat.not_lt_zero _)
  | succ fuel ih =>
      rw [countSegments, splitScopes_eq]
      cases hfind : findSeparator name with
      | none =>
          cases name with
          | nil => rfl
          | cons c rest => simp
      | some found =>
          obtain ⟨segment, rest⟩ := found
          have hlength := findSeparator_length hfind
          dsimp only
          cases segment with
          | nil => simp
          | cons c segment =>
              cases rest with
              | nil => simp [splitScopes]
              | cons d rest =>
                  rw [List.isEmpty_cons, List.isEmpty_cons, if_neg Bool.false_ne_true,
                    if_neg Bool.false_ne_true, ih (by simp only [List.length_cons] at *; omega)]
                  simp only [List.all_cons, List.length_cons, ne_eq, reduceCtorEq,
                    not_false_eq_true, decide_true, Bool.true_and]
                  congr 2
                  omega

/-- A valid name is one that splits into three segments at least, none of them empty. -/
theorem isValidScopedName_eq (name : String) :
  isValidScopedName name =
    ((scopedSegments name).all (· ≠ "") && decide ((scopedSegments name).length ≥ 3))
  := by
  have hsegments : (scopedSegments name).all (· ≠ "") = (splitScopes name.toList).all (· ≠ []) := by
    unfold scopedSegments
    rw [List.all_map]
    congr 1
    funext segment
    simp
  have hlength : (scopedSegments name).length = (splitScopes name.toList).length := by
    unfold scopedSegments
    rw [List.length_map]
  unfold isValidScopedName
  rw [countSegments_eq (Nat.lt_succ_self _), hsegments, hlength]
  by_cases hempty : name = ""
  · subst hempty
    rfl
  · rw [if_neg hempty]
    cases (splitScopes name.toList).all (· ≠ []) with
    | true => simp
    | false => rfl

theorem isRobotModelName_eq (name : String) :
  isRobotModelName name =
    match scopedSegments name with
    | model :: _ :: _ => decide (model = "robotest")
    | _ => false
  := by
  unfold isRobotModelName scopedSegments
  rw [splitScopes_eq name.toList]
  cases findSeparator name.toList with
  | none => rfl
  | some found =>
      obtain ⟨segment, rest⟩ := found
      dsimp only
      rw [splitScopes_eq rest]
      cases findSeparator rest with
      | none => rfl
      | some found => rfl

end Ros

end Collisions

end RobotestLab
