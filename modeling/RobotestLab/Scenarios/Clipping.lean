import Mathlib
import RobotestLab.Library.HalfLines

/-!
# Clipping

The test for a plan that stays outside an exclusion rectangle, over exact rational numbers. Every
side of the rectangle is a half-line of the segment's parameter, and the loop keeps the parameters
that are left (`clip_iff`). The test finds a segment exactly when it has a point in the rectangle,
and a plan avoids the rectangle exactly when its polyline does.
-/

namespace RobotestLab

namespace Scenarios

/-! ### The model -/

/-- A closed axis-aligned rectangle. -/
structure Rectangle where
  xMin : ℚ
  xMax : ℚ
  yMin : ℚ
  yMax : ℚ
deriving DecidableEq, Repr

/-- The loop over the tests, with the interval of the parameters that passed so far. -/
def clip (lower upper : ℚ) : List (ℚ × ℚ) → Bool
  | [] => true
  | (p, q) :: tests =>
    if p = 0 then
      if q < 0 then false else clip lower upper tests
    else if p < 0 then
      if max lower (q / p) > upper then false else clip (max lower (q / p)) upper tests
    else
      if lower > min upper (q / p) then false else clip lower (min upper (q / p)) tests

/-- The tests of a segment against the four sides of a rectangle. -/
def sideTests (start finish : ℚ × ℚ) (rectangle : Rectangle) : List (ℚ × ℚ) :=
  let deltaX := finish.1 - start.1
  let deltaY := finish.2 - start.2
  [ (-deltaX, start.1 - rectangle.xMin),
    (deltaX, rectangle.xMax - start.1),
    (-deltaY, start.2 - rectangle.yMin),
    (deltaY, rectangle.yMax - start.2) ]

def segmentIntersectsClosedRectangle (start finish : ℚ × ℚ) (rectangle : Rectangle) : Bool :=
  clip 0 1 (sideTests start finish rectangle)

/-- The consecutive pairs of a list. -/
def pairwise {α : Type} (points : List α) : List (α × α) := points.zip points.tail

def planAvoidsRectangle (points : List (ℚ × ℚ)) (rectangle : Rectangle) : Bool :=
  (pairwise points).all fun pair => !segmentIntersectsClosedRectangle pair.1 pair.2 rectangle

/-! ### The rectangle and the polyline -/

/-- The points of a rectangle, its sides and corners included. -/
def Rectangle.points (rectangle : Rectangle) : Set (ℚ × ℚ) :=
  Set.Icc (rectangle.xMin, rectangle.yMin) (rectangle.xMax, rectangle.yMax)

/-- The points of the segments that join a list of points in their order. -/
def polyline : List (ℚ × ℚ) → Set (ℚ × ℚ)
  | [] => ∅
  | [point] => {point}
  | start :: finish :: points => segment ℚ start finish ∪ polyline (finish :: points)

/-- The point of a segment at a parameter. -/
def pointAt (start finish : ℚ × ℚ) (t : ℚ) : ℚ × ℚ := start + t • (finish - start)

variable {start finish : ℚ × ℚ} {rectangle : Rectangle}

theorem pointAt_mem_points_iff {t : ℚ} :
  pointAt start finish t ∈ rectangle.points
    ↔ ∀ test ∈ sideTests start finish rectangle, t ∈ halfLine test.1 test.2
  := by
  obtain ⟨x, y⟩ := start
  obtain ⟨x', y'⟩ := finish
  simp only [pointAt, Rectangle.points, sideTests, Set.mem_Icc, Prod.mk_le_mk, Prod.mk_sub_mk,
    Prod.smul_mk, Prod.mk_add_mk, smul_eq_mul, List.forall_mem_cons, mem_halfLine, List.not_mem_nil,
    false_imp_iff, implies_true, and_true]
  constructor
  · rintro ⟨⟨hx, hy⟩, hx', hy'⟩
    refine ⟨?_, ?_, ?_, ?_⟩ <;> linarith
  · rintro ⟨hx, hx', hy, hy'⟩
    refine ⟨⟨?_, ?_⟩, ?_, ?_⟩ <;> linarith

theorem mem_segment_iff {start finish z : ℚ × ℚ} :
  z ∈ segment ℚ start finish ↔ ∃ t, 0 ≤ t ∧ t ≤ 1 ∧ pointAt start finish t = z
  := by
  rw [segment_eq_image']
  simp only [Set.mem_image, Set.mem_Icc, and_assoc]
  rfl

/-! ### The loop -/

/-- The loop succeeds exactly when some parameter of the interval passes all the tests. -/
theorem clip_iff {lower upper : ℚ} {tests : List (ℚ × ℚ)} (h : lower ≤ upper) :
  clip lower upper tests = true
    ↔ ∃ t ∈ Set.Icc lower upper, ∀ test ∈ tests, t ∈ halfLine test.1 test.2
  := by
  induction tests generalizing lower upper with
  | nil => simpa [clip] using ⟨lower, le_refl lower, h⟩
  | cons test tests ih =>
      obtain ⟨p, q⟩ := test
      have hinter : (∃ t ∈ Set.Icc lower upper, ∀ test ∈ (p, q) :: tests,
          t ∈ halfLine test.1 test.2) ↔ ∃ t ∈ Set.Icc lower upper ∩ halfLine p q, ∀ test ∈ tests,
            t ∈ halfLine test.1 test.2 := by
        simp only [List.forall_mem_cons, Set.mem_inter_iff, and_assoc]
      rw [hinter]
      rcases lt_trichotomy p 0 with hp | rfl | hp
      · rw [Set.Icc_inter_halfLine_of_neg hp, clip, if_neg hp.ne, if_pos hp]
        split
        case isTrue hempty => simp [Set.Icc_eq_empty (not_le.mpr hempty)]
        case isFalse hnonempty => apply ih (not_lt.mp hnonempty)
      · rw [clip, if_pos rfl]
        split
        case isTrue hq => simp [halfLine_zero_of_neg hq]
        case isFalse hq =>
          rw [halfLine_zero_of_nonneg (not_lt.mp hq), Set.inter_univ]
          apply ih h
      · rw [Set.Icc_inter_halfLine_of_pos hp, clip, if_neg hp.ne', if_neg hp.not_gt]
        split
        case isTrue hempty => simp [Set.Icc_eq_empty (not_le.mpr hempty)]
        case isFalse hnonempty => apply ih (not_lt.mp hnonempty)

/-! ### Segments and plans -/

/-- The test finds a segment exactly when it has a point in the rectangle. -/
theorem segmentIntersectsClosedRectangle_iff :
  segmentIntersectsClosedRectangle start finish rectangle = true
    ↔ ∃ t, 0 ≤ t ∧ t ≤ 1 ∧ pointAt start finish t ∈ rectangle.points
  := by
  simp only [segmentIntersectsClosedRectangle, clip_iff zero_le_one, pointAt_mem_points_iff,
    Set.mem_Icc, and_assoc]

theorem segmentIntersectsClosedRectangle_iff_segment :
  segmentIntersectsClosedRectangle start finish rectangle = true
    ↔ ∃ z ∈ segment ℚ start finish, z ∈ rectangle.points
  := by
  rw [segmentIntersectsClosedRectangle_iff]
  constructor
  · rintro ⟨t, hlower, hupper, hpoint⟩
    exact ⟨_, mem_segment_iff.mpr ⟨t, hlower, hupper, rfl⟩, hpoint⟩
  · rintro ⟨z, hz, hpoint⟩
    obtain ⟨t, hlower, hupper, rfl⟩ := mem_segment_iff.mp hz
    exact ⟨t, hlower, hupper, hpoint⟩

theorem segmentIntersectsClosedRectangle_comm (start finish : ℚ × ℚ) (rectangle : Rectangle) :
  segmentIntersectsClosedRectangle start finish rectangle
    = segmentIntersectsClosedRectangle finish start rectangle
  := by
  rw [Bool.eq_iff_iff, segmentIntersectsClosedRectangle_iff_segment,
    segmentIntersectsClosedRectangle_iff_segment, segment_symm]

variable {points : List (ℚ × ℚ)}

theorem planAvoidsRectangle_cons :
  planAvoidsRectangle (start :: finish :: points) rectangle = true
    ↔ segmentIntersectsClosedRectangle start finish rectangle = false
      ∧ planAvoidsRectangle (finish :: points) rectangle = true
  := by
  simp [planAvoidsRectangle, pairwise]

theorem polyline_cons :
  polyline (start :: finish :: points) = segment ℚ start finish ∪ polyline (finish :: points)
  := rfl

theorem polyline_pair : polyline [start, finish] = segment ℚ start finish
  := Set.union_eq_self_of_subset_right
    (Set.singleton_subset_iff.mpr (right_mem_segment ℚ start finish))

theorem segmentIntersectsClosedRectangle_eq_false :
  segmentIntersectsClosedRectangle start finish rectangle = false
    ↔ Disjoint (segment ℚ start finish) rectangle.points
  := by
  rw [← Bool.not_eq_true, segmentIntersectsClosedRectangle_iff_segment, Set.disjoint_left]
  push Not
  exact Iff.rfl

/-- A plan of at least two points avoids the rectangle exactly when its polyline does. -/
theorem planAvoidsRectangle_iff :
  planAvoidsRectangle (start :: finish :: points) rectangle = true
    ↔ Disjoint (polyline (start :: finish :: points)) rectangle.points
  := by
  rw [planAvoidsRectangle_cons, segmentIntersectsClosedRectangle_eq_false]
  induction points generalizing start finish with
  | nil =>
      rw [polyline_pair]
      apply and_iff_left rfl
  | cons point points ih =>
      rw [polyline_cons, Set.disjoint_union_left, ← ih, planAvoidsRectangle_cons,
        segmentIntersectsClosedRectangle_eq_false]

/-- Clipping is exact for segments and for plans, and does not depend on the direction of a
segment. -/
theorem clipping_exact (rectangle : Rectangle) :
  (∀ start finish : ℚ × ℚ,
    segmentIntersectsClosedRectangle start finish rectangle = true
      ↔ ∃ t : ℚ, 0 ≤ t ∧ t ≤ 1 ∧ start + t • (finish - start) ∈ rectangle.points)
  ∧ (∀ start finish : ℚ × ℚ,
    segmentIntersectsClosedRectangle start finish rectangle
      = segmentIntersectsClosedRectangle finish start rectangle)
  ∧ ∀ points : List (ℚ × ℚ), 2 ≤ points.length →
    (planAvoidsRectangle points rectangle = true ↔ ∀ z ∈ polyline points, z ∉ rectangle.points)
  := by
  refine ⟨fun _ _ => segmentIntersectsClosedRectangle_iff,
    fun start finish => segmentIntersectsClosedRectangle_comm start finish rectangle, ?_⟩
  intro points hlength
  match points with
  | start :: finish :: points => rw [planAvoidsRectangle_iff, Set.disjoint_left]

/-- A plan past a corner avoids it, and a plan that touches it does not. -/
theorem clipping_exact_sample :
  (∀ z ∈ polyline [(0, 0), (1, 1), (3, 1)], z ∉ (Rectangle.mk 1 2 (-1) 0).points)
    ∧ ¬ ∀ z ∈ polyline [(0, 0), (1, 0)], z ∉ (Rectangle.mk 1 1 (-1) 0).points
  := by
  constructor
  · apply ((clipping_exact (Rectangle.mk 1 2 (-1) 0)).2.2 _ (by decide)).mp
    decide +kernel
  · rw [← (clipping_exact (Rectangle.mk 1 1 (-1) 0)).2.2 _ (by decide)]
    decide +kernel

end Scenarios

end RobotestLab
