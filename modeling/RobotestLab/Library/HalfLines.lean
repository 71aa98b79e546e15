import Mathlib.Algebra.Order.Field.Basic
import Mathlib.Order.Interval.Set.LinearOrder

/-!
# Half-lines

The solutions of `p * t ≤ q` over an ordered field. They are a half-line on one side of `q / p` that
the sign of `p` decides, or everything, or nothing. An interval that is met with a half-line is an
interval again, with one end moved (`Set.Icc_inter_halfLine_of_neg`,
`Set.Icc_inter_halfLine_of_pos`).
-/

universe u

section

variable {K : Type u} [Field K] [LinearOrder K] {p q t : K}

/-- The half-line of the numbers `t` with `p * t ≤ q`. -/
def halfLine (p q : K) : Set K := {t | p * t ≤ q}

@[simp]
theorem mem_halfLine : t ∈ halfLine p q ↔ p * t ≤ q := Iff.rfl

theorem halfLine_zero_of_nonneg (h : 0 ≤ q) : halfLine 0 q = Set.univ
  := by
  ext t
  simpa using h

theorem halfLine_zero_of_neg (h : q < 0) : halfLine 0 q = ∅
  := by
  ext t
  simpa using h

end

variable {K : Type u} [Field K] [LinearOrder K] [IsStrictOrderedRing K] {p q lower upper : K}

theorem halfLine_of_neg (h : p < 0) : halfLine p q = Set.Ici (q / p)
  := by
  ext t
  rw [mem_halfLine, Set.mem_Ici, div_le_iff_of_neg' h]

theorem halfLine_of_pos (h : 0 < p) : halfLine p q = Set.Iic (q / p)
  := by
  ext t
  rw [mem_halfLine, Set.mem_Iic, le_div_iff₀' h]

namespace Set

/-- A half-line that is open to the right moves the lower end of an interval. -/
theorem Icc_inter_halfLine_of_neg (h : p < 0) :
  Icc lower upper ∩ halfLine p q = Icc (max lower (q / p)) upper
  := by
  rw [halfLine_of_neg h]
  ext t
  simp only [mem_inter_iff, mem_Icc, mem_Ici, max_le_iff]
  apply and_right_comm

/-- A half-line that is open to the left moves the upper end of an interval. -/
theorem Icc_inter_halfLine_of_pos (h : 0 < p) :
  Icc lower upper ∩ halfLine p q = Icc lower (min upper (q / p))
  := by
  rw [halfLine_of_pos h]
  ext t
  simp only [mem_inter_iff, mem_Icc, mem_Iic, le_min_iff]
  apply and_assoc

end Set
