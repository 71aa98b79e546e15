import RobotestLab.Library.Held
import RobotestLab.Metrics.Values

/-!
# Geometry

Numbers, angles and poses in the plane, and evidence that is ordered by its stamps. The arithmetic
on floating-point numbers stays a parameter; rational numbers are one, as far as they have it.
-/

namespace RobotestLab

namespace Metrics

/-- The arithmetic of Python on floating-point numbers, with its literals and the functions of
`math`. -/
class PyArithmetic (F64 : Type) extends PyFloat F64 where
  literal : ℚ → F64
  add : F64 → F64 → F64
  sub : F64 → F64 → F64
  mul : F64 → F64 → F64
  mod : F64 → F64 → F64
  abs : F64 → F64
  le : F64 → F64 → Bool
  eq : F64 → F64 → Bool
  hypot : F64 → F64 → F64
  pi : F64

open PyFloat PyArithmetic

variable {F64 : Type} [PyArithmetic F64]

/-- A computation with a value that is known in part. -/
theorem exists_eq_ok {ε α β : Type} {x : Except ε α} {f : α → β} {b : β}
    (h : x.toOption.map f = some b) :
  ∃ a, x = .ok a ∧ f a = b
  := by
  cases x with
  | error e => cases h
  | ok a => exact ⟨a, rfl, Option.some.inj h⟩

/-! ### Evidence -/

/-- The value under a key, or another one when the key is missing. -/
def itemOr (name : String) (items : Evidence) (default : PyValue) : PyValue :=
  if items.any fun item => item.1.isKey name then PyValue.item name items else default

def stampItem (items : Evidence) : PyValue := PyValue.item "stamp_ns" items

/-- The stamp of evidence whose stamp was checked. -/
def stampOf (items : Evidence) : Int := (stampItem items).asInteger.getD 0

variable {name : String}

theorem requireInt_stamp {items : Evidence} {n : Int}
    (h : requireInt (stampItem items) name = .ok n) :
  stampItem items = .int n ∧ stampOf items = n
  := by
  have hitem := requireInt_eq_ok_iff.mp h
  refine ⟨hitem, ?_⟩
  unfold stampOf
  rw [hitem]
  rfl

/-- A stamp that was checked once passes every other check. -/
theorem requireInt_stampOf {items : Evidence} {n : Int} (h : stampItem items = .int n)
    (name : String) :
  requireInt (stampItem items) name = .ok (stampOf items)
  := by
  unfold stampOf
  rw [h]
  rfl

/-! ### Numbers -/

/-- `require_finite` of a number. -/
def requireFiniteNumber (value : F64) (name : String) : Except MetricError F64 :=
  if isFinite value then .ok value else unavailable (name ++ " must be finite")

def normalizeAngle (angleRad : F64) : Except MetricError F64 := do
  let value ← requireFiniteNumber angleRad "angle_rad"
  .ok (sub (mod (add value pi) (mul (literal 2) pi)) pi)

def interpolateAngle (start stop fraction : F64) : Except MetricError F64 := do
  let delta ← normalizeAngle (sub stop start)
  normalizeAngle (add start (mul fraction delta))

/-! ### Poses -/

/-- A pose in the plane, with the yaw when the evidence has one. -/
structure PlanarPose (F64 : Type) where
  x : F64
  y : F64
  yaw : Option F64
  deriving DecidableEq, Repr

def planarDistance (first second : PlanarPose F64) : Except MetricError F64 := do
  let x₁ ← requireFiniteNumber first.x "first.x_m"
  let y₁ ← requireFiniteNumber first.y "first.y_m"
  let x₂ ← requireFiniteNumber second.x "second.x_m"
  let y₂ ← requireFiniteNumber second.y "second.y_m"
  .ok (hypot (sub x₂ x₁) (sub y₂ y₁))

/-! ### Order -/

/-- The stamps, which increase strictly. -/
def strictlyIncreasing (previous : Option Int) (index : Nat) :
    List Evidence → Except MetricError Unit
  | [] => .ok ()
  | sample :: samples => do
      let stamp ← requireInt (stampItem sample) ("samples[" ++ toString index ++ "].stamp_ns")
      if previous.any (stamp ≤ ·) then
        unavailable "sample stamps must be unique and strictly increasing"
      else strictlyIncreasing (some stamp) (index + 1) samples

def ensureStrictlyIncreasing (samples : List Evidence) : Except MetricError Unit :=
  strictlyIncreasing none 0 samples

/-- The stamp and the collector sequence of a sample, in the order of pairs. -/
def collectorOrder (name : String) (index : Nat) (sample : Evidence) :
    Except MetricError (Int × Int) := do
  let stamp ← requireInt (stampItem sample) (name ++ "[" ++ toString index ++ "].stamp_ns")
  let sequence ← requireInt (PyValue.item "collector_sequence" sample)
    (name ++ "[" ++ toString index ++ "].collector_sequence")
  .ok (stamp, sequence)

/-- `order <= previous` of two pairs. -/
def notAfter (order previous : Int × Int) : Bool :=
  order.1 < previous.1 || (order.1 = previous.1 && order.2 ≤ previous.2)

/-- The samples are in order, from a previous one on. -/
def orderedFrom (name complaint : String) (previous : Option (Int × Int)) (index : Nat) :
    List Evidence → Except MetricError Unit
  | [] => .ok ()
  | sample :: samples => do
      let order ← collectorOrder name index sample
      if previous.any (notAfter order) then unavailable (name ++ complaint)
      else orderedFrom name complaint (some order) (index + 1) samples

/-- The samples whose stamps satisfy the condition. -/
def filterStamp (name : String) (p : Int → Bool) :
    List Evidence → Except MetricError (List Evidence)
  | [] => .ok []
  | sample :: samples => do
      let stamp ← requireInt (stampItem sample) name
      let rest ← filterStamp name p samples
      .ok (if p stamp then sample :: rest else rest)

/-- Stamps that were checked. -/
def Stamped (samples : List Evidence) : Prop :=
  ∀ sample ∈ samples, ∃ n, stampItem sample = .int n

variable {samples : List Evidence}

theorem Stamped.tail {sample : Evidence} (h : Stamped (sample :: samples)) :
  Stamped samples
  := fun s hs => h s (List.mem_cons_of_mem _ hs)

theorem filterStamp_eq {p : Int → Bool} (h : Stamped samples) :
  filterStamp name p samples = .ok (samples.filter fun s => p (stampOf s))
  := by
  induction samples with
  | nil => rfl
  | cons sample samples ih =>
      obtain ⟨n, hn⟩ := h sample List.mem_cons_self
      unfold filterStamp
      rw [requireInt_stampOf hn, Except.ok_bind, ih h.tail, Except.ok_bind, List.filter_cons]

theorem collectorOrder_eq_ok {index : Nat} {sample : Evidence} {order : Int × Int}
    (h : collectorOrder name index sample = .ok order) :
  (∃ n, stampItem sample = .int n) ∧ order.1 = stampOf sample
  := by
  unfold collectorOrder at h
  obtain ⟨stamp, hstamp, h⟩ := Except.bind_eq_ok_iff.mp h
  obtain ⟨sequence, -, h⟩ := Except.bind_eq_ok_iff.mp h
  obtain rfl := Except.ok.inj h
  obtain ⟨hitem, hof⟩ := requireInt_stamp hstamp
  exact ⟨⟨stamp, hitem⟩, hof.symm⟩

/-- Ordered samples have stamps that do not decrease. -/
theorem orderedFrom_eq_ok {name complaint : String} {previous : Option (Int × Int)} {index : Nat}
    (h : orderedFrom name complaint previous index samples = .ok ()) :
  Stamped samples ∧ InStampOrder stampOf samples ∧
    ∀ order ∈ previous, ∀ sample ∈ samples, order.1 ≤ stampOf sample
  := by
  induction samples generalizing previous index with
  | nil => exact ⟨nofun, List.Pairwise.nil, nofun⟩
  | cons sample samples ih =>
      unfold orderedFrom at h
      obtain ⟨order, horder, h⟩ := Except.bind_eq_ok_iff.mp h
      obtain ⟨hstamp, heq⟩ := collectorOrder_eq_ok horder
      split at h
      · cases h
      · rename_i hafter
        obtain ⟨hstamped, hordered, hle⟩ := ih h
        have hle : ∀ s ∈ samples, stampOf sample ≤ stampOf s := by
          rw [← heq]
          apply hle order rfl
        refine ⟨?_, List.pairwise_cons.mpr ⟨hle, hordered⟩, ?_⟩
        · intro s hs
          rcases List.mem_cons.mp hs with rfl | hs
          · apply hstamp
          · apply hstamped s hs
        · intro previous' hprevious s hs
          obtain rfl := hprevious
          have hfirst : previous'.1 ≤ stampOf sample := by
            simp only [Option.any_some, notAfter, Bool.or_eq_true, Bool.and_eq_true,
              decide_eq_true_eq] at hafter
            omega
          rcases List.mem_cons.mp hs with rfl | hs
          · apply hfirst
          · apply le_trans hfirst (hle s hs)

section Sample

/-- Rational numbers, with the sum of the sides for the hypotenuse: it is right along the axes. -/
instance sampleArithmetic : PyArithmetic ℚ where
  literal value := value
  add := (· + ·)
  sub := (· - ·)
  mul := (· * ·)
  mod a b := a - b * (a / b).floor
  abs a := |a|
  le a b := a ≤ b
  eq a b := a = b
  hypot a b := |a| + |b|
  pi := 355 / 113

end Sample

end Metrics

end RobotestLab
