import RobotestLab.Library.PyValue
import RobotestLab.Library.Machine

/-!
# Values of the metrics

The metrics read recorded evidence as Python values. Evidence that does not prove a metric makes it
unavailable. Floating-point numbers are of a type that stays a parameter.
-/

namespace RobotestLab

namespace Metrics

/-- The items of a mapping with evidence. -/
abbrev Evidence := List (PyValue × PyValue)

theorem item_cons {name k : String} {v : PyValue} {items : Evidence} :
  PyValue.item name ((.str k, v) :: items) = if k = name then v else PyValue.item name items
  := by
  unfold PyValue.item
  by_cases h : k = name
  · simp [PyValue.isKey, h]
  · simp [PyValue.isKey, h]

/-- What a metric stops with: `MetricUnavailable`, `ValueError`, `OverflowError`, `AttributeError`
or `IndexError`. -/
inductive MetricError where
  | unavailable (text : String)
  | value (text : String)
  | overflow
  | attribute
  | index
  deriving DecidableEq, Repr

/-- `MetricUnavailable`. -/
def unavailable {α : Type} (text : String) : Except MetricError α :=
  .error (.unavailable text)

/-- How the conversion to a floating-point number fails: with a `TypeError` or a `ValueError`, or
with an `OverflowError`. -/
inductive FloatFailure where
  | notANumber
  | overflow
  deriving DecidableEq, Repr

/-- The operations of Python on floating-point numbers. -/
class PyFloat (F64 : Type) where
  /-- `float(value)`. -/
  ofValue : PyValue → Except FloatFailure F64
  isFinite : F64 → Bool
  lt : F64 → F64 → Bool
  zero : F64
  isZero : F64 → Bool
  /-- Division of integers. -/
  divide : Int → Int → Except FloatFailure F64

/-- Rational numbers, which are all finite. -/
instance : PyFloat ℚ where
  ofValue
    | .int n => .ok n
    | .float (some q) => .ok q
    | _ => .error .notANumber
  isFinite _ := true
  lt a b := a < b
  zero := 0
  isZero q := q = 0
  divide a b := .ok (a / b)

variable {F64 : Type} [PyFloat F64]

open PyFloat

def requireInt (value : PyValue) (name : String) : Except MetricError Int :=
  value.toInteger (.unavailable (name ++ " must be an integer"))

theorem requireInt_eq_ok_iff {value : PyValue} {name : String} {n : Int} :
  requireInt value name = .ok n ↔ value = .int n
  := by
  unfold requireInt PyValue.toInteger PyValue.asInteger
  cases value with
  | _ => simp

/-- Convert a value to a finite number. -/
def requireFinite (value : PyValue) (name : String) : Except MetricError F64 :=
  match value with
  | .bool _ => unavailable (name ++ " must be a finite number")
  | value =>
      match ofValue value with
      | .error .notANumber => unavailable (name ++ " must be a finite number")
      | .error .overflow => .error .overflow
      | .ok converted =>
          if isFinite converted then .ok converted
          else unavailable (name ++ " must be finite")

/-- `max` of two numbers: the second one only when it is greater. -/
def pyMax (a b : F64) : F64 :=
  if lt a b then b else a

/-- `value or 0.0`. -/
def orZero : Option F64 → F64
  | none => zero
  | some x => if isZero x then zero else x

/-- Seconds, from nanoseconds. -/
def seconds (ns : Int) : Except MetricError F64 :=
  match divide ns 1000000000 with
  | .ok s => .ok s
  | .error _ => .error .overflow

end Metrics

end RobotestLab
