import RobotestLab.Interfaces.Messages
import RobotestLab.Library.SortedMap
import Mathlib.Data.String.Basic

/-!
# Contact messages

The contact messages of the simulator (`gz::msgs`) and those of the robot's middleware
(`ros_gz_interfaces`), with the unordered pair of collisions that a contact is about. A submessage
that is absent reads as its default. Numbers are of a double-precision type `F64`, which stays a
parameter.
-/

namespace RobotestLab

namespace Collisions

/-- The tests on double-precision numbers that the contact pipeline makes. -/
class Binary64Tests (F64 : Type) where
  isFinite : F64 → Bool
  /-- The number is less than zero. -/
  isNegative : F64 → Bool

/-! ### Messages of the simulator -/

namespace Gz

/-- `gz.msgs.Time`. -/
structure Time where
  sec : Int := 0
  nsec : Int := 0
  deriving DecidableEq, Repr

/-- `gz.msgs.Header.Map`. -/
structure Datum where
  key : String
  value : List String
  deriving DecidableEq, Repr

/-- `gz.msgs.Header`. -/
structure Header where
  stamp : Time := {}
  data : List Datum := []
  deriving DecidableEq, Repr

/-- `gz.msgs.Vector3d`. -/
structure Vector3d (F64 : Type) where
  header : Header := {}
  x : F64
  y : F64
  z : F64
  deriving DecidableEq, Repr

/-- `gz.msgs.Entity`. -/
structure Entity where
  header : Header := {}
  id : UInt64 := 0
  name : String := ""
  type : Int := 0
  deriving DecidableEq, Repr

/-- `gz.msgs.Wrench`. -/
structure Wrench (F64 : Type) where
  header : Header := {}
  force : Vector3d F64
  torque : Vector3d F64
  forceOffset : Option (Vector3d F64) := none
  deriving DecidableEq, Repr

/-- `gz.msgs.JointWrench`. -/
structure JointWrench (F64 : Type) where
  header : Header := {}
  body1Name : String := ""
  body1Id : UInt32 := 0
  body2Name : String := ""
  body2Id : UInt32 := 0
  body1Wrench : Wrench F64
  body2Wrench : Wrench F64
  deriving DecidableEq, Repr

/-- `gz.msgs.Contact`. -/
structure Contact (F64 : Type) where
  header : Header := {}
  collision1 : Entity
  collision2 : Entity
  position : List (Vector3d F64) := []
  normal : List (Vector3d F64) := []
  depth : List F64 := []
  wrench : List (JointWrench F64) := []
  world : Option Entity := none
  deriving DecidableEq, Repr

/-- `gz.msgs.Contacts`. -/
structure Contacts (F64 : Type) where
  header : Header := {}
  contact : List (Contact F64) := []
  deriving DecidableEq, Repr

end Gz

/-! ### Messages of the middleware -/

namespace Ros

/-- `geometry_msgs/Vector3`. -/
structure Vector3 (F64 : Type) where
  x : F64
  y : F64
  z : F64
  deriving DecidableEq, Repr

/-- `geometry_msgs/Wrench`. -/
structure Wrench (F64 : Type) where
  force : Vector3 F64
  torque : Vector3 F64
  deriving DecidableEq, Repr

/-- `ros_gz_interfaces/Entity`. -/
structure Entity where
  id : UInt64 := 0
  name : String := ""
  type : UInt8 := 0
  deriving DecidableEq, Repr

/-- `ros_gz_interfaces/JointWrench`. -/
structure JointWrench (F64 : Type) where
  header : Header := {}
  body1Name : String := ""
  body1Id : UInt32 := 0
  body2Name : String := ""
  body2Id : UInt32 := 0
  body1Wrench : Wrench F64
  body2Wrench : Wrench F64
  deriving DecidableEq, Repr

/-- `ros_gz_interfaces/Contact`. -/
structure Contact (F64 : Type) where
  collision1 : Entity
  collision2 : Entity
  positions : List (Vector3 F64) := []
  normals : List (Vector3 F64) := []
  depths : List F64 := []
  wrenches : List (JointWrench F64) := []
  deriving DecidableEq, Repr

/-- `ros_gz_interfaces/Contacts`. -/
structure Contacts (F64 : Type) where
  header : Header := {}
  contacts : List (Contact F64) := []
  deriving DecidableEq, Repr

end Ros

/-! ### Pairs of collisions -/

/-- The names of two collisions. -/
abbrev ContactPair := String × String

/-- The order of `std::pair<std::string, std::string>`. -/
def ContactPair.order : ContactPair → ContactPair → Ordering :=
  compareLex (compareOn Prod.fst) (compareOn Prod.snd)

instance : Std.TransCmp ContactPair.order :=
  inferInstanceAs (Std.TransCmp (compareLex _ _))

instance : Std.LawfulEqCmp ContactPair.order where
  eq_of_compare {p q} h := by
    rw [ContactPair.order, compareLex_eq_eq] at h
    exact Prod.ext (Std.LawfulEqOrd.eq_of_compare h.1) (Std.LawfulEqOrd.eq_of_compare h.2)

/-- `std::map` from pairs of collisions. -/
abbrev PairMap (α : Type) := Std.ExtTreeMap ContactPair α ContactPair.order

/-- The pair comes before the other one. -/
def ContactPair.Precedes (p q : ContactPair) : Prop :=
  p.1 < q.1 ∨ p.1 = q.1 ∧ p.2 < q.2

theorem ContactPair.order_eq_lt_iff {p q : ContactPair} :
  ContactPair.order p q = .lt ↔ p.Precedes q
  := by
  unfold ContactPair.order ContactPair.Precedes compareLex compareOn
  rw [Ordering.then_eq_lt]
  simp only [Std.LawfulEqOrd.compare_eq_iff_eq]
  simp only [compare_lt_iff_lt]

/-- The pair of two names does not depend on their order. -/
def normalizedPair (first second : String) : ContactPair :=
  if second < first then (second, first) else (first, second)

/-- The names of the two collisions of a contact, as an unordered pair. -/
def Gz.Contact.pair {F64 : Type} (contact : Gz.Contact F64) : ContactPair :=
  normalizedPair contact.collision1.name contact.collision2.name

@[inherit_doc Gz.Contact.pair]
def Ros.Contact.pair {F64 : Type} (contact : Ros.Contact F64) : ContactPair :=
  normalizedPair contact.collision1.name contact.collision2.name

/-- The pairs of a map are listed in their order. -/
theorem pairwise_precedes {α : Type} (m : PairMap α) :
  (m.toList.map Prod.fst).Pairwise ContactPair.Precedes
  := by
  rw [List.pairwise_map]
  apply Std.ExtTreeMap.ordered_keys_toList.imp
  intro a b h
  exact ContactPair.order_eq_lt_iff.mp h

end Collisions

end RobotestLab
