import RobotestLab.Library.Json
import Mathlib.Data.Rat.Defs

/-!
# Python values

The values that untyped Python code receives, as far as type tests, truth, equality with an integer
or a text, indexing of mappings and iteration over sequences can tell them apart. A mapping is the
list of its items, and indexing finds the first one.
-/

/-- A Python value. A floating-point value is the rational number it stands for, if it stands
for one, and an object of another class is known by its truth value and by the integers and the
texts it compares equal to. -/
inductive PyValue where
  | none
  | bool (b : Bool)
  | int (n : Int)
  | float (value : Option ℚ)
  | str (s : String)
  | bytes (content : List UInt8)
  | list (items : List PyValue)
  | tuple (items : List PyValue)
  | dict (items : List (PyValue × PyValue))
  | object (truth : Bool) (equalsInt : Int → Bool) (equalsText : String → Bool)

namespace PyValue

/-- The integer, for an instance of `int` that is not a `bool`. -/
def asInteger : PyValue → Option Int
  | .int n => some n
  | _ => Option.none

/-- The integer, or the error. -/
def toInteger {ε : Type} (error : ε) (value : PyValue) : Except ε Int :=
  match value.asInteger with
  | some n => .ok n
  | Option.none => .error error

/-- The value is `None`. -/
def isNone : PyValue → Bool
  | .none => true
  | _ => false

theorem isNone_iff {value : PyValue} :
  value.isNone = true ↔ value = .none
  := by
  cases value with
  | _ => simp [isNone]

/-- The text, for an instance of `str`. -/
def asText : PyValue → Option String
  | .str s => some s
  | _ => Option.none

/-- The items, for an instance of `Mapping`. -/
def asMapping : PyValue → Option (List (PyValue × PyValue))
  | .dict items => some items
  | _ => Option.none

/-- The items, for an instance of `Sequence` that is neither text nor bytes. -/
def asSequence : PyValue → Option (List PyValue)
  | .list items => some items
  | .tuple items => some items
  | _ => Option.none

/-- The value compares equal to the integer. -/
def equalsInt (n : Int) : PyValue → Bool
  | .bool b => (if b then 1 else 0) = n
  | .int m => m = n
  | .float (some q) => q = n
  | .object _ equals _ => equals n
  | _ => false

/-- The value compares equal to the text. -/
def equalsText (text : String) : PyValue → Bool
  | .str s => s = text
  | .object _ _ equals => equals text
  | _ => false

/-- `bool` of the value. -/
def truth : PyValue → Bool
  | .none => false
  | .bool b => b
  | .int n => n ≠ 0
  | .float value => value ≠ some 0
  | .str s => s ≠ ""
  | .bytes content => !content.isEmpty
  | .list items => !items.isEmpty
  | .tuple items => !items.isEmpty
  | .dict items => !items.isEmpty
  | .object truth _ _ => truth

/-- The key is the given text. -/
def isKey (name : String) : PyValue → Bool
  | .str s => s == name
  | _ => false

/-- The set of the keys of a mapping is the given set of texts. -/
def hasKeys (expected : List String) (items : List (PyValue × PyValue)) : Bool :=
  items.all (fun item => expected.any (fun name => item.1.isKey name)) &&
    expected.all (fun name => items.any (fun item => item.1.isKey name))

/-- The value under a key, or `None` when the key is missing. -/
def item (name : String) (items : List (PyValue × PyValue)) : PyValue :=
  match items.find? (fun item => item.1.isKey name) with
  | some item => item.2
  | Option.none => .none

mutual

/-- The value of a JSON value, given the values of the numbers with a fraction or an exponent. -/
def ofJson (float : String → Option ℚ) : Json → PyValue
  | .null => .none
  | .bool b => .bool b
  | .int n => .int n
  | .float token => .float (float token)
  | .str s => .str s
  | .arr vs => .list (ofElements float vs)
  | .obj ms => .dict (ofMembers float ms)

/-- The elements of an array. -/
def ofElements (float : String → Option ℚ) : List Json → List PyValue
  | [] => []
  | v :: vs => ofJson float v :: ofElements float vs

/-- The items of an object. -/
def ofMembers (float : String → Option ℚ) : List (String × Json) → List (PyValue × PyValue)
  | [] => []
  | (k, v) :: ms => (.str k, ofJson float v) :: ofMembers float ms

end

end PyValue
