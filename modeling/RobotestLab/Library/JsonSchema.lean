import RobotestLab.Library.NestedDict

/-!
# Schemas of JSON documents

The keywords of a schema language for JSON documents, as predicates on Python values. A number is an
integer when it has no fraction, and a truth value is never equal to a number. The end of a text may
be before a last line feed in a pattern.
-/

/-- A schema is the values that it accepts. -/
abbrev JsonSchema := PyValue → Bool

namespace JsonSchema

open PyValue (Items)

def any : JsonSchema := fun _ => true

def null : JsonSchema
  | .none => true
  | _ => false

def boolean : JsonSchema
  | .bool _ => true
  | _ => false

def number : JsonSchema
  | .int _ => true
  | .float _ => true
  | _ => false

def constBool (b : Bool) : JsonSchema
  | .bool c => b == c
  | _ => false

def constInt (n : Int) : JsonSchema
  | .bool _ => false
  | value => value.equalsInt n

def constText (text : String) : JsonSchema := fun value => value.equalsText text

/-- The integers with a property. -/
def integer (p : Int → Bool) : JsonSchema
  | .int n => p n
  | .float (some q) => q.den == 1 && p q.num
  | _ => false

/-- The integers from one bound to another one. -/
def integerIn (minimum maximum : Int) : JsonSchema := integer fun n => minimum ≤ n && n ≤ maximum

/-- The numbers above zero. What is not a rational number is not below it. -/
def positive : JsonSchema
  | .int n => 0 < n
  | .float (some q) => 0 < q
  | .float none => true
  | _ => false

/-- The texts with a property of their characters. -/
def text (p : List Char → Bool) : JsonSchema
  | .str s => p s.toList
  | _ => false

def textOfLength (minLength maxLength : Nat) : JsonSchema :=
  text fun cs => minLength ≤ cs.length && cs.length ≤ maxLength

/-- `$`, the end of a text. -/
def atEnd (cs : List Char) : Bool := cs == [] || cs == ['\n']

def isLowerHex (c : Char) : Bool := c.isDigit || ('a' ≤ c && c ≤ 'f')

/-- `^[0-9a-f]{n}$`. -/
def hexDigits (n : Nat) : JsonSchema :=
  text fun cs => (cs.take n).length == n && (cs.take n).all isLowerHex && atEnd (cs.drop n)

def isTokenChar (c : Char) : Bool := c.isLower || c.isDigit || c == '_'

/-- `^[a-z][a-z0-9_]{0,63}$`. -/
def token : JsonSchema :=
  text fun
    | [] => false
    | c :: cs =>
      c.isLower && (cs.takeWhile isTokenChar).length ≤ 63 && atEnd (cs.dropWhile isTokenChar)

/-- Exactly one of two schemas accepts. -/
def oneOf (first second : JsonSchema) : JsonSchema := fun value => first value != second value

/-- Arrays of items that the schema accepts, at least the given number of them, and no text
twice. -/
def array (minItems : Nat) (item : JsonSchema) : JsonSchema
  | .list items => minItems ≤ items.length && (items.filterMap PyValue.asText).Nodup &&
      items.all item
  | _ => false

/-- The schema for the value of an item, among the named ones or for the additional ones. -/
def propertyOf (properties : List (String × JsonSchema)) (additional : JsonSchema) (key : PyValue) :
    JsonSchema :=
  match properties.find? fun property => key.isKey property.1 with
  | some property => property.2
  | none => additional

/-- Objects with the required keys and with values that the schemas of their keys accept. -/
def object (required : List String) (properties : List (String × JsonSchema))
    (additional : JsonSchema) (minProperties : Nat) : JsonSchema
  | .dict items =>
      required.all (fun key => items.any fun item => item.1.isKey key)
        && minProperties ≤ items.length
        && items.all fun item => propertyOf properties additional item.1 item.2
  | _ => false

/-- Objects with exactly the named keys. -/
def closedObject (properties : List (String × JsonSchema)) : JsonSchema :=
  object (properties.map Prod.fst) properties (fun _ => false) 0

/-- The schema of its key accepts a value of an object. -/
theorem property_of_object {required : List String} {properties : List (String × JsonSchema)}
    {additional : JsonSchema} {minProperties : Nat} {items : Items} {key value : PyValue}
    (h : object required properties additional minProperties (.dict items) = true)
    (hmem : (key, value) ∈ items) :
  propertyOf properties additional key value = true
  := by
  rw [object, Bool.and_eq_true, List.all_eq_true] at h
  apply h.2 _ hmem

theorem exists_dict_of_object {required : List String} {properties : List (String × JsonSchema)}
    {additional : JsonSchema} {minProperties : Nat} {value : PyValue}
    (h : object required properties additional minProperties value = true) :
  ∃ items, value = .dict items
  := by
  cases value with
  | dict items => exact ⟨items, rfl⟩
  | _ => cases h

end JsonSchema
