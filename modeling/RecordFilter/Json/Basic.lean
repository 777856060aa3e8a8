import RecordFilter.Number.Double

/-!
# JSON values

A number is an integer or a double, and the two stay apart: `3` and `3.0` are different
values. The members of an object are kept in the order of their names, each name once.
-/

namespace RecordFilter

/-- A JSON number: an integer of at most 64 bits, or a finite double. -/
inductive JsonNumber where
  | integer (value : Int)
  | double (value : Number.Finite)

namespace JsonNumber

def toDouble : JsonNumber → Number.Double
  | integer value => .ofInt value
  | double value => .finite value

/-- The 64-bit integer that a number is, if it is one. A number that is not stored as such an
integer is taken as a double first. -/
def toInt64? : JsonNumber → Option Int
  | integer value =>
      if Number.isInt64 value then some value else (Number.Double.ofInt value).toInt64?
  | double value => (Number.Double.finite value).toInt64?

/-- Numbers are equal when they are of one kind and numerically equal. -/
def equals : JsonNumber → JsonNumber → Bool
  | integer left, integer right => left == right
  | double left, double right => (Number.Double.finite left).equals (.finite right)
  | _, _ => false

end JsonNumber

inductive Json where
  | null
  | bool (value : Bool)
  | number (value : JsonNumber)
  | string (value : String)
  | array (items : List Json)
  | object (members : List (String × Json))

namespace Json

def integer (value : Int) : Json :=
  number (.integer value)

def kind : Json → String
  | null => "null"
  | bool _ => "boolean"
  | number _ => "number"
  | string _ => "string"
  | array _ => "array"
  | object _ => "object"

/-- Adds a member at its place in the order of names; a member of that name is replaced. -/
def insertMember {α : Type} (name : String) (value : α) :
    List (String × α) → List (String × α)
  | [] => [(name, value)]
  | (other, old) :: rest =>
      if name = other then (name, value) :: rest
      else if name < other then (name, value) :: (other, old) :: rest
      else (other, old) :: insertMember name value rest

/-- Members in the order of their names; of members with one name the last is kept. -/
def collapse {α : Type} (members : List (String × α)) : List (String × α) :=
  members.foldl (fun kept (name, value) => insertMember name value kept) []

def ofMembers (members : List (String × Json)) : Json :=
  object (collapse members)

def member? (json : Json) (name : String) : Option Json :=
  match json with
  | object members => members.lookup name
  | _ => none

mutual

/-- Equality of values; doubles are compared numerically. -/
def equals : Json → Json → Bool
  | null, null => true
  | bool left, bool right => left == right
  | number left, number right => left.equals right
  | string left, string right => left == right
  | array left, array right => equalItems left right
  | object left, object right => equalMembers left right
  | _, _ => false

def equalItems : List Json → List Json → Bool
  | [], [] => true
  | left :: lefts, right :: rights => equals left right && equalItems lefts rights
  | _, _ => false

def equalMembers : List (String × Json) → List (String × Json) → Bool
  | [], [] => true
  | (leftName, left) :: lefts, (rightName, right) :: rights =>
      leftName == rightName && equals left right && equalMembers lefts rights
  | _, _ => false

end

end Json

end RecordFilter
