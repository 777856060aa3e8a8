import RecordFilter.Calendar.Timestamp
import RecordFilter.Guid
import RecordFilter.Number.Integer
import RecordFilter.Number.Layout
import RecordFilter.Text.Quoted

/-!
# Literals

A literal is the value of a rule, read as the rule's declared type.
-/

namespace RecordFilter

/-- A rule value of a declared type. -/
inductive Literal where
  | int (value : Int)
  | double (value : Number.Double)
  | bool (value : Bool)
  | text (value : String)
  | dateTime (value : Calendar.Timestamp)
  | guid (value : Guid)
deriving DecidableEq

namespace Literal

def kind : Literal → String
  | int _ => "int"
  | double _ => "double"
  | bool _ => "bool"
  | text _ => "string"
  | dateTime _ => "datetime"
  | guid _ => "guid"

/-- The numeric view of integers and doubles. -/
def toDouble? : Literal → Option Number.Double
  | int value => some (.ofInt value)
  | double value => some value
  | _ => none

/-- The text of a literal, which is compared when the field is text. -/
def render : Literal → String
  | int value => Number.integerText value
  | double value => Number.Layout.plain.text value
  | bool value => if value then "true" else "false"
  | text value => value
  | dateTime value => value.text
  | guid value => value.text

def describe : Literal → String
  | text value => Text.Quoted.encode value
  | other => other.render

/-- The order of two literals. Integers, timestamps and texts are compared with their like,
other numbers as doubles; the rest has no order. -/
def order? : Literal → Literal → Option Ordering
  | int left, int right => some (compare left right)
  | dateTime left, dateTime right => some (left.order right)
  | text left, text right => some (compare left right)
  | left, right =>
      match left.toDouble?, right.toDouble? with
      | some l, some r => l.compare? r
      | _, _ => none

/-- Equality of literals of one kind. Doubles are compared numerically, so NaN differs from
itself. -/
def equals : Literal → Literal → Bool
  | double left, double right => left.equals right
  | left, right => decide (left = right)

end Literal

end RecordFilter
