import RecordFilter.Text.Blank
import RecordFilter.Text.Folding

/-!
# Declared types

A leaf rule declares how its literals are to be read. The declared type does not depend on
the type of the field; the two are reconciled when the rule is compiled.
-/

namespace RecordFilter

/-- How the literals of a leaf rule are read. -/
inductive DeclaredType where
  | integer
  | long
  | double
  | boolean
  | string
  /-- A calendar date; literals and fields are compared by their day. -/
  | date
  | dateTime
  | guid
deriving DecidableEq

namespace DeclaredType

def all : List DeclaredType :=
  [integer, long, double, boolean, string, date, dateTime, guid]

def name : DeclaredType → String
  | integer => "integer"
  | long => "long"
  | double => "double"
  | boolean => "boolean"
  | string => "string"
  | date => "date"
  | dateTime => "datetime"
  | guid => "guid"

/-- The type with a tag; blanks around the tag and ASCII case do not matter. -/
def ofTag? (tag : String) : Option DeclaredType :=
  all.find? fun type => Text.equalIgnoringCase type.name (Text.trim tag)

def read (tag : String) : Except String DeclaredType :=
  match ofTag? tag with
  | some type => .ok type
  | none => .error ("unknown type '" ++ tag ++ "'")

def isOrderable : DeclaredType → Bool
  | integer | long | double | date | dateTime => true
  | _ => false

def isNumeric : DeclaredType → Bool
  | integer | long | double => true
  | _ => false

end DeclaredType

end RecordFilter
