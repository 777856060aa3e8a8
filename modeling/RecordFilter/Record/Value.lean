import RecordFilter.Calendar.Timestamp
import RecordFilter.Guid
import RecordFilter.Json.Basic
import RecordFilter.Number.Integer
import RecordFilter.Number.Layout
import RecordFilter.Text.Blank
import RecordFilter.Text.Quoted

/-!
# Runtime values

A value is what a field of a record holds. Records and maps are looked up by name or key;
the first entry counts. A map with integer keys is looked up with a text, which is trimmed
and read as an integer.
-/

namespace RecordFilter

/-- What a field of a record holds. -/
inductive Value where
  | null
  | bool (value : Bool)
  | int (value : Int)
  | double (value : Number.Double)
  | text (value : String)
  | dateTime (value : Calendar.Timestamp)
  | guid (value : Guid)
  | enum (name : String) (number : Int)
  | list (items : List Value)
  | map (entries : List (String × Value))
  | intMap (entries : List (Int × Value))
  /-- A record: its members and its indexer entries. -/
  | object (members : List (String × Value)) (indexed : List (String × Value))
deriving Inhabited

namespace Value

def isNull : Value → Bool
  | null => true
  | _ => false

def kind : Value → String
  | null => "null"
  | bool _ => "bool"
  | int _ => "int"
  | double _ => "double"
  | text _ => "string"
  | dateTime _ => "datetime"
  | guid _ => "guid"
  | enum _ _ => "enum"
  | list _ => "list"
  | map _ | intMap _ => "map"
  | object _ _ => "object"

/-- The numeric view of integers, doubles and enum members. -/
def toDouble? : Value → Option Number.Double
  | int value => some (.ofInt value)
  | double value => some value
  | enum _ number => some (.ofInt number)
  | _ => none

/-- The text of a scalar; null, lists, maps and records have none. -/
def toText? : Value → Option String
  | text value => some value
  | bool value => some (if value then "true" else "false")
  | int value => some (Number.integerText value)
  | double value => some (Number.Layout.plain.text value)
  | dateTime value => some value.text
  | guid value => some value.text
  | enum name _ => some name
  | _ => none

/-- The number of characters of a text, items of a list or entries of a map. -/
def size? : Value → Option Nat
  | text value => some value.length
  | list items => some items.length
  | map entries => some entries.length
  | intMap entries => some entries.length
  | _ => none

/-! ## Looking up -/

/-- The entry of a map with integer keys under a key given as text. -/
def lookupInt (entries : List (Int × Value)) (key : String) : Option Value :=
  match Number.readInteger (Text.trimChars key.toList) with
  | .ok number => entries.lookup number
  | .error _ => none

def entry? (value : Value) (key : String) : Option Value :=
  match value with
  | map entries => entries.lookup key
  | intMap entries => lookupInt entries key
  | _ => none

def containsKey (value : Value) (key : String) : Bool :=
  (value.entry? key).isSome

/-! ## Untyped data -/

mutual

/-- The value of untyped data. An integer beyond 64 bits with sign becomes a double. -/
def ofJson : Json → Value
  | .null => null
  | .bool value => bool value
  | .number (.integer value) =>
      if Number.isInt64 value then int value else double (.ofInt value)
  | .number (.double value) => double (.finite value)
  | .string value => text value
  | .array items => list (ofJsonItems items)
  | .object members => map (ofJsonMembers members)

def ofJsonItems : List Json → List Value
  | [] => []
  | item :: rest => ofJson item :: ofJsonItems rest

def ofJsonMembers : List (String × Json) → List (String × Value)
  | [] => []
  | (name, member) :: rest => (name, ofJson member) :: ofJsonMembers rest

end

/-! ## Description -/

mutual

/-- A short description of a value. Maps and records are not spelled out. -/
def describe : Value → String
  | null => "Null"
  | bool value => "Bool(" ++ (if value then "true" else "false") ++ ")"
  | int value => "Int(" ++ Number.integerText value ++ ")"
  | double value => "Double(" ++ Number.Layout.plain.text value ++ ")"
  | text value => "Text(" ++ Text.Quoted.encode value ++ ")"
  | dateTime value => "DateTime(" ++ value.exactText ' ' ++ ")"
  | guid value => "Guid(" ++ value.text ++ ")"
  | enum name number => "Enum(" ++ name ++ "=" ++ Number.integerText number ++ ")"
  | list items => "[" ++ describeItems items ++ "]"
  | map entries => "Map(len=" ++ Number.integerText entries.length ++ ")"
  | intMap entries => "Map(len=" ++ Number.integerText entries.length ++ ")"
  | object _ _ => "Object"

def describeItems : List Value → String
  | [] => ""
  | [item] => describe item
  | item :: rest => describe item ++ ", " ++ describeItems rest

end

end Value

end RecordFilter
