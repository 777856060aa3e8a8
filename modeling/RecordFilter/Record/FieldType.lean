/-!
# Field types and shapes

A record type is described by a shape: its members with their types, and the type of its
indexer entries if it has an indexer. Types refer to shapes by name, so shapes may be
recursive; a schema holds the shapes.
-/

namespace RecordFilter

/-- What the keys of a map are. Only text keys can be written in a field path. -/
inductive KeyKind where
  | text
  | integer
  | other (name : String)
deriving DecidableEq

def KeyKind.name : KeyKind → String
  | text => "string"
  | integer => "integer"
  | other name => name

inductive FieldType where
  | int
  | long
  | double
  | bool
  | text
  /-- Calendar dates, compared as the timestamps of midnight. -/
  | date
  | dateTime
  | guid
  /-- Named members with their numbers. -/
  | enum (members : List (String × Int))
  /-- Records of the named shape. -/
  | object (shape : String)
  | list (element : FieldType)
  | map (key : KeyKind) (value : FieldType)
  | nullable (inner : FieldType)
  /-- Untyped values, inspected when a record is read. -/
  | any
deriving DecidableEq

namespace FieldType

/-- The type of optional values; a type that has null already stays as it is. -/
def optional : FieldType → FieldType
  | nullable inner => nullable inner
  | any => any
  | other => nullable other

/-- The type without the nullable wrappers around it. -/
def nonNull : FieldType → FieldType
  | nullable inner => inner.nonNull
  | other => other

def isNullable : FieldType → Bool
  | nullable _ | any => true
  | _ => false

/-- Whether ordering operators apply to values of the type. -/
def isOrderable (type : FieldType) : Bool :=
  match type.nonNull with
  | int | long | double | date | dateTime | enum _ | any => true
  | _ => false

def isCollection (type : FieldType) : Bool :=
  match type.nonNull with
  | list _ | map _ _ => true
  | _ => false

def name : FieldType → String
  | int => "int"
  | long => "long"
  | double => "double"
  | bool => "bool"
  | text => "string"
  | date => "date"
  | dateTime => "datetime"
  | guid => "guid"
  | enum _ => "enum"
  | object shape => "object " ++ shape
  | list element => "list<" ++ element.name ++ ">"
  | map key value => "map<" ++ key.name ++ ", " ++ value.name ++ ">"
  | nullable inner => inner.name ++ "?"
  | any => "any"

/-- Goes through list layers: `depth` lists are opened, each after removing the nullable
wrappers around it, and `element` is the type inside. -/
def openListsFrom : FieldType → FieldType → Nat × FieldType
  | nullable inner, whole => openListsFrom inner whole
  | list element, _ =>
      let (depth, innermost) := openListsFrom element element
      (depth + 1, innermost)
  | _, whole => (0, whole)

/-- The number of list layers of a type and the type of their elements. -/
def openLists (type : FieldType) : Nat × FieldType :=
  openListsFrom type type

end FieldType

/-- A record type: its members in declaration order and its indexer. -/
structure Shape where
  name : String
  members : List (String × FieldType)
  indexer : Option FieldType
deriving DecidableEq

namespace Shape

/-- The type of the member with exactly this name. -/
def find? (shape : Shape) (name : String) : Option FieldType :=
  shape.members.lookup name

end Shape

/-- The shapes that types refer to. -/
structure Schema where
  shapes : List Shape
deriving DecidableEq

namespace Schema

/-- The shape with a name. A name that the schema does not hold stands for a record type
without members. -/
def shape (schema : Schema) (name : String) : Shape :=
  (schema.shapes.find? fun shape => shape.name == name).getD ⟨name, [], none⟩

end Schema

end RecordFilter
