import RecordFilter.Json.Basic

/-!
# JSON documents

A document is JSON as it was written: objects keep their members in order and with repeated
names, and a number or a text that has no value is marked. Such a fault matters only when
the part that holds it is used.
-/

namespace RecordFilter

/-- A JSON document. A number beyond the doubles and a text with an unpaired surrogate are
`none`. -/
inductive JsonDocument where
  | null
  | bool (value : Bool)
  | number (value : Option JsonNumber)
  | string (value : Option String)
  | array (items : List JsonDocument)
  | object (members : List (Option String × JsonDocument))

namespace JsonDocument

mutual

/-- The value of a document, if every part has one. Of members with one name the last
counts. -/
def value? : JsonDocument → Option Json
  | null => some .null
  | bool value => some (.bool value)
  | number value => value.map .number
  | string value => value.map .string
  | array items => (itemValues? items).map .array
  | object members => (memberValues? members).map .ofMembers

def itemValues? : List JsonDocument → Option (List Json)
  | [] => some []
  | item :: rest => do
      let value ← value? item
      let values ← itemValues? rest
      return value :: values

def memberValues? : List (Option String × JsonDocument) → Option (List (String × Json))
  | [] => some []
  | (name, member) :: rest => do
      let name ← name
      let value ← value? member
      let values ← memberValues? rest
      return (name, value) :: values

end

mutual

def nesting : JsonDocument → Nat
  | array items => itemNesting items + 1
  | object members => memberNesting members + 1
  | _ => 0

def itemNesting : List JsonDocument → Nat
  | [] => 0
  | item :: rest => max (nesting item) (itemNesting rest)

def memberNesting : List (Option String × JsonDocument) → Nat
  | [] => 0
  | (_, member) :: rest => max (nesting member) (memberNesting rest)

end

mutual

def ofValue : Json → JsonDocument
  | .null => null
  | .bool value => bool value
  | .number value => number (some value)
  | .string value => string (some value)
  | .array items => array (ofItems items)
  | .object members => object (ofMemberList members)

def ofItems : List Json → List JsonDocument
  | [] => []
  | item :: rest => ofValue item :: ofItems rest

def ofMemberList : List (String × Json) → List (Option String × JsonDocument)
  | [] => []
  | (name, member) :: rest => (some name, ofValue member) :: ofMemberList rest

end

/-- Text that is read may be nested this deep. -/
def deepest : Nat := 127

end JsonDocument

end RecordFilter
