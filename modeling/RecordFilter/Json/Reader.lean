import RecordFilter.Json.Token

/-!
# Reading JSON text

Tokens are taken one by one; the arrays and objects that are still open are kept with what
they hold so far. Main definitions: `JsonDocument.read` for documents and `Json.read` for
values.
-/

namespace RecordFilter

namespace JsonDocument

/-- An array or object that is still open. Its contents are in reverse order; an object
also has the name of the member that is being read. -/
inductive Frame where
  | array (items : List JsonDocument)
  | object (members : List (Option String × JsonDocument)) (name : Option String)

/-- What may stand next. -/
inductive Expected where
  | value
  | firstItem
  | firstName
  | name
  | colon
  | separator
deriving DecidableEq

/-- How far a document has been read. -/
inductive Progress where
  | reading (frames : List Frame) (expected : Expected)
  | finished (document : JsonDocument)

namespace Progress

/-- A value has been read in the innermost open array or object. -/
def complete (document : JsonDocument) : List Frame → Progress
  | [] => finished document
  | .array items :: frames => reading (.array (document :: items) :: frames) .separator
  | .object members name :: frames =>
      reading (.object ((name, document) :: members) name :: frames) .separator

def beginValue (frames : List Frame) : JsonToken → Option Progress
  | .openArray => some (reading (.array [] :: frames) .firstItem)
  | .openObject => some (reading (.object [] none :: frames) .firstName)
  | .null => some (complete .null frames)
  | .bool value => some (complete (.bool value) frames)
  | .number value => some (complete (.number value) frames)
  | .string value => some (complete (.string value) frames)
  | _ => none

/-- Reads the bracket that closes the innermost array or object. -/
def close : List Frame → JsonToken → Option Progress
  | .array items :: frames, .closeArray => some (complete (.array items.reverse) frames)
  | .object members _ :: frames, .closeObject =>
      some (complete (.object members.reverse) frames)
  | _, _ => none

def beginMember : List Frame → JsonToken → Option Progress
  | .object members _ :: frames, .string name =>
      some (reading (.object members name :: frames) .colon)
  | _, _ => none

def separate : List Frame → Option Progress
  | .array items :: frames => some (reading (.array items :: frames) .value)
  | .object members name :: frames => some (reading (.object members name :: frames) .name)
  | [] => none

def step : Progress → JsonToken → Option Progress
  | finished _, _ => none
  | reading frames .value, token => beginValue frames token
  | reading frames .firstItem, .closeArray => close frames .closeArray
  | reading frames .firstItem, token => beginValue frames token
  | reading frames .firstName, .closeObject => close frames .closeObject
  | reading frames .firstName, token => beginMember frames token
  | reading frames .name, token => beginMember frames token
  | reading frames .colon, .colon => some (reading frames .value)
  | reading _ .colon, _ => none
  | reading frames .separator, .comma => separate frames
  | reading frames .separator, token => close frames token

def run (progress : Progress) : List JsonToken → Option Progress
  | [] => some progress
  | token :: rest =>
      match progress.step token with
      | none => none
      | some next => run next rest

end Progress

def ofTokens (tokens : List JsonToken) : Option JsonDocument :=
  match (Progress.reading [] .value).run tokens with
  | some (.finished document) => some document
  | _ => none

def read (text : List Char) : Option JsonDocument :=
  (JsonToken.ofChars text).bind ofTokens

end JsonDocument

namespace Json

def readChars (text : List Char) : Option Json := do
  let document ← JsonDocument.read text
  guard (document.nesting ≤ JsonDocument.deepest)
  document.value?

def read (text : String) : Option Json :=
  readChars text.toList

end Json

end RecordFilter
