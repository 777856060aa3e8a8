import RecordFilter.Error
import RecordFilter.Literal.Basic
import RecordFilter.Literal.Culture
import RecordFilter.Literal.Delimited
import RecordFilter.Operator.Basic

/-!
# Coercion

The value of a leaf rule is broken into as many literals as the operator takes, and each is
read as the declared type.
-/

namespace RecordFilter

/-- The conventions under which literals are read. -/
structure Coercer where
  culture : Culture
  /-- The clock of timestamps that have an offset, in seconds ahead of UTC. -/
  zone : Int

namespace Coercer

/-! ## Scalars -/

/-- Reads a whole number of at most 64 bits with sign. -/
def readInteger : Json → Except CoercionFault Int
  | .number number =>
      match number.toInt64? with
      | some value => .ok value
      | none => .error .notWhole
  | .string text =>
      (Number.readInteger (Text.trimChars text.toList)).mapError .integerText
  | other => .error (.wrongKind other.kind "an integer")

/-- Reads a whole number of at most 32 bits with sign. -/
def readInt32 (raw : Json) : Except CoercionFault Int := do
  let value ← readInteger raw
  if Number.isInt32 value then .ok value else .error .beyondInt32

def readDouble (coercer : Coercer) : Json → Except CoercionFault Number.Double
  | .number value => .ok value.toDouble
  | .string text =>
      match coercer.culture.readDouble text with
      | some value => .ok value
      | none => .error (.notNumber coercer.culture.name)
  | other => .error (.wrongKind other.kind "a double")

def readDateTime (coercer : Coercer) : Json → Except CoercionFault Calendar.Timestamp
  | .string text =>
      match coercer.culture.readDateTime coercer.zone text with
      | some time => .ok time
      | none => .error (.noDateFormat coercer.culture.name)
  | other => .error (.wrongKind other.kind "a date")

def readBoolean : Json → Except CoercionFault Bool
  | .bool value => .ok value
  | .string text =>
      let word := Text.trim text
      if Text.equalIgnoringCase word "true" then .ok true
      else if Text.equalIgnoringCase word "false" then .ok false
      else .error .notBoolean
  | _ => .error .notBoolean

def readGuid : Json → Except CoercionFault Guid
  | .string text =>
      match Guid.read (Text.trimChars text.toList) with
      | some guid => .ok guid
      | none => .error .notGuid
  | other => .error (.wrongKind other.kind "a guid")

/-- A text as it is, and any other value by its JSON text. -/
def textOf : Json → String
  | .string text => text
  | other => other.write

/-- Reads a value that is no array, object or null. -/
def readPlain (coercer : Coercer) (declared : DeclaredType) (raw : Json) :
    Except CoercionFault Literal :=
  match declared with
  | .integer => (readInt32 raw).map .int
  | .long => (readInteger raw).map .int
  | .double => (coercer.readDouble raw).map .double
  | .boolean => (readBoolean raw).map .bool
  | .string => .ok (.text (textOf raw))
  | .date => (coercer.readDateTime raw).map fun time => .dateTime time.midnight
  | .dateTime => (coercer.readDateTime raw).map .dateTime
  | .guid => (readGuid raw).map .guid

/-- Reads a value as the declared type. An object is read through its JSON text. -/
def readLiteral (coercer : Coercer) (declared : DeclaredType) :
    Json → Except CoercionFault Literal
  | .array _ => .error .nestedArray
  | .null => .error .nullValue
  | .object members =>
      let text : Json := .string (Json.object members).write
      (coercer.readPlain declared text).mapError fun _ => .objectWithoutText
  | raw => coercer.readPlain declared raw

def coerceScalar (coercer : Coercer) (context : LeafContext) (raw : Json) :
    Except CompileError Literal :=
  (coercer.readLiteral context.declared raw).mapError (.coercion context raw)

/-! ## Several literals -/

/-- The items of a value: those of an array, those of a delimited text when the operator
takes several, or the value itself. -/
def itemsOf (arity : Arity) : Json → List Json
  | .array items => items
  | .string text =>
      if arity = .pair ∨ arity = .list then Delimited.items text else [.string text]
  | other => [other]

/-- The number of literals that an operator lacks when it is not satisfied with a count. -/
def wantedBy : Arity → Nat → Option Nat
  | .single, count => if count = 1 then none else some 1
  | .pair, count => if count = 2 then none else some 2
  | .list, count => if count = 0 then some 1 else none
  | .none, _ => none

/-- Reads the literals of a leaf: none, one, two or at least one, as the operator takes. -/
def coerce (coercer : Coercer) (context : LeafContext) (arity : Arity) (raw : Option Json) :
    Except CompileError (List Literal) :=
  if arity = .none then .ok []
  else
    match raw with
    | none => .error (.coercion context .null .valueRequired)
    | some .null => .error (.coercion context .null .valueRequired)
    | some value =>
        let items := itemsOf arity value
        match wantedBy arity items.length with
        | some expected =>
            .error (.wrongArity context.field context.operator expected items.length)
        | none => items.mapM (coercer.coerceScalar context)

end Coercer

end RecordFilter
