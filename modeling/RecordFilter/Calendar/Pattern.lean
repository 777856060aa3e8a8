import RecordFilter.Calendar.Scan
import RecordFilter.Calendar.Timestamp
import RecordFilter.Text.Blank

/-!
# Date patterns

A pattern lists the fields of a written date in order, with the characters between them.
Blanks may stand before every number, and a blank of the pattern matches any run of blanks.
A field that occurs twice has to have the same value both times.
-/

namespace RecordFilter.Calendar

/-- A numeric field of a written timestamp, apart from the year. -/
inductive Field where
  | month
  | day
  | hour
  | minute
  | second
deriving DecidableEq

namespace Field

/-- The range of values that a field may have in a text. -/
def admits : Field → Nat → Bool
  | month, value => 1 ≤ value && value ≤ 12
  | day, value => 1 ≤ value && value ≤ 31
  | hour, value => value ≤ 23
  | minute, value => value ≤ 59
  | second, value => value ≤ 60

end Field

/-- One part of a pattern. -/
inductive PatternItem where
  | year
  | field (field : Field)
  | fraction
  | blank
  | exact (c : Char)
deriving DecidableEq

/-- What a text says about a timestamp. -/
structure FieldValues where
  year : Option Int
  month : Option Nat
  day : Option Nat
  hour : Option Nat
  minute : Option Nat
  second : Option Nat
  nano : Option Nat
deriving DecidableEq

namespace FieldValues

def empty : FieldValues :=
  ⟨none, none, none, none, none, none, none⟩

/-- Adds a value to one that may be there already; two different values contradict. -/
def agree {α : Type} [DecidableEq α] (known : Option α) (value : α) : Option (Option α) :=
  match known with
  | none => some (some value)
  | some old => if old = value then some (some old) else none

def setYear (values : FieldValues) (value : Int) : Option FieldValues := do
  return { values with year := ← agree values.year value }

def setNano (values : FieldValues) (value : Nat) : Option FieldValues := do
  return { values with nano := ← agree values.nano value }

/-- Adds the value of a field, if it is in the field's range. -/
def set (values : FieldValues) (field : Field) (value : Nat) : Option FieldValues := do
  guard (field.admits value)
  match field with
  | .month => return { values with month := ← agree values.month value }
  | .day => return { values with day := ← agree values.day value }
  | .hour => return { values with hour := ← agree values.hour value }
  | .minute => return { values with minute := ← agree values.minute value }
  | .second => return { values with second := ← agree values.second value }

/-- The day that year, month and day give together. -/
def toDay? (values : FieldValues) : Option Int := do
  let date : Date := ⟨← values.year, ← values.month, ← values.day⟩
  guard date.isValid
  return date.toDay

/-- The timestamp that the values give together. Hour and minute are needed; a fraction
needs a second. -/
def toTimestamp? (values : FieldValues) : Option Timestamp := do
  let day ← values.toDay?
  let hour ← values.hour
  let minute ← values.minute
  guard (values.second.isSome || values.nano.isNone)
  Timestamp.ofClock? day hour minute (values.second.getD 0) (values.nano.getD 0)

end FieldValues

abbrev Pattern : Type :=
  List PatternItem

namespace Pattern

/-- Reads a pattern. The fields are the year `%Y`, the month `%m`, the day `%d`, the hour `%H`,
the minute `%M`, the second `%S` and the fraction of a second `%.f`. This is a limit of the
patterns here: one with any other field is unusable and no text matches it, also where the field
is a date part in another form, such as a month by name or an hour of twelve. -/
def ofChars : List Char → Option Pattern
  | [] => some []
  | '%' :: '.' :: 'f' :: rest => (ofChars rest).map (.fraction :: ·)
  | '%' :: 'Y' :: rest => (ofChars rest).map (.year :: ·)
  | '%' :: 'm' :: rest => (ofChars rest).map (.field .month :: ·)
  | '%' :: 'd' :: rest => (ofChars rest).map (.field .day :: ·)
  | '%' :: 'H' :: rest => (ofChars rest).map (.field .hour :: ·)
  | '%' :: 'M' :: rest => (ofChars rest).map (.field .minute :: ·)
  | '%' :: 'S' :: rest => (ofChars rest).map (.field .second :: ·)
  | '%' :: _ => none
  | c :: rest =>
      (ofChars rest).map ((if Text.isBlank c then .blank else .exact c) :: ·)

/-- Takes a year: up to four digits, or a sign and any number of digits. -/
def scanYear : Scan Int := fun text =>
  match text with
  | '-' :: rest => (do return -(Number.naturalOf (← Scan.allDigits) : Int)) rest
  | '+' :: rest => (do return (Number.naturalOf (← Scan.allDigits) : Int)) rest
  | _ => (do return ((← Scan.number 1 4 : Nat) : Int)) text

/-- Takes the text of one item and adds what it says. -/
def scanItem (item : PatternItem) (values : FieldValues) : Scan FieldValues := fun text =>
  match item with
  | .blank => some (values, Text.trimStart text)
  | .exact c => (do Scan.exact c; return values) text
  | .year => (do values.setYear (← scanYear)) (Text.trimStart text)
  | .field field => (do values.set field (← Scan.number 1 2)) (Text.trimStart text)
  | .fraction =>
      (do
        match ← Scan.fraction with
        | none => return values
        | some nano => values.setNano nano) text

/-- Takes the text of all items in order. -/
def scan : Pattern → FieldValues → Scan FieldValues
  | [], values => return values
  | item :: items, values => do scan items (← scanItem item values)

/-- What a text that matches the whole pattern says. -/
def match? (pattern : Pattern) (text : List Char) : Option FieldValues :=
  (pattern.scan .empty).run? text

end Pattern

/-- Reads a timestamp written in a date-time format. -/
def readDateTime (format : String) (text : List Char) : Option Timestamp := do
  let values ← (← Pattern.ofChars format.toList).match? text
  values.toTimestamp?

/-- Reads a date written in a date format; a time of day is dropped. -/
def readDate (format : String) (text : List Char) : Option Timestamp := do
  let values ← (← Pattern.ofChars format.toList).match? text
  return .ofDay (← values.toDay?)

end RecordFilter.Calendar
