import RecordFilter.Calendar.Offset
import RecordFilter.Calendar.Pattern
import RecordFilter.Number.Scan
import RecordFilter.Record.FieldType
import RecordFilter.Record.Value

/-!
# Stored data

Record data is stored in more ways than there are field types: integers of several widths,
doubles in single precision, timestamps with an offset. A storage says which field type
describes the data and which value stands for it.
-/

namespace RecordFilter

/-- How the data of a field is stored. -/
inductive Storage where
  /-- Integers of at most 32 bits, or 16 bits without sign. -/
  | narrowInteger
  /-- Integers of 64 bits, or 32 bits without sign. -/
  | wideInteger
  | single
  | double
  | bool
  | text
  | guid
  | date
  | dateTime
  /-- Timestamps with an offset, compared by their UTC clock. -/
  | offsetDateTime
  | enum (members : List (String × Int))
  | json
  | object (shape : String)
  | list (element : Storage)
  | map (key : KeyKind) (value : Storage)
  /-- Data or null; data that may be null already is not wrapped again. -/
  | optional (inner : Storage)
  /-- Data or null, with a wrapper of its own in every case. -/
  | nullable (inner : Storage)

namespace Storage

/-- The field type that describes stored data. -/
def fieldType : Storage → FieldType
  | narrowInteger => .int
  | wideInteger => .long
  | single | double => .double
  | bool => .bool
  | text => .text
  | guid => .guid
  | date => .date
  | dateTime | offsetDateTime => .dateTime
  | enum members => .enum members
  | json => .any
  | object shape => .object shape
  | list element => .list element.fieldType
  | map key value => .map key value.fieldType
  | optional inner => inner.fieldType.optional
  | nullable inner => .nullable inner.fieldType

/-- Doubles are numbers, or texts: decimals and the three that no decimal denotes. -/
def readDouble? : Json → Option Number.Double
  | .number value => some value.toDouble
  | .string "NaN" => some .nan
  | .string "inf" => some (.infinite false)
  | .string "-inf" => some (.infinite true)
  | .string decimal => (Number.readDecimal decimal.toList).map Number.DecimalText.toDouble
  | _ => none

/-- The value of scalar data; data of another kind, lists, maps and records have none. -/
def readScalar? : Storage → Json → Option Value
  | narrowInteger, .number (.integer value) => some (.int value)
  | wideInteger, .number (.integer value) => some (.int value)
  | single, data => (readDouble? data).map fun value => .double value.toSingle
  | double, data => (readDouble? data).map .double
  | bool, .bool value => some (.bool value)
  | text, .string value => some (.text value)
  | guid, .string value => (Guid.read value.toList).map .guid
  | date, .string value => (Calendar.readDate "%Y-%m-%d" value.toList).map .dateTime
  | dateTime, .string value =>
      (Calendar.readDateTime "%Y-%m-%dT%H:%M:%S%.f" value.toList).map .dateTime
  | offsetDateTime, .string value =>
      (Calendar.OffsetTimestamp.read value.toList).map fun time => .dateTime time.toUtc
  | enum members, .string name => (members.lookup name).map (.enum name)
  | json, data => some (.ofJson data)
  | _, _ => none

end Storage

end RecordFilter
