import RecordFilter.Calendar.Offset
import RecordFilter.Calendar.Pattern
import RecordFilter.Number.Scan
import RecordFilter.Text.Blank

/-!
# Cultures

A culture holds the conventions for numbers and dates in literals.
-/

namespace RecordFilter

/-- Conventions for reading numbers and dates. -/
structure Culture where
  name : String
  decimalSeparator : Char
  /-- A character that is skipped in numbers. -/
  groupSeparator : Option Char
  /-- Formats of dates, tried in order. -/
  dateFormats : List String
  /-- Formats of dates with a time of day, tried in order before those of dates. -/
  dateTimeFormats : List String
deriving DecidableEq

namespace Culture

/-- Conventions of no country: ISO dates and a decimal point. -/
def invariant : Culture where
  name := ""
  decimalSeparator := '.'
  groupSeparator := some ','
  dateFormats := ["%Y-%m-%d", "%m/%d/%Y", "%Y/%m/%d"]
  dateTimeFormats :=
    ["%Y-%m-%dT%H:%M:%S%.f", "%Y-%m-%d %H:%M:%S%.f", "%Y-%m-%dT%H:%M", "%Y-%m-%d %H:%M",
      "%m/%d/%Y %H:%M:%S", "%m/%d/%Y %H:%M"]

/-- German conventions: a decimal comma, and dates with the day first. -/
def german : Culture where
  name := "de-DE"
  decimalSeparator := ','
  groupSeparator := some '.'
  dateFormats := ["%d.%m.%Y", "%Y-%m-%d"]
  dateTimeFormats :=
    ["%d.%m.%Y %H:%M:%S", "%d.%m.%Y %H:%M", "%Y-%m-%dT%H:%M:%S%.f",
      "%Y-%m-%d %H:%M:%S%.f"]

/-- The number text without group separators and with a point for the decimal separator. A
character that is both is a group separator. -/
def normalize (culture : Culture) (text : List Char) : List Char :=
  (text.filter fun c => some c ≠ culture.groupSeparator).map fun c =>
    if c = culture.decimalSeparator then '.' else c

/-- Reads a number, which has to be finite. -/
def readDouble (culture : Culture) (text : String) : Option Number.Double :=
  Number.readDouble (culture.normalize (Text.trimChars text.toList))

/-- Reads a date or a date with a time of day. A text with an offset is taken to the clock
that is `zone` seconds ahead of UTC; other texts are taken as written. -/
def readDateTime (culture : Culture) (zone : Int) (text : String) :
    Option Calendar.Timestamp :=
  let trimmed := Text.trimChars text.toList
  match Calendar.OffsetTimestamp.read trimmed with
  | some time => some (time.toZone zone)
  | none =>
      match culture.dateTimeFormats.findSome? (Calendar.readDateTime · trimmed) with
      | some time => some time
      | none => culture.dateFormats.findSome? (Calendar.readDate · trimmed)

end Culture

end RecordFilter
