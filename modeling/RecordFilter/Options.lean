import RecordFilter.Json.Reader
import RecordFilter.Literal.Coercion
import RecordFilter.Operator.Registry

/-!
# Options

Options choose how rules are compiled. Their JSON form holds everything but the custom
operators and the local time zone; what it leaves out keeps its default.
-/

namespace RecordFilter

/-- How rules are compiled. -/
structure Options where
  culture : Culture
  /-- Timestamps with an offset are taken to UTC, otherwise to local time. -/
  datesAsUtc : Bool
  /-- Texts are compared exactly, otherwise lower-cased. -/
  caseSensitive : Bool
  /-- A null on the way to a field is no match, otherwise an error. -/
  nullChecks : Bool
  /-- Paths may name the indexer by `indexerName`. -/
  useIndexer : Bool
  indexerName : String
  /-- Fields that are not text cannot be compared as text. -/
  explicitText : Bool
  /-- Custom operators in the order of registration. -/
  operators : List CustomOperator
  /-- The offset of local time in seconds ahead of UTC. -/
  localZone : Int

namespace Options

def default : Options where
  culture := .invariant
  datesAsUtc := false
  caseSensitive := false
  nullChecks := false
  useIndexer := false
  indexerName := "Item"
  explicitText := false
  operators := []
  localZone := 0

def withCulture (options : Options) (culture : Culture) : Options :=
  { options with culture := culture }

def withDatesAsUtc (options : Options) (enabled : Bool) : Options :=
  { options with datesAsUtc := enabled }

def withCaseSensitive (options : Options) (enabled : Bool) : Options :=
  { options with caseSensitive := enabled }

def withNullChecks (options : Options) (enabled : Bool) : Options :=
  { options with nullChecks := enabled }

def withIndexer (options : Options) (name : String) : Options :=
  { options with useIndexer := true, indexerName := name }

def withExplicitText (options : Options) (enabled : Bool) : Options :=
  { options with explicitText := enabled }

def withLocalZone (options : Options) (seconds : Int) : Options :=
  { options with localZone := seconds }

/-- Registers a custom operator after the others. -/
def withOperator (options : Options) (operator : CustomOperator) : Options :=
  { options with operators := options.operators ++ [operator] }

/-- The segment that names the indexer, if there is one. -/
def sentinel? (options : Options) : Option String :=
  if options.useIndexer then some options.indexerName else none

def coercer (options : Options) : Coercer :=
  ⟨options.culture, if options.datesAsUtc then 0 else options.localZone⟩

/-! ## Reading -/

/-- The documents of named members: from an object by name, or from an array by place.
Unknown members are ignored, repeated ones and surplus items refused. -/
def membersOf? (names : List String) : JsonDocument → Option (List (Option JsonDocument))
  | .object members => do
      let named ← members.mapM fun (name, document) => name.map fun known => (known, document)
      let known := named.filter fun (name, _) => names.contains name
      guard (known.map Prod.fst).Nodup
      return names.map fun name => known.lookup name
  | .array items => do
      guard (items.length ≤ names.length)
      return (List.range names.length).map fun place => items[place]?
  | _ => none

/-- Reads a member that may be left out. -/
def readOr {α : Type} (fallback : α) (read : JsonDocument → Option α) :
    Option JsonDocument → Option α
  | none => some fallback
  | some document => read document

def boolOf? : JsonDocument → Option Bool
  | .bool value => some value
  | _ => none

def textOf? : JsonDocument → Option String
  | .string value => value
  | _ => none

/-- A text of exactly one character. -/
def charOf? : JsonDocument → Option Char
  | .string (some text) =>
      match text.toList with
      | [c] => some c
      | _ => none
  | _ => none

def optionalCharOf? : JsonDocument → Option (Option Char)
  | .null => some none
  | document => (charOf? document).map some

def textsOf? : JsonDocument → Option (List String)
  | .array items => items.mapM textOf?
  | _ => none

def cultureMembers : List String :=
  ["name", "decimal_separator", "group_separator", "date_formats", "datetime_formats"]

/-- Reads a culture; what is left out is taken from the invariant culture. -/
def cultureOf? (document : JsonDocument) : Option Culture := do
  let members ← membersOf? cultureMembers document
  match members with
  | [name, decimalSeparator, groupSeparator, dateFormats, dateTimeFormats] =>
      let fallback := Culture.invariant
      return {
        name := ← readOr fallback.name textOf? name
        decimalSeparator := ← readOr fallback.decimalSeparator charOf? decimalSeparator
        groupSeparator := ← readOr fallback.groupSeparator optionalCharOf? groupSeparator
        dateFormats := ← readOr fallback.dateFormats textsOf? dateFormats
        dateTimeFormats := ← readOr fallback.dateTimeFormats textsOf? dateTimeFormats }
  | _ => none

def optionMembers : List String :=
  ["culture", "parse_dates_as_utc", "string_case_sensitive", "null_check_nested_objects",
    "use_indexed_property", "indexed_property_name", "require_explicit_to_string_conversion"]

/-- Reads options; what is left out keeps its default. -/
def ofDocument? (document : JsonDocument) : Option Options := do
  let members ← membersOf? optionMembers document
  match members with
  | [culture, datesAsUtc, caseSensitive, nullChecks, useIndexer, indexerName,
      explicitText] =>
      return {
        default with
        culture := ← readOr default.culture cultureOf? culture
        datesAsUtc := ← readOr default.datesAsUtc boolOf? datesAsUtc
        caseSensitive := ← readOr default.caseSensitive boolOf? caseSensitive
        nullChecks := ← readOr default.nullChecks boolOf? nullChecks
        useIndexer := ← readOr default.useIndexer boolOf? useIndexer
        indexerName := ← readOr default.indexerName textOf? indexerName
        explicitText := ← readOr default.explicitText boolOf? explicitText }
  | _ => none

def ofJson? (json : Json) : Option Options :=
  ofDocument? (.ofValue json)

def read? (text : String) : Option Options := do
  ofDocument? (← JsonDocument.read text.toList)

/-! ## Writing -/

def cultureJson (culture : Culture) : Json :=
  .object
    [("name", .string culture.name),
      ("decimal_separator", .string culture.decimalSeparator.toString),
      ("group_separator",
        match culture.groupSeparator with
        | none => .null
        | some c => .string c.toString),
      ("date_formats", .array (culture.dateFormats.map .string)),
      ("datetime_formats", .array (culture.dateTimeFormats.map .string))]

/-- The JSON form of options, without the custom operators and the local time zone. -/
def toJson (options : Options) : Json :=
  .object
    [("culture", cultureJson options.culture),
      ("parse_dates_as_utc", .bool options.datesAsUtc),
      ("string_case_sensitive", .bool options.caseSensitive),
      ("null_check_nested_objects", .bool options.nullChecks),
      ("use_indexed_property", .bool options.useIndexer),
      ("indexed_property_name", .string options.indexerName),
      ("require_explicit_to_string_conversion", .bool options.explicitText)]

end Options

end RecordFilter
