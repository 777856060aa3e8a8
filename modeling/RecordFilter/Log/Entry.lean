import RecordFilter.Json.Writer

/-!
# Log entries

An entry has a severity, an event and fields. It is written as one line of JSON: the event
and the severity first, then the fields in the order of their keys.
-/

namespace RecordFilter

/-- How important a log entry is. -/
inductive Severity where
  | trace
  | info
  | warn
  | error
deriving DecidableEq

namespace Severity

def name : Severity → String
  | trace => "TRACE"
  | info => "INFO"
  | warn => "WARN"
  | error => "ERROR"

/-- The place of a severity, the least important first. -/
def rank : Severity → Nat
  | trace => 0
  | info => 1
  | warn => 2
  | error => 3

/-- Unless told otherwise, warnings and errors are written. -/
def defaultMinimum : Severity := warn

/-- Whether entries of a severity are written under a minimum. -/
def isEnabled (minimum severity : Severity) : Bool :=
  minimum.rank ≤ severity.rank

end Severity

/-- What may be logged about rules. -/
inductive Event where
  | compileStart
  | compileComplete
  | compileFailed
  | leafCompiled
  | evaluationFailed
deriving DecidableEq

namespace Event

def name : Event → String
  | compileStart => "RULE_COMPILE_BEGIN"
  | compileComplete => "RULE_COMPILE_COMPLETE"
  | compileFailed => "RULE_COMPILE_FAILED"
  | leafCompiled => "RULE_LEAF_COMPILED"
  | evaluationFailed => "RULE_EVALUATION_FAILED"

def isFailure : Event → Bool
  | compileFailed | evaluationFailed => true
  | _ => false

end Event

structure LogEntry where
  severity : Severity
  event : String
  fields : List (String × String)
deriving DecidableEq

namespace LogEntry

/-- An entry for an event: failures are information, the rest is detail. -/
def ofEvent (event : Event) (fields : List (String × String)) : LogEntry :=
  ⟨if event.isFailure then .info else .trace, event.name, fields⟩

/-! ## Lines -/

def isControl (c : Char) : Bool :=
  c.toNat < 0x20 || (0x7F ≤ c.toNat && c.toNat ≤ 0x9F)

def escapeChar (c : Char) : List Char :=
  if c = '\x22' || c = '\x5c' then ['\x5c', c]
  else if c = '\n' then ['\x5c', 'n']
  else if c = '\r' then ['\x5c', 'r']
  else if c = '\t' then ['\x5c', 't']
  else if isControl c then Json.codeEscape c
  else [c]

def stringChars (text : String) : List Char :=
  '\x22' :: (text.toList.flatMap escapeChar ++ ['\x22'])

def memberChars (member : String × String) : List Char :=
  stringChars member.1 ++ ':' :: stringChars member.2

/-- The fields in the order of their keys; fields with one key keep their order. -/
def sortedFields (entry : LogEntry) : List (String × String) :=
  entry.fields.mergeSort fun left right => left.1 ≤ right.1

/-- The members of the written object. -/
def members (entry : LogEntry) : List (String × String) :=
  ("event", entry.event) :: ("severity", entry.severity.name) :: entry.sortedFields

def lineChars (entry : LogEntry) : List Char :=
  '\x7b' :: List.intercalate [','] (entry.members.map memberChars) ++ ['\x7d']

def line (entry : LogEntry) : String :=
  String.ofList entry.lineChars

/-- The line as it is written, with its end. -/
def written (entry : LogEntry) : List Char :=
  entry.lineChars ++ ['\n']

/-- Errors go to the error stream. -/
def isForErrorStream (entry : LogEntry) : Bool :=
  entry.severity = .error

end LogEntry

def writtenEntries (minimum : Severity) (entries : List LogEntry) : List LogEntry :=
  entries.filter fun entry => minimum.isEnabled entry.severity

end RecordFilter
