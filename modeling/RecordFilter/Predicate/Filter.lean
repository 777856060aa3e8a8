import RecordFilter.Log.Entry
import RecordFilter.Predicate.Basic

/-!
# Filtering records

A filter goes through records lazily. Each call takes records until one passes or errs and
leaves the rest; records after an error are still filtered. The records may be of any type
that can be viewed as a value.
-/

namespace RecordFilter

/-- A filter over the records that are left. -/
structure Filter (α : Type) where
  predicate : Predicate
  view : α → Value
  records : List α

abbrev Filtered (α : Type) : Type :=
  Except EvalError α

namespace Filter

variable {α : Type}

/-- The first record that passes or errs, answered, and the records after it. At the end there
is neither an answer nor a record. -/
def search (predicate : Predicate) (view : α → Value) :
    List α → Option (Filtered α) × List α
  | [] => (none, [])
  | record :: rest =>
      match predicate.evaluate (view record) with
      | .ok true => (some (.ok record), rest)
      | .ok false => search predicate view rest
      | .error error => (some (.error error), rest)

/-- The entry that is logged for what a call yields: one for an error. -/
def entriesFor : Filtered α → List LogEntry
  | .ok _ => []
  | .error error =>
      [.ofEvent .evaluationFailed [("code", error.code), ("path", error.path)]]

/-- One call of a filter: what it yields, unless the records have ended, what it logs, and the
filter over the records left. -/
structure Call (α : Type) where
  item : Option (Filtered α)
  log : List LogEntry
  rest : Filter α

def next (filter : Filter α) : Call α :=
  let (item, records) := search filter.predicate filter.view filter.records
  ⟨item, item.toList.flatMap entriesFor, { filter with records := records }⟩

/-- The bounds on the number of items still to come. -/
def sizeBounds (filter : Filter α) : Nat × Nat :=
  (0, filter.records.length)

theorem search_length_lt
    {predicate : Predicate} {view : α → Value} {records : List α} {item : Filtered α}
    (found : (search predicate view records).1 = some item) :
    (search predicate view records).2.length < records.length := by
  induction records with
  | nil => simp [search] at found
  | cons record rest inductionHypothesis =>
      unfold search at found ⊢
      split at found
      · simp
      · exact Nat.lt_succ_of_lt (inductionHypothesis found)
      · simp

theorem next_records_length_lt
    {filter rest : Filter α} {item : Filtered α} {log : List LogEntry}
    (called : filter.next = ⟨some item, log, rest⟩) :
    rest.records.length < filter.records.length := by
  unfold next at called
  simp only [Call.mk.injEq] at called
  obtain ⟨found, _, rfl⟩ := called
  exact search_length_lt found

/-- Calls a filter until it ends: all items and everything that is logged. -/
def run (filter : Filter α) : List (Filtered α) × List LogEntry :=
  match _called : filter.next with
  | ⟨none, log, _⟩ => ([], log)
  | ⟨some item, log, rest⟩ =>
      let (items, laterLog) := run rest
      (item :: items, log ++ laterLog)
termination_by filter.records.length
decreasing_by exact next_records_length_lt _called

end Filter

end RecordFilter
