import RecordFilter.Log.Entry

/-!
# Scopes

A scope logs the beginning and the end of a unit of work with the same fields. A scope that
ends neither completed nor failed leaves a warning.
-/

namespace RecordFilter

/-- A unit of work that is being logged. -/
structure Scope where
  fields : List (String × String)
  isCompleted : Bool
deriving DecidableEq

namespace Scope

/-- Opens a scope: the scope and the entry for its beginning. -/
def begin (event : Event) (fields : List (String × String)) : Scope × LogEntry :=
  (⟨fields, false⟩, ⟨.trace, event.name, fields⟩)

/-- The entry of a completed scope, with the microseconds it took. -/
def complete (scope : Scope) (event : Event) (elapsed : String) : Scope × LogEntry :=
  ({ scope with isCompleted := true },
    ⟨.trace, event.name, scope.fields ++ [("elapsed_us", elapsed)]⟩)

/-- The entry of a failed scope, with the reason. -/
def fail (scope : Scope) (event : Event) (reason : String) : Scope × LogEntry :=
  ({ scope with isCompleted := true },
    ⟨.info, event.name, scope.fields ++ [("reason", reason)]⟩)

/-- What is logged when a scope ends: nothing once it is completed, otherwise a warning. -/
def close (scope : Scope) : List LogEntry :=
  if scope.isCompleted then []
  else
    [⟨.warn, "OBSERVATION_SCOPE_INCOMPLETE",
      scope.fields ++ [("reason", "scope dropped without completion")]⟩]

end Scope

end RecordFilter
