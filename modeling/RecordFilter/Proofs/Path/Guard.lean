import RecordFilter.Proofs.Path.Scan

/-!
# Guarding nulls

Two chains that differ in their null guard only meet the same outcomes, except that the
guarded chain drops a hop where the other one fails with a null reference. So their scans can
be compared: the guarded scan repeats every answer and every missing key of the other, and is
free only where the other fails at a null.
-/

namespace RecordFilter

/-- The error does not come from a null on the way. -/
def IsNullFree {α : Type} (answer : Except EvalError α) : Prop :=
  ∀ path segment, answer ≠ .error (.nullReference path segment)

/-- The answers of two evaluations of which the second guards nulls. -/
inductive Guards {α : Type} : Except EvalError α → Except EvalError α → Prop where
  | same {answer : Except EvalError α} (nullFree : IsNullFree answer) : Guards answer answer
  | atNull (path segment : String) {answer : Except EvalError α} (nullFree : IsNullFree answer) :
      Guards (.error (.nullReference path segment)) answer

namespace Guards

variable {α β : Type} {unguarded guarded : Except EvalError α}

theorem ok (value : α) : Guards (.ok value) (.ok value) :=
  .same fun _ _ impossible => by cases impossible

theorem nullFree (guards : Guards unguarded guarded) : IsNullFree guarded := by
  cases guards with
  | same nullFree => exact nullFree
  | atNull _ _ nullFree => exact nullFree

/-- Every answer that is no null reference is repeated. -/
theorem eq_of_nullFree (guards : Guards unguarded guarded) (nullFree : IsNullFree unguarded) :
    guarded = unguarded := by
  cases guards with
  | same _ => rfl
  | atNull path segment _ => exact absurd rfl (nullFree path segment)

/-- Evaluations that go on alike after guarded answers stay guarded. -/
theorem bind {next guardedNext : α → Except EvalError β} (guards : Guards unguarded guarded)
    (further : ∀ value, Guards (next value) (guardedNext value)) :
    Guards (unguarded >>= next) (guarded >>= guardedNext) := by
  cases guards with
  | same nullFree =>
      cases unguarded with
      | ok value => exact further value
      | error error =>
          refine .same fun path segment failed => nullFree path segment ?_
          cases failed
          rfl
  | atNull path segment nullFree =>
      refine .atNull path segment ?_
      cases guarded with
      | ok value => exact (further value).nullFree
      | error error =>
          intro path segment failed
          cases failed
          exact nullFree path segment rfl

end Guards

namespace Outcome

/-- What an outcome becomes when nulls are guarded. -/
def guarded : Outcome → Outcome
  | failed (.nullReference _ _) => dropped .guardedNull
  | other => other

theorem guarded_reached (value : Value) : (reached value).guarded = reached value := rfl

theorem guarded_dropped (cause : Drop) : (dropped cause).guarded = dropped cause := rfl

theorem guarded_nullReference (path segment : String) :
    (failed (.nullReference path segment)).guarded = dropped .guardedNull := rfl

variable {quantifier : Quantifier} {test : Value → Bool}

theorem guards_scan (outcomes : List Outcome) :
    Guards (scan quantifier test outcomes) (scan quantifier test (outcomes.map guarded)) := by
  induction outcomes with
  | nil => exact .ok _
  | cons outcome rest inductionHypothesis =>
      cases outcome with
      | reached value =>
          rw [List.map_cons, guarded_reached, scan, scan]
          by_cases settled : quantifier.isSettledBy (test value) = true
          · rw [if_pos settled, if_pos settled]
            exact .ok _
          · rw [if_neg settled, if_neg settled]
            exact inductionHypothesis
      | dropped cause =>
          rw [List.map_cons, guarded_dropped, scan, scan]
          by_cases settled : quantifier.isSettledBy false = true
          · rw [if_pos settled, if_pos settled]
            exact .ok _
          · rw [if_neg settled, if_neg settled]
            exact inductionHypothesis
      | failed error =>
          cases error with
          | keyNotFound path key => exact .same fun _ _ impossible => by cases impossible
          | nullReference path segment =>
              refine .atNull path segment ?_
              rw [List.map_cons, guarded_nullReference, scan]
              by_cases settled : quantifier.isSettledBy false = true
              · rw [if_pos settled]
                exact (Guards.ok false).nullFree
              · rw [if_neg settled]
                exact inductionHypothesis.nullFree

section Spread

variable {visit : Option Value → List Outcome} (name : String) (change : Outcome → Outcome)

mutual

theorem map_spread :
    ∀ value : Value,
      (spread name visit value).map change =
        spread name (fun found => (visit found).map change) value
  | .list items => by
      rw [spread, spread]
      exact map_spreadItems items
  | .null | .bool _ | .int _ | .double _ | .text _ | .dateTime _ | .guid _ | .enum _ _
  | .map _ | .intMap _ | .object _ _ => rfl

theorem map_spreadItems :
    ∀ items : List Value,
      (spreadItems name visit items).map change =
        spreadItems name (fun found => (visit found).map change) items
  | [] => rfl
  | item :: rest => by
      rw [spreadItems, spreadItems, List.map_append, map_spread item, map_spreadItems rest]

end

end Spread

end Outcome

namespace Chain

/-- The chain with nulls guarded or not. -/
def withGuard (nullGuard : Bool) (chain : Chain) : Chain :=
  { chain with nullGuard := nullGuard }

variable (chain : Chain)

theorem nullOutcome_withGuard (step : Step) :
    (chain.withGuard true).nullOutcome step =
      ((chain.withGuard false).nullOutcome step).guarded := rfl

/-- The guarded chain meets the guarded outcomes. The induction is on the steps; a list hop
hands the remaining steps to each item. -/
theorem outcomesFrom_withGuard (steps : List Step) :
    ∀ value : Value,
      (chain.withGuard true).outcomesFrom steps value =
        ((chain.withGuard false).outcomesFrom steps value).map Outcome.guarded := by
  induction steps with
  | nil => exact fun value => rfl
  | cons step rest inductionHypothesis =>
      intro value
      by_cases typed : step.isDynamic = false
      · rw [outcomesFrom_typed _ typed, outcomesFrom_typed _ typed]
        by_cases null : value.isNull = true
        · rw [if_pos null, if_pos null, nullOutcome_withGuard]
          rfl
        · rw [if_neg null, if_neg null]
          cases step.hop value with
          | found next => exact inductionHypothesis next
          | items items =>
              simp only [List.map_flatMap, inductionHypothesis]
          | missingKey key => rfl
          | missingMember => rfl
          | wrongKind => rfl
      · cases step with
        | dynamic name =>
            rw [outcomesFrom, outcomesFrom, Outcome.map_spread]
            congr 1
            funext found
            cases found with
            | some part => exact inductionHypothesis part
            | none => rfl
        | member _ | key _ | index _ | each => exact absurd rfl typed

theorem guards_visit (record : Value) (quantifier : Quantifier) (test : Value → Bool) :
    Guards ((chain.withGuard false).visit record quantifier test)
      ((chain.withGuard true).visit record quantifier test) := by
  have outcomes : (chain.withGuard true).outcomes record =
      ((chain.withGuard false).outcomes record).map Outcome.guarded :=
    chain.outcomesFrom_withGuard chain.steps record
  rw [visit_eq_scan, visit_eq_scan, outcomes]
  exact Outcome.guards_scan _

end Chain

end RecordFilter
