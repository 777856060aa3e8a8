import RecordFilter.Path.Outcome

/-!
# Walking is scanning

Following a chain and testing what it reaches gives the result of scanning the flat list of
outcomes: every hop over a list scans the outcomes of its items one after the other, and a
scan stops at the first outcome that decides or errs.
-/

namespace RecordFilter

namespace Quantifier

@[simp]
theorem isSettledBy_ofNone (quantifier : Quantifier) :
    quantifier.isSettledBy quantifier.ofNone = false := by
  simp [isSettledBy]

theorem isSettledBy_eq_false_iff {quantifier : Quantifier} {passed : Bool} :
    quantifier.isSettledBy passed = false ↔ passed = quantifier.ofNone := by
  simp [isSettledBy]

/-- Goes on after an answer unless it decides. -/
def orElse (quantifier : Quantifier) (answer rest : Except EvalError Bool) :
    Except EvalError Bool :=
  answer.bind fun passed => if quantifier.isSettledBy passed then .ok passed else rest

@[simp]
theorem orElse_error (quantifier : Quantifier) (error : EvalError)
    (rest : Except EvalError Bool) :
    quantifier.orElse (.error error) rest = .error error := rfl

theorem orElse_ok (quantifier : Quantifier) (passed : Bool) (rest : Except EvalError Bool) :
    quantifier.orElse (.ok passed) rest =
      if quantifier.isSettledBy passed then .ok passed else rest := rfl

theorem visitItems_cons {α : Type} (quantifier : Quantifier)
    (visit : α → Except EvalError Bool) (item : α) (rest : List α) :
    quantifier.visitItems visit (item :: rest) =
      quantifier.orElse (visit item) (quantifier.visitItems visit rest) := rfl

theorem spreadItems_cons (quantifier : Quantifier) (name : String)
    (visit : Option Value → Except EvalError Bool) (item : Value) (rest : List Value) :
    quantifier.spreadItems name visit (item :: rest) =
      quantifier.orElse (quantifier.spread name visit item)
        (quantifier.spreadItems name visit rest) := by
  rw [spreadItems]
  rfl

end Quantifier

namespace Outcome

variable {quantifier : Quantifier} {test : Value → Bool}

@[simp]
theorem scan_nil : scan quantifier test [] = .ok quantifier.ofNone := rfl

/-- The outcomes of a list hop are scanned one part after the other. -/
theorem scan_append (first second : List Outcome) :
    scan quantifier test (first ++ second) =
      quantifier.orElse (scan quantifier test first) (scan quantifier test second) := by
  induction first with
  | nil => simp [Quantifier.orElse_ok]
  | cons outcome rest inductionHypothesis =>
      cases outcome with
      | reached value =>
          by_cases settled : quantifier.isSettledBy (test value) = true
          · simp [scan, settled, Quantifier.orElse_ok]
          · simp [scan, settled, inductionHypothesis]
      | dropped cause =>
          by_cases settled : quantifier.isSettledBy false = true
          · simp [scan, settled, Quantifier.orElse_ok]
          · simp [scan, settled, inductionHypothesis]
      | failed error => rfl

theorem scan_reached (value : Value) :
    scan quantifier test [.reached value] = .ok (test value) := by
  by_cases settled : quantifier.isSettledBy (test value) = true
  · simp [scan, settled]
  · rw [Bool.not_eq_true, Quantifier.isSettledBy_eq_false_iff] at settled
    simp [scan, settled]

theorem scan_dropped (cause : Drop) :
    scan quantifier test [.dropped cause] = .ok false := by
  by_cases settled : quantifier.isSettledBy false = true
  · simp [scan, settled]
  · rw [Bool.not_eq_true, Quantifier.isSettledBy_eq_false_iff] at settled
    simp [scan, settled, Quantifier.isSettledBy]

theorem scan_failed (error : EvalError) :
    scan quantifier test [.failed error] = .error error := rfl

/-- Visiting items is scanning what each of them leads to. -/
theorem visitItems_eq_scan {α : Type} {visit : α → Except EvalError Bool}
    {outcomes : α → List Outcome} {items : List α}
    (agree : ∀ item ∈ items, visit item = scan quantifier test (outcomes item)) :
    quantifier.visitItems visit items = scan quantifier test (items.flatMap outcomes) := by
  induction items with
  | nil => rfl
  | cons item rest inductionHypothesis =>
      have restAgree : ∀ other ∈ rest, visit other = scan quantifier test (outcomes other) :=
        fun other member => agree other (List.mem_cons_of_mem item member)
      rw [Quantifier.visitItems_cons, List.flatMap_cons, scan_append,
        agree item List.mem_cons_self, inductionHypothesis restAgree]

section Spread

variable {visit : Option Value → Except EvalError Bool}
  {outcomes : Option Value → List Outcome} (name : String)

mutual

theorem spread_eq_scan
    (agree : ∀ found, visit found = scan quantifier test (outcomes found)) :
    ∀ value : Value,
      quantifier.spread name visit value = scan quantifier test (spread name outcomes value)
  | .list items => by
      rw [Quantifier.spread, spread]
      exact spreadItems_eq_scan agree items
  | .null | .bool _ | .int _ | .double _ | .text _ | .dateTime _ | .guid _ | .enum _ _
  | .map _ | .intMap _ | .object _ _ => agree _

theorem spreadItems_eq_scan
    (agree : ∀ found, visit found = scan quantifier test (outcomes found)) :
    ∀ items : List Value,
      quantifier.spreadItems name visit items =
        scan quantifier test (spreadItems name outcomes items)
  | [] => rfl
  | item :: rest => by
      rw [Quantifier.spreadItems_cons, spreadItems, scan_append,
        spread_eq_scan agree item, spreadItems_eq_scan agree rest]

end

end Spread

end Outcome

namespace Step

def isDynamic : Step → Bool
  | dynamic _ => true
  | _ => false

end Step

namespace Chain

variable (chain : Chain) {step : Step} {rest : List Step} {value : Value}

theorem walk_typed (quantifier : Quantifier) (test : Value → Bool)
    (typed : step.isDynamic = false) :
    chain.walk quantifier test (step :: rest) value =
      if value.isNull then chain.atNull step
      else
        match step.hop value with
        | .found next => chain.walk quantifier test rest next
        | .items items =>
            quantifier.visitItems (fun item => chain.walk quantifier test rest item) items
        | .missingKey key => .error (.keyNotFound chain.path key)
        | .missingMember => .ok false
        | .wrongKind => .ok false := by
  cases step with
  | dynamic name => cases typed
  | member name => rfl
  | key name => rfl
  | index name => rfl
  | each => rfl

theorem outcomesFrom_typed (typed : step.isDynamic = false) :
    chain.outcomesFrom (step :: rest) value =
      if value.isNull then [chain.nullOutcome step]
      else
        match step.hop value with
        | .found next => chain.outcomesFrom rest next
        | .items items => items.flatMap fun item => chain.outcomesFrom rest item
        | .missingKey key => [.failed (.keyNotFound chain.path key)]
        | .missingMember => [.dropped .missingMember]
        | .wrongKind => [.dropped .wrongKind] := by
  cases step with
  | dynamic name => cases typed
  | member name => rfl
  | key name => rfl
  | index name => rfl
  | each => rfl

theorem atNull_eq_scan {quantifier : Quantifier} {test : Value → Bool} (step : Step) :
    chain.atNull step = Outcome.scan quantifier test [chain.nullOutcome step] := by
  unfold atNull nullOutcome
  by_cases guarded : chain.nullGuard = true
  · rw [if_pos guarded, if_pos guarded, Outcome.scan_dropped]
  · rw [if_neg guarded, if_neg guarded, Outcome.scan_failed]

/-- Following steps and testing what they reach is scanning their outcomes. The induction is
on the steps; a list hop hands the remaining steps to each item. -/
theorem walk_eq_scan (quantifier : Quantifier) (test : Value → Bool) (steps : List Step) :
    ∀ value : Value,
      chain.walk quantifier test steps value =
        Outcome.scan quantifier test (chain.outcomesFrom steps value) := by
  induction steps with
  | nil => exact fun value => (Outcome.scan_reached value).symm
  | cons step rest inductionHypothesis =>
      intro value
      by_cases typed : step.isDynamic = false
      · rw [walk_typed chain quantifier test typed, outcomesFrom_typed chain typed]
        by_cases null : value.isNull = true
        · rw [if_pos null, if_pos null, atNull_eq_scan]
        · rw [if_neg null, if_neg null]
          cases step.hop value with
          | found next => exact inductionHypothesis next
          | items items =>
              exact Outcome.visitItems_eq_scan fun item _ => inductionHypothesis item
          | missingKey key => rw [Outcome.scan_failed]
          | missingMember => rw [Outcome.scan_dropped]
          | wrongKind => rw [Outcome.scan_dropped]
      · cases step with
        | dynamic name =>
            apply Outcome.spread_eq_scan
            intro found
            cases found with
            | some part => exact inductionHypothesis part
            | none => exact (Outcome.scan_reached .null).symm
        | member _ | key _ | index _ | each => exact absurd rfl typed

theorem visit_eq_scan (record : Value) (quantifier : Quantifier) (test : Value → Bool) :
    chain.visit record quantifier test =
      Outcome.scan quantifier test (chain.outcomes record) :=
  chain.walk_eq_scan quantifier test chain.steps record

/-- What is met depends on the path and the null guard of the chain, not on the type at its
end. -/
theorem outcomesFrom_congr {other : Chain} (path : other.path = chain.path)
    (guard : other.nullGuard = chain.nullGuard) (steps : List Step) :
    ∀ value : Value, other.outcomesFrom steps value = chain.outcomesFrom steps value := by
  have null (step : Step) : other.nullOutcome step = chain.nullOutcome step := by
    unfold nullOutcome
    rw [path, guard]
  induction steps with
  | nil => exact fun value => rfl
  | cons step rest inductionHypothesis =>
      intro value
      by_cases typed : step.isDynamic = false
      · rw [outcomesFrom_typed chain typed, outcomesFrom_typed other typed]
        simp only [inductionHypothesis, null, path]
      · cases step with
        | dynamic name => simp only [outcomesFrom, inductionHypothesis]
        | member _ | key _ | index _ | each => exact absurd rfl typed

end Chain

/-! ## The first outcome that decides -/

namespace Outcome

/-- What an outcome decides when one passing value is enough: dropped hops and failing values
leave it open. -/
def decidesAny? (test : Value → Bool) : Outcome → Option (Except EvalError Bool)
  | reached value => if test value then some (.ok true) else none
  | dropped _ => none
  | failed error => some (.error error)

/-- What an outcome decides when every value has to pass: a dropped hop counts as a failing
value. -/
def decidesAll? (test : Value → Bool) : Outcome → Option (Except EvalError Bool)
  | reached value => if test value then none else some (.ok false)
  | dropped _ => some (.ok false)
  | failed error => some (.error error)

variable {quantifier : Quantifier} {test : Value → Bool}

/-- A step-by-step decision makes a scan a search for the first outcome that decides. -/
theorem scan_eq_findSome? {decides? : Outcome → Option (Except EvalError Bool)}
    (step : ∀ outcome rest,
      scan quantifier test (outcome :: rest) =
        (decides? outcome).getD (scan quantifier test rest))
    (outcomes : List Outcome) :
    scan quantifier test outcomes =
      (outcomes.findSome? decides?).getD (.ok quantifier.ofNone) := by
  induction outcomes with
  | nil => rfl
  | cons outcome rest inductionHypothesis =>
      rw [step, List.findSome?_cons]
      cases decides? outcome with
      | none => exact inductionHypothesis
      | some answer => rfl

theorem scan_any_cons (outcome : Outcome) (rest : List Outcome) :
    scan .any test (outcome :: rest) =
      (decidesAny? test outcome).getD (scan .any test rest) := by
  cases outcome with
  | reached value =>
      cases passed : test value with
      | true => simp [scan, decidesAny?, passed, Quantifier.isSettledBy, Quantifier.ofNone]
      | false => simp [scan, decidesAny?, passed, Quantifier.isSettledBy, Quantifier.ofNone]
  | dropped cause => rfl
  | failed error => rfl

theorem scan_all_cons (outcome : Outcome) (rest : List Outcome) :
    scan .all test (outcome :: rest) =
      (decidesAll? test outcome).getD (scan .all test rest) := by
  cases outcome with
  | reached value =>
      cases passed : test value with
      | true => simp [scan, decidesAll?, passed, Quantifier.isSettledBy, Quantifier.ofNone]
      | false => simp [scan, decidesAll?, passed, Quantifier.isSettledBy, Quantifier.ofNone]
  | dropped cause => rfl
  | failed error => rfl

end Outcome

/-- A visit is decided by the first outcome in the flat list that decides. With `any` that is
an error or a passing value, and without one the answer is no; with `all` it is an error, a
dropped hop or a failing value, and without one the answer is yes. -/
theorem visit_decided_by_first (chain : Chain) (record : Value) (test : Value → Bool) :
    chain.visit record .any test =
        ((chain.outcomes record).findSome? (Outcome.decidesAny? test)).getD (.ok false) ∧
      chain.visit record .all test =
        ((chain.outcomes record).findSome? (Outcome.decidesAll? test)).getD (.ok true) := by
  constructor
  · rw [chain.visit_eq_scan]
    exact Outcome.scan_eq_findSome? Outcome.scan_any_cons _
  · rw [chain.visit_eq_scan]
    exact Outcome.scan_eq_findSome? Outcome.scan_all_cons _

end RecordFilter
