import RecordFilter.Path.Walk

/-!
# The outcomes of a chain

Everything that following a chain through a record can meet, in order from left to right,
makes up a flat list. Scanning the list with a quantifier and a test says which values are
tested before an answer is known.
-/

namespace RecordFilter

/-- Why a hop gave no value and no error. -/
inductive Drop where
  | guardedNull
  | missingMember
  | wrongKind
deriving DecidableEq

/-- What is met at the end of one way through a record. -/
inductive Outcome where
  | reached (value : Value)
  | dropped (cause : Drop)
  | failed (error : EvalError)

namespace Outcome

mutual

/-- The outcomes of looking up a name in an untyped value. -/
def spread (name : String) (visit : Option Value → List Outcome) : Value → List Outcome
  | .list items => spreadItems name visit items
  | value => visit (value.part? name)

def spreadItems (name : String) (visit : Option Value → List Outcome) :
    List Value → List Outcome
  | [] => []
  | item :: rest => spread name visit item ++ spreadItems name visit rest

end

/-- The values that are tested until an answer is known. -/
def tested (quantifier : Quantifier) (test : Value → Bool) : List Outcome → List Value
  | [] => []
  | .reached value :: rest =>
      if quantifier.isSettledBy (test value) then [value]
      else value :: tested quantifier test rest
  | .dropped _ :: rest =>
      if quantifier.isSettledBy false then [] else tested quantifier test rest
  | .failed _ :: _ => []

/-- The answer of a scan: the first error or the first outcome that decides. -/
def scan (quantifier : Quantifier) (test : Value → Bool) :
    List Outcome → Except EvalError Bool
  | [] => .ok quantifier.ofNone
  | .reached value :: rest =>
      if quantifier.isSettledBy (test value) then .ok (test value)
      else scan quantifier test rest
  | .dropped _ :: rest =>
      if quantifier.isSettledBy false then .ok false else scan quantifier test rest
  | .failed error :: _ => .error error

end Outcome

namespace Chain

/-- What a null on the way is met as. -/
def nullOutcome (chain : Chain) (step : Step) : Outcome :=
  if chain.nullGuard then .dropped .guardedNull
  else .failed (.nullReference chain.path step.text)

/-- The outcomes of following steps from a value. -/
def outcomesFrom (chain : Chain) : List Step → Value → List Outcome
  | [], value => [.reached value]
  | .dynamic name :: rest, value =>
      Outcome.spread name
        (fun found =>
          match found with
          | some part => outcomesFrom chain rest part
          | none => [.reached .null])
        value
  | step :: rest, value =>
      if value.isNull then [chain.nullOutcome step]
      else
        match step.hop value with
        | .found next => outcomesFrom chain rest next
        | .items items => items.flatMap fun item => outcomesFrom chain rest item
        | .missingKey key => [.failed (.keyNotFound chain.path key)]
        | .missingMember => [.dropped .missingMember]
        | .wrongKind => [.dropped .wrongKind]

def outcomes (chain : Chain) (record : Value) : List Outcome :=
  chain.outcomesFrom chain.steps record

def testedValues (chain : Chain) (record : Value) (quantifier : Quantifier)
    (test : Value → Bool) : List Value :=
  Outcome.tested quantifier test (chain.outcomes record)

end Chain

end RecordFilter
