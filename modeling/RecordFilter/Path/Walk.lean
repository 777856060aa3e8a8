import RecordFilter.Error
import RecordFilter.Path.Chain
import RecordFilter.Record.Value

/-!
# Walking a record

A chain is followed from a record to the values at its end, which are tested. Lists are gone
through item by item, and the walk ends as soon as an item decides. An untyped value is
looked into when it is met: what it does not have reads as null, and a list in it is gone
through without using up the step.
-/

namespace RecordFilter

/-- What an untyped value has under a name. -/
def Value.part? (name : String) : Value → Option Value
  | .object members indexed => (members.lookup name).or (indexed.lookup name)
  | value => value.entry? name

/-- What a step that is not dynamic finds in a value. -/
inductive Hop where
  | found (value : Value)
  | items (values : List Value)
  /-- The record does not have the member. -/
  | missingMember
  /-- The map or the indexer does not have the key. -/
  | missingKey (key : String)
  /-- The step does not apply to values of this kind. -/
  | wrongKind

def Hop.ofEntry (key : String) : Option Value → Hop
  | some value => found value
  | none => missingKey key

/-- Takes a step that is not dynamic. -/
def Step.hop : Step → Value → Hop
  | .each, .list items => .items items
  | .member name, .object members _ =>
      match members.lookup name with
      | some value => .found value
      | none => .missingMember
  | .key name, .map entries => .ofEntry name (entries.lookup name)
  | .key name, .intMap entries => .ofEntry name (Value.lookupInt entries name)
  | .index name, .object _ indexed => .ofEntry name (indexed.lookup name)
  | _, _ => .wrongKind

namespace Quantifier

/-- Visits items until one decides. -/
def visitItems {α : Type} (quantifier : Quantifier) (visit : α → Except EvalError Bool) :
    List α → Except EvalError Bool
  | [] => .ok quantifier.ofNone
  | item :: rest => do
      let passed ← visit item
      if quantifier.isSettledBy passed then return passed
      visitItems quantifier visit rest

mutual

/-- Looks up a name in an untyped value and goes on from what it finds; a list is gone
through, down to its innermost items. -/
def spread (quantifier : Quantifier) (name : String)
    (visit : Option Value → Except EvalError Bool) : Value → Except EvalError Bool
  | .list items => spreadItems quantifier name visit items
  | value => visit (value.part? name)

def spreadItems (quantifier : Quantifier) (name : String)
    (visit : Option Value → Except EvalError Bool) : List Value → Except EvalError Bool
  | [] => .ok quantifier.ofNone
  | item :: rest => do
      let passed ← spread quantifier name visit item
      if quantifier.isSettledBy passed then return passed
      spreadItems quantifier name visit rest

end

end Quantifier

namespace Chain

/-- What a null on the way gives. -/
def atNull (chain : Chain) (step : Step) : Except EvalError Bool :=
  if chain.nullGuard then .ok false else .error (.nullReference chain.path step.text)

/-- Follows steps from a value and tests what they reach. -/
def walk (chain : Chain) (quantifier : Quantifier) (test : Value → Bool) :
    List Step → Value → Except EvalError Bool
  | [], value => .ok (test value)
  | .dynamic name :: rest, value =>
      quantifier.spread name
        (fun found =>
          match found with
          | some part => walk chain quantifier test rest part
          | none => .ok (test .null))
        value
  | step :: rest, value =>
      if value.isNull then chain.atNull step
      else
        match step.hop value with
        | .found next => walk chain quantifier test rest next
        | .items items =>
            quantifier.visitItems (fun item => walk chain quantifier test rest item) items
        | .missingKey key => .error (.keyNotFound chain.path key)
        | .missingMember => .ok false
        | .wrongKind => .ok false

/-- Follows the chain from a record and tests the values at its end. -/
def visit (chain : Chain) (record : Value) (quantifier : Quantifier)
    (test : Value → Bool) : Except EvalError Bool :=
  chain.walk quantifier test chain.steps record

end Chain

end RecordFilter
