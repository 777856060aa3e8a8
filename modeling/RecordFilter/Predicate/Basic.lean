import RecordFilter.Path.Outcome
import RecordFilter.Predicate.Check

/-!
# Predicates

A predicate is a tree of compiled leaves. Groups are evaluated from left to right and stop
at the first child that decides or errs.
-/

namespace RecordFilter

/-- A compiled leaf: where to read, how to quantify, what to test. -/
structure Leaf where
  chain : Chain
  quantifier : Quantifier
  check : Check

namespace Leaf

def evaluate (leaf : Leaf) (record : Value) : Except EvalError Bool :=
  leaf.chain.visit record leaf.quantifier leaf.check.test

def testedValues (leaf : Leaf) (record : Value) : List Value :=
  leaf.chain.testedValues record leaf.quantifier leaf.check.test

end Leaf

inductive Predicate where
  | always
  | allOf (children : List Predicate)
  | anyOf (children : List Predicate)
  | negation (inner : Predicate)
  | leaf (compiled : Leaf)

namespace Predicate

/-! ## Combining -/

/-- Both predicates, the first one first. -/
def and (first second : Predicate) : Predicate :=
  allOf [first, second]

/-- Either predicate, the first one first. -/
def or (first second : Predicate) : Predicate :=
  anyOf [first, second]

def not (predicate : Predicate) : Predicate :=
  negation predicate

/-- Whether the predicate passes every record without reading it. -/
def isAlways : Predicate → Bool
  | always => true
  | _ => false

/-! ## Evaluating -/

mutual

def evaluate (record : Value) : Predicate → Except EvalError Bool
  | always => .ok true
  | allOf children => evaluateAll record children
  | anyOf children => evaluateAny record children
  | negation inner => do
      let passed ← evaluate record inner
      return !passed
  | leaf compiled => compiled.evaluate record

def evaluateAll (record : Value) : List Predicate → Except EvalError Bool
  | [] => .ok true
  | child :: rest => do
      let passed ← evaluate record child
      if passed then evaluateAll record rest else return false

def evaluateAny (record : Value) : List Predicate → Except EvalError Bool
  | [] => .ok false
  | child :: rest => do
      let passed ← evaluate record child
      if passed then return true else evaluateAny record rest

end

/-! ## What is tested -/

/-- Whether an answer for a child lets a group go on to its next child. -/
def goesOn (wanted : Bool) (answer : Except EvalError Bool) : Bool :=
  match answer with
  | .ok passed => passed == wanted
  | .error _ => false

mutual

/-- The tests that an evaluation makes, in order: each leaf with the value it tests. -/
def tests (record : Value) : Predicate → List (Leaf × Value)
  | always => []
  | allOf children => testsWhile true record children
  | anyOf children => testsWhile false record children
  | negation inner => tests record inner
  | leaf compiled => (compiled.testedValues record).map fun value => (compiled, value)

def testsWhile (wanted : Bool) (record : Value) : List Predicate → List (Leaf × Value)
  | [] => []
  | child :: rest =>
      tests record child ++
        if goesOn wanted (evaluate record child) then testsWhile wanted record rest else []

end

end Predicate

end RecordFilter
