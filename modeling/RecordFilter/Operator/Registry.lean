import RecordFilter.Literal.Basic
import RecordFilter.Operator.Basic
import RecordFilter.Record.Value

/-!
# Custom operators

Callers may add operators of their own. A name is looked up among the custom operators
first, the last one registered first of all, and then among the built-in ones.
-/

namespace RecordFilter

/-- An operator supplied by a caller. Its literals are read like those of built-in
operators before it sees them. -/
structure CustomOperator where
  name : String
  arity : Arity
  /-- Whether the operator has to hold for every element of a collection. -/
  isNegated : Bool
  test : Value → List Literal → Bool

/-- What the name of an operator stands for. -/
inductive ResolvedOperator where
  | builtin (operator : Operator)
  | custom (operator : CustomOperator)

namespace ResolvedOperator

def name : ResolvedOperator → String
  | builtin operator => operator.name
  | custom operator => operator.name

def arity : ResolvedOperator → Arity
  | builtin operator => operator.arity
  | custom operator => operator.arity

def isNegated : ResolvedOperator → Bool
  | builtin operator => operator.isNegated
  | custom operator => operator.isNegated

end ResolvedOperator

namespace CustomOperator

/-- Whether a name in a rule means this operator. -/
def answersTo (operator : CustomOperator) (name : String) : Bool :=
  Text.equalIgnoringCase operator.name (Text.trim name)

end CustomOperator

/-- What a name stands for, given the custom operators in the order of registration. -/
def resolveOperator? (custom : List CustomOperator) (name : String) :
    Option ResolvedOperator :=
  match custom.reverse.find? fun operator => operator.answersTo name with
  | some operator => some (.custom operator)
  | none => (Operator.ofName? name).map .builtin

end RecordFilter
