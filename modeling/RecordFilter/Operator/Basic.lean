import RecordFilter.Text.Blank
import RecordFilter.Text.Folding

/-!
# Operators

There are twenty built-in operators. Eight of them are the negated forms of others; a
negated operator holds exactly where its positive form fails.
-/

namespace RecordFilter

inductive Arity where
  | none
  | single
  | pair
  /-- One literal or more. -/
  | list
deriving DecidableEq

inductive Operator where
  | equal
  | notEqual
  | oneOf
  | notOneOf
  | less
  | lessOrEqual
  | greater
  | greaterOrEqual
  | between
  | notBetween
  | beginsWith
  | notBeginsWith
  | contains
  | notContains
  | endsWith
  | notEndsWith
  | isEmpty
  | isNotEmpty
  | isNull
  | isNotNull
deriving DecidableEq

namespace Operator

def all : List Operator :=
  [equal, notEqual, oneOf, notOneOf, less, lessOrEqual, greater, greaterOrEqual, between,
    notBetween, beginsWith, notBeginsWith, contains, notContains, endsWith, notEndsWith,
    isEmpty, isNotEmpty, isNull, isNotNull]

def name : Operator → String
  | equal => "equal"
  | notEqual => "not_equal"
  | oneOf => "in"
  | notOneOf => "not_in"
  | less => "less"
  | lessOrEqual => "less_or_equal"
  | greater => "greater"
  | greaterOrEqual => "greater_or_equal"
  | between => "between"
  | notBetween => "not_between"
  | beginsWith => "begins_with"
  | notBeginsWith => "not_begins_with"
  | contains => "contains"
  | notContains => "not_contains"
  | endsWith => "ends_with"
  | notEndsWith => "not_ends_with"
  | isEmpty => "is_empty"
  | isNotEmpty => "is_not_empty"
  | isNull => "is_null"
  | isNotNull => "is_not_null"

/-- The operator with a name; blanks around the name and ASCII case do not matter. -/
def ofName? (name : String) : Option Operator :=
  all.find? fun operator => Text.equalIgnoringCase operator.name (Text.trim name)

def read (name : String) : Except String Operator :=
  match ofName? name with
  | some operator => .ok operator
  | none => .error ("unknown operator '" ++ name ++ "'")

def arity : Operator → Arity
  | isEmpty | isNotEmpty | isNull | isNotNull => .none
  | between | notBetween => .pair
  | oneOf | notOneOf => .list
  | _ => .single

/-- Whether the operator is the negated form of another. Through a collection a negated
operator has to hold for every element, any other for at least one. -/
def isNegated : Operator → Bool
  | notEqual | notOneOf | notBetween | notBeginsWith | notContains | notEndsWith | isNotEmpty
  | isNotNull => true
  | _ => false

/-- The operator that a negated one negates; other operators are their own. -/
def positive : Operator → Operator
  | notEqual => equal
  | notOneOf => oneOf
  | notBetween => between
  | notBeginsWith => beginsWith
  | notContains => contains
  | notEndsWith => endsWith
  | isNotEmpty => isEmpty
  | isNotNull => isNull
  | other => other

/-- Whether the operator needs an ordered type. -/
def needsOrder : Operator → Bool
  | less | lessOrEqual | greater | greaterOrEqual | between | notBetween => true
  | _ => false

/-- Whether the operator looks for a text at the start, at the end or inside. -/
def isTextMatch (operator : Operator) : Bool :=
  match operator.positive with
  | beginsWith | contains | endsWith => true
  | _ => false

/-- Whether the operator tests the field as a whole and takes no literal. -/
def isPresenceTest (operator : Operator) : Bool :=
  operator.arity = .none

theorem positive_positive (operator : Operator) :
    operator.positive.positive = operator.positive := by
  cases operator <;> rfl

theorem isNegated_positive (operator : Operator) :
    operator.positive.isNegated = false := by
  cases operator <;> rfl

theorem arity_positive (operator : Operator) :
    operator.positive.arity = operator.arity := by
  cases operator <;> rfl

end Operator

end RecordFilter
