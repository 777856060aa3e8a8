import RecordFilter.Operator.Registry
import RecordFilter.Proofs.Text.Blank

/-!
# Operators by name and in pairs

Sixteen of the operators form eight pairs of an operator and its negated form; the two differ
in nothing but the negation. Without custom operators a name means a built-in operator or
nothing.
-/

namespace RecordFilter

namespace Operator

theorem ofName?_name (operator : Operator) : ofName? operator.name = some operator := by
  cases operator <;> decide +kernel

theorem ofName?_trim (name : String) : ofName? (Text.trim name) = ofName? name := by
  unfold ofName?
  rw [Text.trim_trim]

/-- A rule that gives the name of an operator means it. -/
theorem ofName?_trim_name (operator : Operator) :
    ofName? (Text.trim operator.name) = some operator :=
  (ofName?_trim operator.name).trans operator.ofName?_name

theorem isPresenceTest_positive (operator : Operator) :
    operator.positive.isPresenceTest = operator.isPresenceTest := by
  unfold isPresenceTest
  rw [arity_positive]

/-- The other operator of a pair; the four orderings belong to no pair and stay. -/
def partner : Operator → Operator
  | equal => notEqual
  | notEqual => equal
  | oneOf => notOneOf
  | notOneOf => oneOf
  | between => notBetween
  | notBetween => between
  | beginsWith => notBeginsWith
  | notBeginsWith => beginsWith
  | contains => notContains
  | notContains => contains
  | endsWith => notEndsWith
  | notEndsWith => endsWith
  | isEmpty => isNotEmpty
  | isNotEmpty => isEmpty
  | isNull => isNotNull
  | isNotNull => isNull
  | less => less
  | lessOrEqual => lessOrEqual
  | greater => greater
  | greaterOrEqual => greaterOrEqual

def isPaired (operator : Operator) : Bool :=
  operator.partner ≠ operator

variable {operator : Operator}

@[simp]
theorem partner_partner : operator.partner.partner = operator := by
  cases operator <;> rfl

@[simp]
theorem isPaired_partner : operator.partner.isPaired = operator.isPaired := by
  cases operator <;> rfl

@[simp]
theorem positive_partner : operator.partner.positive = operator.positive := by
  cases operator <;> rfl

@[simp]
theorem arity_partner : operator.partner.arity = operator.arity := by
  cases operator <;> rfl

@[simp]
theorem needsOrder_partner : operator.partner.needsOrder = operator.needsOrder := by
  cases operator <;> rfl

@[simp]
theorem isTextMatch_partner : operator.partner.isTextMatch = operator.isTextMatch := by
  cases operator <;> rfl

@[simp]
theorem isPresenceTest_partner : operator.partner.isPresenceTest = operator.isPresenceTest := by
  cases operator <;> rfl

theorem isNegated_partner (paired : operator.isPaired = true) :
    operator.partner.isNegated = !operator.isNegated := by
  cases operator with
  | less | lessOrEqual | greater | greaterOrEqual => cases paired
  | _ => rfl

/-- The name of the partner of a named operator; other names stay. -/
def partnerName (name : String) : String :=
  match ofName? name with
  | some operator => operator.partner.name
  | none => name

end Operator

theorem resolveOperator?_nil (name : String) :
    resolveOperator? [] name = (Operator.ofName? name).map .builtin := rfl

end RecordFilter
