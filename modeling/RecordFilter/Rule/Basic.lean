import RecordFilter.Json.Basic
import RecordFilter.Text.Blank
import RecordFilter.Text.Folding

/-!
# Rules

A rule is a node of the filter tree. A node with child rules is a group that joins them with
AND or OR. A node without children is a leaf that tests a field, or, if it names no field, a
vacuous rule that every record passes.
-/

namespace RecordFilter

/-- How the children of a group are joined. -/
inductive Condition where
  | and
  | or
deriving DecidableEq

namespace Condition

def name : Condition → String
  | and => "AND"
  | or => "OR"

/-- Reads a condition; blanks around it and ASCII case do not matter. -/
def read (text : String) : Except String Condition :=
  let word := Text.lowerAscii (Text.trim text)
  if word = "and" then .ok and
  else if word = "or" then .ok or
  else .error ("unknown condition '" ++ word ++ "', expected AND or OR")

end Condition

/-- One node of the filter tree. -/
structure Rule where
  condition : Condition
  field : Option String
  typeTag : Option String
  operator : Option String
  /-- The literal, or several in an array or a delimited text. -/
  value : Option Json
  rules : List Rule

namespace Rule

/-- A rule that says nothing. -/
def empty : Rule :=
  ⟨.and, none, none, none, none, []⟩

/-- A leaf without declared type and literal. -/
def test (field operator : String) : Rule :=
  { empty with field := some field, operator := some operator }

def withType (rule : Rule) (tag : String) : Rule :=
  { rule with typeTag := some tag }

def withValue (rule : Rule) (value : Json) : Rule :=
  { rule with value := some value }

/-- A leaf with a declared type and a literal. -/
def leaf (field operator tag : String) (value : Json) : Rule :=
  ((test field operator).withType tag).withValue value

def group (condition : Condition) (rules : List Rule) : Rule :=
  { empty with condition := condition, rules := rules }

def allOf (rules : List Rule) : Rule :=
  group .and rules

def anyOf (rules : List Rule) : Rule :=
  group .or rules

def isGroup (rule : Rule) : Bool :=
  !rule.rules.isEmpty

/-- The trimmed path of the field, empty when there is none. -/
def fieldPath (rule : Rule) : String :=
  (rule.field.map Text.trim).getD ""

/-- The trimmed name of the operator, empty when there is none. -/
def operatorName (rule : Rule) : String :=
  (rule.operator.map Text.trim).getD ""

/-- Whether the rule has neither children nor a field. -/
def isVacuous (rule : Rule) : Bool :=
  rule.rules.isEmpty && rule.fieldPath.isEmpty

mutual

/-- Equality of rules; doubles in literals are compared numerically. -/
def equals : Rule → Rule → Bool
  | ⟨condition₁, field₁, typeTag₁, operator₁, value₁, rules₁⟩,
    ⟨condition₂, field₂, typeTag₂, operator₂, value₂, rules₂⟩ =>
      condition₁ == condition₂ && field₁ == field₂ && typeTag₁ == typeTag₂ &&
        operator₁ == operator₂ && equalValues value₁ value₂ && equalRules rules₁ rules₂

def equalRules : List Rule → List Rule → Bool
  | [], [] => true
  | left :: lefts, right :: rights => equals left right && equalRules lefts rights
  | _, _ => false

def equalValues : Option Json → Option Json → Bool
  | none, none => true
  | some left, some right => left.equals right
  | _, _ => false

end

end Rule

end RecordFilter
