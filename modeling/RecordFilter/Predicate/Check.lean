import RecordFilter.Operator.Registry
import RecordFilter.Text.Lower
import RecordFilter.Text.Split

/-!
# Checks

A check is the test of a compiled leaf. Its literals are adapted to the field already, so a
value of another kind is no match. Null satisfies no operator that takes a literal, and a
negated operator holds exactly where its positive form fails.
-/

namespace RecordFilter

/-- How field values are read for a comparison. -/
structure Semantics where
  /-- Texts are compared exactly, otherwise lower-cased. -/
  caseSensitive : Bool
  /-- Values that are not text are rendered when the literal is text. -/
  renderText : Bool
  /-- Timestamps are cut to their day. -/
  dateOnly : Bool
deriving DecidableEq

/-- The test of a compiled leaf. -/
inductive Check where
  /-- A built-in operator in its positive form, and whether it is negated. -/
  | builtin (operator : Operator) (negated : Bool) (operands : List Literal)
      (semantics : Semantics)
  /-- Whether a map has one of the keys. -/
  | mapKey (keys : List String) (negated : Bool)
  | custom (operator : CustomOperator) (operands : List Literal)

namespace Semantics

/-- The text in which texts are compared. -/
def fold (semantics : Semantics) (text : String) : String :=
  if semantics.caseSensitive then text else Text.lower text

/-- The text of a field value, in the form in which it is compared. -/
def textOf? (semantics : Semantics) (value : Value) : Option String :=
  match value with
  | .text text => some (semantics.fold text)
  | other =>
      if semantics.renderText then other.toText?.map semantics.fold else none

/-- The order between a field value and a literal. Integers and timestamps are compared
with their like, other numbers as doubles. -/
def order? (semantics : Semantics) (value : Value) (literal : Literal) : Option Ordering :=
  match value, literal with
  | .int left, .int right => some (compare left right)
  | .dateTime left, .dateTime right =>
      some ((if semantics.dateOnly then left.midnight else left).order right)
  | _, _ =>
      match value.toDouble?, literal.toDouble? with
      | some left, some right => left.compare? right
      | _, _ => none

/-- Whether a field value equals a literal. A text literal is compared with the text of the
value. -/
def equals (semantics : Semantics) (value : Value) (literal : Literal) : Bool :=
  match value, literal with
  | _, .text expected => semantics.textOf? value = some expected
  | .bool left, .bool right => left == right
  | .guid left, .guid right => decide (left = right)
  | .dateTime _, .dateTime _ => semantics.order? value literal = some .eq
  | .int left, .int right => left == right
  | _, _ =>
      match value.toDouble?, literal.toDouble? with
      | some left, some right => left.equals right
      | _, _ => false

/-- Whether the order between a value and the first literal is accepted. -/
def orderIs (semantics : Semantics) (value : Value) (operands : List Literal)
    (accept : Ordering → Bool) : Bool :=
  match operands.head? with
  | some literal => (semantics.order? value literal).any accept
  | none => false

/-- Whether the text of a value and one of the text literals are accepted. -/
def textMatch (semantics : Semantics) (value : Value) (operands : List Literal)
    (accept : String → String → Bool) : Bool :=
  match semantics.textOf? value with
  | none => false
  | some actual =>
      operands.any fun literal =>
        match literal with
        | .text expected => accept actual expected
        | _ => false

/-- Whether a value lies between the first two literals, bounds included. -/
def isBetween (semantics : Semantics) (value : Value) : List Literal → Bool
  | [low, high] =>
      (semantics.order? value low).any Ordering.isGE &&
        (semantics.order? value high).any Ordering.isLE
  | _ => false

/-- Whether a map has a key among the literals, or a text contains one of them. -/
def containsOne (semantics : Semantics) (value : Value) (operands : List Literal) : Bool :=
  match value with
  | .map _ | .intMap _ => operands.any fun literal => value.containsKey literal.render
  | _ => semantics.textMatch value operands Text.contains

/-- Whether a value that is neither null nor a list passes an operator that takes
literals. -/
def holds (semantics : Semantics) (operator : Operator) (operands : List Literal)
    (value : Value) : Bool :=
  match operator with
  | .equal =>
      match operands.head? with
      | some literal => semantics.equals value literal
      | none => false
  | .oneOf => operands.any fun literal => semantics.equals value literal
  | .less => semantics.orderIs value operands Ordering.isLT
  | .lessOrEqual => semantics.orderIs value operands Ordering.isLE
  | .greater => semantics.orderIs value operands Ordering.isGT
  | .greaterOrEqual => semantics.orderIs value operands Ordering.isGE
  | .between => semantics.isBetween value operands
  | .contains => semantics.containsOne value operands
  | .beginsWith => semantics.textMatch value operands Text.startsWith
  | .endsWith => semantics.textMatch value operands Text.endsWith
  | _ => false

end Semantics

namespace Value

mutual

/-- Whether a value that is no list, or one of the innermost items of a list, passes. -/
def anyItem (test : Value → Bool) : Value → Bool
  | .list items => anyItemOf test items
  | .null => false
  | value => test value

def anyItemOf (test : Value → Bool) : List Value → Bool
  | [] => false
  | item :: rest => anyItem test item || anyItemOf test rest

end

end Value

namespace Check

/-- Whether a value passes the null or the empty test. -/
def isPresent (operator : Operator) (value : Value) : Bool :=
  match operator with
  | .isNull => value.isNull
  | .isEmpty => value.isNull || value.size? = some 0
  | _ => false

/-- Whether a value passes a built-in operator in its positive form. A list passes an
operator that takes literals when one of its items does; null passes none. -/
def positive (operator : Operator) (operands : List Literal) (semantics : Semantics)
    (value : Value) : Bool :=
  if operator.isPresenceTest then isPresent operator value
  else value.anyItem (semantics.holds operator operands)

/-- Whether a value is a map with one of the keys. -/
def hasKey (keys : List String) (value : Value) : Bool :=
  keys.any fun key => value.containsKey key

/-- Tests one field value. -/
def test (check : Check) (value : Value) : Bool :=
  match check with
  | .builtin operator negated operands semantics =>
      negated ^^ positive operator operands semantics value
  | .mapKey keys negated => negated ^^ hasKey keys value
  | .custom operator operands => operator.test value operands

end Check

end RecordFilter
