import RecordFilter.Predicate.Check
import RecordFilter.Proofs.Literal.Measure
import RecordFilter.Proofs.Record.Conforms

/-!
# Ordered comparisons

Equality and order are read from different tables. For literals with an order the two agree,
so each comparison with such a literal accepts some of the three orderings. A value and a
literal are ordered whenever their types fit together, unless the value is null or NaN.
-/

namespace RecordFilter

/-- The field types whose values are ordered with the literals of an ordered declared type
as they are. -/
inductive Comparable (declared : DeclaredType) : FieldType → Prop where
  | int (numeric : declared.isNumeric = true) : Comparable declared .int
  | long (numeric : declared.isNumeric = true) : Comparable declared .long
  | double (numeric : declared.isNumeric = true) : Comparable declared .double
  | enum (members : List (String × Int)) (numeric : declared.isNumeric = true) :
      Comparable declared (.enum members)
  | date (dated : declared.isDated = true) : Comparable declared .date
  | dateTime (dated : declared.isDated = true) : Comparable declared .dateTime

/-- Values of such types are no lists. -/
theorem Comparable.not_list {declared : DeclaredType} {base : FieldType} {schema : Schema}
    {untyped : Value → Prop} {value : Value} (comparable : Comparable declared base)
    (conforms : Conforms schema untyped base value) (items : List Value) :
    value ≠ .list items := by
  rintro rfl
  cases comparable <;> cases conforms

namespace Value

/-- A test with literals asks a value that is no list itself, and never null. -/
theorem anyItem_of_not_list {value : Value} (test : Value → Bool)
    (single : ∀ items, value ≠ .list items) :
    value.anyItem test = (!value.isNull && test value) := by
  cases value with
  | list items => exact absurd rfl (single items)
  | null | bool _ | int _ | double _ | text _ | dateTime _ | guid _ | enum _ _ | map _
  | intMap _ | object _ _ => rw [anyItem] <;> simp [isNull]

end Value

/-- An operator that takes literals is asked about a value that is no list, and null passes none. -/
theorem Check.positive_of_not_list {operator : Operator} {operands : List Literal}
    {semantics : Semantics} {value : Value} (takes : operator.isPresenceTest = false)
    (single : ∀ items, value ≠ .list items) :
    positive operator operands semantics value =
      (!value.isNull && semantics.holds operator operands value) := by
  rw [positive, takes, if_neg Bool.false_ne_true, Value.anyItem_of_not_list _ single]

/-! ## Orderings -/

section Orderings

variable (order : Option Ordering)

theorem any_isLE :
    order.any Ordering.isLE = (order.any Ordering.isLT || order.any Ordering.isEq) := by
  rcases order with _ | order
  · rfl
  · cases order <;> rfl

theorem any_isGE :
    order.any Ordering.isGE = (order.any Ordering.isGT || order.any Ordering.isEq) := by
  rcases order with _ | order
  · rfl
  · cases order <;> rfl

theorem beq_some_eq : (order == some .eq) = order.any Ordering.isEq := by
  rcases order with _ | order
  · rfl
  · cases order <;> rfl

/-- An ordering is exactly one of three. -/
theorem count_orderings :
    [order.any Ordering.isLT, order.any Ordering.isEq, order.any Ordering.isGT].count true =
      if order.isSome then 1 else 0 := by
  rcases order with _ | order
  · rfl
  · cases order <;> rfl

end Orderings

theorem any_congr_mem {α : Type} {items : List α} {first second : α → Bool}
    (same : ∀ item ∈ items, first item = second item) : items.any first = items.any second := by
  have mapped := List.map_congr_left same
  simpa [List.any_map] using congrArg (List.any · id) mapped

theorem beq_eq_isEq_compare (left right : Int) :
    (left == right) = (compare left right).isEq := by
  rw [Bool.eq_iff_iff, beq_iff_eq, Ordering.isEq_iff_eq_eq, Int.compare_eq_eq]

namespace Operator

/-- The operators that compare with one literal by order. -/
def comparesOne : Operator → Bool
  | equal | less | lessOrEqual | greater | greaterOrEqual => true
  | _ => false

/-- The orderings of a value and a literal that the operator accepts. -/
def accepts : Operator → Ordering → Bool
  | less => Ordering.isLT
  | lessOrEqual => Ordering.isLE
  | greater => Ordering.isGT
  | greaterOrEqual => Ordering.isGE
  | _ => Ordering.isEq

end Operator

namespace Semantics

variable {declared : DeclaredType} {literal : Literal} {semantics : Semantics}

/-! ## What an operator reads -/

/-- An operator tells two values apart by their equality with literals, by their order, by their
text or, where it looks for keys, by what they contain. -/
theorem holds_congr {first second : Value} {operator : Operator} {operands : List Literal}
    (equality : semantics.equals first = semantics.equals second)
    (order : semantics.order? first = semantics.order? second)
    (text : semantics.textOf? first = semantics.textOf? second)
    (content : operator = .contains →
      semantics.containsOne first operands = semantics.containsOne second operands) :
    semantics.holds operator operands first = semantics.holds operator operands second := by
  cases operator with
  | equal | oneOf => simp only [holds, equality]
  | less | lessOrEqual | greater | greaterOrEqual => simp only [holds, orderIs, order]
  | between =>
      simp only [holds]
      unfold isBetween
      rw [order]
  | beginsWith | endsWith => simp only [holds, textMatch, text]
  | contains => exact content rfl
  | _ => rfl

/-! ## Where there is an order -/

theorem order?_null (semantics : Semantics) (literal : Literal) :
    semantics.order? .null literal = none := by
  cases literal <;> rfl

theorem order?_nan (semantics : Semantics) (literal : Literal) :
    semantics.order? (.double .nan) literal = none := by
  cases literal <;> rfl

theorem isSome_order?_of_numbers {value : Value} {left right : Number.Double}
    (number : value.toDouble? = some left) (proper : left ≠ .nan)
    (otherNumber : literal.toDouble? = some right) (otherProper : right ≠ .nan) :
    (semantics.order? value literal).isSome = true := by
  unfold order?
  split
  next => rfl
  next => rfl
  next =>
      rw [number, otherNumber]
      exact Number.Double.isSome_compare?_iff.mpr ⟨proper, otherProper⟩

/-- A value of a type that fits is ordered with a literal, unless it is NaN. -/
theorem isSome_order? {schema : Schema} {untyped : Value → Prop} {base : FieldType}
    {value : Value} (comparable : Comparable declared base)
    (conforms : Conforms schema untyped base value) (measures : literal.Measures declared)
    (proper : value ≠ .double .nan) : (semantics.order? value literal).isSome = true := by
  cases measures with
  | number numeric number literalProper =>
      have undated := DeclaredType.isDated_eq_false numeric
      cases comparable with
      | int _ | long _ =>
          cases conforms
          exact isSome_order?_of_numbers rfl (Number.Double.ofInt_ne_nan _) number literalProper
      | double _ =>
          cases conforms with
          | double value =>
              have valueProper : value ≠ .nan := fun same => proper (congrArg Value.double same)
              exact isSome_order?_of_numbers rfl valueProper number literalProper
      | enum members _ =>
          cases conforms
          exact isSome_order?_of_numbers rfl (Number.Double.ofInt_ne_nan _) number literalProper
      | date dated | dateTime dated =>
          rw [undated] at dated
          cases dated
  | time time dated =>
      cases comparable with
      | date _ | dateTime _ =>
          cases conforms
          rfl
      | int numeric | long numeric | double numeric | enum _ numeric =>
          rw [DeclaredType.isDated_eq_false numeric] at dated
          cases dated

/-! ## Where equality is an order -/

/-- For literals with an order, to be equal is to be ordered as equal. -/
theorem equals_eq_order? (measures : literal.Measures declared) (value : Value) :
    semantics.equals value literal = (semantics.order? value literal).any Ordering.isEq := by
  cases literal with
  | int right =>
      cases value with
      | int left => exact beq_eq_isEq_compare left right
      | double left => exact beq_some_eq _
      | enum name left => exact beq_some_eq _
      | null | bool _ | text _ | dateTime _ | guid _ | list _ | map _ | intMap _
      | object _ _ => rfl
  | double right =>
      cases value with
      | int left => exact beq_some_eq _
      | double left => exact beq_some_eq _
      | enum name left => exact beq_some_eq _
      | null | bool _ | text _ | dateTime _ | guid _ | list _ | map _ | intMap _
      | object _ _ => rfl
  | dateTime right =>
      cases value with
      | dateTime left =>
          rw [← beq_some_eq, beq_eq_decide]
          rfl
      | null | bool _ | int _ | double _ | enum _ _ | text _ | guid _ | list _ | map _
      | intMap _ | object _ _ => rfl
  | bool _ | text _ | guid _ =>
      cases measures with
      | number _ number _ => cases number

/-! ## Comparisons with literals -/

theorem holds_comparesOne {operator : Operator} (compares : operator.comparesOne = true)
    (measures : literal.Measures declared) (value : Value) :
    semantics.holds operator [literal] value =
      (semantics.order? value literal).any operator.accepts := by
  cases operator with
  | equal => exact equals_eq_order? measures value
  | less | lessOrEqual | greater | greaterOrEqual => rfl
  | _ => cases compares

end Semantics

namespace Check

variable {declared : DeclaredType} {semantics : Semantics} {value : Value}

theorem positive_comparesOne {operator : Operator} {literal : Literal}
    (compares : operator.comparesOne = true) (measures : literal.Measures declared)
    (single : ∀ items, value ≠ .list items) :
    positive operator [literal] semantics value =
      (semantics.order? value literal).any operator.accepts := by
  have takes : operator.isPresenceTest = false := by
    cases operator <;> first | rfl | cases compares
  rw [positive_of_not_list takes single, Semantics.holds_comparesOne compares measures]
  cases value with
  | null =>
      rw [Semantics.order?_null]
      rfl
  | _ => rfl

theorem positive_between {low high : Literal} (single : ∀ items, value ≠ .list items) :
    positive .between [low, high] semantics value =
      ((semantics.order? value low).any Ordering.isGE &&
        (semantics.order? value high).any Ordering.isLE) := by
  rw [positive_of_not_list (by decide) single]
  cases value with
  | null =>
      rw [Semantics.order?_null]
      rfl
  | _ => rfl

end Check

end RecordFilter
