import RecordFilter.Proofs.Predicate.Fitness
import RecordFilter.Proofs.Predicate.Trichotomy

/-!
# Answers by orderings

An operator that compares a value with its literals as a whole reads nothing but how the value
is ordered with each of them. Where these orderings are known, so is the answer.
-/

namespace RecordFilter

namespace Operator

/-- Whether the operator compares a value with its literals as a whole. -/
def comparesWhole (operator : Operator) : Bool :=
  !operator.isPresenceTest && !operator.isTextMatch

theorem takes_of_comparesWhole {operator : Operator} (compares : operator.comparesWhole = true) :
    operator.isPresenceTest = false ∧ operator.isTextMatch = false := by
  simpa [comparesWhole] using compares

theorem comparesWhole_positive (operator : Operator) :
    operator.positive.comparesWhole = operator.comparesWhole := by
  cases operator <;> rfl

/-- Whether a value with these orderings to the literals passes an operator in its positive
form. -/
def passesBy : Operator → List Ordering → Bool
  | oneOf, orderings => orderings.any Ordering.isEq
  | between, [low, high] => low.isGE && high.isLE
  | operator, [ordering] => operator.comparesOne && operator.accepts ordering
  | _, _ => false

/-- The answer of an operator to a value with these orderings to the literals. -/
def verdictBy (operator : Operator) (orderings : List Ordering) : Bool :=
  operator.isNegated ^^ operator.positive.passesBy orderings

end Operator

namespace Semantics

/-- How a value is ordered with each literal. -/
def OrdersAs (semantics : Semantics) (value : Value) (literals : List Literal)
    (orderings : List Ordering) : Prop :=
  List.Forall₂ (fun literal ordering => semantics.order? value literal = some ordering) literals
    orderings

variable {semantics : Semantics} {declared : DeclaredType} {value : Value}
  {literals : List Literal} {orderings : List Ordering} {operator : Operator}

theorem any_equals_of_ordersAs (measures : ∀ literal ∈ literals, literal.Measures declared)
    (orders : semantics.OrdersAs value literals orderings) :
    (literals.any fun literal => semantics.equals value literal) =
      orderings.any Ordering.isEq := by
  induction orders with
  | nil => rfl
  | cons ordered _ inductionHypothesis =>
      obtain ⟨first, others⟩ := List.forall_mem_cons.mp measures
      rw [List.any_cons, List.any_cons, inductionHypothesis others, equals_eq_order? first, ordered]
      rfl

theorem holds_eq_passesBy (measures : ∀ literal ∈ literals, literal.Measures declared)
    (orders : semantics.OrdersAs value literals orderings)
    (compares : operator.comparesWhole = true) (positive : operator.isNegated = false)
    (takes : operator.TakesOperands literals) :
    semantics.holds operator literals value = operator.passesBy orderings := by
  have one (alone : operator.comparesOne = true) (takesOne : ∃ literal, literals = [literal]) :
      ∃ ordering, orderings = [ordering] ∧
        semantics.holds operator literals value = operator.accepts ordering := by
    obtain ⟨literal, rfl⟩ := takesOne
    obtain ⟨ordering, _, ordered, none, rfl⟩ := List.forall₂_cons_left_iff.mp orders
    cases none
    refine ⟨ordering, rfl, ?_⟩
    rw [holds_comparesOne alone (measures literal List.mem_cons_self), ordered]
    rfl
  cases operator with
  | equal | less | lessOrEqual | greater | greaterOrEqual =>
      obtain ⟨ordering, rfl, holds⟩ := one rfl takes
      exact holds
  | oneOf => exact any_equals_of_ordersAs measures orders
  | between =>
      obtain ⟨low, high, rfl⟩ := takes
      obtain ⟨lowOrdering, _, lowOrdered, others, rfl⟩ := List.forall₂_cons_left_iff.mp orders
      obtain ⟨highOrdering, _, highOrdered, none, rfl⟩ := List.forall₂_cons_left_iff.mp others
      cases none
      change ((semantics.order? value low).any Ordering.isGE &&
        (semantics.order? value high).any Ordering.isLE) = _
      rw [lowOrdered, highOrdered]
      rfl
  | notEqual | notOneOf | notBetween | notBeginsWith | notContains | notEndsWith | isNotEmpty
  | isNotNull => cases positive
  | beginsWith | contains | endsWith | isEmpty | isNull => cases compares

end Semantics

/-- A leaf that compares with its literals as they are answers by the orderings. -/
theorem LeafPlan.test_eq_verdictBy {plan : LeafPlan} {options : Options} {operator : Operator}
    {declared : DeclaredType} {value : Value} {orderings : List Ordering}
    (compares : operator.comparesWhole = true)
    (admits : operator.arity.Admits plan.literals.length)
    (measures : ∀ literal ∈ plan.literals, literal.Measures declared)
    (single : ∀ items, value ≠ .list items) (present : value.isNull = false)
    (orders : (plan.semantics options).OrdersAs value plan.literals orderings) :
    (plan.comparison options operator).check.test value = operator.verdictBy orderings := by
  have presence : operator.positive.isPresenceTest = false := by
    rw [Operator.isPresenceTest_positive]
    exact (Operator.takes_of_comparesWhole compares).1
  have holds := Semantics.holds_eq_passesBy measures orders
    (operator.comparesWhole_positive.trans compares) operator.isNegated_positive
    (Operator.takesOperands_positive admits)
  rw [comparison, Check.test, Check.positive_of_not_list presence single, present, holds]
  rfl

end RecordFilter
