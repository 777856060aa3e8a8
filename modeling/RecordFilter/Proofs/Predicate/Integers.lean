import RecordFilter.Proofs.Literal.Integer
import RecordFilter.Proofs.Number.Nearest
import RecordFilter.Proofs.Predicate.Orderings

/-!
# Rules on whole numbers

A rule of an integer type compares integers with integers, so it answers by their exact order.
The numbers of enum members are compared with the literals as doubles: the answer is that of the
nearest doubles, which is exact below `2 ^ 53` and not above.
-/

namespace RecordFilter

/-! ## Exact answers -/

namespace Operator

/-- Whether an integer passes an operator in its positive form with integers for its literals. -/
def passes : Operator → List Int → Int → Bool
  | equal, [bound], number => number = bound
  | oneOf, bounds, number => number ∈ bounds
  | less, [bound], number => number < bound
  | lessOrEqual, [bound], number => number ≤ bound
  | greater, [bound], number => bound < number
  | greaterOrEqual, [bound], number => bound ≤ number
  | between, [low, high], number => low ≤ number && number ≤ high
  | _, _, _ => false

/-- The exact answer of an operator to an integer. -/
def verdict (operator : Operator) (bounds : List Int) (number : Int) : Bool :=
  operator.isNegated ^^ operator.positive.passes bounds number

end Operator

/-! ## Integers in order -/

section Order

variable (number bound : Int)

theorem isLT_compare : (compare number bound).isLT = decide (number < bound) := by
  rw [Bool.eq_iff_iff, Ordering.isLT_iff_eq_lt, Int.compare_eq_lt, decide_eq_true_eq]

theorem isLE_compare : (compare number bound).isLE = decide (number ≤ bound) := by
  rw [Bool.eq_iff_iff, Std.isLE_compare, decide_eq_true_eq]

theorem isGT_compare : (compare number bound).isGT = decide (bound < number) := by
  rw [Bool.eq_iff_iff, Ordering.isGT_iff_eq_gt, Int.compare_eq_gt, decide_eq_true_eq]

theorem isGE_compare : (compare number bound).isGE = decide (bound ≤ number) := by
  rw [Bool.eq_iff_iff, Std.isGE_compare, decide_eq_true_eq]

theorem isEq_compare : (compare number bound).isEq = decide (number = bound) := by
  rw [Bool.eq_iff_iff, Ordering.isEq_iff_eq_eq, Int.compare_eq_eq, decide_eq_true_eq]

end Order

namespace Operator

theorem any_isEq_compare (bounds : List Int) (number : Int) :
    (bounds.map (compare number)).any Ordering.isEq = decide (number ∈ bounds) := by
  rw [List.any_map, Bool.eq_iff_iff, List.any_eq_true, decide_eq_true_eq]
  simp [isEq_compare]

theorem passesBy_compare (operator : Operator) (bounds : List Int) (number : Int) :
    operator.passesBy (bounds.map (compare number)) = operator.passes bounds number := by
  rcases bounds with _ | ⟨bound, _ | ⟨high, rest⟩⟩
  · cases operator <;> rfl
  · cases operator with
    | equal => exact isEq_compare number bound
    | less => exact isLT_compare number bound
    | lessOrEqual => exact isLE_compare number bound
    | greater => exact isGT_compare number bound
    | greaterOrEqual => exact isGE_compare number bound
    | oneOf => exact any_isEq_compare [bound] number
    | _ => rfl
  · cases operator with
    | oneOf => exact any_isEq_compare (bound :: high :: rest) number
    | between =>
        cases rest with
        | nil => exact congrArg₂ Bool.and (isGE_compare number bound) (isLE_compare number high)
        | cons third others => rfl
    | _ => rfl

/-- The orderings of an integer and its bounds have the exact answer. -/
theorem verdictBy_compare (operator : Operator) (bounds : List Int) (number : Int) :
    operator.verdictBy (bounds.map (compare number)) = operator.verdict bounds number := by
  rw [verdictBy, passesBy_compare, verdict]

end Operator

namespace Number

/-- Rounding to the nearest doubles keeps the order of two integers when one of them is small. -/
theorem compare_nearest {first second : Int}
    (small : first.natAbs < 2 ^ 53 ∨ second.natAbs < 2 ^ 53) :
    compare (nearest first) (nearest second) = compare first second := by
  have apart : nearest first = nearest second → first = second := by
    intro same
    rcases small with firstSmall | secondSmall
    · exact eq_of_nearest_eq firstSmall same
    · exact (eq_of_nearest_eq secondSmall same.symm).symm
  rcases lt_trichotomy first second with less | rfl | greater
  · have rounded := lt_of_le_of_ne (nearest_mono less.le) fun same => less.ne (apart same)
    rw [Int.compare_eq_lt.mpr less, Int.compare_eq_lt.mpr rounded]
  · rw [Int.compare_eq_eq.mpr rfl, Int.compare_eq_eq.mpr rfl]
  · have rounded := lt_of_le_of_ne (nearest_mono greater.le)
      fun same => greater.ne (apart same.symm).symm
    rw [Int.compare_eq_gt.mpr greater, Int.compare_eq_gt.mpr rounded]

end Number

theorem Literal.measures_int {declared : DeclaredType} (numeric : declared.isNumeric = true)
    (number : Int) : (Literal.int number).Measures declared :=
  .number numeric rfl (Number.Double.ofInt_ne_nan number)

/-! ## Values ordered like integers -/

/-- A value is ordered with whole literals as an integer is with others in their place. -/
structure Semantics.Ranks (semantics : Semantics) (value : Value) (numbers : List Int)
    (rank : Int → Int) (place : Int) : Prop where
  single : ∀ items, value ≠ .list items
  present : value.isNull = false
  order : ∀ number ∈ numbers,
    semantics.order? value (.int number) = some (compare place (rank number))

namespace Semantics

variable {semantics : Semantics} {numbers : List Int}

theorem ranks_int (semantics : Semantics) (numbers : List Int) (number : Int) :
    semantics.Ranks (.int number) numbers id number where
  single _ impossible := by cases impossible
  present := rfl
  order _ _ := rfl

/-- The number of an enum member and a literal are compared as doubles. -/
theorem ranks_enum {number : Int} (range : Number.isInt64 number = true)
    (ranges : ∀ bound ∈ numbers, Number.isInt64 bound = true) (name : String) :
    semantics.Ranks (.enum name number) numbers Number.nearest (Number.nearest number) where
  single _ impossible := by cases impossible
  present := rfl
  order bound member := Number.Double.compare?_ofInt range (ranges bound member)

theorem ranks_enum_of_small {number : Int} (range : Number.isInt64 number = true)
    (ranges : ∀ bound ∈ numbers, Number.isInt64 bound = true)
    (small : number.natAbs < 2 ^ 53 ∨ ∀ bound ∈ numbers, bound.natAbs < 2 ^ 53)
    (name : String) : semantics.Ranks (.enum name number) numbers id number where
  single _ impossible := by cases impossible
  present := rfl
  order bound member := by
    have oneSmall : number.natAbs < 2 ^ 53 ∨ bound.natAbs < 2 ^ 53 :=
      small.imp_right fun each => each bound member
    rw [(ranks_enum range ranges name).order bound member, Number.compare_nearest oneSmall]
    rfl

/-- What is ordered like an integer has the orderings of this integer. -/
theorem Ranks.ordersAs {value : Value} {rank : Int → Int} {place : Int}
    (ranks : semantics.Ranks value numbers rank place) :
    semantics.OrdersAs value (numbers.map .int) ((numbers.map rank).map (compare place)) := by
  rw [OrdersAs, List.map_map, List.forall₂_map_left_iff, List.forall₂_map_right_iff,
    List.forall₂_same]
  exact ranks.order

end Semantics

/-- A leaf that compares with whole literals gives the verdict on what its value is ordered
like. -/
theorem LeafPlan.test_comparison {plan : LeafPlan} {options : Options} {operator : Operator}
    {numbers : List Int} {value : Value} {rank : Int → Int} {place : Int}
    (compares : operator.comparesWhole = true) (literals : plan.literals = numbers.map .int)
    (admits : operator.arity.Admits plan.literals.length)
    (ranks : (plan.semantics options).Ranks value numbers rank place) :
    (plan.comparison options operator).check.test value =
      operator.verdict (numbers.map rank) place := by
  have measures : ∀ literal ∈ plan.literals, literal.Measures .long := by
    rw [literals]
    intro literal member
    obtain ⟨number, _, rfl⟩ := List.mem_map.mp member
    exact Literal.measures_int rfl number
  have orders := literals ▸ ranks.ordersAs
  rw [plan.test_eq_verdictBy compares admits measures ranks.single ranks.present orders,
    operator.verdictBy_compare]

/-- Under a rule of an integer type an integer field is compared exactly with the literals. The
numbers of an enum field are compared as the nearest doubles, and so exactly if the number or all
literals are below `2 ^ 53`. -/
theorem enum_numbers_compared_rounded (compiler : Compiler) {rule : Rule} {plan : LeafPlan}
    {operator : Operator} (childless : rule.rules = []) (named : rule.fieldPath ≠ "")
    (planned : compiler.plan rule = .ok plan) (builtin : plan.operator = .builtin operator)
    (compares : operator.comparesWhole = true) (whole : plan.declared.isWhole = true)
    (integral : plan.chain.target.nonNull = .int ∨ plan.chain.target.nonNull = .long ∨
      ∃ members, plan.chain.target.nonNull = .enum members) :
    ∃ leaf numbers, compiler.predicate rule = .ok (.leaf leaf) ∧ leaf.chain = plan.chain ∧
      plan.literals = numbers.map .int ∧
      (∀ record value, leaf.chain.outcomes record = [.reached value] →
        leaf.evaluate record = .ok (leaf.check.test value)) ∧
      (∀ number, leaf.check.test (.int number) = operator.verdict numbers number) ∧
      ∀ name number, Number.isInt64 number = true →
        leaf.check.test (.enum name number) =
            operator.verdict (numbers.map Number.nearest) (Number.nearest number) ∧
          ((number.natAbs < 2 ^ 53 ∨ ∀ bound ∈ numbers, bound.natAbs < 2 ^ 53) →
            leaf.check.test (.enum name number) = operator.verdict numbers number) := by
  have plans := Compiler.plan_eq_ok_iff.mp planned
  have read := plans.literals
  have admits := Coercer.admits_of_coerce read
  rw [builtin] at admits
  obtain ⟨numbers, literals, ranges⟩ := Coercer.exists_integers_of_coerce whole read
  have numeric := DeclaredType.isNumeric_of_isWhole whole
  have comparable : Comparable plan.declared plan.chain.target.nonNull := by
    rcases integral with int | long | ⟨members, enum⟩
    · exact int ▸ .int numeric
    · exact long ▸ .long numeric
    · exact enum ▸ .enum members numeric
  have measures : ∀ literal ∈ plan.literals, literal.Measures plan.declared := by
    rw [literals]
    intro literal member
    obtain ⟨number, _, rfl⟩ := List.mem_map.mp member
    exact Literal.measures_int numeric number
  obtain ⟨takes, noText⟩ := Operator.takes_of_comparesWhole compares
  have leafOk := Compiler.leaf_of_comparable plans builtin takes noText comparable measures
  have same : numbers.map id = numbers := List.map_id numbers
  refine ⟨_, numbers, (Compiler.predicate_leaf_eq_ok_iff childless named).mpr
    ⟨plan, _, leafOk, rfl⟩, rfl, literals, fun record value => Leaf.evaluate_of_reached, ?_, ?_⟩
  · intro number
    rw [plan.test_comparison compares literals admits (Semantics.ranks_int _ _ number), same]
  · intro name number range
    refine ⟨LeafPlan.test_comparison compares literals admits
      (Semantics.ranks_enum range ranges name), fun small => ?_⟩
    rw [plan.test_comparison compares literals admits
      (Semantics.ranks_enum_of_small range ranges small name), same]

/-- The first number that is no double, as the number of a level. -/
def bigLevel : Int :=
  2 ^ 53 + 1

/-- Gauges with such a level, under the default options. -/
def gaugeCompiler : Compiler :=
  ⟨.default, ⟨[⟨"Gauge", [("Level", .enum [("Big", bigLevel)])], none⟩]⟩, "Gauge"⟩

def bigLevelRule : Rule :=
  .asking (some "Level") (some "long") .equal (.integer (2 ^ 53))

def bigLevelPlan : LeafPlan :=
  ⟨"Level", .builtin .equal, .long,
    ⟨"Level", [.member "Level"], .enum [("Big", bigLevel)], false⟩, [.int (2 ^ 53)]⟩

theorem bigLevelRule_planned : gaugeCompiler.plan bigLevelRule = .ok bigLevelPlan := by
  have trimmed : Text.trim "Level" = "Level" := by decide +kernel
  have split : Resolver.segmentsOf "Level" = ["Level"] := by decide +kernel
  have resolved := Resolver.resolve_of_trimmed trimmed split (by decide)
    (Resolver.follow_member rfl rfl rfl :
      gaugeCompiler.resolver.follow "Level" (.object "Gauge") ["Level"] = _)
  have field : bigLevelRule.fieldPath = "Level" := trimmed
  refine Compiler.plan_eq_ok_iff.mpr {
    field := field.symm
    operator := Compiler.resolveOperator?_builtin rfl (Operator.ofName?_trim_name .equal)
    declared := Compiler.declaredType_of_tag rfl (by decide +kernel) (by decide +kernel)
    orderable := fun _ _ _ => rfl
    chain := ⟨_, by rw [field]; exact resolved, rfl⟩
    literals := rfl }

/-- The level is no other number, but it is found under the number next to it. -/
theorem enum_numbers_compared_rounded_level :
    ∃ leaf, gaugeCompiler.predicate bigLevelRule = .ok (.leaf leaf) ∧
      leaf.evaluate (.object [("Level", .enum "Big" bigLevel)] []) = .ok true ∧
        Operator.equal.verdict [2 ^ 53] bigLevel = false := by
  have named : bigLevelRule.fieldPath ≠ "" := by decide +kernel
  obtain ⟨leaf, numbers, compiled, chain, literals, answers, _, enum⟩ :=
    enum_numbers_compared_rounded gaugeCompiler rfl named bigLevelRule_planned rfl rfl rfl
      (Or.inr (Or.inr ⟨_, rfl⟩))
  have bounds : numbers = [2 ^ 53] := by
    have mapped : numbers.map Literal.int = [2 ^ 53].map .int := literals.symm
    exact List.map_injective_iff.mpr (fun _ _ => Literal.int.inj) mapped
  have rounded := (enum "Big" bigLevel (by decide)).1
  refine ⟨leaf, compiled, ?_, by decide⟩
  rw [answers _ (.enum "Big" bigLevel) (by rw [chain]; rfl), rounded, bounds]
  decide +kernel

end RecordFilter
