import RecordFilter.Proofs.Predicate.Leaves
import RecordFilter.Proofs.Predicate.Splitting
import RecordFilter.Proofs.Record.Layers

/-!
# Compiled leaves are well formed

A leaf is tested without looking at what it was compiled from: it has the operands that its
operator takes, texts where texts are looked for, folded where case is ignored, and a target
that can be compared with them. All of this is settled when the leaf is compiled, so the answers
that the tests give to malformed checks are never used.
-/

namespace RecordFilter

/-! ## Operands -/

/-- Whether an operator of the arity may have so many operands. -/
def Arity.Admits : Arity → Nat → Prop
  | none, count => count = 0
  | single, count => count = 1
  | pair, count => count = 2
  | list, count => 0 < count

/-- The operands that an operator in its positive form is stored with. -/
def Operator.TakesOperands : Operator → List Literal → Prop
  | isNull, operands | isEmpty, operands => operands = []
  | between, operands => ∃ low high, operands = [low, high]
  | oneOf, operands => operands ≠ []
  | _, operands => ∃ operand, operands = [operand]

theorem Operator.takesOperands_positive {operator : Operator} {operands : List Literal}
    (admits : operator.arity.Admits operands.length) :
    operator.positive.TakesOperands operands := by
  cases operator with
  | isNull | isNotNull | isEmpty | isNotEmpty => exact List.length_eq_zero_iff.mp admits
  | between | notBetween => exact List.length_eq_two.mp admits
  | oneOf | notOneOf => exact List.length_pos_iff.mp admits
  | _ => exact List.length_eq_one_iff.mp admits

theorem Arity.admits_of_wantedBy {arity : Arity} {count : Nat} (takes : arity ≠ none)
    (enough : Coercer.wantedBy arity count = Option.none) : arity.Admits count := by
  cases arity with
  | none => exact absurd rfl takes
  | single => simpa [Coercer.wantedBy, Admits] using enough
  | pair => simpa [Coercer.wantedBy, Admits] using enough
  | list =>
      have some : count ≠ 0 := by simpa [Coercer.wantedBy] using enough
      exact Nat.pos_of_ne_zero some

theorem Coercer.admits_of_coerce {coercer : Coercer} {context : LeafContext} {arity : Arity}
    {raw : Option Json} {literals : List Literal}
    (read : coercer.coerce context arity raw = .ok literals) : arity.Admits literals.length := by
  rcases coerce_eq_ok_iff.mp read with ⟨rfl, rfl⟩ | ⟨takes, _⟩
  · rfl
  · exact Arity.admits_of_wantedBy takes (wantedBy_of_coerce takes read)

namespace Adapts

variable {options : Options} {textMatch : Bool} {declared : DeclaredType}
  {semantics adapted : Semantics} {literals operands : List Literal} {base : FieldType}

theorem length_eq
    (adapts : Adapts options textMatch declared semantics literals base adapted operands) :
    operands.length = literals.length := by
  cases adapts with
  | any =>
      cases textMatch with
      | true => exact List.length_map _
      | false => rfl
  | enumName _ _ each => exact each.length_eq.symm
  | enumNumber _ _ | own _ _ _ => rfl
  | text | enumText _ _ | rendered _ _ _ => exact List.length_map _

/-- Parts are looked for in texts only. -/
theorem texts_of_textMatch
    (adapts : Adapts options true declared semantics literals base adapted operands) :
    ∀ operand ∈ operands, ∃ text, operand = .text text := by
  have rendered : ∀ operand ∈ Compiler.renderAll literals, ∃ text, operand = .text text := by
    intro operand member
    obtain ⟨literal, _, rfl⟩ := List.mem_map.mp member
    exact ⟨literal.render, rfl⟩
  cases adapts with
  | any | text | enumText _ _ | rendered _ _ _ => exact rendered
  | enumName whole _ _ | enumNumber whole _ | own whole _ _ => cases whole

end Adapts

namespace Compiler

variable {semantics : Semantics} {literal : Literal} {text : String}

theorem exists_of_foldLiteral_eq_text (folds : foldLiteral semantics literal = .text text) :
    ∃ original, literal = .text original ∧ text = semantics.fold original := by
  cases literal with
  | text original =>
      cases folds
      exact ⟨original, rfl, rfl⟩
  | int _ | double _ | bool _ | dateTime _ | guid _ => cases folds

theorem lower_of_mem_folded {operands : List Literal} (ignores : semantics.caseSensitive = false)
    (member : .text text ∈ operands.map (foldLiteral semantics)) :
    ∃ original, text = Text.lower original := by
  obtain ⟨literal, _, folds⟩ := List.mem_map.mp member
  obtain ⟨original, _, rfl⟩ := exists_of_foldLiteral_eq_text folds
  exact ⟨original, if_neg (ne_true_of_eq_false ignores)⟩

end Compiler

/-! ## Leaves -/

/-- How a check fits the operator it was compiled for and the type of the values it tests. -/
inductive Check.Fits (base : FieldType) : ResolvedOperator → Check → Prop where
  | builtin {operator : Operator} {operands : List Literal} {semantics : Semantics}
      (count : operator.positive.TakesOperands operands)
      (texts : operator.isTextMatch = true → ∀ operand ∈ operands, ∃ text, operand = .text text)
      (folded : semantics.caseSensitive = false → ∀ text, .text text ∈ operands →
        ∃ original, text = Text.lower original)
      (flat : operator.arity ≠ .none → (∀ shape, base ≠ .object shape) ∧
        ∀ key value, base ≠ .map key value) :
      Fits base (.builtin operator)
        (.builtin operator.positive operator.isNegated operands semantics)
  | mapKey {operator : Operator} (key : String) (contains : operator.positive = .contains) :
      Fits base (.builtin operator) (.mapKey [key] operator.isNegated)
  | custom {operator : CustomOperator} {operands : List Literal}
      (count : operator.arity.Admits operands.length) :
      Fits base (.custom operator) (.custom operator operands)

/-- How a compiled leaf fits its operator. -/
structure Leaf.Fits (leaf : Leaf) (operator : ResolvedOperator) : Prop where
  quantifier : leaf.quantifier = .all ↔ operator.isNegated = true
  items : operator.arity ≠ .none → ∀ element, leaf.chain.target.nonNull ≠ .list element
  check : leaf.check.Fits leaf.chain.target.nonNull operator

theorem Checks.fits {options : Options} {operator : Operator} {plan : LeafPlan} {check : Check}
    (checks : Checks options operator plan check)
    (count : operator.arity.Admits plan.literals.length) :
    check.Fits plan.chain.target.nonNull (.builtin operator) := by
  cases checks with
  | presence presence =>
      have noArity : operator.arity = .none := of_decide_eq_true presence
      have none : plan.literals = [] := by
        rw [noArity] at count
        exact List.length_eq_zero_iff.mp count
      refine .builtin (Operator.takesOperands_positive count) ?_ ?_ ?_
      · rw [none]
        exact fun _ operand member => absurd member List.not_mem_nil
      · rw [none]
        exact fun _ text member => absurd member List.not_mem_nil
      · exact fun takes => absurd noArity takes
  | keys _ _ contains =>
      have single := Operator.takesOperands_positive count
      rw [contains] at single
      obtain ⟨literal, only⟩ := single
      rw [only]
      exact .mapKey literal.render contains
  | @compared adapted operands _ _ adapts =>
      have sameCount :
          operator.arity.Admits (operands.map (Compiler.foldLiteral adapted)).length := by
        rw [List.length_map, adapts.length_eq]
        exact count
      refine .builtin (Operator.takesOperands_positive sameCount) ?_ ?_ ?_
      · intro part operand member
        rw [part] at adapts
        obtain ⟨literal, literalMember, rfl⟩ := List.mem_map.mp member
        obtain ⟨text, rfl⟩ := adapts.texts_of_textMatch literal literalMember
        exact ⟨adapted.fold text, rfl⟩
      · exact fun ignores text member => Compiler.lower_of_mem_folded ignores member
      · exact fun _ => ⟨fun _ => adapts.not_object, fun _ _ => adapts.not_map⟩

theorem Compiler.fits_of_leaf {compiler : Compiler} {rule : Rule} {plan : LeafPlan} {leaf : Leaf}
    (leafOk : compiler.leaf rule = .ok (plan, leaf)) : leaf.Fits plan.operator := by
  obtain ⟨plans, checked, chain, quantifier⟩ := leaf_eq_ok_iff.mp leafOk
  have count := Coercer.admits_of_coerce plans.literals
  refine ⟨?_, ?_, ?_⟩
  · rw [quantifier]
    unfold LeafPlan.quantifier
    cases plan.operator.isNegated <;> simp
  · intro takes element
    obtain ⟨resolved, _, extended⟩ := plans.chain
    rw [chain, extended]
    unfold extendChain
    rw [if_neg takes]
    exact FieldType.nonNull_openLists_ne_list _ element
  · rw [chain]
    rcases check_eq_ok_iff.mp checked with ⟨custom, isCustom, same⟩ | ⟨operator, isBuiltin, checks⟩
    · rw [isCustom] at count ⊢
      rw [same]
      exact .custom count
    · rw [isBuiltin] at count ⊢
      exact checks.fits count

/-! ## Answers that are never given -/

/-- The test of a value where the answers for a negated operator, and for `between` without two
bounds, are left open. -/
def Semantics.holdsOr (fallback : Bool) (semantics : Semantics) (operator : Operator)
    (operands : List Literal) (value : Value) : Bool :=
  match operator, operands with
  | .between, [low, high] => semantics.holds .between [low, high] value
  | .between, _ => fallback
  | operator, operands =>
      if operator.isNegated then fallback else semantics.holds operator operands value

namespace Check

/-- The test of a built-in operator with the same answers left open. -/
def positiveOr (fallback : Bool) (operator : Operator) (operands : List Literal)
    (semantics : Semantics) (value : Value) : Bool :=
  if operator.isPresenceTest then
    if operator.isNegated then fallback else isPresent operator value
  else value.anyItem (semantics.holdsOr fallback operator operands)

/-- The test of a check with the same answers left open. -/
def testOr (fallback : Bool) (check : Check) (value : Value) : Bool :=
  match check with
  | .builtin operator negated operands semantics =>
      negated ^^ positiveOr fallback operator operands semantics value
  | other => other.test value

end Check

theorem Semantics.holdsOr_false (semantics : Semantics) (operator : Operator)
    (operands : List Literal) :
    semantics.holdsOr false operator operands = semantics.holds operator operands := by
  funext value
  cases operator with
  | between =>
      match operands with
      | [] | [_] | [_, _] | _ :: _ :: _ :: _ => rfl
  | _ => rfl

/-- Whether an operator answers for its operands does not depend on the open answers, when it is
in its positive form and has the operands it takes. -/
theorem Semantics.holdsOr_congr {semantics : Semantics} {operator : Operator}
    {operands : List Literal} (positive : operator.isNegated = false)
    (takes : operator.TakesOperands operands) (fallback other : Bool) :
    semantics.holdsOr fallback operator operands = semantics.holdsOr other operator operands := by
  funext value
  cases operator with
  | between =>
      obtain ⟨low, high, rfl⟩ := takes
      rfl
  | notEqual | notOneOf | notBetween | notBeginsWith | notContains | notEndsWith | isNotEmpty
  | isNotNull => cases positive
  | _ => rfl

namespace Check

/-- With `false` for the open answers a check tests as it does. -/
theorem testOr_false (check : Check) (value : Value) :
    check.testOr false value = check.test value := by
  cases check with
  | mapKey keys negated => rfl
  | custom operator operands => rfl
  | builtin operator negated operands semantics =>
      have same : positiveOr false operator operands semantics value =
          positive operator operands semantics value := by
        unfold positiveOr positive
        rw [Semantics.holdsOr_false]
        cases operator <;> rfl
      exact congrArg (negated ^^ ·) same

theorem Fits.testOr_congr {check : Check} {base : FieldType} {operator : ResolvedOperator}
    (fits : check.Fits base operator) (fallback other : Bool) (value : Value) :
    check.testOr fallback value = check.testOr other value := by
  cases fits with
  | mapKey key _ => rfl
  | custom _ => rfl
  | @builtin operator operands semantics count _ _ _ =>
      have positive : operator.positive.isNegated = false := operator.isNegated_positive
      have same : positiveOr fallback operator.positive operands semantics value =
          positiveOr other operator.positive operands semantics value := by
        unfold positiveOr
        rw [Semantics.holdsOr_congr positive count fallback other, positive]
        rfl
      exact congrArg (operator.isNegated ^^ ·) same

end Check

/-- Every leaf of a compiled tree fits the operator of the rule it comes from. So the answers of
the tests for a negated operator and for `between` without two bounds are never given: any other
answers would do. -/
theorem compiled_leaves_fit (compiler : Compiler) {rule : Rule} {predicate : Predicate}
    (compiled : compiler.predicate rule = .ok predicate) :
    List.Forall₂
        (fun source leaf => ∃ operator,
          resolveOperator? compiler.options.operators source.operatorName = some operator ∧
            leaf.Fits operator)
        rule.leaves predicate.leaves ∧
      ∀ leaf ∈ predicate.leaves, ∀ fallback value,
        leaf.check.testOr fallback value = leaf.check.test value := by
  have each := (List.forall₂_and_left _ _).mpr
    ⟨fun _ member => Rule.of_mem_leaves member, Compiler.forall₂_leaves compiled⟩
  have fits : List.Forall₂
      (fun source leaf => ∃ operator,
        resolveOperator? compiler.options.operators source.operatorName = some operator ∧
          leaf.Fits operator) rule.leaves predicate.leaves := by
    refine each.imp ?_
    rintro source leaf ⟨⟨childless, named⟩, alone⟩
    obtain ⟨plan, _, leafOk, ⟨⟩⟩ := (Compiler.predicate_leaf_eq_ok_iff childless named).mp alone
    exact ⟨plan.operator, (Compiler.leaf_eq_ok_iff.mp leafOk).1.operator,
      Compiler.fits_of_leaf leafOk⟩
  refine ⟨fits, fun leaf member fallback value => ?_⟩
  obtain ⟨_, _, operator, _, leafFits⟩ := exists_of_forall₂_right fits member
  rw [leafFits.check.testOr_congr fallback false, leaf.check.testOr_false]

/-- A group of two rules on rows, one of them with a negated operator. -/
theorem compiled_leaves_fit_rows :
    ∃ predicate, nodeCompiler.predicate (.anyOf [rowsRule, amongRows]) = .ok predicate ∧
      rowsLeaf ∈ predicate.leaves ∧
      List.Forall₂
        (fun source leaf => ∃ operator,
          resolveOperator? [] source.operatorName = some operator ∧ leaf.Fits operator)
        [rowsRule, amongRows] predicate.leaves ∧
      ∀ fallback value, rowsLeaf.check.testOr fallback value = rowsLeaf.check.test value := by
  have rowsNamed : rowsRule.fieldPath ≠ "" := by decide +kernel
  have amongNamed : amongRows.fieldPath ≠ "" := by decide +kernel
  have leaves : (Rule.anyOf [rowsRule, amongRows]).leaves = [rowsRule, amongRows] := by
    rw [Rule.leaves_group (List.cons_ne_nil _ _)]
    show [rowsRule, amongRows].flatMap Rule.leaves = _
    rw [List.flatMap_cons, List.flatMap_cons, Rule.leaves_named rfl rowsNamed,
      Rule.leaves_named rfl amongNamed]
    rfl
  have compiled := nodeCompiler.predicate_of_children (.anyOf [rowsRule, amongRows])
    (List.cons_ne_nil _ _) (.cons rowsRule_compiles (.cons amongRows_compiles .nil))
  have fit := compiled_leaves_fit nodeCompiler compiled
  rw [leaves] at fit
  exact ⟨_, compiled, List.mem_cons_self, fit.1, fit.2 rowsLeaf List.mem_cons_self⟩

end RecordFilter
