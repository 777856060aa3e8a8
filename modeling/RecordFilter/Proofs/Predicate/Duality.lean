import RecordFilter.Proofs.Path.Soundness
import RecordFilter.Proofs.Predicate.Tree
import RecordFilter.Proofs.Rule.Dual

/-!
# Duality

The dual of a rule gives the opposite answer. An operator and its partner make complementary
tests and quantify over lists in opposite ways, so a scan of the same outcomes is settled at
the same place; and groups with AND and OR swapped stop at the same child. The errors are the
same. This needs that no outcome is dropped, because a dropped one counts as false on both
sides: without null checks none is in a conforming record.
-/

namespace RecordFilter

/-! ## Scans -/

namespace Quantifier

def dual : Quantifier → Quantifier
  | any => all
  | all => any

theorem ofNone_dual (quantifier : Quantifier) :
    quantifier.dual.ofNone = !quantifier.ofNone := by
  cases quantifier <;> rfl

theorem isSettledBy_dual (quantifier : Quantifier) (passed : Bool) :
    quantifier.dual.isSettledBy (!passed) = quantifier.isSettledBy passed := by
  cases quantifier <;> cases passed <;> rfl

/-- Opposite answers under the opposite quantifier make the opposite answer: the visit ends at the
same item. -/
theorem visitItems_dual {α β : Type} {quantifier : Quantifier}
    {visit : α → Except EvalError Bool} {revisit : β → Except EvalError Bool} {items : List α}
    {duals : List β}
    (opposite : List.Forall₂ (fun item dual => revisit dual = (visit item).map Bool.not) items
      duals) :
    quantifier.dual.visitItems revisit duals =
      (quantifier.visitItems visit items).map Bool.not := by
  induction opposite with
  | nil => exact congrArg Except.ok quantifier.ofNone_dual
  | @cons item dual _ _ same _ inductionHypothesis =>
      rw [visitItems_cons, visitItems_cons, same, inductionHypothesis]
      cases visit item with
      | error error => rfl
      | ok passed =>
          change quantifier.dual.orElse (.ok !passed) _ = _
          rw [orElse_ok, orElse_ok, isSettledBy_dual]
          by_cases settled : quantifier.isSettledBy passed = true
          · rw [if_pos settled, if_pos settled]
            rfl
          · rw [if_neg settled, if_neg settled]

end Quantifier

theorem Condition.quantifier_dual (condition : Condition) :
    condition.dual.quantifier = condition.quantifier.dual := by
  cases condition <;> rfl

/-- Complementary tests and opposite quantifiers give opposite answers and equal errors. -/
theorem Outcome.scan_dual {quantifier : Quantifier} {test other : Value → Bool}
    (complement : ∀ value, other value = !test value) {outcomes : List Outcome}
    (kept : ∀ cause, .dropped cause ∉ outcomes) :
    scan quantifier.dual other outcomes = (scan quantifier test outcomes).map Bool.not := by
  induction outcomes with
  | nil =>
      rw [scan_nil, scan_nil, Quantifier.ofNone_dual]
      rfl
  | cons outcome rest inductionHypothesis =>
      have restKept : ∀ cause, .dropped cause ∉ rest :=
        fun cause member => kept cause (List.mem_cons_of_mem outcome member)
      cases outcome with
      | dropped cause => exact absurd List.mem_cons_self (kept cause)
      | failed error => rfl
      | reached value =>
          rw [scan, scan, complement, Quantifier.isSettledBy_dual]
          by_cases settled : quantifier.isSettledBy (test value) = true
          · rw [if_pos settled, if_pos settled]
            rfl
          · rw [if_neg settled, if_neg settled]
            exact inductionHypothesis restKept

/-! ## Leaves -/

/-- The check with the opposite answer; custom checks have none and stay. -/
def Check.dual : Check → Check
  | builtin operator negated operands semantics =>
      builtin operator (!negated) operands semantics
  | mapKey keys negated => mapKey keys (!negated)
  | custom operator operands => custom operator operands

theorem Check.test_dual {check : Check}
    (builtin : ∀ operator operands, check ≠ .custom operator operands) (value : Value) :
    check.dual.test value = !check.test value := by
  cases check with
  | builtin operator negated operands semantics => simp [dual, test]
  | mapKey keys negated => simp [dual, test]
  | custom operator operands => exact absurd rfl (builtin operator operands)

def Leaf.dual (leaf : Leaf) : Leaf :=
  ⟨leaf.chain, leaf.quantifier.dual, leaf.check.dual⟩

theorem Leaf.evaluate_dual {leaf : Leaf} {record : Value}
    (builtin : ∀ operator operands, leaf.check ≠ .custom operator operands)
    (kept : ∀ cause, .dropped cause ∉ leaf.chain.outcomes record) :
    leaf.dual.evaluate record = (leaf.evaluate record).map Bool.not := by
  unfold Leaf.evaluate
  rw [Chain.visit_eq_scan, Chain.visit_eq_scan]
  exact Outcome.scan_dual (Check.test_dual builtin) kept

/-! ## Compiling a leaf with the partner of its operator -/

/-- The same leaf with another operator. -/
def LeafPlan.withOperator (plan : LeafPlan) (operator : Operator) : LeafPlan :=
  { plan with operator := .builtin operator }

theorem LeafPlan.quantifier_withOperator_partner {plan : LeafPlan} {operator : Operator}
    (paired : operator.isPaired = true) :
    (plan.withOperator operator.partner).quantifier =
      (if operator.isNegated then Quantifier.all else .any).dual := by
  rw [quantifier_of_builtin rfl, Operator.isNegated_partner paired]
  cases operator.isNegated <;> rfl

theorem Checks.partner {options : Options} {operator : Operator} {plan : LeafPlan}
    {check : Check} (paired : operator.isPaired = true)
    (checks : Checks options operator plan check) :
    Checks options operator.partner (plan.withOperator operator.partner) check.dual := by
  have negated := Operator.isNegated_partner paired
  have positive : operator.partner.positive = operator.positive := Operator.positive_partner
  cases checks with
  | presence presence =>
      rw [Check.dual, ← negated, ← positive]
      exact .presence (Operator.isPresenceTest_partner.trans presence)
  | keys takes map contains =>
      rw [Check.dual, ← negated]
      exact .keys (Operator.isPresenceTest_partner.trans takes) map (positive.trans contains)
  | compared takes ordered adapts =>
      rw [Check.dual, ← negated, ← positive]
      refine .compared (Operator.isPresenceTest_partner.trans takes) ?_ ?_
      · intro needs
        exact ordered (Operator.needsOrder_partner.symm.trans needs)
      · rw [Operator.isTextMatch_partner]
        exact adapts

theorem Checks.not_custom {options : Options} {operator : Operator} {plan : LeafPlan}
    {check : Check} (checks : Checks options operator plan check) (custom : CustomOperator)
    (operands : List Literal) : check ≠ .custom custom operands := by
  rintro rfl
  cases checks

namespace Compiler

variable {compiler : Compiler} {rule other : Rule} {operator : Operator} {plan : LeafPlan}
  {leaf : Leaf}

/-- Rules that differ in their operators only, which are partners. -/
structure Partners (rule other : Rule) (operator : Operator) : Prop where
  field : other.fieldPath = rule.fieldPath
  typeTag : other.typeTag = rule.typeTag
  value : other.value = rule.value
  named : Operator.ofName? rule.operatorName = some operator
  partnerNamed : Operator.ofName? other.operatorName = some operator.partner

theorem Partners.symm (partners : Partners rule other operator) :
    Partners other rule operator.partner where
  field := partners.field.symm
  typeTag := partners.typeTag.symm
  value := partners.value.symm
  named := partners.partnerNamed
  partnerNamed := by rw [Operator.partner_partner, partners.named]

theorem Plans.partner (builtin : compiler.options.operators = [])
    (partners : Partners rule other operator) (plans : compiler.Plans rule plan) :
    compiler.Plans other (plan.withOperator operator.partner) := by
  have operatorOfPlan := plans.builtin builtin partners.named
  have arity : plan.operator.arity = operator.partner.arity := by
    rw [operatorOfPlan, Operator.arity_partner]
    rfl
  obtain ⟨resolved, found, extended⟩ := plans.chain
  refine ⟨?_, ?_, ?_, ?_, ⟨resolved, ?_, ?_⟩, ?_⟩
  · rw [partners.field]
    exact plans.field
  · exact resolveOperator?_builtin builtin partners.partnerNamed
  · exact declaredType_of_typeTag plans.declared partners.typeTag
  · intro named same needs
    cases same
    rw [Operator.needsOrder_partner] at needs
    exact plans.orderable operator operatorOfPlan needs
  · rw [partners.field]
    exact found
  · rw [arity] at extended
    exact extended
  · have literals := plans.literals
    rw [arity, ← partners.value] at literals
    refine (Coercer.coerce_congr ?_).mp literals
    rfl

theorem leaf_partner (builtin : compiler.options.operators = [])
    (partners : Partners rule other operator) (paired : operator.isPaired = true)
    (compiled : compiler.leaf rule = .ok (plan, leaf)) :
    compiler.leaf other = .ok (plan.withOperator operator.partner, leaf.dual) := by
  obtain ⟨plans, checked, chain, quantifier⟩ := leaf_eq_ok_iff.mp compiled
  have operatorOfPlan := plans.builtin builtin partners.named
  refine leaf_eq_ok_iff.mpr ⟨plans.partner builtin partners, ?_, chain, ?_⟩
  · have checks := (check_eq_ok_iff_of_builtin operatorOfPlan).mp checked
    exact (check_eq_ok_iff_of_builtin rfl).mpr (checks.partner paired)
  · rw [Leaf.dual, quantifier, LeafPlan.quantifier_of_builtin operatorOfPlan]
    exact (LeafPlan.quantifier_withOperator_partner paired).symm

/-- Predicates with opposite answers and equal errors on every conforming record. -/
def Opposite (compiler : Compiler) (compiled dual : Predicate) : Prop :=
  ∀ record, Conforms compiler.schema (fun _ => True) (.object compiler.root) record →
    dual.evaluate record = (compiled.evaluate record).map Bool.not

theorem leaf_opposite (builtin : compiler.options.operators = [])
    (unguarded : compiler.options.nullChecks = false)
    (named : Operator.ofName? rule.operatorName = some operator)
    (compiled : compiler.leaf rule = .ok (plan, leaf)) :
    compiler.Opposite (.leaf leaf) (.leaf leaf.dual) := by
  intro record conforms
  obtain ⟨plans, checked, chain, _⟩ := leaf_eq_ok_iff.mp compiled
  rw [Predicate.evaluate, Predicate.evaluate]
  apply Leaf.evaluate_dual
  · have operatorOfPlan := plans.builtin builtin named
    exact ((check_eq_ok_iff_of_builtin operatorOfPlan).mp checked).not_custom
  · intro cause member
    rw [chain] at member
    have admitted := Chain.outcomes_admitted .all plans.leads conforms _ member
    cases admitted with
    | guardedNull guarded =>
        rw [plans.nullGuard, unguarded] at guarded
        cases guarded

/-! ## Groups -/

section Groups

variable {children duals : List Predicate}

theorem join_opposite (condition : Condition)
    (opposite : List.Forall₂ compiler.Opposite children duals) :
    compiler.Opposite (join condition children) (join condition.dual duals) := by
  intro record conforms
  have each : List.Forall₂ (fun (child dual : Predicate) =>
      dual.evaluate record = (child.evaluate record).map Bool.not) children duals :=
    opposite.imp fun _ _ opposed => opposed record conforms
  rw [evaluate_join, evaluate_join, condition.quantifier_dual]
  exact Quantifier.visitItems_dual each

end Groups

/-! ## Trees -/

theorem partners_dual (named : Operator.ofName? rule.operatorName = some operator) :
    Partners rule rule.dual operator where
  field := rule.fieldPath_dual
  typeTag := rule.typeTag_dual
  value := rule.value_dual
  named := named
  partnerNamed := rule.ofName?_operatorName_dual named

/-- A tree and its dual both compile, to opposite predicates, or neither does. The induction
is on the tree; groups compile and answer by their children. -/
theorem counterparts_dual (builtin : compiler.options.operators = [])
    (unguarded : compiler.options.nullChecks = false) (paired : rule.IsPaired) :
    Counterparts compiler.Opposite (compiler.predicate rule) (compiler.predicate rule.dual) := by
  induction paired with
  | @leaf rule operator childless field named paired =>
      have partners := partners_dual named
      have dualChildless : rule.dual.rules = [] := by rw [rule.rules_dual, childless]; rfl
      have dualField : rule.dual.fieldPath ≠ "" := by rwa [rule.fieldPath_dual]
      refine .of_ok ?_ ?_
      · intro compiled compiledOk
        obtain ⟨plan, leaf, leafOk, rfl⟩ :=
          (predicate_leaf_eq_ok_iff childless field).mp compiledOk
        refine ⟨.leaf leaf.dual, ?_, leaf_opposite builtin unguarded named leafOk⟩
        exact (predicate_leaf_eq_ok_iff dualChildless dualField).mpr
          ⟨_, leaf.dual, leaf_partner builtin partners paired leafOk, rfl⟩
      · intro dual dualOk
        -- The partner of the partner is the operator itself, so the way back is the way there.
        obtain ⟨plan, leaf, leafOk, rfl⟩ :=
          (predicate_leaf_eq_ok_iff dualChildless dualField).mp dualOk
        have dualPaired : operator.partner.isPaired = true := by
          rw [Operator.isPaired_partner, paired]
        exact ⟨.leaf leaf.dual, (predicate_leaf_eq_ok_iff childless field).mpr
          ⟨_, leaf.dual, leaf_partner builtin partners.symm dualPaired leafOk, rfl⟩⟩
  | @group rule children each inductionHypothesis =>
      have dualChildren : rule.dual.rules ≠ [] := by
        rw [rule.rules_dual]
        exact fun none => children (List.map_eq_nil_iff.mp none)
      rw [predicate_group children, predicate_group dualChildren, rule.rules_dual,
        rule.condition_dual, List.mapM_map]
      exact (Counterparts.mapM inductionHypothesis).map fun _ _ => join_opposite rule.condition

end Compiler

/-- The dual of a tree compiles exactly when the tree does. On every record of the shape it
gives the opposite answer, or the same error. -/
theorem dual_answers_opposite (compiler : Compiler)
    (builtin : compiler.options.operators = [])
    (unguarded : compiler.options.nullChecks = false) {rule : Rule} (paired : rule.IsPaired) :
    ((∃ compiled, compiler.predicate rule = .ok compiled) ↔
      ∃ dual, compiler.predicate rule.dual = .ok dual) ∧
    ∀ compiled dual, compiler.predicate rule = .ok compiled →
      compiler.predicate rule.dual = .ok dual →
        ∀ record, Conforms compiler.schema (fun _ => True) (.object compiler.root) record →
          dual.evaluate record = (compiled.evaluate record).map Bool.not := by
  have counterparts := Compiler.counterparts_dual builtin unguarded paired
  refine ⟨counterparts.exists_ok_iff, fun compiled dual compiledOk dualOk record conforms => ?_⟩
  exact counterparts.values compiledOk dualOk record conforms

/-- Nodes with optional rows of numbers, under the default options. -/
def nodeCompiler : Compiler :=
  ⟨.default, nodeSchema, "Node"⟩

def rowsRule : Rule :=
  .leaf " Rows" "NOT_IN" "long" (.array [.number (.integer 7), .number (.integer 8)])

def rowsLeaf : Leaf :=
  ⟨⟨"Rows", [.member "Rows", .each, .each], .long, false⟩, .all,
    .builtin .oneOf true [.int 7, .int 8] ⟨false, false, false⟩⟩

def rowsPlan : LeafPlan :=
  ⟨"Rows", .builtin .notOneOf, .long, rowsLeaf.chain, [.int 7, .int 8]⟩

theorem rowsRule_named : Operator.ofName? rowsRule.operatorName = some .notOneOf := by
  decide +kernel

theorem rowsRule_plans : nodeCompiler.Plans rowsRule rowsPlan := by
  have field : rowsRule.fieldPath = "Rows" := by decide +kernel
  have split : Resolver.segmentsOf (Text.trim "Rows") = ["Rows"] := by decide +kernel
  have followed :
      nodeCompiler.resolver.follow (Text.trim "Rows") (.object "Node") ["Rows"] =
        .ok ([.member "Rows"], .list (.nullable (.list .long))) :=
    Resolver.follow_member rfl rfl rfl
  have resolved := Resolver.resolve_of_follow split (by decide) followed
  have trimmed : Text.trim "Rows" = "Rows" := by decide +kernel
  rw [trimmed, ← field] at resolved
  exact {
    field := field.symm
    operator := Compiler.resolveOperator?_builtin rfl rowsRule_named
    declared := Compiler.declaredType_of_tag rfl (by decide +kernel) (by decide +kernel)
    orderable := by
      rintro operator ⟨⟩
      exact fun _ => rfl
    chain := ⟨_, resolved, by rw [field]; rfl⟩
    literals := rfl }

theorem rowsRule_compiles : nodeCompiler.predicate rowsRule = .ok (.leaf rowsLeaf) := by
  have compiled : nodeCompiler.leaf rowsRule = .ok (rowsPlan, rowsLeaf) :=
    Compiler.leaf_eq_ok_iff.mpr ⟨rowsRule_plans, rfl, rfl, rfl⟩
  exact (Compiler.predicate_leaf_eq_ok_iff rfl (by decide +kernel)).mpr
    ⟨rowsPlan, rowsLeaf, compiled, rfl⟩

theorem rowsRule_paired : rowsRule.IsPaired :=
  .leaf rfl (by decide +kernel) rowsRule_named rfl

/-- A rule within groups passes a node without rows, so its dual does not. -/
theorem dual_answers_opposite_rows :
    let rule := Rule.allOf [rowsRule, .anyOf [rowsRule]]
    ∃ compiled dual, nodeCompiler.predicate rule = .ok compiled ∧
      nodeCompiler.predicate rule.dual = .ok dual ∧
        compiled.evaluate twoNodes = .ok true ∧ dual.evaluate twoNodes = .ok false := by
  have inner : nodeCompiler.predicate (.anyOf [rowsRule]) =
      .ok (.anyOf [.leaf rowsLeaf]) :=
    (Compiler.predicate_group_eq_ok_iff (by decide)).mpr
      ⟨_, .cons rowsRule_compiles .nil, rfl⟩
  have outer : nodeCompiler.predicate (.allOf [rowsRule, .anyOf [rowsRule]]) =
      .ok (.allOf [.leaf rowsLeaf, .anyOf [.leaf rowsLeaf]]) :=
    (Compiler.predicate_group_eq_ok_iff (by decide)).mpr
      ⟨_, .cons rowsRule_compiles (.cons inner .nil), rfl⟩
  have innerPaired : (Rule.anyOf [rowsRule]).IsPaired := by
    refine .group (by decide) fun child member => ?_
    rw [List.mem_singleton.mp member]
    exact rowsRule_paired
  have outerPaired : (Rule.allOf [rowsRule, .anyOf [rowsRule]]).IsPaired := by
    refine .group (by decide) fun child member => ?_
    rcases List.mem_pair.mp member with rfl | rfl
    · exact rowsRule_paired
    · exact innerPaired
  have answers := dual_answers_opposite nodeCompiler rfl rfl outerPaired
  obtain ⟨dual, dualOk⟩ := answers.1.mp ⟨_, outer⟩
  have passes : (Predicate.allOf [.leaf rowsLeaf, .anyOf [.leaf rowsLeaf]]).evaluate twoNodes =
      .ok true := rfl
  have opposite := answers.2 _ dual outer dualOk twoNodes (twoNodes_conform.imp fun _ _ => trivial)
  rw [passes] at opposite
  exact ⟨_, dual, outer, dualOk, passes, opposite⟩

end RecordFilter
