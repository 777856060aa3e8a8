import RecordFilter.Proofs.Path.Scan
import RecordFilter.Proofs.Predicate.Plan
import RecordFilter.Proofs.Rule.Tree

/-!
# Trees that compile

The predicate of a rule does not depend on what is logged. A group compiles exactly when its
children do, and its predicate joins theirs in order.
-/

namespace RecordFilter

namespace Compiler

variable {compiler : Compiler} {rule : Rule} {compiled : Predicate}

/-- The predicate of a rule tree, or the first error. -/
def predicate (compiler : Compiler) (rule : Rule) : Except CompileError Predicate :=
  (compiler.compileTree rule).result

theorem result_compile (compiler : Compiler) (rule : Rule) (elapsed : String) :
    (compiler.compile (some rule) elapsed).result = compiler.predicate rule := rfl

theorem result_compileTrees_cons (first : Rule) (rest : List Rule) :
    (compiler.compileTrees (first :: rest)).result =
      (compiler.predicate first).bind fun child =>
        (compiler.compileTrees rest).result.map (child :: ·) := by
  rw [compileTrees]
  unfold Compiler.predicate
  generalize compiler.compileTree first = head
  generalize compiler.compileTrees rest = tail
  obtain ⟨head, headLog⟩ := head
  obtain ⟨tail, tailLog⟩ := tail
  cases head with
  | error error => rfl
  | ok child => rfl

theorem result_compileTrees (rules : List Rule) :
    (compiler.compileTrees rules).result = rules.mapM compiler.predicate := by
  induction rules with
  | nil => rfl
  | cons first rest inductionHypothesis =>
      rw [result_compileTrees_cons, List.mapM_cons, inductionHypothesis]
      rfl

theorem predicate_leaf (childless : rule.rules = []) :
    compiler.predicate rule = (compiler.compileLeaf rule).result := by
  cases rule
  subst childless
  rw [predicate, compileTree]

/-- A group compiles the list of its children and joins them. -/
theorem predicate_group (children : rule.rules ≠ []) :
    compiler.predicate rule =
      (rule.rules.mapM compiler.predicate).map (join rule.condition) := by
  obtain ⟨condition, field, typeTag, operator, value, rules⟩ := rule
  cases rules with
  | nil => exact absurd rfl children
  | cons first rest =>
      rw [← result_compileTrees, result_compileTrees_cons, predicate, compileTree]
      unfold Compiler.predicate
      generalize compiler.compileTree first = head
      generalize compiler.compileTrees rest = tail
      obtain ⟨head, headLog⟩ := head
      obtain ⟨tail, tailLog⟩ := tail
      cases head with
      | error error => rfl
      | ok child => cases tail <;> rfl

theorem predicate_group_eq_ok_iff (children : rule.rules ≠ []) :
    compiler.predicate rule = .ok compiled ↔
      ∃ predicates,
        List.Forall₂ (fun child predicate => compiler.predicate child = .ok predicate)
          rule.rules predicates ∧
        join rule.condition predicates = compiled := by
  rw [predicate_group children, map_eq_ok_iff]
  simp only [mapM_eq_ok_iff]

/-- Children that compile make a group that compiles to their predicates, joined. -/
theorem predicate_of_children (compiler : Compiler) (rule : Rule) {predicates : List Predicate}
    (children : rule.rules ≠ [])
    (each : List.Forall₂ (fun child predicate => compiler.predicate child = .ok predicate)
      rule.rules predicates) :
    compiler.predicate rule = .ok (join rule.condition predicates) :=
  (predicate_group_eq_ok_iff children).mpr ⟨predicates, each, rfl⟩

theorem predicate_vacuous (childless : rule.rules = []) (unnamed : rule.fieldPath = "") :
    compiler.predicate rule = .ok .always := by
  have vacuous : rule.isVacuous = true := by
    simp [Rule.isVacuous, childless, unnamed]
  rw [predicate_leaf childless]
  unfold compileLeaf
  rw [if_pos vacuous]

/-- A rule that tests a field compiles to its leaf. -/
theorem predicate_named (childless : rule.rules = []) (named : rule.fieldPath ≠ "") :
    compiler.predicate rule = (compiler.leaf rule).map fun (_, leaf) => .leaf leaf := by
  have tests : rule.isVacuous = false := by
    simp [Rule.isVacuous, childless, named]
  rw [predicate_leaf childless]
  unfold compileLeaf
  rw [if_neg (ne_true_of_eq_false tests)]
  cases compiler.leaf rule with
  | error error => rfl
  | ok found => rfl

theorem predicate_leaf_eq_ok_iff (childless : rule.rules = []) (named : rule.fieldPath ≠ "") :
    compiler.predicate rule = .ok compiled ↔
      ∃ plan leaf, compiler.leaf rule = .ok (plan, leaf) ∧ .leaf leaf = compiled := by
  rw [predicate_named childless named, map_eq_ok_iff]
  simp only [Prod.exists]

/-- A planned leaf compiles to its check. -/
theorem predicate_of_plan {plan : LeafPlan} (childless : rule.rules = [])
    (named : rule.fieldPath ≠ "") (planned : compiler.plan rule = .ok plan) :
    compiler.predicate rule =
      (compiler.check plan).map fun check => .leaf ⟨plan.chain, plan.quantifier, check⟩ := by
  rw [predicate_named childless named, Compiler.leaf, planned]
  change ((compiler.check plan).bind _).map _ = _
  cases compiler.check plan <;> rfl

theorem predicate_of_plan_error {error : CompileError} (childless : rule.rules = [])
    (named : rule.fieldPath ≠ "") (failed : compiler.plan rule = .error error) :
    compiler.predicate rule = .error error := by
  rw [predicate_named childless named, Compiler.leaf, failed]
  rfl

/-- Groups and vacuous rules compile to no leaf. -/
theorem tests_of_predicate {leaf : Leaf}
    (compiledOk : compiler.predicate rule = .ok (.leaf leaf)) :
    rule.rules = [] ∧ rule.fieldPath ≠ "" := by
  have childless : rule.rules = [] := by
    by_contra children
    obtain ⟨predicates, _, joined⟩ := (predicate_group_eq_ok_iff children).mp compiledOk
    generalize rule.condition = condition at joined
    cases condition with
    | and => cases joined
    | or => cases joined
  refine ⟨childless, fun unnamed => ?_⟩
  cases (predicate_vacuous childless unnamed).symm.trans compiledOk

/-- A compiled leaf comes from a plan. -/
theorem leaf_of_predicate {leaf : Leaf}
    (compiledOk : compiler.predicate rule = .ok (.leaf leaf)) :
    ∃ plan, compiler.leaf rule = .ok (plan, leaf) := by
  obtain ⟨childless, named⟩ := tests_of_predicate compiledOk
  obtain ⟨plan, other, leafOk, same⟩ := (predicate_leaf_eq_ok_iff childless named).mp compiledOk
  cases same
  exact ⟨plan, leafOk⟩

theorem plans_of_predicate {leaf : Leaf} (compiledOk : compiler.predicate rule = .ok (.leaf leaf)) :
    ∃ plan, compiler.Plans rule plan ∧ leaf.chain = plan.chain := by
  obtain ⟨plan, leafOk⟩ := leaf_of_predicate compiledOk
  obtain ⟨plans, _, chain, _⟩ := leaf_eq_ok_iff.mp leafOk
  exact ⟨plan, plans, chain⟩

/-- The chain of a compiled leaf is typed. -/
theorem leads_of_predicate {leaf : Leaf} (compiledOk : compiler.predicate rule = .ok (.leaf leaf)) :
    Leads compiler.schema (.object compiler.root) leaf.chain.steps leaf.chain.target := by
  obtain ⟨plan, plans, chain⟩ := plans_of_predicate compiledOk
  rw [chain]
  exact plans.leads

end Compiler

/-! ## Predicates as trees -/

/-- What holds of vacuous predicates and leaves, and of negations and groups once it holds of what
they are made of, holds of every predicate. -/
@[elab_as_elim]
theorem Predicate.tree_induction {motive : Predicate → Prop} (always : motive always)
    (leaf : ∀ compiled, motive (leaf compiled))
    (negation : ∀ inner, motive inner → motive (negation inner))
    (group : ∀ condition children, (∀ child ∈ children, motive child) →
      motive (Compiler.join condition children)) :
    ∀ predicate, motive predicate
  | .always => always
  | .leaf compiled => leaf compiled
  | .negation inner => negation inner (tree_induction always leaf negation group inner)
  | .allOf children =>
      group .and children fun child _member => tree_induction always leaf negation group child
  | .anyOf children =>
      group .or children fun child _member => tree_induction always leaf negation group child

/-! ## Evaluating leaves -/

/-- Where the chain reaches one value, the leaf answers what its check says of it. -/
theorem Leaf.evaluate_of_reached {leaf : Leaf} {record value : Value}
    (reached : leaf.chain.outcomes record = [.reached value]) :
    leaf.evaluate record = .ok (leaf.check.test value) := by
  rw [evaluate, Chain.visit_eq_scan, reached, Outcome.scan_reached]

/-! ## Evaluating groups -/

/-- How a group visits its children. -/
def Condition.quantifier : Condition → Quantifier
  | and => .all
  | or => .any

section Groups

variable {record : Value} {children : List Predicate}

theorem Predicate.evaluateAll_eq_visitItems :
    evaluateAll record children = Quantifier.all.visitItems (evaluate record) children := by
  induction children with
  | nil => rfl
  | cons child rest inductionHypothesis =>
      rw [evaluateAll, Quantifier.visitItems_cons, inductionHypothesis]
      cases child.evaluate record with
      | error error => rfl
      | ok passed => cases passed <;> rfl

theorem Predicate.evaluateAny_eq_visitItems :
    evaluateAny record children = Quantifier.any.visitItems (evaluate record) children := by
  induction children with
  | nil => rfl
  | cons child rest inductionHypothesis =>
      rw [evaluateAny, Quantifier.visitItems_cons, inductionHypothesis]
      cases child.evaluate record with
      | error error => rfl
      | ok passed => cases passed <;> rfl

theorem Compiler.evaluate_join (condition : Condition) :
    (join condition children).evaluate record =
      condition.quantifier.visitItems (Predicate.evaluate record) children := by
  cases condition with
  | and =>
      rw [join, Predicate.evaluate]
      exact Predicate.evaluateAll_eq_visitItems
  | or =>
      rw [join, Predicate.evaluate]
      exact Predicate.evaluateAny_eq_visitItems

end Groups

end RecordFilter
