import RecordFilter.Predicate.Compile
import RecordFilter.Proofs.Rule.Form

/-!
# Rules that are read back

A leaf whose literal is null fails as a leaf without literal does. So a rule compiles as it does
after it has been written and read back, which leaves its null literals out.
-/

namespace RecordFilter

/-! ## Null literals -/

theorem Coercer.coerce_bind_given? (coercer : Coercer) (context : LeafContext) (arity : Arity)
    (value : Option Json) :
    coercer.coerce context arity (value.bind Rule.given?) =
      coercer.coerce context arity value := by
  cases value with
  | none => rfl
  | some value =>
      by_cases present : value = .null
      · subst present
        simp [Coercer.coerce, Rule.given?]
      · rw [Option.bind_some, Rule.given?_of_ne_null present]

namespace Compiler

variable {compiler : Compiler}

/-- Only the literals of a leaf depend on its value. -/
theorem plan_bind_given? (rule : Rule) :
    compiler.plan { rule with value := rule.value.bind Rule.given? } = compiler.plan rule := by
  have field : Rule.fieldPath { rule with value := rule.value.bind Rule.given? } =
      rule.fieldPath := rfl
  have operator : Rule.operatorName { rule with value := rule.value.bind Rule.given? } =
      rule.operatorName := rfl
  have declared : declaredType { rule with value := rule.value.bind Rule.given? } =
      declaredType rule := by
    unfold declaredType
    rw [field]
  unfold plan
  simp only [field, operator, declared, Coercer.coerce_bind_given?]

theorem compileLeaf_bind_given? (rule : Rule) :
    compiler.compileLeaf { rule with value := rule.value.bind Rule.given? } =
      compiler.compileLeaf rule := by
  have vacuous : Rule.isVacuous { rule with value := rule.value.bind Rule.given? } =
      rule.isVacuous := rfl
  unfold compileLeaf leaf
  rw [vacuous, plan_bind_given?]

/-- Rules that compile alike one by one compile alike one after the other. -/
theorem compileTrees_map {change : Rule → Rule} {rules : List Rule}
    (each : ∀ rule ∈ rules, compiler.compileTree (change rule) = compiler.compileTree rule) :
    compiler.compileTrees (rules.map change) = compiler.compileTrees rules := by
  induction rules with
  | nil => rfl
  | cons first rest inductionHypothesis =>
      obtain ⟨head, others⟩ := List.forall_mem_cons.mp each
      rw [List.map_cons, compileTrees, compileTrees, head, inductionHypothesis others]

theorem compileTree_withoutNulls (rule : Rule) :
    compiler.compileTree rule.withoutNulls = compiler.compileTree rule := by
  induction rule using Rule.tree_induction with
  | node rule inductionHypothesis =>
      obtain ⟨condition, field, typeTag, operator, value, rules⟩ := rule
      cases rules with
      | nil =>
          rw [Rule.withoutNulls, Rule.withoutNullsAll, compileTree, compileTree]
          exact compileLeaf_bind_given? ⟨condition, field, typeTag, operator, value, []⟩
      | cons first rest =>
          obtain ⟨head, others⟩ := List.forall_mem_cons.mp inductionHypothesis
          have tail := compileTrees_map others
          rw [Rule.withoutNulls, Rule.withoutNullsAll, Rule.withoutNullsAll_eq_map, compileTree,
            compileTree, head, tail]

/-- Null literals change neither the predicate nor the error of a rule, nor what is logged. -/
theorem compile_withoutNulls (rule : Rule) (elapsed : String) :
    compiler.compile (some rule.withoutNulls) elapsed =
      compiler.compile (some rule) elapsed := by
  have same : compiler.compileRule (some rule.withoutNulls) = compiler.compileRule (some rule) :=
    compileTree_withoutNulls rule
  unfold Compiler.compile
  rw [same]

end Compiler

/-! ## Reading back -/

/-- A rule is read back from each of its forms, which differ in the order of members and in the
spelling of their names: as the same rule when no literal is null, and always as a rule that
compiles alike. -/
theorem rule_read_back_from_forms {rule : Rule} (ordered : rule.EachLiteral Json.IsOrdered) :
    rule.Form rule.toJson ∧
      ∀ form, rule.Form form → ∃ reread, Rule.ofJson? form = some reread ∧
        (rule.EachLiteral (· ≠ .null) → reread = rule) ∧
        ∀ (compiler : Compiler) (elapsed : String),
          compiler.compile (some reread) elapsed = compiler.compile (some rule) elapsed := by
  refine ⟨Rule.form_toJson rule, fun form written => ?_⟩
  refine ⟨rule.withoutNulls, Rule.readsBack_form ordered written, ?_, ?_⟩
  · exact Rule.withoutNulls_eq_self
  · intro compiler elapsed
    exact Compiler.compile_withoutNulls rule elapsed

theorem rule_read_back_from_forms_renamed :
    (Rule.ofJson? (.object [("Rules", .array [.object [("value", .object [("from", .integer 18)]),
        ("Condition", .string "AND"), ("field", .string "Age"), ("Type", .string "integer"),
        ("Operator", .string "equal")]]), ("condition", .string "OR")]) =
      some (.anyOf [.leaf "Age" "equal" "integer" (.object [("from", .integer 18)])])) ∧
    ∃ reread, Rule.ofJson? (((Rule.test "Name" "equal").withValue .null).toJson) = some reread ∧
      ∀ (compiler : Compiler) (elapsed : String),
        compiler.compile (some reread) elapsed =
          compiler.compile (some ((Rule.test "Name" "equal").withValue .null)) elapsed := by
  constructor
  · have literals : ∀ holds : Json → Prop, holds (.object [("from", .integer 18)]) →
        Rule.EachLiteral holds
          (.anyOf [.leaf "Age" "equal" "integer" (.object [("from", .integer 18)])]) := by
      intro holds own
      apply Rule.EachLiteral.node (by simp [Rule.anyOf, Rule.group, Rule.empty])
      intro child member
      rw [List.mem_singleton.mp member]
      apply Rule.EachLiteral.node
      · simpa [Rule.leaf, Rule.withValue] using own
      · simp [Rule.leaf, Rule.withValue, Rule.withType, Rule.test, Rule.empty]
    have ordered : Json.IsOrdered (.object [("from", .integer 18)]) := by
      apply Json.IsOrdered.object
      · simp
      · intro member inOrder
        rw [List.mem_singleton.mp inOrder]
        exact .number (.integer 18)
    have leaf : Rule.Form (.leaf "Age" "equal" "integer" (.object [("from", .integer 18)]))
        (.object [("value", .object [("from", .integer 18)]), ("Condition", .string "AND"),
          ("field", .string "Age"), ("Type", .string "integer"),
          ("Operator", .string "equal")]) := by
      apply Rule.Form.object .nil
      · exact .cons (.pascal .condition _) (.cons (.same _) (.cons (.pascal .type _)
          (.cons (.pascal .operator _) (.cons (.same _) .nil))))
      · exact List.perm_append_singleton ("value", _) [_, _, _, _]
    obtain ⟨reread, found, same, _⟩ :=
      (rule_read_back_from_forms (literals Json.IsOrdered ordered)).2 _
        (.object (.cons leaf .nil) (.cons (.same _) (.cons (.pascal .rules _) .nil))
          (.swap _ _ []))
    rw [same (literals (· ≠ .null) (by simp))] at found
    exact found
  · have ordered :
        Rule.EachLiteral Json.IsOrdered ((Rule.test "Name" "equal").withValue .null) := by
      apply Rule.EachLiteral.node
      · simpa [Rule.withValue] using Json.IsOrdered.null
      · simp [Rule.withValue, Rule.test, Rule.empty]
    obtain ⟨written, read⟩ := rule_read_back_from_forms ordered
    obtain ⟨reread, found, _, alike⟩ := read _ written
    exact ⟨reread, found, alike⟩

end RecordFilter
