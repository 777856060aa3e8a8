import RecordFilter.Proofs.Path.Wrappers
import RecordFilter.Proofs.Predicate.Duality

/-!
# Nullable wrappers

Nullable wrappers in the shapes do not take part in compiling or evaluating. Families of shapes
that agree without them compile the same rules, to predicates with the same steps, quantifiers
and checks, and refuse the others with the same errors. Only the type that a mismatch names
still shows its wrappers.
-/

namespace RecordFilter

/-- The error without the name of the field's type. -/
def CompileError.withoutFieldType : CompileError → CompileError
  | typeMismatch context _ reason => typeMismatch context "" reason
  | other => other

def LeafPlan.unwrapped (plan : LeafPlan) : LeafPlan :=
  { plan with chain := plan.chain.unwrapped }

def Leaf.unwrapped (leaf : Leaf) : Leaf :=
  { leaf with chain := leaf.chain.unwrapped }

namespace Predicate

mutual

/-- The predicate whose chains end at types without nullable wrappers. -/
def unwrapped : Predicate → Predicate
  | always => always
  | allOf children => allOf (unwrappedAll children)
  | anyOf children => anyOf (unwrappedAll children)
  | negation inner => negation (unwrapped inner)
  | leaf compiled => leaf compiled.unwrapped

def unwrappedAll : List Predicate → List Predicate
  | [] => []
  | child :: rest => unwrapped child :: unwrappedAll rest

end

theorem unwrappedAll_eq_map (children : List Predicate) :
    unwrappedAll children = children.map unwrapped := by
  induction children with
  | nil => rfl
  | cons child rest inductionHypothesis =>
      rw [unwrappedAll, inductionHypothesis, List.map_cons]

end Predicate

/-! ## Compiling -/

namespace Compiler

open CompileError

def unwrapped (compiler : Compiler) : Compiler :=
  { compiler with schema := compiler.schema.unwrapped }

variable {options : Options} {operator : Operator} (compiler : Compiler) (rule : Rule)

theorem extendChain_unwrapped (arity : Arity) (chain : Chain) :
    extendChain arity chain.unwrapped = (extendChain arity chain).unwrapped := by
  unfold extendChain
  split
  · rfl
  · exact chain.throughLists_unwrapped

/-- Planning reads the shapes in resolving the path only, and inspects no target. -/
theorem plan_unwrapped :
    compiler.unwrapped.plan rule = (compiler.plan rule).map LeafPlan.unwrapped := by
  have resolves :
      compiler.unwrapped.resolver.resolve (.object compiler.root) rule.fieldPath =
        (compiler.resolver.resolve (.object compiler.root) rule.fieldPath).map
          Chain.unwrapped :=
    compiler.resolver.resolve_unwrapped rule.fieldPath (.object compiler.root)
  have root : compiler.unwrapped.root = compiler.root := rfl
  have options : compiler.unwrapped.options = compiler.options := rfl
  unfold plan
  simp only [root, options, resolves]
  cases resolveOperator? compiler.options.operators rule.operatorName with
  | none => rfl
  | some operator =>
      simp only [map_bind, bind_of_map, extendChain_unwrapped]
      rfl

/-- An enum without the named member is no mismatch of types. -/
theorem withoutFieldType_enumMember (caseSensitive : Bool) (context : LeafContext)
    (members : List (String × Int)) (literal : Literal) :
    (enumMember caseSensitive context members literal).mapError withoutFieldType =
      enumMember caseSensitive context members literal := by
  unfold enumMember
  simp only
  split
  · rfl
  · rfl

/-- The type of a field gets into the errors of adapting through the mismatch only. -/
theorem withoutFieldType_adapt {context : LeafContext} {semantics : Semantics}
    {literals : List Literal} {base : FieldType} {mismatch : MismatchReason → CompileError} :
    (adapt options operator context semantics literals base mismatch).mapError
        withoutFieldType =
      adapt options operator context semantics literals base fun reason =>
        (mismatch reason).withoutFieldType := by
  cases base with
  | any | text => rfl
  | object _ | list _ | nullable _ | map _ _ => rfl
  | enum members =>
      simp only [adapt, apply_ite (Except.mapError withoutFieldType), mapError_bind,
        mapError_mapM, withoutFieldType_enumMember]
      rfl
  | int | long | double | bool | date | dateTime | guid =>
      simp only [adapt, apply_ite (Except.mapError withoutFieldType)]
      rfl

/-- A check depends on the target without its outer wrappers; a mismatch also tells its name. -/
theorem builtinCheck_unwrapped (plan : LeafPlan) :
    (builtinCheck options operator plan.unwrapped).mapError withoutFieldType =
      (builtinCheck options operator plan).mapError withoutFieldType := by
  have notNullable := plan.chain.target.nonNull_ne_nullable
  unfold builtinCheck
  simp only [LeafPlan.unwrapped, Chain.unwrapped, FieldType.nonNull_unwrapped,
    FieldType.isOrderable_unwrapped]
  generalize plan.chain.target.nonNull = base at notNullable
  split
  · rfl
  · split
    · rfl
    · cases base with
      | nullable inner => exact absurd rfl (notNullable inner)
      | map key value =>
          -- Maps are asked for keys, and refused to all operators but one.
          generalize operator.positive = positive
          cases positive with
          | _ => rfl
      | _ =>
          simp only [FieldType.unwrapped, mapError_bind, withoutFieldType_adapt]
          rfl

theorem check_unwrapped (plan : LeafPlan) :
    (compiler.unwrapped.check plan.unwrapped).mapError withoutFieldType =
      (compiler.check plan).mapError withoutFieldType := by
  obtain ⟨field, operator, declared, chain, literals⟩ := plan
  cases operator with
  | custom operator => rfl
  | builtin operator => exact builtinCheck_unwrapped _

theorem leaf_unwrapped :
    (compiler.unwrapped.leaf rule).mapError withoutFieldType =
      ((compiler.leaf rule).mapError withoutFieldType).map fun (plan, leaf) =>
        (plan.unwrapped, leaf.unwrapped) := by
  unfold leaf
  rw [plan_unwrapped, bind_of_map, mapError_bind, mapError_bind, map_bind]
  simp only [mapError_bind, check_unwrapped, map_bind]
  rfl

theorem join_unwrapped (condition : Condition) (children : List Predicate) :
    join condition (children.map Predicate.unwrapped) = (join condition children).unwrapped := by
  cases condition with
  | and => rw [join, join, Predicate.unwrapped, Predicate.unwrappedAll_eq_map]
  | or => rw [join, join, Predicate.unwrapped, Predicate.unwrappedAll_eq_map]

/-- Without the wrappers a rule compiles to the predicate without them, or fails with an error
that differs in the name of the field's type at most. -/
theorem predicate_unwrapped :
    (compiler.unwrapped.predicate rule).mapError withoutFieldType =
      ((compiler.predicate rule).mapError withoutFieldType).map Predicate.unwrapped := by
  induction rule using Rule.tree_induction with
  | node rule inductionHypothesis =>
      by_cases childless : rule.rules = []
      · by_cases unnamed : rule.fieldPath = ""
        · rw [predicate_vacuous childless unnamed, predicate_vacuous childless unnamed]
          rfl
        · rw [predicate_named childless unnamed, predicate_named childless unnamed,
            mapError_map, mapError_map, leaf_unwrapped]
          cases compiler.leaf rule with
          | ok found => rfl
          | error error => rfl
      · rw [predicate_group childless, predicate_group childless, mapError_map, mapError_map,
          mapError_mapM, mapError_mapM, mapM_eq_map_mapM inductionHypothesis]
        cases rule.rules.mapM fun child =>
            (compiler.predicate child).mapError withoutFieldType with
        | ok children => exact congrArg Except.ok (join_unwrapped rule.condition children)
        | error error => rfl

end Compiler

/-! ## Evaluating -/

namespace Predicate

variable (record : Value)

mutual

theorem evaluate_unwrapped :
    ∀ predicate : Predicate, predicate.unwrapped.evaluate record = predicate.evaluate record
  | always => rfl
  | allOf children => by
      rw [unwrapped, evaluate, evaluate, evaluateAll_unwrapped children]
  | anyOf children => by
      rw [unwrapped, evaluate, evaluate, evaluateAny_unwrapped children]
  | negation inner => by
      rw [unwrapped, evaluate, evaluate, evaluate_unwrapped inner]
  | leaf compiled => by
      rw [unwrapped, evaluate, evaluate]
      exact compiled.chain.visit_unwrapped compiled.quantifier compiled.check.test record

theorem evaluateAll_unwrapped :
    ∀ children : List Predicate,
      evaluateAll record (unwrappedAll children) = evaluateAll record children
  | [] => rfl
  | child :: rest => by
      rw [unwrappedAll, evaluateAll, evaluateAll, evaluate_unwrapped child,
        evaluateAll_unwrapped rest]

theorem evaluateAny_unwrapped :
    ∀ children : List Predicate,
      evaluateAny record (unwrappedAll children) = evaluateAny record children
  | [] => rfl
  | child :: rest => by
      rw [unwrappedAll, evaluateAny, evaluateAny, evaluate_unwrapped child,
        evaluateAny_unwrapped rest]

end

end Predicate

/-- Families of shapes that differ in nullable wrappers only, however many and around which of
their types, compile the same rules. An error differs in the name of the field's type at most.
The predicates have the same steps, quantifiers and checks, so they give the same answer, or
fail alike, on every record. -/
theorem nullable_wrappers_transparent {schema other : Schema}
    (same : schema.unwrapped = other.unwrapped) (options : Options) (root : String)
    (rule : Rule) :
    (∃ error otherError,
      Compiler.predicate ⟨options, schema, root⟩ rule = .error error ∧
      Compiler.predicate ⟨options, other, root⟩ rule = .error otherError ∧
      error.withoutFieldType = otherError.withoutFieldType) ∨
    ∃ predicate otherPredicate,
      Compiler.predicate ⟨options, schema, root⟩ rule = .ok predicate ∧
      Compiler.predicate ⟨options, other, root⟩ rule = .ok otherPredicate ∧
      predicate.unwrapped = otherPredicate.unwrapped ∧
      ∀ record, predicate.evaluate record = otherPredicate.evaluate record := by
  have sameCompiler : Compiler.unwrapped ⟨options, schema, root⟩ =
      Compiler.unwrapped ⟨options, other, root⟩ :=
    congrArg (fun shapes => Compiler.mk options shapes root) same
  have agree := Compiler.predicate_unwrapped ⟨options, schema, root⟩ rule
  rw [sameCompiler, Compiler.predicate_unwrapped ⟨options, other, root⟩ rule] at agree
  rcases error_or_ok_of_map_mapError agree.symm with
    failed | ⟨predicate, otherPredicate, compiled, otherCompiled, sameWithout⟩
  · exact Or.inl failed
  · refine Or.inr ⟨predicate, otherPredicate, compiled, otherCompiled, sameWithout, ?_⟩
    intro record
    rw [← predicate.evaluate_unwrapped record, sameWithout,
      otherPredicate.evaluate_unwrapped record]

/-- Nodes that are never null, with optional rows of doubly optional numbers. -/
def rewrappedSchema : Schema :=
  ⟨[⟨"Node", [("Next", .object "Node"),
    ("Rows", .nullable (.list (.list (.nullable (.nullable .long)))))], none⟩]⟩

/-- The rule on rows compiles for both families of nodes and tests the same. -/
theorem nullable_wrappers_transparent_rows :
    nodeSchema ≠ rewrappedSchema ∧ nodeSchema.unwrapped = rewrappedSchema.unwrapped ∧
      ∃ rewrapped, Compiler.predicate ⟨.default, rewrappedSchema, "Node"⟩ rowsRule =
          .ok rewrapped ∧
        (Predicate.leaf rowsLeaf).unwrapped = rewrapped.unwrapped ∧
        ∀ record, rowsLeaf.evaluate record = rewrapped.evaluate record := by
  have same : nodeSchema.unwrapped = rewrappedSchema.unwrapped := rfl
  refine ⟨by decide, same, ?_⟩
  rcases nullable_wrappers_transparent same .default "Node" rowsRule with
    ⟨error, _, failed, _⟩ | ⟨predicate, rewrapped, compiled, rewrappedOk, agree, evaluates⟩
  · cases failed.symm.trans rowsRule_compiles
  · cases compiled.symm.trans rowsRule_compiles
    exact ⟨rewrapped, rewrappedOk, agree, evaluates⟩

end RecordFilter
