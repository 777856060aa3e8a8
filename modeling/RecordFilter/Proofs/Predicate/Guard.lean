import RecordFilter.Proofs.Path.Guard
import RecordFilter.Proofs.Predicate.Tree

/-!
# Null checks

Null checks do not take part in compiling: with and without them a rule gives the same error
or predicates that differ in the guards of their chains only. The predicate with null checks
repeats every answer and every missing key of the other one, so it is free only on records
that the other one refuses because of a null on the way.
-/

namespace RecordFilter

/-! ## Compiling -/

def Resolver.withGuard (nullGuard : Bool) (resolver : Resolver) : Resolver :=
  { resolver with nullGuard := nullGuard }

def LeafPlan.withGuard (nullGuard : Bool) (plan : LeafPlan) : LeafPlan :=
  { plan with chain := plan.chain.withGuard nullGuard }

def Leaf.withGuard (nullGuard : Bool) (leaf : Leaf) : Leaf :=
  { leaf with chain := leaf.chain.withGuard nullGuard }

namespace Predicate

mutual

/-- The predicate with nulls guarded, or not, in all of its leaves. -/
def withGuard (nullGuard : Bool) : Predicate → Predicate
  | always => always
  | allOf children => allOf (withGuardAll nullGuard children)
  | anyOf children => anyOf (withGuardAll nullGuard children)
  | negation inner => negation (withGuard nullGuard inner)
  | leaf compiled => leaf (compiled.withGuard nullGuard)

def withGuardAll (nullGuard : Bool) : List Predicate → List Predicate
  | [] => []
  | child :: rest => withGuard nullGuard child :: withGuardAll nullGuard rest

end

theorem withGuardAll_eq_map (nullGuard : Bool) (children : List Predicate) :
    withGuardAll nullGuard children = children.map (withGuard nullGuard) := by
  induction children with
  | nil => rfl
  | cons child rest inductionHypothesis =>
      rw [withGuardAll, inductionHypothesis, List.map_cons]

end Predicate

namespace Resolver

variable (resolver : Resolver) (nullGuard : Bool)

theorem schema_withGuard : (resolver.withGuard nullGuard).schema = resolver.schema := rfl

theorem isSentinel_withGuard (shape : Shape) (segment : String) :
    (resolver.withGuard nullGuard).isSentinel shape segment =
      resolver.isSentinel shape segment := rfl

/-- The steps of a path do not depend on the guard. -/
theorem follow_withGuard (path : String) :
    ∀ (segments : List String) (type : FieldType),
      (resolver.withGuard nullGuard).follow path type segments =
        resolver.follow path type segments
  | [], type => rfl
  | segment :: rest, type => by
      have further (next : FieldType) := follow_withGuard path rest next
      rw [follow, follow]
      simp only [schema_withGuard, isSentinel_withGuard, further]
      cases type.openLists.2.nonNull with
      | object name =>
          simp only
          cases (resolver.schema.shape name).indexer with
          | none => rfl
          | some entry =>
              cases rest with
              | nil => rfl
              -- A sentinel uses up two segments, so this case goes on with what follows them.
              | cons key more => simp only [follow_withGuard path more entry]
      | _ => rfl

theorem resolve_withGuard (root : FieldType) (path : String) :
    (resolver.withGuard nullGuard).resolve root path =
      (resolver.resolve root path).map (Chain.withGuard nullGuard) := by
  unfold resolve
  simp only [follow_withGuard]
  split
  · rfl
  · cases resolver.follow (Text.trim path) root (segmentsOf (Text.trim path)) with
    | ok found => rfl
    | error error => rfl

end Resolver

namespace Compiler

/-- The compiler with null checks switched on or off. -/
def withNullChecks (nullChecks : Bool) (compiler : Compiler) : Compiler :=
  { compiler with options := compiler.options.withNullChecks nullChecks }

variable (compiler : Compiler) (nullChecks : Bool)

theorem extendChain_withGuard (arity : Arity) (chain : Chain) :
    extendChain arity (chain.withGuard nullChecks) =
      (extendChain arity chain).withGuard nullChecks := by
  unfold extendChain
  split
  · rfl
  · rfl

/-- The guard is read by the resolver only, which hands it on to the chain. -/
theorem plan_withNullChecks (rule : Rule) :
    (compiler.withNullChecks nullChecks).plan rule =
      (compiler.plan rule).map (LeafPlan.withGuard nullChecks) := by
  have resolves :
      (compiler.withNullChecks nullChecks).resolver.resolve (.object compiler.root)
          rule.fieldPath =
        (compiler.resolver.resolve (.object compiler.root) rule.fieldPath).map
          (Chain.withGuard nullChecks) :=
    compiler.resolver.resolve_withGuard nullChecks _ _
  have root : (compiler.withNullChecks nullChecks).root = compiler.root := rfl
  have operators : (compiler.withNullChecks nullChecks).options.operators =
      compiler.options.operators := rfl
  unfold plan
  simp only [root, operators, resolves]
  cases resolveOperator? compiler.options.operators rule.operatorName with
  | none => rfl
  | some operator =>
      simp only [map_bind, bind_of_map, extendChain_withGuard]
      rfl

theorem check_withNullChecks (plan : LeafPlan) :
    (compiler.withNullChecks nullChecks).check (plan.withGuard nullChecks) =
      compiler.check plan := by
  obtain ⟨field, operator, declared, chain, literals⟩ := plan
  cases operator with
  | custom operator => rfl
  | builtin operator => rfl

theorem leaf_withNullChecks (rule : Rule) :
    (compiler.withNullChecks nullChecks).leaf rule =
      (compiler.leaf rule).map fun (plan, leaf) =>
        (plan.withGuard nullChecks, leaf.withGuard nullChecks) := by
  unfold leaf
  simp only [plan_withNullChecks, check_withNullChecks, map_bind, bind_of_map]
  rfl

theorem join_withGuard (condition : Condition) (children : List Predicate) :
    join condition (children.map (Predicate.withGuard nullChecks)) =
      (join condition children).withGuard nullChecks := by
  cases condition with
  | and => rw [join, join, Predicate.withGuard, Predicate.withGuardAll_eq_map]
  | or => rw [join, join, Predicate.withGuard, Predicate.withGuardAll_eq_map]

/-- Null checks change the guards of a predicate and never an error. -/
theorem predicate_withNullChecks (rule : Rule) :
    (compiler.withNullChecks nullChecks).predicate rule =
      (compiler.predicate rule).map (Predicate.withGuard nullChecks) := by
  induction rule using Rule.tree_induction with
  | node rule inductionHypothesis =>
      by_cases childless : rule.rules = []
      · rw [predicate_leaf childless, predicate_leaf childless]
        unfold compileLeaf
        by_cases vacuous : rule.isVacuous = true
        · rw [if_pos vacuous, if_pos vacuous]
          rfl
        · rw [if_neg vacuous, if_neg vacuous, leaf_withNullChecks]
          cases compiler.leaf rule with
          | ok found => rfl
          | error error => rfl
      · rw [predicate_group childless, predicate_group childless,
          mapM_eq_map_mapM inductionHypothesis]
        cases rule.rules.mapM compiler.predicate with
        | ok children =>
            exact congrArg Except.ok (join_withGuard nullChecks rule.condition children)
        | error error => rfl

theorem compileRule_withNullChecks (rule : Option Rule) :
    ((compiler.withNullChecks nullChecks).compileRule rule).result =
      (compiler.compileRule rule).result.map (Predicate.withGuard nullChecks) := by
  cases rule with
  | none => rfl
  | some rule => exact compiler.predicate_withNullChecks nullChecks rule

end Compiler

/-! ## Evaluating -/

namespace Predicate

variable (record : Value)

mutual

theorem guards_evaluate :
    ∀ predicate : Predicate,
      Guards ((predicate.withGuard false).evaluate record)
        ((predicate.withGuard true).evaluate record)
  | always => .ok true
  | allOf children => by
      rw [withGuard, withGuard, evaluate, evaluate]
      exact guards_evaluateAll children
  | anyOf children => by
      rw [withGuard, withGuard, evaluate, evaluate]
      exact guards_evaluateAny children
  | negation inner => by
      rw [withGuard, withGuard, evaluate, evaluate]
      exact (guards_evaluate inner).bind fun passed => .ok !passed
  | leaf compiled => by
      rw [withGuard, withGuard, evaluate, evaluate]
      exact compiled.chain.guards_visit record compiled.quantifier compiled.check.test

theorem guards_evaluateAll :
    ∀ children : List Predicate,
      Guards (evaluateAll record (withGuardAll false children))
        (evaluateAll record (withGuardAll true children))
  | [] => .ok true
  | child :: rest => by
      rw [withGuardAll, withGuardAll, evaluateAll, evaluateAll]
      refine (guards_evaluate child).bind fun passed => ?_
      cases passed with
      | true => exact guards_evaluateAll rest
      | false => exact .ok false

theorem guards_evaluateAny :
    ∀ children : List Predicate,
      Guards (evaluateAny record (withGuardAll false children))
        (evaluateAny record (withGuardAll true children))
  | [] => .ok false
  | child :: rest => by
      rw [withGuardAll, withGuardAll, evaluateAny, evaluateAny]
      refine (guards_evaluate child).bind fun passed => ?_
      cases passed with
      | true => exact .ok true
      | false => exact guards_evaluateAny rest

end

end Predicate

/-! ## Combined predicates -/

/-- A predicate combined from the predicates of rules. -/
inductive Combination where
  | compiled (compiler : Compiler) (rule : Option Rule)
  | both (first second : Combination)
  | either (first second : Combination)
  | opposite (inner : Combination)

namespace Combination

/-- The combined predicate when every rule is compiled with null checks switched on or off. -/
def predicate (nullChecks : Bool) : Combination → Except CompileError Predicate
  | compiled compiler rule => ((compiler.withNullChecks nullChecks).compileRule rule).result
  | both first second => do
      return (← first.predicate nullChecks).and (← second.predicate nullChecks)
  | either first second => do
      return (← first.predicate nullChecks).or (← second.predicate nullChecks)
  | opposite inner => do
      return (← inner.predicate nullChecks).not

/-- What a combination compiles to when the guards are left open. -/
theorem exists_predicate_eq_map (combination : Combination) :
    ∃ result : Except CompileError Predicate, ∀ nullChecks,
      combination.predicate nullChecks = result.map (Predicate.withGuard nullChecks) := by
  induction combination with
  | compiled compiler rule =>
      exact ⟨_, fun nullChecks => compiler.compileRule_withNullChecks nullChecks rule⟩
  | both first second firstHypothesis secondHypothesis =>
      obtain ⟨firstResult, firstSame⟩ := firstHypothesis
      obtain ⟨secondResult, secondSame⟩ := secondHypothesis
      refine ⟨do return (← firstResult).and (← secondResult), fun nullChecks => ?_⟩
      rw [predicate, firstSame, secondSame]
      simp only [map_bind, bind_of_map]
      rfl
  | either first second firstHypothesis secondHypothesis =>
      obtain ⟨firstResult, firstSame⟩ := firstHypothesis
      obtain ⟨secondResult, secondSame⟩ := secondHypothesis
      refine ⟨do return (← firstResult).or (← secondResult), fun nullChecks => ?_⟩
      rw [predicate, firstSame, secondSame]
      simp only [map_bind, bind_of_map]
      rfl
  | opposite inner inductionHypothesis =>
      obtain ⟨result, same⟩ := inductionHypothesis
      refine ⟨do return (← result).not, fun nullChecks => ?_⟩
      rw [predicate, same]
      simp only [map_bind, bind_of_map]
      rfl

end Combination

/-- Switching null checks on changes no compilation. The predicate then repeats every answer
and every missing key of the predicate without them, on any record at all, and never fails
because of a null. -/
theorem null_checks_only_guard (combination : Combination) :
    (∃ error, combination.predicate false = .error error ∧
      combination.predicate true = .error error) ∨
    ∃ unguarded guarded, combination.predicate false = .ok unguarded ∧
      combination.predicate true = .ok guarded ∧
      ∀ record,
        (∀ answer, unguarded.evaluate record = .ok answer →
          guarded.evaluate record = .ok answer) ∧
        (∀ path key, unguarded.evaluate record = .error (.keyNotFound path key) →
          guarded.evaluate record = .error (.keyNotFound path key)) ∧
        ∀ path segment, guarded.evaluate record ≠ .error (.nullReference path segment) := by
  obtain ⟨result, same⟩ := combination.exists_predicate_eq_map
  rw [same false, same true]
  cases result with
  | error error => exact Or.inl ⟨error, rfl, rfl⟩
  | ok predicate =>
      refine Or.inr ⟨_, _, rfl, rfl, fun record => ?_⟩
      have guards := predicate.guards_evaluate record
      refine ⟨fun answer answered => ?_, fun path key missed => ?_, guards.nullFree⟩
      · rw [← answered]
        refine guards.eq_of_nullFree fun path segment failed => ?_
        rw [answered] at failed
        cases failed
      · rw [← missed]
        refine guards.eq_of_nullFree fun _ segment failed => ?_
        rw [missed] at failed
        cases failed

end RecordFilter
