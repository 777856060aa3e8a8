import RecordFilter.Proofs.Predicate.Tree

/-!
# Trees compile by their leaves

The leaves of a rule are compiled one after the other, and the tree around them only joins the
results: it succeeds when they do, its leaves are theirs, and what fails is the first leaf that
fails. What a group says about itself is never read.
-/

namespace RecordFilter

/-! ## Leaves of predicates -/

namespace Predicate

mutual

/-- The leaves of a predicate, from left to right. -/
def leaves : Predicate → List Leaf
  | always => []
  | allOf children => leavesOf children
  | anyOf children => leavesOf children
  | negation inner => leaves inner
  | leaf compiled => [compiled]

def leavesOf : List Predicate → List Leaf
  | [] => []
  | child :: rest => leaves child ++ leavesOf rest

end

theorem leavesOf_eq_flatMap (children : List Predicate) :
    leavesOf children = children.flatMap leaves := by
  induction children with
  | nil => rfl
  | cons child rest inductionHypothesis =>
      rw [leavesOf, inductionHypothesis, List.flatMap_cons]

end Predicate

namespace Compiler

variable {compiler : Compiler} {rule : Rule} {leaf : Leaf}

theorem leaves_join (condition : Condition) (children : List Predicate) :
    (join condition children).leaves = children.flatMap Predicate.leaves := by
  cases condition with
  | and => rw [join, Predicate.leaves, Predicate.leavesOf_eq_flatMap]
  | or => rw [join, Predicate.leaves, Predicate.leavesOf_eq_flatMap]

/-! ## Compiling -/

/-- Compiled alone and from left to right, the leaves of a rule give the leaves of the compiled
tree or its error. The induction is on the tree: a group spreads the list of its children into
the list of their leaves. -/
theorem mapM_leaves (rule : Rule) :
    rule.leaves.mapM compiler.predicate =
      (compiler.predicate rule).map fun predicate => predicate.leaves.map .leaf := by
  induction rule using Rule.tree_induction with
  | node rule inductionHypothesis =>
      by_cases childless : rule.rules = []
      · by_cases unnamed : rule.fieldPath = ""
        · rw [predicate_vacuous childless unnamed, Rule.leaves_vacuous childless unnamed]
          rfl
        · rw [Rule.leaves_named childless unnamed, List.mapM_cons, List.mapM_nil,
            predicate_named childless unnamed]
          cases compiler.leaf rule with
          | error error => rfl
          | ok found => rfl
      · rw [predicate_group childless, Rule.leaves_group childless,
          ← map_flatMap_mapM fun child member => (inductionHypothesis child member).symm]
        cases rule.rules.mapM compiler.predicate with
        | error error => rfl
        | ok children =>
            have spread : children.flatMap (fun child => child.leaves.map Predicate.leaf) =
                (join rule.condition children).leaves.map .leaf := by
              rw [leaves_join, List.map_flatMap]
            exact congrArg Except.ok spread

theorem exists_predicate_iff :
    (∃ predicate, compiler.predicate rule = .ok predicate) ↔
      ∀ source ∈ rule.leaves, ∃ alone, compiler.predicate source = .ok alone := by
  rw [← exists_forall₂_iff]
  simp only [← mapM_eq_ok_iff, mapM_leaves, map_eq_ok_iff]
  simp

/-- A tree fails with the error of the first leaf that fails alone. -/
theorem predicate_eq_error_iff {error : CompileError} :
    compiler.predicate rule = .error error ↔
      ∃ earlier source later, rule.leaves = earlier ++ source :: later ∧
        (∀ other ∈ earlier, ∃ alone, compiler.predicate other = .ok alone) ∧
        compiler.predicate source = .error error := by
  rw [← mapM_eq_error_iff, mapM_leaves, map_eq_error_iff]

/-- Each leaf of a compiled tree is what its rule compiles to alone. -/
theorem forall₂_leaves {predicate : Predicate}
    (compiled : compiler.predicate rule = .ok predicate) :
    List.Forall₂ (fun source leaf => compiler.predicate source = .ok (.leaf leaf)) rule.leaves
      predicate.leaves := by
  have leaves := compiler.mapM_leaves rule
  rw [compiled] at leaves
  have each : List.Forall₂ (fun source alone => compiler.predicate source = .ok alone)
      rule.leaves (predicate.leaves.map .leaf) := mapM_eq_ok_iff.mp leaves
  rwa [List.forall₂_map_right_iff] at each

/-- A group is compiled as if it said nothing but how it joins its children. -/
theorem predicate_bare (rule : Rule) : compiler.predicate rule.bare = compiler.predicate rule := by
  induction rule using Rule.tree_induction with
  | node rule inductionHypothesis =>
      by_cases childless : rule.rules = []
      · rw [Rule.bare_of_childless childless]
      · have bareChildren : (Rule.group rule.condition (rule.rules.map Rule.bare)).rules ≠ [] :=
          fun none => childless (List.map_eq_nil_iff.mp none)
        rw [Rule.bare_group childless, predicate_group bareChildren, predicate_group childless]
        have children : (rule.rules.map Rule.bare).mapM compiler.predicate =
            rule.rules.mapM compiler.predicate := by
          rw [List.mapM_map]
          exact mapM_congr inductionHypothesis
        exact congrArg (Except.map (join rule.condition)) children

/-! ## Two compilers -/

section Two

variable {other : Compiler}

theorem compileTrees_congr {rules : List Rule}
    (each : ∀ rule ∈ rules, other.compileTree rule = compiler.compileTree rule) :
    other.compileTrees rules = compiler.compileTrees rules := by
  induction rules with
  | nil => rfl
  | cons first rest inductionHypothesis =>
      obtain ⟨head, tail⟩ := List.forall_mem_cons.mp each
      rw [compileTrees, compileTrees, head, inductionHypothesis tail]

/-- Compilers that do the same with the leaves do the same with the tree, and log the same. -/
theorem compileTree_congr_leaves
    (each : ∀ leaf ∈ rule.leaves, other.leaf leaf = compiler.leaf leaf) :
    other.compileTree rule = compiler.compileTree rule := by
  induction rule using Rule.tree_induction with
  | node rule inductionHypothesis =>
      have children : ∀ child ∈ rule.rules,
          other.compileTree child = compiler.compileTree child :=
        fun child member => inductionHypothesis child member fun leaf leafMember =>
          each leaf (Rule.mem_leaves_of_child member leafMember)
      have tests (named : rule.isVacuous = false) (childless : rule.rules = []) :
          other.leaf rule = compiler.leaf rule := by
        refine each rule ?_
        rw [Rule.leaves_named childless (by simpa [Rule.isVacuous, childless] using named)]
        exact List.mem_singleton_self rule
      obtain ⟨condition, field, typeTag, operator, value, rules⟩ := rule
      cases rules with
      | nil =>
          rw [compileTree, compileTree]
          unfold compileLeaf
          split
          next => rfl
          next named => rw [tests (Bool.eq_false_iff.mpr named) rfl]
      | cons first rest =>
          obtain ⟨head, tail⟩ := List.forall_mem_cons.mp children
          rw [compileTree, compileTree, head, compileTrees_congr tail]

end Two

end Compiler

end RecordFilter
