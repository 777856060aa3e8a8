import Mathlib.Data.List.Forall2
import RecordFilter.Rule.Basic

/-!
# Rules as trees

A rule tree is read through three things: its leaves, which are the nodes that test a field, in
order from left to right; what it says when the data that groups ignore are left out; and the
trees that differ from it in the order of children only.
-/

namespace RecordFilter.Rule

/-- What holds of a rule once it holds of its children holds of every rule. -/
@[elab_as_elim]
theorem tree_induction {motive : Rule → Prop}
    (node : ∀ rule : Rule, (∀ child ∈ rule.rules, motive child) → motive rule)
    (rule : Rule) : motive rule :=
  node rule fun child _member => tree_induction node child
termination_by sizeOf rule
decreasing_by
  obtain ⟨condition, field, typeTag, operator, value, rules⟩ := rule
  have smaller : sizeOf child < sizeOf rules := List.sizeOf_lt_of_mem _member
  simp only [Rule.mk.sizeOf_spec]
  omega

/-! ## Leaves -/

mutual

/-- The nodes that test a field, from left to right. -/
def leaves : Rule → List Rule
  | ⟨condition, field, typeTag, operator, value, rules⟩ =>
      match rules with
      | [] =>
          let rule : Rule := ⟨condition, field, typeTag, operator, value, []⟩
          if rule.isVacuous then [] else [rule]
      | first :: rest => leaves first ++ leavesOf rest

def leavesOf : List Rule → List Rule
  | [] => []
  | rule :: rest => leaves rule ++ leavesOf rest

end

variable {rule leaf : Rule}

theorem leavesOf_eq_flatMap (rules : List Rule) : leavesOf rules = rules.flatMap leaves := by
  induction rules with
  | nil => rfl
  | cons rule rest inductionHypothesis =>
      rw [leavesOf, inductionHypothesis, List.flatMap_cons]

theorem leaves_group (children : rule.rules ≠ []) :
    rule.leaves = rule.rules.flatMap leaves := by
  obtain ⟨condition, field, typeTag, operator, value, rules⟩ := rule
  cases rules with
  | nil => exact absurd rfl children
  | cons first rest =>
      rw [leaves, leavesOf_eq_flatMap, List.flatMap_cons]

theorem leaves_vacuous (childless : rule.rules = []) (unnamed : rule.fieldPath = "") :
    rule.leaves = [] := by
  have vacuous : rule.isVacuous = true := by
    simp [isVacuous, childless, unnamed]
  obtain ⟨condition, field, typeTag, operator, value, rules⟩ := rule
  subst childless
  rw [leaves]
  exact if_pos vacuous

theorem leaves_named (childless : rule.rules = []) (named : rule.fieldPath ≠ "") :
    rule.leaves = [rule] := by
  have tests : rule.isVacuous = false := by
    simp [isVacuous, childless, named]
  obtain ⟨condition, field, typeTag, operator, value, rules⟩ := rule
  subst childless
  rw [leaves]
  exact if_neg (ne_true_of_eq_false tests)

theorem mem_leaves_of_child {child : Rule} (member : child ∈ rule.rules)
    (leafMember : leaf ∈ child.leaves) : leaf ∈ rule.leaves := by
  rw [leaves_group (List.ne_nil_of_mem member)]
  exact List.mem_flatMap.mpr ⟨child, member, leafMember⟩

/-- Leaves have no children, and they name a field. -/
theorem of_mem_leaves (member : leaf ∈ rule.leaves) :
    leaf.rules = [] ∧ leaf.fieldPath ≠ "" := by
  induction rule using tree_induction with
  | node rule inductionHypothesis =>
      by_cases childless : rule.rules = []
      · by_cases unnamed : rule.fieldPath = ""
        · rw [leaves_vacuous childless unnamed] at member
          cases member
        · rw [leaves_named childless unnamed] at member
          rw [List.mem_singleton.mp member]
          exact ⟨childless, unnamed⟩
      · rw [leaves_group childless] at member
        obtain ⟨child, childMember, leafMember⟩ := List.mem_flatMap.mp member
        exact inductionHypothesis child childMember leafMember

/-! ## What groups say -/

mutual

/-- The tree with nothing in its groups but how they join their children. -/
def bare : Rule → Rule
  | ⟨condition, field, typeTag, operator, value, rules⟩ =>
      match rules with
      | [] => ⟨condition, field, typeTag, operator, value, []⟩
      | first :: rest => group condition (bare first :: bareAll rest)

def bareAll : List Rule → List Rule
  | [] => []
  | rule :: rest => bare rule :: bareAll rest

end

theorem bareAll_eq_map (rules : List Rule) : bareAll rules = rules.map bare := by
  induction rules with
  | nil => rfl
  | cons rule rest inductionHypothesis =>
      rw [bareAll, inductionHypothesis, List.map_cons]

theorem bare_of_childless (childless : rule.rules = []) : rule.bare = rule := by
  obtain ⟨condition, field, typeTag, operator, value, rules⟩ := rule
  subst childless
  rw [bare]

theorem bare_group (children : rule.rules ≠ []) :
    rule.bare = group rule.condition (rule.rules.map bare) := by
  obtain ⟨condition, field, typeTag, operator, value, rules⟩ := rule
  cases rules with
  | nil => exact absurd rfl children
  | cons first rest =>
      rw [bare, bareAll_eq_map, List.map_cons]

/-! ## The order of children -/

/-- The second tree has the children of every group in some order, each of them reordered in
turn. -/
inductive Reorders : Rule → Rule → Prop where
  | node {rule : Rule} {middle reordered : List Rule}
      (each : List.Forall₂ Reorders rule.rules middle) (order : middle.Perm reordered) :
      Reorders rule { rule with rules := reordered }

theorem Reorders.refl (rule : Rule) : Reorders rule rule := by
  induction rule using tree_induction with
  | node rule inductionHypothesis =>
      have each : List.Forall₂ Reorders rule.rules rule.rules :=
        List.forall₂_same.mpr inductionHypothesis
      have reorders := Reorders.node each (.refl rule.rules)
      cases rule
      exact reorders

end RecordFilter.Rule
