import RecordFilter.Proofs.Operator.Partner
import RecordFilter.Rule.Basic

/-!
# Dual rules

The dual of a rule swaps AND and OR and takes the partner of each operator; fields, types and
values stay as they are.
-/

namespace RecordFilter

def Condition.dual : Condition → Condition
  | and => or
  | or => and

namespace Rule

mutual

/-- The rule with AND and OR swapped and each operator replaced by its partner. -/
def dual : Rule → Rule
  | ⟨condition, field, typeTag, operator, value, rules⟩ =>
      ⟨condition.dual, field, typeTag, operator.map Operator.partnerName, value,
        dualAll rules⟩

def dualAll : List Rule → List Rule
  | [] => []
  | rule :: rest => rule.dual :: dualAll rest

end

/-- Every node without children tests a named field with an operator of a pair. -/
inductive IsPaired : Rule → Prop where
  | leaf {rule : Rule} {operator : Operator} (childless : rule.rules = [])
      (field : rule.fieldPath ≠ "") (named : Operator.ofName? rule.operatorName = some operator)
      (paired : operator.isPaired = true) : IsPaired rule
  | group {rule : Rule} (children : rule.rules ≠ [])
      (each : ∀ child ∈ rule.rules, IsPaired child) : IsPaired rule

variable (rule : Rule)

theorem dualAll_eq_map (rules : List Rule) : dualAll rules = rules.map dual := by
  induction rules with
  | nil => rfl
  | cons rule rest inductionHypothesis =>
      rw [dualAll, inductionHypothesis, List.map_cons]

@[simp]
theorem rules_dual : rule.dual.rules = rule.rules.map dual := by
  cases rule
  rw [dual, dualAll_eq_map]

@[simp]
theorem condition_dual : rule.dual.condition = rule.condition.dual := by
  cases rule
  rw [dual]

@[simp]
theorem fieldPath_dual : rule.dual.fieldPath = rule.fieldPath := by
  cases rule
  rw [dual]
  rfl

@[simp]
theorem typeTag_dual : rule.dual.typeTag = rule.typeTag := by
  cases rule
  rw [dual]

@[simp]
theorem value_dual : rule.dual.value = rule.value := by
  cases rule
  rw [dual]

/-- The dual of a leaf names the partner of its operator. -/
theorem ofName?_operatorName_dual {operator : Operator}
    (named : Operator.ofName? rule.operatorName = some operator) :
    Operator.ofName? rule.dual.operatorName = some operator.partner := by
  obtain ⟨condition, field, typeTag, name, value, rules⟩ := rule
  unfold operatorName at named ⊢
  rw [dual]
  cases name with
  | none =>
      have unknown : Operator.ofName? "" = none := by decide +kernel
      rw [Option.map_none, Option.getD_none, unknown] at named
      cases named
  | some name =>
      rw [Option.map_some, Option.getD_some, Operator.ofName?_trim] at named
      rw [Option.map_some, Option.map_some, Option.getD_some, Operator.ofName?_trim]
      unfold Operator.partnerName
      rw [named, Operator.ofName?_name]

end Rule

end RecordFilter
