import RecordFilter.Proofs.Predicate.Orderings

/-!
# Explicit conversion to text

A compiler may refuse to write fields as text. Then it makes of each rule what it would make of it
otherwise, or it refuses the rule, and no built-in operator compares a number, a boolean, a date or
a guid in any other way than as the literal that it is.
-/

namespace RecordFilter

/-! ## Refusals -/

/-- The error for a field that would have to be written as text. -/
def CompileError.IsTextRefusal (error : CompileError) : Prop :=
  ∃ context target, error = .typeMismatch context target .implicitText

/-- The strict result is the lenient one, or it refuses to write a field as text. -/
def OnlyRefuses {α : Type} (strict lenient : Except CompileError α) : Prop :=
  strict = lenient ∨ ∃ error, strict = .error error ∧ error.IsTextRefusal

namespace OnlyRefuses

variable {α β : Type} {strict lenient : Except CompileError α}

theorem refl (result : Except CompileError α) : OnlyRefuses result result :=
  Or.inl rfl

theorem refusal (context : LeafContext) (target : String) (lenient : Except CompileError α) :
    OnlyRefuses (.error (.typeMismatch context target .implicitText)) lenient :=
  Or.inr ⟨_, rfl, context, target, rfl⟩

theorem bind (refuses : OnlyRefuses strict lenient) {next other : α → Except CompileError β}
    (each : ∀ value, OnlyRefuses (next value) (other value)) :
    OnlyRefuses (strict >>= next) (lenient >>= other) := by
  rcases refuses with rfl | ⟨error, rfl, refusal⟩
  · cases strict with
    | ok value => exact each value
    | error error => exact refl _
  · exact Or.inr ⟨error, rfl, refusal⟩

theorem map (refuses : OnlyRefuses strict lenient) (change : α → β) :
    OnlyRefuses (strict.map change) (lenient.map change) := by
  rcases refuses with rfl | ⟨error, rfl, refusal⟩
  · exact refl _
  · exact Or.inr ⟨error, rfl, refusal⟩

/-- Of several results in order, the first that refuses is the first difference. -/
theorem mapM {read reread : α → Except CompileError β} {items : List α}
    (each : ∀ item ∈ items, OnlyRefuses (read item) (reread item)) :
    OnlyRefuses (items.mapM read) (items.mapM reread) := by
  induction items with
  | nil => exact refl _
  | cons item rest inductionHypothesis =>
      obtain ⟨head, tail⟩ := List.forall_mem_cons.mp each
      rw [List.mapM_cons, List.mapM_cons]
      exact head.bind fun _ => (inductionHypothesis tail).bind fun _ => refl _

theorem ok_of_ok (refuses : OnlyRefuses strict lenient) {value : α} (ok : strict = .ok value) :
    lenient = .ok value := by
  rcases refuses with rfl | ⟨error, failed, _⟩
  · exact ok
  · rw [failed] at ok
    cases ok

theorem error_of_error (refuses : OnlyRefuses strict lenient) {error : CompileError}
    (failed : lenient = .error error) :
    ∃ other, strict = .error other ∧ (other = error ∨ other.IsTextRefusal) := by
  rcases refuses with rfl | ⟨other, refused, refusal⟩
  · exact ⟨error, failed, Or.inl rfl⟩
  · exact ⟨other, refused, Or.inr refusal⟩

end OnlyRefuses

namespace Compiler

/-- The compiler with or without the demand for an explicit conversion to text. -/
def withExplicitText (compiler : Compiler) (explicit : Bool) : Compiler :=
  { compiler with options := compiler.options.withExplicitText explicit }

section Refusing

variable {options : Options} {operator : Operator} {context : LeafContext}
  {semantics : Semantics} {literals : List Literal} {base : FieldType} {target : String}

/-- The demand is read in one place only: where literals would be rendered for a field that is no
text. -/
theorem adapt_onlyRefuses :
    OnlyRefuses
      (adapt (options.withExplicitText true) operator context semantics literals base
        (.typeMismatch context target))
      (adapt (options.withExplicitText false) operator context semantics literals base
        (.typeMismatch context target)) := by
  cases base with
  | any | text | object _ | list _ | map _ _ | nullable _ => exact .refl _
  | int | long | double | bool | date | dateTime | guid =>
      rw [adapt_scalar rfl, adapt_scalar rfl]
      split
      next => exact .refusal context target _
      next => exact .refl _
  | enum members =>
      rw [adapt_enum, adapt_enum]
      split
      next => exact .refl _
      next =>
          split
          next => exact .refl _
          next =>
              split
              next => exact .refusal context target _
              next => exact .refl _

theorem builtinCheck_onlyRefuses (plan : LeafPlan) :
    OnlyRefuses (builtinCheck (options.withExplicitText true) operator plan)
      (builtinCheck (options.withExplicitText false) operator plan) := by
  unfold builtinCheck
  simp only
  split
  next => exact .refl _
  next =>
      split
      next => exact .refl _
      next =>
          split
          next => exact .refl _
          next => exact adapt_onlyRefuses.bind fun _ => .refl _

end Refusing

variable {compiler : Compiler}

theorem leaf_onlyRefuses (rule : Rule) :
    OnlyRefuses ((compiler.withExplicitText true).leaf rule)
      ((compiler.withExplicitText false).leaf rule) := by
  have planned : (compiler.withExplicitText true).plan rule =
      (compiler.withExplicitText false).plan rule := rfl
  rw [leaf, leaf, planned]
  refine (OnlyRefuses.refl _).bind fun plan => OnlyRefuses.bind ?_ fun check => .refl _
  unfold check
  cases plan.operator with
  | custom operator => exact .refl _
  | builtin operator => exact builtinCheck_onlyRefuses plan

/-- The induction is on the tree: a group does what its children do one after the other. -/
theorem predicate_onlyRefuses (rule : Rule) :
    OnlyRefuses ((compiler.withExplicitText true).predicate rule)
      ((compiler.withExplicitText false).predicate rule) := by
  induction rule using Rule.tree_induction with
  | node rule inductionHypothesis =>
      by_cases childless : rule.rules = []
      · by_cases unnamed : rule.fieldPath = ""
        · rw [predicate_vacuous childless unnamed, predicate_vacuous childless unnamed]
          exact .refl _
        · rw [predicate_named childless unnamed, predicate_named childless unnamed]
          exact (leaf_onlyRefuses rule).map _
      · rw [predicate_group childless, predicate_group childless]
        exact (OnlyRefuses.mapM inductionHypothesis).map _

end Compiler

/-! ## Kinds -/

/-- Whether a literal is of the kind of a type: a number, a boolean, a timestamp or a guid. -/
def Literal.isOf : Literal → FieldType → Bool
  | int _, base | double _, base => base = .int || base = .long || base = .double
  | bool _, base => base = .bool
  | dateTime _, base => base = .date || base = .dateTime
  | guid _, base => base = .guid
  | text _, _ => false

/-- Literals read for a declared type are of the kind of each type that is compared with them
without conversion. -/
theorem Coercer.isOf_of_readLiteral {coercer : Coercer} {declared : DeclaredType}
    {base : FieldType} {raw : Json} {literal : Literal}
    (compatible : Compiler.isCompatible declared base = true)
    (read : coercer.readLiteral declared raw = .ok literal) : literal.isOf base = true := by
  obtain ⟨plain, plainRead⟩ := exists_readPlain read
  unfold readPlain at plainRead
  cases declared with
  | integer | long | double =>
      obtain ⟨value, _, rfl⟩ := map_eq_ok_iff.mp plainRead
      cases base with
      | int | long | double => rfl
      | _ => cases compatible
  | boolean =>
      obtain ⟨value, _, rfl⟩ := map_eq_ok_iff.mp plainRead
      cases base with
      | bool => rfl
      | _ => cases compatible
  | date | dateTime =>
      obtain ⟨time, _, rfl⟩ := map_eq_ok_iff.mp plainRead
      cases base with
      | date | dateTime => rfl
      | _ => cases compatible
  | guid =>
      obtain ⟨value, _, rfl⟩ := map_eq_ok_iff.mp plainRead
      cases base with
      | guid => rfl
      | _ => cases compatible
  | string =>
      cases base <;> cases compatible

namespace Literal

/-- Whether two literals say the same: booleans and guids have no order and have to be equal, and
others are ordered as equal. -/
def agrees : Literal → Literal → Bool
  | bool left, bool right => left == right
  | guid left, guid right => left = right
  | left, right => (left.order? right).any Ordering.isEq

end Literal

/-- Whether an operator that compares with its literals as a whole, in its positive form, holds for
a literal in the place of the field. -/
def Operator.compares : Operator → Literal → List Literal → Bool
  | equal, own, [literal] => own.agrees literal
  | oneOf, own, literals => literals.any own.agrees
  | between, own, [low, high] =>
      (own.order? low).any Ordering.isGE && (own.order? high).any Ordering.isLE
  | operator, own, [literal] =>
      operator.comparesOne && (own.order? literal).any operator.accepts
  | _, _, _ => false

namespace Semantics

/-- The literal that a value is; a timestamp is cut to its day where it is compared so. -/
def own? (semantics : Semantics) : Value → Option Literal
  | .int value => some (.int value)
  | .double value => some (.double value)
  | .bool value => some (.bool value)
  | .dateTime time => some (.dateTime (if semantics.dateOnly then time.midnight else time))
  | .guid value => some (.guid value)
  | _ => none

variable {semantics : Semantics} {value : Value} {own literal : Literal} {base : FieldType}

theorem exists_own_of_conforms {schema : Schema} {untyped : Value → Prop}
    (scalar : base.isScalar = true) (conforms : Conforms schema untyped base value) :
    ∃ own, semantics.own? value = some own ∧ own.isOf base = true := by
  cases conforms with
  | int _ | long _ | double _ | bool _ | date _ | dateTime _ | guid _ => exact ⟨_, rfl, rfl⟩
  | _ => cases scalar

/-- Null and lists are no literals. -/
theorem single_of_own (owned : semantics.own? value = some own) :
    (∀ items, value ≠ .list items) ∧ value.isNull = false := by
  cases value with
  | null | list _ => cases owned
  | _ => exact ⟨fun items impossible => (by cases impossible), rfl⟩

/-- A value is ordered as the literal that it is. -/
theorem order?_own (owned : semantics.own? value = some own) (literal : Literal) :
    semantics.order? value literal = own.order? literal := by
  cases value with
  | int _ | double _ | bool _ | dateTime _ | guid _ =>
      cases owned
      cases literal <;> rfl
  | _ => cases owned

/-- A value equals another literal than a text where the literal that it is agrees with it. -/
theorem equals_own (owned : semantics.own? value = some own) (kind : literal.isOf base = true) :
    semantics.equals value literal = own.agrees literal := by
  cases value with
  | int left =>
      cases owned
      cases literal with
      | int right => exact beq_eq_isEq_compare left right
      | double right => exact beq_some_eq _
      | text _ => cases kind
      | bool _ | dateTime _ | guid _ => rfl
  | double left =>
      cases owned
      cases literal with
      | int _ | double _ => exact beq_some_eq _
      | text _ => cases kind
      | bool _ | dateTime _ | guid _ => rfl
  | dateTime left =>
      cases owned
      cases literal with
      | dateTime right =>
          change _ = Option.any Ordering.isEq (some _)
          rw [← beq_some_eq, beq_eq_decide]
          rfl
      | text _ => cases kind
      | _ => rfl
  | bool left | guid left =>
      cases owned
      cases literal with
      | text _ => cases kind
      | _ => rfl
  | _ => cases owned

/-- An operator that compares as a whole holds for a value as it does for the literal it is. -/
theorem holds_eq_compares {operator : Operator} {operands : List Literal}
    (owned : semantics.own? value = some own)
    (kinds : ∀ operand ∈ operands, operand.isOf base = true)
    (compares : operator.comparesWhole = true) (positive : operator.isNegated = false)
    (takes : operator.TakesOperands operands) :
    semantics.holds operator operands value = operator.compares own operands := by
  cases operator with
  | equal =>
      obtain ⟨operand, rfl⟩ := takes
      exact equals_own owned (kinds operand List.mem_cons_self)
  | oneOf => exact any_congr_mem fun operand member => equals_own owned (kinds operand member)
  | less | lessOrEqual | greater | greaterOrEqual =>
      obtain ⟨operand, rfl⟩ := takes
      exact congrArg (Option.any _) (order?_own owned operand)
  | between =>
      obtain ⟨low, high, rfl⟩ := takes
      rw [holds, isBetween, order?_own owned low, order?_own owned high]
      rfl
  | notEqual | notOneOf | notBetween | notBeginsWith | notContains | notEndsWith | isNotEmpty
  | isNotNull => cases positive
  | beginsWith | contains | endsWith | isEmpty | isNull => cases compares

end Semantics

/-! ## Leaves -/

/-- The leaf compares the values of its field with literals of their kind, as the literals that
they are, and it writes none of them as text. -/
structure Leaf.ComparesByKind (leaf : Leaf) (operator : Operator) (operands : List Literal)
    (semantics : Semantics) : Prop where
  form : leaf.check = .builtin operator.positive operator.isNegated operands semantics
  plain : semantics.renderText = false
  kinds : ∀ operand ∈ operands, operand.isOf leaf.chain.target.nonNull = true
  answers : ∀ schema untyped value, Conforms schema untyped leaf.chain.target.nonNull value →
    ∃ own, semantics.own? value = some own ∧ own.isOf leaf.chain.target.nonNull = true ∧
      leaf.check.test value = (operator.isNegated ^^ operator.positive.compares own operands)

/-- Where a conversion to text has to be explicit, literals meet scalars by their kind only. -/
theorem Adapts.own_of_explicit {options : Options} {textMatch : Bool} {declared : DeclaredType}
    {semantics adapted : Semantics} {literals operands : List Literal} {base : FieldType}
    (adapts : Adapts options textMatch declared semantics literals base adapted operands)
    (explicit : options.explicitText = true) (scalar : base.isScalar = true) :
    textMatch = false ∧ Compiler.isCompatible declared base = true ∧ adapted = semantics ∧
      operands = literals := by
  cases adapts with
  | own whole _ compatible => exact ⟨whole, compatible, rfl, rfl⟩
  | rendered _ _ implicit =>
      rw [explicit] at implicit
      cases implicit
  | any | text | enumName _ _ _ | enumNumber _ _ | enumText _ _ => cases scalar

namespace Compiler

variable {compiler : Compiler} {rule : Rule} {plan : LeafPlan} {leaf : Leaf} {operator : Operator}

theorem map_foldLiteral_of_isOf {semantics : Semantics} {base : FieldType}
    {literals : List Literal} (kinds : ∀ literal ∈ literals, literal.isOf base = true) :
    literals.map (foldLiteral semantics) = literals := by
  have same : ∀ literal ∈ literals, foldLiteral semantics literal = literal := by
    intro literal member
    have kind := kinds literal member
    cases literal with
    | text _ => cases kind
    | _ => rfl
  exact (List.map_congr_left same).trans (List.map_id' literals)

/-- The check of a built-in operator that takes literals, for a field of a scalar type. -/
theorem check_of_explicit (explicit : compiler.options.explicitText = true)
    (plans : compiler.Plans rule plan) (builtin : plan.operator = .builtin operator)
    (takes : operator.isPresenceTest = false)
    (scalar : plan.chain.target.nonNull.isScalar = true) {check : Check}
    (checked : compiler.check plan = .ok check) :
    operator.comparesWhole = true ∧
      (∀ literal ∈ plan.literals, literal.isOf plan.chain.target.nonNull = true) ∧
      check = .builtin operator.positive operator.isNegated plan.literals
        (plan.semantics compiler.options) := by
  cases (check_eq_ok_iff_of_builtin builtin).mp checked with
  | presence presence =>
      rw [takes] at presence
      cases presence
  | keys _ map _ =>
      rw [map] at scalar
      cases scalar
  | compared _ _ adapts =>
      obtain ⟨whole, compatible, rfl, rfl⟩ := adapts.own_of_explicit explicit scalar
      have kinds := Coercer.forall_of_coerce
        (fun _ _ read => Coercer.isOf_of_readLiteral compatible read) plans.literals
      rw [map_foldLiteral_of_isOf kinds]
      refine ⟨?_, kinds, rfl⟩
      rw [Operator.comparesWhole, takes, whole]
      rfl

theorem comparesByKind_of_leaf (explicit : compiler.options.explicitText = true)
    (leafOk : compiler.leaf rule = .ok (plan, leaf)) (builtin : plan.operator = .builtin operator)
    (takes : operator.isPresenceTest = false)
    (scalar : leaf.chain.target.nonNull.isScalar = true) :
    ∃ operands semantics, leaf.ComparesByKind operator operands semantics := by
  obtain ⟨plans, checked, chain, _⟩ := leaf_eq_ok_iff.mp leafOk
  rw [chain] at scalar
  obtain ⟨compares, kinds, form⟩ := check_of_explicit explicit plans builtin takes scalar checked
  have admits := Coercer.admits_of_coerce plans.literals
  rw [builtin] at admits
  have presence : operator.positive.isPresenceTest = false :=
    operator.isPresenceTest_positive.trans takes
  refine ⟨plan.literals, plan.semantics compiler.options, form, rfl, by rwa [chain], ?_⟩
  intro schema untyped value conforms
  rw [chain] at conforms ⊢
  obtain ⟨own, owned, kind⟩ := Semantics.exists_own_of_conforms scalar conforms
  obtain ⟨single, present⟩ := Semantics.single_of_own owned
  have holds := Semantics.holds_eq_compares owned kinds
    (operator.comparesWhole_positive.trans compares) operator.isNegated_positive
    (Operator.takesOperands_positive admits)
  refine ⟨own, owned, kind, ?_⟩
  rw [form, Check.test, Check.positive_of_not_list presence single, present, holds]
  rfl

end Compiler

/-- The demand for an explicit conversion to text only rejects rules. What compiles with it compiles
without it to the same predicate; what fails without it fails with it, by the same error or by a
refusal. With it, a leaf that compares a field of a scalar type with literals compares the values by
their kind and writes none of them as text. -/
theorem explicit_text_only_rejects (compiler : Compiler) (rule : Rule) :
    (∀ predicate, (compiler.withExplicitText true).predicate rule = .ok predicate →
      (compiler.withExplicitText false).predicate rule = .ok predicate) ∧
    (∀ error, (compiler.withExplicitText false).predicate rule = .error error →
      ∃ other, (compiler.withExplicitText true).predicate rule = .error other ∧
        (other = error ∨ other.IsTextRefusal)) ∧
    ∀ predicate, (compiler.withExplicitText true).predicate rule = .ok predicate →
      List.Forall₂
        (fun source leaf => ∀ operator,
          resolveOperator? compiler.options.operators source.operatorName =
            some (.builtin operator) →
          operator.isPresenceTest = false → leaf.chain.target.nonNull.isScalar = true →
            ∃ operands semantics, leaf.ComparesByKind operator operands semantics)
        rule.leaves predicate.leaves := by
  have refuses := compiler.predicate_onlyRefuses rule
  refine ⟨fun predicate => refuses.ok_of_ok, fun error => refuses.error_of_error,
    fun predicate compiled => (Compiler.forall₂_leaves compiled).imp ?_⟩
  intro source leaf alone operator resolves takes scalar
  obtain ⟨plan, leafOk⟩ := Compiler.leaf_of_predicate alone
  have builtin := (Compiler.leaf_eq_ok_iff.mp leafOk).1.operator_eq resolves
  exact Compiler.comparesByKind_of_leaf rfl leafOk builtin takes scalar

theorem rowsRule_compiles_explicit :
    (nodeCompiler.withExplicitText true).predicate rowsRule = .ok (.leaf rowsLeaf) := by
  have plans : (nodeCompiler.withExplicitText true).Plans rowsRule rowsPlan := {
    field := rowsRule_plans.field
    operator := rowsRule_plans.operator
    declared := rowsRule_plans.declared
    orderable := rowsRule_plans.orderable
    chain := rowsRule_plans.chain
    literals := rowsRule_plans.literals }
  have compiled : (nodeCompiler.withExplicitText true).leaf rowsRule = .ok (rowsPlan, rowsLeaf) :=
    Compiler.leaf_eq_ok_iff.mpr ⟨plans, rfl, rfl, rfl⟩
  exact (Compiler.predicate_leaf_eq_ok_iff rfl (by decide +kernel)).mpr
    ⟨rowsPlan, rowsLeaf, compiled, rfl⟩

/-- A rule on the numbers in the rows of a node, and one with an unknown operator. -/
theorem explicit_text_only_rejects_rows :
    (nodeCompiler.withExplicitText false).predicate rowsRule = .ok (.leaf rowsLeaf) ∧
      (∃ operands semantics, rowsLeaf.ComparesByKind .notOneOf operands semantics) ∧
        ∃ error, (nodeCompiler.withExplicitText true).predicate (.test "Rows" "like") =
          .error error := by
  obtain ⟨lenient, _, kinds⟩ := explicit_text_only_rejects nodeCompiler rowsRule
  obtain ⟨_, fails, _⟩ := explicit_text_only_rejects nodeCompiler (.test "Rows" "like")
  have leaves : rowsRule.leaves = [rowsRule] := Rule.leaves_named rfl (by decide +kernel)
  have unknown : (nodeCompiler.withExplicitText false).plan (.test "Rows" "like") =
      .error (.unknownOperator (Rule.test "Rows" "like").fieldPath
        (Rule.test "Rows" "like").operatorName) := by
    have missing : resolveOperator? (nodeCompiler.withExplicitText false).options.operators
        (Rule.test "Rows" "like").operatorName = none :=
      Option.isNone_iff_eq_none.mp (by decide +kernel)
    unfold Compiler.plan
    rw [missing]
    rfl
  refine ⟨lenient _ rowsRule_compiles_explicit, ?_, ?_⟩
  · have each := kinds _ rowsRule_compiles_explicit
    rw [leaves] at each
    obtain ⟨compares, _⟩ := List.forall₂_cons.mp each
    exact compares .notOneOf rowsRule_plans.operator rfl rfl
  · obtain ⟨error, failed, _⟩ := fails _
      (Compiler.predicate_of_plan_error rfl (by decide +kernel) unknown)
    exact ⟨error, failed⟩

end RecordFilter
