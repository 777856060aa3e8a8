import RecordFilter.Predicate.Compile
import RecordFilter.Proofs.Literal.Coercion
import RecordFilter.Proofs.Operator.Partner
import RecordFilter.Proofs.Path.Typing

/-!
# Leaves that compile

What it takes for a leaf to compile, one relation for each stage: planning looks up the parts
of the leaf, adapting fits the literals to the type of the field, and checking makes the test.
Each relation holds exactly when its stage succeeds, and none of them speaks of the errors.
-/

namespace RecordFilter

/-! ## Planning -/

/-- The parts of a leaf are found in the options, the schema and the rule. -/
structure Compiler.Plans (compiler : Compiler) (rule : Rule) (plan : LeafPlan) : Prop where
  field : plan.field = rule.fieldPath
  operator : resolveOperator? compiler.options.operators rule.operatorName = some plan.operator
  declared : declaredType rule = .ok plan.declared
  orderable : ∀ operator, plan.operator = .builtin operator → operator.needsOrder = true →
    plan.declared.isOrderable = true
  chain : ∃ resolved,
    compiler.resolver.resolve (.object compiler.root) rule.fieldPath = .ok resolved ∧
      plan.chain = extendChain plan.operator.arity resolved
  literals : compiler.options.coercer.coerce plan.context plan.operator.arity rule.value =
    .ok plan.literals

theorem LeafPlan.quantifier_of_builtin {plan : LeafPlan} {operator : Operator}
    (builtin : plan.operator = .builtin operator) :
    plan.quantifier = if operator.isNegated then .all else .any := by
  unfold quantifier
  rw [builtin]
  rfl

namespace Compiler

variable {compiler : Compiler} {rule : Rule} {plan : LeafPlan} {leaf : Leaf}

theorem declaredType_of_tag {tag : String} {declared : DeclaredType}
    (tagged : rule.typeTag = some tag) (visible : Text.trim tag ≠ "")
    (read : DeclaredType.ofTag? (Text.trim tag) = some declared) :
    declaredType rule = .ok declared := by
  unfold declaredType
  rw [tagged, Option.map_some]
  simp only
  rw [if_neg (by simpa using visible), read]

/-- The declared type is that of the tag, whatever else the rule says. -/
theorem declaredType_of_typeTag {other : Rule} {declared : DeclaredType}
    (tagged : declaredType rule = .ok declared) (typeTag : other.typeTag = rule.typeTag) :
    declaredType other = .ok declared := by
  unfold declaredType at tagged ⊢
  rw [typeTag]
  split at tagged
  next => exact tagged
  next =>
      split at tagged
      next blank => rw [if_pos blank, tagged]
      next visible =>
          rw [if_neg visible]
          split at tagged
          next => exact tagged
          next => cases tagged

theorem checkOrderable_eq_ok_iff {context : LeafContext} {operator : ResolvedOperator}
    {answer : Unit} :
    checkOrderable context operator = .ok answer ↔
      ∀ builtin, operator = .builtin builtin → builtin.needsOrder = true →
        context.declared.isOrderable = true := by
  cases operator with
  | custom operator => simp [checkOrderable]
  | builtin operator =>
      cases ordered : operator.needsOrder <;>
        cases orderable : context.declared.isOrderable <;>
          simp [checkOrderable, ordered, orderable]

theorem plan_eq_ok_iff : compiler.plan rule = .ok plan ↔ compiler.Plans rule plan := by
  unfold Compiler.plan
  simp only
  constructor
  · intro planned
    split at planned
    next operator named =>
        simp only [bind_eq_ok_iff, pure_eq_ok_iff, checkOrderable_eq_ok_iff] at planned
        obtain ⟨_, same, declared, tagged, _, orderable, resolved, found, literals, read, rfl⟩ :=
          planned
        cases same
        exact ⟨rfl, named, tagged, orderable, ⟨resolved, found, rfl⟩, read⟩
    next => cases planned
  · intro plans
    obtain ⟨resolved, found, extended⟩ := plans.chain
    rw [plans.operator]
    simp only [bind_eq_ok_iff, pure_eq_ok_iff, checkOrderable_eq_ok_iff]
    refine ⟨plan.operator, rfl, plan.declared, plans.declared, (), plans.orderable, resolved,
      found, plan.literals, ?_, ?_⟩
    · refine (Coercer.coerce_congr ?_).mp plans.literals
      rfl
    · rw [← extended, ← plans.field]

theorem leaf_eq_ok_iff :
    compiler.leaf rule = .ok (plan, leaf) ↔
      compiler.Plans rule plan ∧ compiler.check plan = .ok leaf.check ∧
        leaf.chain = plan.chain ∧ leaf.quantifier = plan.quantifier := by
  unfold Compiler.leaf
  simp only [bind_eq_ok_iff, pure_eq_ok_iff, plan_eq_ok_iff, Prod.mk.injEq]
  constructor
  · rintro ⟨_, plans, check, checked, rfl, rfl⟩
    exact ⟨plans, checked, rfl, rfl⟩
  · rintro ⟨plans, checked, chain, quantifier⟩
    exact ⟨plan, plans, leaf.check, checked, rfl, by rw [← chain, ← quantifier]⟩

theorem Plans.operator_eq {found : ResolvedOperator} (plans : compiler.Plans rule plan)
    (resolves : resolveOperator? compiler.options.operators rule.operatorName = some found) :
    plan.operator = found :=
  Option.some.inj (plans.operator.symm.trans resolves)

theorem Plans.declared_eq {declared : DeclaredType} (plans : compiler.Plans rule plan)
    (tagged : declaredType rule = .ok declared) : plan.declared = declared :=
  Except.ok.inj (plans.declared.symm.trans tagged)

/-- With its operator and type known, a leaf is planned by resolving its path and reading its
literals. -/
theorem plan_of_resolved {found : ResolvedOperator} {declared : DeclaredType}
    (resolves : resolveOperator? compiler.options.operators rule.operatorName = some found)
    (tagged : declaredType rule = .ok declared) :
    compiler.plan rule = do
      checkOrderable ⟨rule.fieldPath, found.name, declared⟩ found
      let resolved ← compiler.resolver.resolve (.object compiler.root) rule.fieldPath
      let literals ← compiler.options.coercer.coerce ⟨rule.fieldPath, found.name, declared⟩
        found.arity rule.value
      return ⟨rule.fieldPath, found, declared, extendChain found.arity resolved, literals⟩ := by
  unfold Compiler.plan
  rw [resolves, tagged]
  rfl

section Builtin

variable {operator : Operator}

theorem resolveOperator?_builtin {name : String} (builtin : compiler.options.operators = [])
    (named : Operator.ofName? name = some operator) :
    resolveOperator? compiler.options.operators name = some (.builtin operator) := by
  rw [builtin, resolveOperator?_nil, named]
  rfl

theorem Plans.builtin (builtin : compiler.options.operators = [])
    (named : Operator.ofName? rule.operatorName = some operator)
    (plans : compiler.Plans rule plan) : plan.operator = .builtin operator :=
  plans.operator_eq (resolveOperator?_builtin builtin named)

end Builtin

/-- The chain of a compiled leaf is typed, extended through lists or not. -/
theorem Plans.leads (plans : compiler.Plans rule plan) :
    Leads compiler.schema (.object compiler.root) plan.chain.steps plan.chain.target := by
  obtain ⟨resolved, found, extended⟩ := plans.chain
  have leads := (Resolver.resolve_eq_ok found).1.leads
  rw [extended]
  unfold extendChain
  split
  · exact leads
  · exact Chain.leads_throughLists leads

theorem Plans.nullGuard (plans : compiler.Plans rule plan) :
    plan.chain.nullGuard = compiler.options.nullChecks := by
  obtain ⟨resolved, found, extended⟩ := plans.chain
  have guarded := (Resolver.resolve_eq_ok found).2.2
  rw [extended]
  unfold extendChain
  split
  · exact guarded
  · exact guarded

end Compiler

/-! ## Adapting -/

/-- Whether values of the type are numbers, booleans, dates, timestamps or guids. -/
def FieldType.isScalar : FieldType → Bool
  | int | long | double | bool | date | dateTime | guid => true
  | _ => false

/-- How literals of a declared type are fitted to a field type without nullable wrappers. -/
inductive Adapts (options : Options) (textMatch : Bool) (declared : DeclaredType)
    (semantics : Semantics) (literals : List Literal) :
    FieldType → Semantics → List Literal → Prop where
  | any :
      Adapts options textMatch declared semantics literals .any semantics
        (if textMatch then Compiler.renderAll literals else literals)
  | text :
      Adapts options textMatch declared semantics literals .text semantics
        (Compiler.renderAll literals)
  | enumName {members : List (String × Int)} {named : List Literal}
      (whole : textMatch = false) (texts : declared = .string)
      (each : List.Forall₂
        (fun literal member => ∀ context, Compiler.enumMember options.caseSensitive context
          members literal = .ok member) literals named) :
      Adapts options textMatch declared semantics literals (.enum members)
        { semantics with caseSensitive := true, renderText := true } named
  | enumNumber {members : List (String × Int)} (whole : textMatch = false)
      (numeric : declared.isNumeric = true) :
      Adapts options textMatch declared semantics literals (.enum members) semantics literals
  | enumText {members : List (String × Int)} (part : textMatch = true)
      (implicit : options.explicitText = false) :
      Adapts options textMatch declared semantics literals (.enum members)
        { semantics with renderText := true } (Compiler.renderAll literals)
  | rendered {base : FieldType} (scalar : base.isScalar = true)
      (asText : textMatch = true ∨ declared = .string) (implicit : options.explicitText = false) :
      Adapts options textMatch declared semantics literals base
        { semantics with renderText := true } (Compiler.renderAll literals)
  | own {base : FieldType} (whole : textMatch = false) (kind : declared ≠ .string)
      (compatible : Compiler.isCompatible declared base = true) :
      Adapts options textMatch declared semantics literals base semantics literals

/-- Maps are compared with no literals. -/
theorem Adapts.not_map {options : Options} {textMatch : Bool} {declared : DeclaredType}
    {semantics adapted : Semantics} {literals operands : List Literal} {base value : FieldType}
    {key : KeyKind}
    (adapts : Adapts options textMatch declared semantics literals base adapted operands) :
    base ≠ .map key value := by
  rintro rfl
  cases adapts with
  | rendered scalar _ _ => cases scalar
  | own _ _ compatible => cases compatible

/-- Records are compared with no literals. -/
theorem Adapts.not_object {options : Options} {textMatch : Bool} {declared : DeclaredType}
    {semantics adapted : Semantics} {literals operands : List Literal} {base : FieldType}
    {shape : String}
    (adapts : Adapts options textMatch declared semantics literals base adapted operands) :
    base ≠ .object shape := by
  rintro rfl
  cases adapts with
  | rendered scalar _ _ => cases scalar
  | own _ _ compatible => cases compatible

namespace Compiler

theorem enumMember_congr {caseSensitive : Bool} {context : LeafContext}
    {members : List (String × Int)} {literal member : Literal}
    (found : enumMember caseSensitive context members literal = .ok member) :
    ∀ other, enumMember caseSensitive other members literal = .ok member := by
  intro other
  unfold enumMember at found ⊢
  simp only at found ⊢
  split at found
  next named => exact found
  next => cases found

variable {options : Options} {operator : Operator} {context : LeafContext}
  {semantics adapted : Semantics} {literals operands : List Literal} {base : FieldType}
  {mismatch : MismatchReason → CompileError}

theorem adapt_enum {members : List (String × Int)} :
    adapt options operator context semantics literals (.enum members) mismatch =
      if !operator.isTextMatch && decide (context.declared = .string) then
        (literals.mapM (enumMember options.caseSensitive context members)).map
          fun named => ({ semantics with caseSensitive := true, renderText := true }, named)
      else if !operator.isTextMatch && context.declared.isNumeric then .ok (semantics, literals)
      else if operator.isTextMatch || decide (context.declared = .string) then
        if options.explicitText then .error (mismatch .implicitText)
        else .ok ({ semantics with renderText := true }, renderAll literals)
      else .error (mismatch .differentType) := by
  unfold adapt
  simp only
  congr

theorem adapt_scalar (scalar : base.isScalar = true) :
    adapt options operator context semantics literals base mismatch =
      if operator.isTextMatch || decide (context.declared = .string) then
        if options.explicitText then .error (mismatch .implicitText)
        else .ok ({ semantics with renderText := true }, renderAll literals)
      else if isCompatible context.declared base then .ok (semantics, literals)
      else .error (mismatch .differentType) := by
  cases base with
  | int | long | double | bool | date | dateTime | guid => rfl
  | text | enum _ | object _ | list _ | map _ _ | nullable _ | any => cases scalar

theorem adapt_scalar_eq_ok_iff (scalar : base.isScalar = true) :
    adapt options operator context semantics literals base mismatch = .ok (adapted, operands) ↔
      Adapts options operator.isTextMatch context.declared semantics literals base adapted
        operands := by
  rw [adapt_scalar scalar]
  by_cases asText : operator.isTextMatch = true ∨ context.declared = .string
  · rw [if_pos (by simpa using asText)]
    constructor
    · intro adaptation
      split at adaptation
      next => cases adaptation
      next implicit =>
          cases adaptation
          exact .rendered scalar asText (eq_false_of_ne_true implicit)
    · intro adapts
      cases adapts with
      | rendered _ _ implicit => rw [if_neg (ne_true_of_eq_false implicit)]
      | own whole kind _ =>
          rcases asText with part | texts
          · rw [whole] at part
            cases part
          · exact absurd texts kind
      | any | text | enumName _ _ _ | enumNumber _ _ | enumText _ _ => cases scalar
  · rw [if_neg (by simpa using asText)]
    rw [not_or, Bool.not_eq_true] at asText
    constructor
    · intro adaptation
      split at adaptation
      next compatible =>
          cases adaptation
          exact .own asText.1 asText.2 compatible
      next => cases adaptation
    · intro adapts
      cases adapts with
      | own _ _ compatible => rw [if_pos compatible]
      | rendered _ textual _ =>
          rcases textual with part | texts
          · rw [asText.1] at part
            cases part
          · exact absurd texts asText.2
      | any | text | enumName _ _ _ | enumNumber _ _ | enumText _ _ => cases scalar

theorem adapt_enum_eq_ok_iff {members : List (String × Int)} :
    adapt options operator context semantics literals (.enum members) mismatch =
        .ok (adapted, operands) ↔
      Adapts options operator.isTextMatch context.declared semantics literals (.enum members)
        adapted operands := by
  rw [adapt_enum]
  cases part : operator.isTextMatch with
  | true =>
      simp only [Bool.not_true, Bool.false_and, Bool.false_eq_true, if_false, Bool.true_or,
        if_true]
      constructor
      · intro adaptation
        split at adaptation
        next => cases adaptation
        next implicit =>
            cases adaptation
            exact .enumText rfl (eq_false_of_ne_true implicit)
      · intro adapts
        cases adapts with
        | enumText _ implicit => rw [if_neg (ne_true_of_eq_false implicit)]
        | enumName whole _ _ => cases whole
        | enumNumber whole _ => cases whole
        | rendered scalar _ _ => cases scalar
        | own whole _ _ => cases whole
  | false =>
      simp only [Bool.not_false, Bool.true_and, Bool.false_or, decide_eq_true_eq]
      constructor
      · intro adaptation
        split at adaptation
        next texts =>
            obtain ⟨named, each, equality⟩ := map_eq_ok_iff.mp adaptation
            cases equality
            exact .enumName rfl texts
              ((mapM_eq_ok_iff.mp each).imp fun _ _ found => enumMember_congr found)
        next texts =>
            split at adaptation
            next numeric =>
                cases adaptation
                exact .enumNumber rfl numeric
            next => cases adaptation
      · intro adapts
        cases adapts with
        | enumName _ texts each =>
            rw [if_pos texts, map_eq_ok_iff]
            exact ⟨operands, mapM_eq_ok_iff.mpr (each.imp fun _ _ found => found context), rfl⟩
        | enumNumber _ numeric =>
            have noText : context.declared ≠ .string := by
              intro texts
              rw [texts] at numeric
              cases numeric
            rw [if_neg noText, if_pos numeric]
        | enumText part _ => cases part
        | rendered scalar _ _ => cases scalar
        | own _ _ compatible => cases compatible

theorem adapt_eq_ok_iff :
    adapt options operator context semantics literals base mismatch = .ok (adapted, operands) ↔
      Adapts options operator.isTextMatch context.declared semantics literals base adapted
        operands := by
  cases base with
  | int | long | double | bool | date | dateTime | guid => exact adapt_scalar_eq_ok_iff rfl
  | enum members => exact adapt_enum_eq_ok_iff
  | any =>
      constructor
      · intro adaptation
        cases adaptation
        exact .any
      · intro adapts
        cases adapts with
        | any => rfl
        | rendered scalar _ _ => cases scalar
        | own _ _ compatible => cases compatible
  | text =>
      constructor
      · intro adaptation
        cases adaptation
        exact .text
      · intro adapts
        cases adapts with
        | text => rfl
        | rendered scalar _ _ => cases scalar
        | own _ _ compatible => cases compatible
  | object _ | list _ | nullable _ | map _ _ =>
      constructor
      · intro adaptation
        cases adaptation
      · intro adapts
        cases adapts with
        | rendered scalar _ _ => cases scalar
        | own _ _ compatible => cases compatible

end Compiler

/-! ## Checking -/

/-- How values are read before the literals are adapted. -/
def LeafPlan.semantics (plan : LeafPlan) (options : Options) : Semantics :=
  ⟨options.caseSensitive, false, plan.declared = .date⟩

/-- The test of a leaf with a built-in operator. -/
inductive Checks (options : Options) (operator : Operator) (plan : LeafPlan) : Check → Prop where
  | presence (presence : operator.isPresenceTest = true) :
      Checks options operator plan
        (.builtin operator.positive operator.isNegated plan.literals (plan.semantics options))
  | keys {key : KeyKind} {value : FieldType} (takes : operator.isPresenceTest = false)
      (map : plan.chain.target.nonNull = .map key value)
      (contains : operator.positive = .contains) :
      Checks options operator plan
        (.mapKey (plan.literals.map Literal.render) operator.isNegated)
  | compared {adapted : Semantics} {operands : List Literal}
      (takes : operator.isPresenceTest = false)
      (ordered : operator.needsOrder = true → plan.chain.target.nonNull.isOrderable = true)
      (adapts : Adapts options operator.isTextMatch plan.declared (plan.semantics options)
        plan.literals plan.chain.target.nonNull adapted operands) :
      Checks options operator plan
        (.builtin operator.positive operator.isNegated
          (operands.map (Compiler.foldLiteral adapted)) adapted)

/-- Without a need for an order, the literals only have to fit the field. -/
theorem Checks.of_unordered {options : Options} {operator : Operator} {plan : LeafPlan}
    {adapted : Semantics} {operands : List Literal} (takes : operator.isPresenceTest = false)
    (unordered : operator.needsOrder = false)
    (adapts : Adapts options operator.isTextMatch plan.declared (plan.semantics options)
      plan.literals plan.chain.target.nonNull adapted operands) :
    Checks options operator plan
      (.builtin operator.positive operator.isNegated
        (operands.map (Compiler.foldLiteral adapted)) adapted) := by
  refine .compared takes ?_ adapts
  intro ordered
  rw [unordered] at ordered
  cases ordered

namespace Compiler

variable {options : Options} {operator : Operator} {plan : LeafPlan} {check : Check}

theorem builtinCheck_presence (presence : operator.isPresenceTest = true) :
    builtinCheck options operator plan =
      .ok (.builtin operator.positive operator.isNegated plan.literals
        (plan.semantics options)) := by
  unfold builtinCheck
  simp only [if_pos presence]
  rfl

theorem builtinCheck_unordered (takes : operator.isPresenceTest = false)
    (unordered : ¬ (operator.needsOrder = true →
      plan.chain.target.nonNull.isOrderable = true)) :
    ∃ error, builtinCheck options operator plan = .error error := by
  unfold builtinCheck
  rw [Classical.not_imp, Bool.not_eq_true] at unordered
  simp only [takes, Bool.false_eq_true, if_false, unordered.1, unordered.2, Bool.not_false,
    Bool.and_self, if_true]
  exact ⟨_, rfl⟩

theorem builtinCheck_keys {key : KeyKind} {value : FieldType}
    (map : plan.chain.target.nonNull = .map key value)
    (contains : operator.positive = .contains) :
    builtinCheck options operator plan =
      .ok (.mapKey (plan.literals.map Literal.render) operator.isNegated) := by
  unfold builtinCheck
  cases operator with
  | contains | notContains => simp [Operator.isPresenceTest, Operator.arity, Operator.needsOrder,
      Operator.positive, map]
  | _ => cases contains

theorem builtinCheck_compared (takes : operator.isPresenceTest = false)
    (ordered : operator.needsOrder = true → plan.chain.target.nonNull.isOrderable = true)
    (other : ∀ key value, plan.chain.target.nonNull = .map key value →
      operator.positive ≠ .contains) :
    builtinCheck options operator plan =
      (adapt options operator plan.context (plan.semantics options) plan.literals
        plan.chain.target.nonNull
        (fun reason => .typeMismatch plan.context plan.chain.target.name reason)).map
        fun (adapted, operands) =>
          .builtin operator.positive operator.isNegated (operands.map (foldLiteral adapted))
            adapted := by
  have guard : ¬ ((operator.needsOrder && !plan.chain.target.nonNull.isOrderable) = true) := by
    cases needs : operator.needsOrder with
    | false => simp
    | true => simp [ordered needs]
  unfold builtinCheck LeafPlan.semantics
  simp only [takes, Bool.false_eq_true, if_false, if_neg guard]
  generalize adapt options operator plan.context _ plan.literals _ _ = adaptation
  cases adaptation with
  | ok found => rfl
  | error error => rfl

theorem checks_of_builtinCheck (checked : builtinCheck options operator plan = .ok check) :
    Checks options operator plan check := by
  cases takes : operator.isPresenceTest with
  | true =>
      rw [builtinCheck_presence takes] at checked
      cases checked
      exact .presence takes
  | false =>
      by_cases ordered : operator.needsOrder = true →
          plan.chain.target.nonNull.isOrderable = true
      · by_cases keyed : ∃ key value, plan.chain.target.nonNull = .map key value ∧
            operator.positive = .contains
        · obtain ⟨key, value, map, contains⟩ := keyed
          rw [builtinCheck_keys map contains] at checked
          cases checked
          exact .keys takes map contains
        · have other : ∀ key value, plan.chain.target.nonNull = .map key value →
              operator.positive ≠ .contains :=
            fun key value map contains => keyed ⟨key, value, map, contains⟩
          rw [builtinCheck_compared takes ordered other, map_eq_ok_iff] at checked
          obtain ⟨⟨adapted, operands⟩, adaptation, rfl⟩ := checked
          exact .compared takes ordered (adapt_eq_ok_iff.mp adaptation)
      · obtain ⟨error, failed⟩ := builtinCheck_unordered takes ordered
        rw [failed] at checked
        cases checked

theorem builtinCheck_eq_ok_iff :
    builtinCheck options operator plan = .ok check ↔ Checks options operator plan check := by
  refine ⟨checks_of_builtinCheck, fun checks => ?_⟩
  cases checks with
  | presence presence => exact builtinCheck_presence presence
  | keys _ map contains => exact builtinCheck_keys map contains
  | @compared adapted operands takes ordered adapts =>
      rw [builtinCheck_compared takes ordered fun _ _ map => absurd map adapts.not_map,
        map_eq_ok_iff]
      exact ⟨(adapted, operands), adapt_eq_ok_iff.mpr adapts, rfl⟩

/-- The check of a leaf with a custom operator takes the literals as they are read. -/
theorem check_eq_ok_iff {compiler : Compiler} :
    compiler.check plan = .ok check ↔
      (∃ custom, plan.operator = .custom custom ∧ check = .custom custom plan.literals) ∨
        ∃ operator, plan.operator = .builtin operator ∧
          Checks compiler.options operator plan check := by
  unfold Compiler.check
  cases plan.operator with
  | custom custom => simp [eq_comm]
  | builtin operator => simp [builtinCheck_eq_ok_iff]

theorem check_eq_ok_iff_of_builtin {compiler : Compiler}
    (builtin : plan.operator = .builtin operator) :
    compiler.check plan = .ok check ↔ Checks compiler.options operator plan check := by
  rw [check_eq_ok_iff, builtin]
  simp

/-- What is compared with a field that is no map is adapted to it. -/
theorem check_compared {compiler : Compiler} (builtin : plan.operator = .builtin operator)
    (takes : operator.isPresenceTest = false) (unordered : operator.needsOrder = false)
    (noMap : ∀ key entry, plan.chain.target.nonNull ≠ .map key entry) :
    compiler.check plan =
      (adapt compiler.options operator plan.context (plan.semantics compiler.options) plan.literals
        plan.chain.target.nonNull
        (fun reason => .typeMismatch plan.context plan.chain.target.name reason)).map
        fun (adapted, operands) =>
          .builtin operator.positive operator.isNegated (operands.map (foldLiteral adapted))
            adapted := by
  have ordered : operator.needsOrder = true → plan.chain.target.nonNull.isOrderable = true := by
    rw [unordered]
    exact fun impossible => by cases impossible
  unfold Compiler.check
  rw [builtin]
  exact builtinCheck_compared takes ordered fun key entry map => absurd map (noMap key entry)

end Compiler

end RecordFilter
