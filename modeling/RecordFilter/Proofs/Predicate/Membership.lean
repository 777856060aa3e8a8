import RecordFilter.Proofs.Predicate.Tree

/-!
# Membership rules

The literals of a rule with `in` or `not_in` are read and adapted one by one, each like the
single literal of a rule with `equal` or `not_equal` on the same field. So all of these rules
compile to leaves that go the same way and differ only in their operands.
-/

namespace RecordFilter

/-! ## Adapting literals one by one -/

namespace Compiler

/-- Either no literals are adapted, or each literal is adapted by itself and all of them are
then compared in the same way. -/
def Pointwise (adapt : List Literal → Except CompileError (Semantics × List Literal)) : Prop :=
  (∃ error, ∀ literals, adapt literals = .error error) ∨
    ∃ adapted, ∃ fit : Literal → Except CompileError Literal, ∀ literals,
      adapt literals = (literals.mapM fit).map fun operands => (adapted, operands)

namespace Pointwise

theorem error (error : CompileError) : Pointwise fun _ => .error error :=
  Or.inl ⟨error, fun _ => rfl⟩

theorem read (adapted : Semantics) (fit : Literal → Except CompileError Literal) :
    Pointwise fun literals => do
      let operands ← literals.mapM fit
      return (adapted, operands) := by
  refine Or.inr ⟨adapted, fit, fun literals => ?_⟩
  simp only
  cases literals.mapM fit with
  | ok operands => rfl
  | error error => rfl

theorem change (adapted : Semantics) (change : Literal → Literal) :
    Pointwise fun literals => .ok (adapted, literals.map change) := by
  refine Or.inr ⟨adapted, fun literal => pure (change literal), fun literals => ?_⟩
  rw [List.mapM_pure]
  rfl

theorem keep (adapted : Semantics) : Pointwise fun literals => .ok (adapted, literals) := by
  have keeps := change adapted id
  simp only [List.map_id] at keeps
  exact keeps

theorem ite {condition : Prop} [Decidable condition]
    {first second : List Literal → Except CompileError (Semantics × List Literal)}
    (firstPointwise : Pointwise first) (secondPointwise : Pointwise second) :
    Pointwise fun literals => if condition then first literals else second literals := by
  by_cases holds : condition
  · simp only [if_pos holds]
    exact firstPointwise
  · simp only [if_neg holds]
    exact secondPointwise

end Pointwise

variable (options : Options) (operator : Operator) (context : LeafContext)
  (semantics : Semantics) (base : FieldType) (mismatch : MismatchReason → CompileError)

theorem adapt_pointwise :
    Pointwise fun literals =>
      adapt options operator context semantics literals base mismatch := by
  have asText : Pointwise fun literals =>
      if options.explicitText then .error (mismatch .implicitText)
      else .ok ({ semantics with renderText := true }, renderAll literals) :=
    .ite (.error _) (.change _ _)
  cases base with
  | any =>
      unfold adapt
      cases operator.isTextMatch with
      | true => exact .change _ _
      | false => exact .keep _
  | text => exact .change _ _
  | object _ | list _ | nullable _ | map _ _ => exact .error _
  | enum members =>
      exact .ite (.read _ _) (.ite (.keep _) (.ite asText (.error _)))
  | int | long | double | bool | date | dateTime | guid =>
      exact .ite asText (.ite (.keep _) (.error _))

end Compiler

/-- Literals fit a field one by one, all of them with the same semantics. -/
theorem Adapts.exists_fit (options : Options) (declared : DeclaredType) (semantics : Semantics)
    (base : FieldType) :
    ∃ adapted, ∃ fit : Literal → Literal → Prop, ∀ literals ≠ [], ∀ found operands,
      Adapts options false declared semantics literals base found operands ↔
        found = adapted ∧ List.Forall₂ fit literals operands := by
  let context : LeafContext := ⟨"", "", declared⟩
  have adapts (literals : List Literal) (found : Semantics) (operands : List Literal) :
      Compiler.adapt options .equal context semantics literals base
          (CompileError.typeMismatch context "") = .ok (found, operands) ↔
        Adapts options false declared semantics literals base found operands :=
    Compiler.adapt_eq_ok_iff
  have pointwise := Compiler.adapt_pointwise options .equal context semantics base
    (CompileError.typeMismatch context "")
  simp only [Compiler.Pointwise] at pointwise
  rcases pointwise with ⟨error, failed⟩ | ⟨adapted, fit, each⟩
  · refine ⟨semantics, fun _ _ => False, fun literals nonempty found operands => ?_⟩
    rw [← adapts, failed]
    constructor
    · exact fun impossible => by cases impossible
    · rintro ⟨_, fits⟩
      cases fits with
      | nil => exact absurd rfl nonempty
      | cons impossible _ => exact impossible.elim
  · refine ⟨adapted, fun literal operand => fit literal = .ok operand,
      fun literals _ found operands => ?_⟩
    rw [← adapts, each, map_eq_ok_iff, ← mapM_eq_ok_iff]
    constructor
    · rintro ⟨results, fits, same⟩
      cases same
      exact ⟨rfl, fits⟩
    · rintro ⟨rfl, fits⟩
      exact ⟨operands, fits, rfl⟩

/-! ## Rules on one field -/

/-- The rule that asks a field for a value with an operator. -/
def Rule.asking (field typeTag : Option String) (operator : Operator) (value : Json) : Rule :=
  ⟨.and, field, typeTag, some operator.name, some value, []⟩

namespace Operator

/-- Whether the operator is one of `equal`, `in` and their negated forms. -/
def isMembership (operator : Operator) : Bool :=
  operator.positive = equal || operator.positive = oneOf

theorem isMembership_spec {operator : Operator} (membership : operator.isMembership = true) :
    operator.isPresenceTest = false ∧ operator.needsOrder = false ∧
      operator.isTextMatch = false := by
  cases operator with
  | equal | notEqual | oneOf | notOneOf => exact ⟨rfl, rfl, rfl⟩
  | _ => cases membership

end Operator

namespace Compiler

variable {compiler : Compiler} {field typeTag : Option String} {operator : Operator}
  {value : Json}

/-- The leaf of a membership rule whose literals are adapted already. -/
def membershipLeaf (chain : Chain) (semantics : Semantics) (operator : Operator)
    (operands : List Literal) : Leaf where
  chain := chain
  quantifier := if operator.isNegated then .all else .any
  check := .builtin operator.positive operator.isNegated
    (operands.map (foldLiteral semantics)) semantics

/-- A membership rule compiles once its parts are found and its literals fit the field. -/
theorem predicate_asking_of_adapts
    (resolves : resolveOperator? compiler.options.operators (Text.trim operator.name) =
      some (.builtin operator))
    (membership : operator.isMembership = true)
    (named : (Rule.asking field typeTag operator value).fieldPath ≠ "")
    {declared : DeclaredType} {resolved : Chain} {literals operands : List Literal}
    {adapted : Semantics}
    (tagged : declaredType (.asking field typeTag operator value) = .ok declared)
    (found : compiler.resolver.resolve (.object compiler.root)
      (Rule.asking field typeTag operator value).fieldPath = .ok resolved)
    (read : compiler.options.coercer.coerce
      ⟨(Rule.asking field typeTag operator value).fieldPath, operator.name, declared⟩
      operator.arity (some value) = .ok literals)
    (adapts : Adapts compiler.options false declared
      ⟨compiler.options.caseSensitive, false, declared = .date⟩ literals
      resolved.throughLists.target.nonNull adapted operands) :
    compiler.predicate (.asking field typeTag operator value) =
      .ok (.leaf (membershipLeaf resolved.throughLists adapted operator operands)) := by
  obtain ⟨takes, needs, whole⟩ := Operator.isMembership_spec membership
  let plan : LeafPlan :=
    ⟨(Rule.asking field typeTag operator value).fieldPath, .builtin operator, declared,
      resolved.throughLists, literals⟩
  have plans : compiler.Plans (.asking field typeTag operator value) plan := {
    field := rfl
    operator := resolves
    declared := tagged
    orderable := by
      rintro other ⟨⟩ ordered
      rw [needs] at ordered
      cases ordered
    chain := ⟨resolved, found, (if_neg (of_decide_eq_false takes)).symm⟩
    literals := read }
  have checks : Checks compiler.options operator plan
      (membershipLeaf resolved.throughLists adapted operator operands).check := by
    refine .of_unordered takes needs ?_
    rw [whole]
    exact adapts
  have leafOk := leaf_eq_ok_iff.mpr ⟨plans, check_eq_ok_iff.mpr (Or.inr ⟨operator, rfl, checks⟩),
    rfl, (LeafPlan.quantifier_of_builtin rfl).symm⟩
  exact (predicate_leaf_eq_ok_iff rfl named).mpr ⟨plan, _, leafOk, rfl⟩

/-- What it takes for a membership rule to compile, and the leaf it compiles to. -/
theorem predicate_asking_eq_ok_iff (builtin : compiler.options.operators = [])
    (membership : operator.isMembership = true)
    (named : (Rule.asking field typeTag operator value).fieldPath ≠ "")
    {compiled : Predicate} :
    compiler.predicate (.asking field typeTag operator value) = .ok compiled ↔
      ∃ declared resolved literals adapted operands,
        declaredType (.asking field typeTag operator value) = .ok declared ∧
        compiler.resolver.resolve (.object compiler.root)
          (Rule.asking field typeTag operator value).fieldPath = .ok resolved ∧
        compiler.options.coercer.coerce
          ⟨(Rule.asking field typeTag operator value).fieldPath, operator.name, declared⟩
          operator.arity (some value) = .ok literals ∧
        Adapts compiler.options false declared
          ⟨compiler.options.caseSensitive, false, declared = .date⟩ literals
          resolved.throughLists.target.nonNull adapted operands ∧
        compiled = .leaf (membershipLeaf resolved.throughLists adapted operator operands) := by
  have isOperator : Operator.ofName? (Rule.asking field typeTag operator value).operatorName =
      some operator := operator.ofName?_trim_name
  obtain ⟨takes, _, whole⟩ := Operator.isMembership_spec membership
  have extended (resolved : Chain) : extendChain operator.arity resolved = resolved.throughLists :=
    if_neg (of_decide_eq_false takes)
  constructor
  · rw [predicate_leaf_eq_ok_iff rfl named]
    rintro ⟨plan, ⟨chain, quantifier, check⟩, leafOk, rfl⟩
    obtain ⟨plans, checked, rfl, rfl⟩ := leaf_eq_ok_iff.mp leafOk
    have operatorOfPlan := plans.builtin builtin isOperator
    obtain ⟨resolved, found, chainOfPlan⟩ := plans.chain
    rw [operatorOfPlan] at chainOfPlan
    have checks := (check_eq_ok_iff_of_builtin operatorOfPlan).mp checked
    cases checks with
    | presence presence =>
        rw [takes] at presence
        cases presence
    | keys _ _ contains =>
        unfold Operator.isMembership at membership
        rw [contains] at membership
        cases membership
    | @compared adapted operands _ _ adapts =>
        have chainEq : plan.chain = resolved.throughLists := chainOfPlan.trans (extended resolved)
        rw [whole, chainEq] at adapts
        refine ⟨plan.declared, resolved, plan.literals, adapted, operands, plans.declared, found,
          ?_, adapts, ?_⟩
        · have literals := plans.literals
          rw [operatorOfPlan] at literals
          refine (Coercer.coerce_congr ?_).mp literals
          rfl
        · rw [chainEq, LeafPlan.quantifier_of_builtin operatorOfPlan]
          rfl
  · rintro ⟨declared, resolved, literals, adapted, operands, tagged, found, read, adapts, rfl⟩
    exact predicate_asking_of_adapts (resolveOperator?_builtin builtin isOperator) membership named
      tagged found read adapts

/-- Once the tag is known and the path is resolved, a membership rule compiles when its
literals can be read and adapted. -/
theorem predicate_asking_of_resolved (builtin : compiler.options.operators = [])
    (membership : operator.isMembership = true)
    (named : (Rule.asking field typeTag operator value).fieldPath ≠ "") {declared : DeclaredType}
    (tagged : declaredType (.asking field typeTag operator value) = .ok declared)
    {resolved : Chain}
    (found : compiler.resolver.resolve (.object compiler.root)
      (Rule.asking field typeTag operator value).fieldPath = .ok resolved)
    {compiled : Predicate} :
    compiler.predicate (.asking field typeTag operator value) = .ok compiled ↔
      ∃ literals adapted operands,
        compiler.options.coercer.coerce
          ⟨(Rule.asking field typeTag operator value).fieldPath, operator.name, declared⟩
          operator.arity (some value) = .ok literals ∧
        Adapts compiler.options false declared
          ⟨compiler.options.caseSensitive, false, declared = .date⟩ literals
          resolved.throughLists.target.nonNull adapted operands ∧
        compiled = .leaf (membershipLeaf resolved.throughLists adapted operator operands) := by
  rw [predicate_asking_eq_ok_iff builtin membership named]
  constructor
  · rintro ⟨other, otherResolved, literals, adapted, operands, otherTagged, otherFound, compiles⟩
    cases Except.ok.inj (tagged.symm.trans otherTagged)
    cases Except.ok.inj (found.symm.trans otherFound)
    exact ⟨literals, adapted, operands, compiles⟩
  · rintro ⟨literals, adapted, operands, compiles⟩
    exact ⟨declared, resolved, literals, adapted, operands, tagged, found, compiles⟩

/-- The membership rules on one field: where they read, how they compare, and which operand
each literal makes. -/
structure Memberships (compiler : Compiler) (field typeTag : Option String) (chain : Chain)
    (semantics : Semantics) (operandOf : Json → Literal → Prop) : Prop where
  one (operator : Operator) (value : Json) (compiled : Predicate)
    (equal : operator.positive = .equal) (scalar : ∀ items, value ≠ .array items) :
    compiler.predicate (.asking field typeTag operator value) = .ok compiled ↔
      ∃ operand, operandOf value operand ∧
        compiled = .leaf (membershipLeaf chain semantics operator [operand])
  many (operator : Operator) (values : List Json) (compiled : Predicate)
    (oneOf : operator.positive = .oneOf) (nonempty : values ≠ []) :
    compiler.predicate (.asking field typeTag operator (.array values)) = .ok compiled ↔
      ∃ operands, List.Forall₂ operandOf values operands ∧
        compiled = .leaf (membershipLeaf chain semantics operator operands)

theorem isMembership_of_equal (equal : operator.positive = .equal) :
    operator.isMembership = true ∧ operator.arity = .single := by
  cases operator with
  | equal | notEqual => exact ⟨rfl, rfl⟩
  | _ => cases equal

theorem isMembership_of_oneOf (oneOf : operator.positive = .oneOf) :
    operator.isMembership = true ∧ operator.arity = .list := by
  cases operator with
  | oneOf | notOneOf => exact ⟨rfl, rfl⟩
  | _ => cases oneOf

/-- When no membership rule on the field compiles, no literal makes an operand. -/
theorem Memberships.of_none
    (none : ∀ (operator : Operator) value compiled, operator.isMembership = true →
      compiler.predicate (.asking field typeTag operator value) ≠ .ok compiled)
    (chain : Chain) (semantics : Semantics) :
    compiler.Memberships field typeTag chain semantics fun _ _ => False where
  one operator value compiled equal _ := by
    have failed := none operator value compiled (isMembership_of_equal equal).1
    simp [failed]
  many operator values compiled oneOf nonempty := by
    have failed := none operator (.array values) compiled (isMembership_of_oneOf oneOf).1
    constructor
    · exact fun compiledOk => absurd compiledOk failed
    · rintro ⟨operands, fits, _⟩
      cases fits with
      | nil => exact absurd rfl nonempty
      | cons impossible _ => exact impossible.elim

theorem exists_memberships (builtin : compiler.options.operators = [])
    (field typeTag : Option String) (named : (field.map Text.trim).getD "" ≠ "") :
    ∃ chain semantics operandOf,
      compiler.Memberships field typeTag chain semantics operandOf := by
  let path := (field.map Text.trim).getD ""
  -- Whether the tag is known and the path resolves depends on no operator and no value.
  by_cases known : ∃ declared resolved,
      declaredType (.asking field typeTag .equal .null) = .ok declared ∧
        compiler.resolver.resolve (.object compiler.root) path = .ok resolved
  · obtain ⟨declared, resolved, tagged, found⟩ := known
    obtain ⟨adapted, fit, fits⟩ := Adapts.exists_fit compiler.options declared
      ⟨compiler.options.caseSensitive, false, declared = .date⟩
      resolved.throughLists.target.nonNull
    refine ⟨resolved.throughLists, adapted, fun value operand => ∃ literal,
      compiler.options.coercer.readLiteral declared value = .ok literal ∧ fit literal operand,
      ?_, ?_⟩
    · intro operator value compiled equal scalar
      obtain ⟨membership, single⟩ := isMembership_of_equal equal
      rw [predicate_asking_of_resolved builtin membership named
        (declaredType_of_typeTag tagged rfl) found, single]
      constructor
      · rintro ⟨literals, found, operands, read, adapts, rfl⟩
        obtain ⟨literal, readOne, rfl⟩ := (Coercer.coerce_single_eq_ok_iff scalar).mp read
        obtain ⟨rfl, each⟩ := (fits [literal] (by simp) found operands).mp adapts
        cases each with
        | cons head tail =>
            cases tail
            exact ⟨_, ⟨literal, readOne, head⟩, rfl⟩
      · rintro ⟨operand, ⟨literal, readOne, fitsOne⟩, rfl⟩
        exact ⟨[literal], adapted, [operand],
          (Coercer.coerce_single_eq_ok_iff scalar).mpr ⟨literal, readOne, rfl⟩,
          (fits [literal] (by simp) adapted [operand]).mpr ⟨rfl, .cons fitsOne .nil⟩, rfl⟩
    · intro operator values compiled oneOf nonempty
      obtain ⟨membership, list⟩ := isMembership_of_oneOf oneOf
      have someLiterals {literals : List Literal} {read : Json → Literal → Prop}
          (each : List.Forall₂ read values literals) : literals ≠ [] := by
        rintro rfl
        cases each
        exact nonempty rfl
      rw [predicate_asking_of_resolved builtin membership named
        (declaredType_of_typeTag tagged rfl) found, list]
      simp only [Coercer.coerce_list_eq_ok_iff nonempty, ← exists_forall₂_and_iff]
      constructor
      · rintro ⟨literals, found, operands, read, adapts, rfl⟩
        obtain ⟨rfl, each⟩ := (fits literals (someLiterals read) found operands).mp adapts
        exact ⟨operands, ⟨literals, read, each⟩, rfl⟩
      · rintro ⟨operands, ⟨literals, read, each⟩, rfl⟩
        exact ⟨literals, adapted, operands, read,
          (fits literals (someLiterals read) adapted operands).mpr ⟨rfl, each⟩, rfl⟩
  · refine ⟨⟨path, [], .any, false⟩, ⟨false, false, false⟩, _, .of_none ?_ _ _⟩
    intro operator value compiled membership compiledOk
    obtain ⟨declared, resolved, _, _, _, tagged, found, _⟩ :=
      (predicate_asking_eq_ok_iff builtin membership named).mp compiledOk
    exact known ⟨declared, resolved, declaredType_of_typeTag tagged rfl, found⟩

end Compiler

end RecordFilter
