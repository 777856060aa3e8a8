import RecordFilter.Proofs.Path.Soundness
import RecordFilter.Proofs.Predicate.AbsentMembers
import RecordFilter.Proofs.Predicate.EnumNames
import RecordFilter.Proofs.Record.Recased

/-!
# Letters in either case

Where letter case is ignored, the case of ASCII letters matters neither in the texts of a rule
nor in those of a record: literals and fields are lower-cased, and names of enum members are
found in either case. A map is the exception, since it is asked for its keys as they are.
-/

namespace RecordFilter

/-- Texts that differ in the case of ASCII letters only, one by one. -/
def Text.RecasedAll (texts others : List String) : Prop :=
  List.Forall₂ (fun text other => Text.equalIgnoringCase text other = true) texts others

/-! ## Values -/

namespace Semantics

variable {semantics : Semantics} {first second : Value}

theorem fold_recased (ignores : semantics.caseSensitive = false) {text other : String}
    (letters : Text.equalIgnoringCase text other = true) :
    semantics.fold text = semantics.fold other := by
  rw [fold, fold, ignores, if_neg Bool.false_ne_true, if_neg Bool.false_ne_true]
  exact Text.lower_eq_of_equalIgnoringCase letters

theorem textOf?_recased (ignores : semantics.caseSensitive = false)
    (recased : first.Recased second) : semantics.textOf? first = semantics.textOf? second := by
  cases recased with
  | same _ | list _ | map _ | intMap _ | object _ _ => rfl
  | text letters => exact congrArg some (fold_recased ignores letters)

theorem order?_recased (recased : first.Recased second) :
    semantics.order? first = semantics.order? second := by
  funext literal
  cases recased with
  | same _ => rfl
  | text _ | list _ | map _ | intMap _ | object _ _ => cases literal <;> rfl

theorem equals_recased (ignores : semantics.caseSensitive = false)
    (recased : first.Recased second) : semantics.equals first = semantics.equals second := by
  funext literal
  have text := textOf?_recased ignores recased
  cases recased with
  | same _ => rfl
  | text _ | list _ | map _ | intMap _ | object _ _ =>
      cases literal with
      | text expected => simp only [equals, text]
      | int _ | double _ | bool _ | dateTime _ | guid _ => rfl

theorem containsOne_recased (ignores : semantics.caseSensitive = false)
    (recased : first.Recased second) (operands : List Literal) :
    semantics.containsOne first operands = semantics.containsOne second operands := by
  have text := textOf?_recased ignores recased
  have keys := funext recased.containsKey
  cases recased with
  | same _ => rfl
  | map _ | intMap _ => simp only [containsOne, keys]
  | text _ | list _ | object _ _ => simp only [containsOne, textMatch, text]

theorem holds_recased (ignores : semantics.caseSensitive = false)
    (recased : first.Recased second) (operator : Operator) (operands : List Literal) :
    semantics.holds operator operands first = semantics.holds operator operands second :=
  holds_congr (equals_recased ignores recased) (order?_recased recased)
    (textOf?_recased ignores recased) fun _ => containsOne_recased ignores recased operands

end Semantics

/-- The items of two related values pass a test alike when it tells no related values apart. -/
theorem Value.Carried.anyItem_eq {related : Value → Value → Prop} (carried : Carried related)
    {test : Value → Bool}
    (blind : ∀ first second, related first second → test first = test second) (first : Value) :
    ∀ second, related first second → first.anyItem test = second.anyItem test := by
  induction first using Value.items_induction with
  | list items itemsHypothesis =>
      intro second values
      obtain ⟨others, rfl, each⟩ := carried.of_list values
      clear values
      rw [anyItem, anyItem, anyItemOf_eq_any, anyItemOf_eq_any]
      induction each with
      | nil => rfl
      | @cons item other rest restOthers head _ restHypothesis =>
          rw [List.any_cons, List.any_cons, itemsHypothesis item List.mem_cons_self other head,
            restHypothesis fun item member =>
              itemsHypothesis item (List.mem_cons_of_mem _ member)]
  | single first single =>
      intro second values
      have otherSingle := carried.not_list values single
      rw [anyItem_of_not_list test single, anyItem_of_not_list test otherSingle,
        carried.isNull values, blind first second values]

theorem Check.test_recased {operator : Operator} (takes : operator.isPresenceTest = false)
    {semantics : Semantics} (ignores : semantics.caseSensitive = false) (negated : Bool)
    (operands : List Literal) {first second : Value} (recased : first.Recased second) :
    (Check.builtin operator negated operands semantics).test first =
      (Check.builtin operator negated operands semantics).test second := by
  have items := Value.Recased.carried.anyItem_eq
    (fun _ _ values => semantics.holds_recased ignores values operator operands) first second
    recased
  simp only [test, positive, takes, Bool.false_eq_true, if_false, items]

/-! ## Literals -/

namespace Compiler

section Texts

variable {semantics : Semantics} {texts others : List String}

theorem renderAll_texts (texts : List String) :
    renderAll (texts.map .text) = texts.map .text := by
  rw [renderAll, List.map_map]
  rfl

theorem foldLiterals_recased (ignores : semantics.caseSensitive = false)
    (letters : Text.RecasedAll texts others) :
    (others.map Literal.text).map (foldLiteral semantics) =
      (texts.map Literal.text).map (foldLiteral semantics) := by
  induction letters with
  | nil => rfl
  | cons head _ inductionHypothesis =>
      simp only [List.map_cons, inductionHypothesis, foldLiteral,
        semantics.fold_recased ignores head]

/-- Texts that differ in the case of letters only name the same enum members. -/
theorem enumMember_recased {context : LeafContext} {members : List (String × Int)}
    {text other : String} (letters : Text.equalIgnoringCase text other = true) :
    (enumMember false context members (.text other)).mapError CompileError.code =
      (enumMember false context members (.text text)).mapError CompileError.code := by
  rw [Text.equalIgnoringCase_iff] at letters
  unfold enumMember Text.equalIgnoringCase
  simp only [Literal.render, Bool.false_eq_true, if_false, letters]
  generalize members.find? _ = found
  cases found <;> rfl

theorem enumMembers_recased (context : LeafContext) (members : List (String × Int))
    (letters : Text.RecasedAll texts others) :
    ((others.map Literal.text).mapM (enumMember false context members)).mapError
        CompileError.code =
      ((texts.map Literal.text).mapM (enumMember false context members)).mapError
        CompileError.code := by
  rw [mapError_mapM, mapError_mapM]
  induction letters with
  | nil => rfl
  | cons head _ inductionHypothesis =>
      rw [List.map_cons, List.map_cons, List.mapM_cons, List.mapM_cons, inductionHypothesis,
        enumMember_recased head]

/-- Literals that differ in the case of letters only are adapted to a field alike, up to the
literal that an error names. -/
theorem adapt_recased {α : Type} {options : Options} (ignores : options.caseSensitive = false)
    {operator : Operator} {context : LeafContext} (folds : semantics.caseSensitive = false)
    (letters : Text.RecasedAll texts others) (base : FieldType)
    (mismatch : MismatchReason → CompileError) (finish : Semantics → List Literal → α) :
    ((adapt options operator context semantics (others.map .text) base mismatch).map
        fun (adapted, operands) => finish adapted (operands.map (foldLiteral adapted))).mapError
        CompileError.code =
      ((adapt options operator context semantics (texts.map .text) base mismatch).map
        fun (adapted, operands) => finish adapted (operands.map (foldLiteral adapted))).mapError
        CompileError.code := by
  have same (adapted : Semantics) (still : adapted.caseSensitive = false) :
      finish adapted ((others.map Literal.text).map (foldLiteral adapted)) =
        finish adapted ((texts.map Literal.text).map (foldLiteral adapted)) := by
    rw [foldLiterals_recased still letters]
  by_cases scalar : base.isScalar = true
  · rw [adapt_scalar scalar, adapt_scalar scalar]
    simp only [renderAll_texts]
    split
    · split
      · rfl
      · exact congrArg Except.ok (same { semantics with renderText := true } folds)
    · split
      · exact congrArg Except.ok (same semantics folds)
      · rfl
  · cases base with
    | int | long | double | bool | date | dateTime | guid => exact absurd rfl scalar
    | object _ | list _ | nullable _ | map _ _ => rfl
    | any | text =>
        simp only [adapt, renderAll_texts, ite_self]
        exact congrArg Except.ok (same semantics folds)
    | enum members =>
        have named := enumMembers_recased context members letters
        simp only [adapt_enum, renderAll_texts, ignores]
        split
        · rw [mapError_map, mapError_map, mapError_map, mapError_map, named]
        · split
          · exact congrArg Except.ok (same semantics folds)
          · split
            · split
              · rfl
              · exact congrArg Except.ok (same { semantics with renderText := true } folds)
            · rfl

end Texts

end Compiler

/-! ## Leaves -/

/-- Only names of enum members are compared exactly where letter case is ignored. -/
theorem Adapts.ignores_or_enum {options : Options} {textMatch : Bool} {declared : DeclaredType}
    {semantics adapted : Semantics} {literals operands : List Literal} {base : FieldType}
    (adapts : Adapts options textMatch declared semantics literals base adapted operands)
    (ignores : semantics.caseSensitive = false) :
    adapted.caseSensitive = false ∨ ∃ members, base = .enum members := by
  cases adapts with
  | enumName _ _ _ | enumNumber _ _ | enumText _ _ => exact Or.inr ⟨_, rfl⟩
  | any | text | rendered _ _ _ | own _ _ _ => exact Or.inl ignores

/-- The same plan for other texts. -/
def LeafPlan.withTexts (plan : LeafPlan) (texts : List String) : LeafPlan :=
  { plan with literals := texts.map .text }

namespace Compiler

section Leaf

variable {compiler : Compiler} {rule : Rule} {operator : Operator} {value other : Json}
  {texts others : List String}

/-- A rule that asks for other texts is planned as the rule, and fails as the rule does. -/
theorem plan_withValue
    (resolves : resolveOperator? compiler.options.operators rule.operatorName =
      some (.builtin operator))
    (takes : operator.isPresenceTest = false) (tagged : declaredType rule = .ok .string)
    (valued : rule.value = some value)
    (items : Coercer.itemsOf operator.arity value = texts.map .string)
    (otherItems : Coercer.itemsOf operator.arity other = others.map .string)
    (letters : Text.RecasedAll texts others) :
    compiler.plan (rule.withValue other) =
      (compiler.plan rule).map fun plan => plan.withTexts others := by
  have arity : operator.arity ≠ .none := of_decide_eq_false takes
  have coerced (context : LeafContext) (string : context.declared = .string) :
      compiler.options.coercer.coerce context operator.arity (some other) =
        (compiler.options.coercer.coerce context operator.arity (some value)).map
          fun _ => others.map .text := by
    rw [Coercer.coerce_texts arity string items, Coercer.coerce_texts arity string otherItems,
      letters.length_eq]
    cases Coercer.wantedBy operator.arity others.length <;> rfl
  have otherTagged : declaredType (rule.withValue other) = .ok .string :=
    declaredType_of_typeTag tagged rfl
  have otherResolves : resolveOperator? compiler.options.operators
      (rule.withValue other).operatorName = some (.builtin operator) := resolves
  have path : (rule.withValue other).fieldPath = rule.fieldPath := rfl
  have otherValue : (rule.withValue other).value = some other := rfl
  rw [plan_of_resolved resolves tagged, plan_of_resolved otherResolves otherTagged, path,
    otherValue, valued, ResolvedOperator.arity, coerced _ rfl]
  simp only [map_bind]
  generalize checkOrderable _ _ = ordered
  generalize compiler.resolver.resolve _ _ = resolved
  generalize compiler.options.coercer.coerce _ _ _ = literals
  cases ordered <;> cases resolved <;> cases literals <;> rfl

theorem check_withTexts {plan : LeafPlan} (ignores : compiler.options.caseSensitive = false)
    (builtin : plan.operator = .builtin operator) (takes : operator.isPresenceTest = false)
    (unordered : operator.needsOrder = false)
    (noMap : ∀ key entry, plan.chain.target.nonNull ≠ .map key entry)
    (letters : Text.RecasedAll texts others) :
    (compiler.check (plan.withTexts others)).mapError CompileError.code =
      (compiler.check (plan.withTexts texts)).mapError CompileError.code := by
  have builtinWith (written : List String) :
      (plan.withTexts written).operator = .builtin operator := builtin
  have noMapWith (written : List String) :
      ∀ key entry, (plan.withTexts written).chain.target.nonNull ≠ .map key entry := noMap
  have folds : (plan.semantics compiler.options).caseSensitive = false := ignores
  rw [check_compared (builtinWith others) takes unordered (noMapWith others),
    check_compared (builtinWith texts) takes unordered (noMapWith texts)]
  exact adapt_recased ignores folds letters plan.chain.target.nonNull _ fun adapted operands =>
    Check.builtin operator.positive operator.isNegated operands adapted

/-- A rule for other texts compiles to the same leaf, or fails with an error of the same code. -/
theorem predicate_withValue (ignores : compiler.options.caseSensitive = false)
    (childless : rule.rules = [])
    (resolves : resolveOperator? compiler.options.operators rule.operatorName =
      some (.builtin operator))
    (takes : operator.isPresenceTest = false) (unordered : operator.needsOrder = false)
    (tagged : declaredType rule = .ok .string) (valued : rule.value = some value)
    (items : Coercer.itemsOf operator.arity value = texts.map .string)
    (otherItems : Coercer.itemsOf operator.arity other = others.map .string)
    (letters : Text.RecasedAll texts others)
    (noMap : ∀ chain, compiler.resolver.resolve (.object compiler.root) rule.fieldPath = .ok chain →
      ∀ key entry, chain.throughLists.target.nonNull ≠ .map key entry) :
    (compiler.predicate (rule.withValue other)).mapError CompileError.code =
      (compiler.predicate rule).mapError CompileError.code := by
  have otherChildless : (rule.withValue other).rules = [] := childless
  by_cases named : rule.fieldPath = ""
  · have otherUnnamed : (rule.withValue other).fieldPath = "" := named
    rw [predicate_vacuous childless named, predicate_vacuous otherChildless otherUnnamed]
  · have otherNamed : (rule.withValue other).fieldPath ≠ "" := named
    have replanned := plan_withValue resolves takes tagged valued items otherItems letters
    cases planned : compiler.plan rule with
    | error error =>
        rw [planned] at replanned
        rw [predicate_of_plan_error childless named planned,
          predicate_of_plan_error otherChildless otherNamed replanned]
    | ok plan =>
        rw [planned] at replanned
        have plans := plan_eq_ok_iff.mp planned
        have builtin := plans.operator_eq resolves
        have arity : operator.arity ≠ .none := of_decide_eq_false takes
        have written : plan.withTexts texts = plan := by
          have literals := plans.literals
          rw [builtin, valued] at literals
          obtain ⟨same, _⟩ :=
            Coercer.texts_of_coerce arity items (plans.declared_eq tagged) literals
          rw [LeafPlan.withTexts, ← same]
        have target : ∀ key entry, plan.chain.target.nonNull ≠ .map key entry := by
          obtain ⟨resolved, found, extended⟩ := plans.chain
          have lists : extendChain operator.arity resolved = resolved.throughLists := if_neg arity
          rw [extended, builtin, ResolvedOperator.arity, lists]
          exact noMap resolved found
        have checks := check_withTexts ignores builtin takes unordered target letters
        rw [written] at checks
        rw [predicate_of_plan childless named planned,
          predicate_of_plan otherChildless otherNamed replanned, mapError_map, mapError_map, checks]
        rfl

/-- A leaf with literals has one answer for values that differ in the case of letters only: it
ignores the case, or its field holds members of an enum, which have none. -/
theorem test_recased_of_predicate (ignores : compiler.options.caseSensitive = false)
    (resolves : resolveOperator? compiler.options.operators rule.operatorName =
      some (.builtin operator))
    (takes : operator.isPresenceTest = false) {leaf : Leaf}
    (compiled : compiler.predicate rule = .ok (.leaf leaf)) {first second : Value}
    (conforms : Conforms compiler.schema (fun _ => True) leaf.chain.target first)
    (recased : first.Recased second) : leaf.check.test first = leaf.check.test second := by
  obtain ⟨plan, leafOk⟩ := leaf_of_predicate compiled
  obtain ⟨plans, checked, chain, _⟩ := leaf_eq_ok_iff.mp leafOk
  have checks := (check_eq_ok_iff_of_builtin (plans.operator_eq resolves)).mp checked
  generalize leaf.check = check at checks
  cases checks with
  | presence presence =>
      rw [takes] at presence
      cases presence
  | keys _ _ _ => simp only [Check.test, Check.hasKey, recased.containsKey]
  | compared _ _ adapts =>
      rcases adapts.ignores_or_enum ignores with folds | ⟨members, enum⟩
      · exact Check.test_recased (operator.isPresenceTest_positive.trans takes) folds _ _ recased
      · rw [← chain] at enum
        rcases conforms.null_or_nonNull with rfl | unwrapped
        · cases recased
          rfl
        · rw [enum] at unwrapped
          cases unwrapped
          cases recased
          rfl

end Leaf

end Compiler

/-- Where letter case is ignored, a rule that compares with texts compiles alike and has the same
answers whatever the case of the letters A to Z in its texts and in the texts of the record,
unless it asks a map for keys. -/
theorem letter_case_ignored (compiler : Compiler)
    (ignores : compiler.options.caseSensitive = false)
    (builtin : compiler.options.operators = []) {rule : Rule} (childless : rule.rules = [])
    {operator : Operator} (named : Operator.ofName? rule.operatorName = some operator)
    (takes : operator.isPresenceTest = false) (unordered : operator.needsOrder = false)
    (tagged : Compiler.declaredType rule = .ok .string) {value : Json}
    (valued : rule.value = some value) {texts : List String}
    (items : Coercer.itemsOf operator.arity value = texts.map .string)
    (noMap : ∀ chain, compiler.resolver.resolve (.object compiler.root) rule.fieldPath = .ok chain →
      ∀ key entry, chain.throughLists.target.nonNull ≠ .map key entry) :
    (∀ other others, Coercer.itemsOf operator.arity other = others.map .string →
      Text.RecasedAll texts others →
      (compiler.predicate (rule.withValue other)).mapError CompileError.code =
        (compiler.predicate rule).mapError CompileError.code) ∧
    ∀ leaf, compiler.predicate rule = .ok (.leaf leaf) → ∀ record recased,
      Conforms compiler.schema (fun _ => True) (.object compiler.root) record →
      record.Recased recased → leaf.evaluate recased = leaf.evaluate record := by
  have resolves := Compiler.resolveOperator?_builtin builtin named
  constructor
  · intro other others otherItems letters
    exact Compiler.predicate_withValue ignores childless resolves takes unordered tagged valued
      items otherItems letters noMap
  · intro leaf compiled record recased conforms values
    symm
    refine Chain.visit_eq_of_carried Value.Recased.carried values fun first second member related =>
      ?_
    have admitted := Chain.outcomes_admitted .all (Compiler.leads_of_predicate compiled) conforms _
      member
    cases admitted with
    | reached valueConforms =>
        exact Compiler.test_recased_of_predicate ignores resolves takes compiled valueConforms
          related

/-- A record with untyped data conforms whatever the data are. -/
theorem scene_conforms (data : Value) :
    Conforms sceneCompiler.schema (fun _ => True) (.object sceneCompiler.root)
      (.object [("Data", data)] []) := by
  refine .object ?_ ?_ ?_
  · rintro member type ⟨⟩
    · rfl
    · contradiction
  · rintro member type value ⟨⟩ found
    · exact .any trivial
    · contradiction
  · rintro type key value ⟨⟩

/-- A red row is found in capital letters, and by a rule in capital letters. -/
theorem letter_case_ignored_color :
    let scene (color : String) := Value.object
      [("Data", .map [("rows", .list [.map [("color", .text color)]])])] []
    ∃ leaf, sceneCompiler.predicate (colorRule.withValue (.string "RED")) = .ok (.leaf leaf) ∧
      leaf.evaluate (scene "Red") = .ok false ∧ leaf.evaluate (scene "red") = .ok false := by
  intro scene
  have named : Operator.ofName? colorRule.operatorName = some .notEqual :=
    Operator.ofName?_trim_name .notEqual
  have items (text : String) :
      Coercer.itemsOf Operator.notEqual.arity (.string text) = [text].map .string := rfl
  have noMap : ∀ chain, sceneCompiler.resolver.resolve (.object sceneCompiler.root)
      colorRule.fieldPath = .ok chain →
      ∀ key entry, chain.throughLists.target.nonNull ≠ .map key entry := by
    intro chain resolved
    have split : Resolver.segmentsOf colorRule.fieldPath = ["Data", "rows", "color"] := by
      decide +kernel
    obtain ⟨_, any⟩ := Resolver.steps_of_untyped split rfl rfl resolved
    have lists : Compiler.extendChain .single chain = chain.throughLists := if_neg (by decide)
    rw [← lists, Compiler.extendChain_of_not_list, any]
    · exact fun key entry impossible => by cases impossible
    · rw [any]
      exact fun element impossible => by cases impossible
  obtain ⟨literals, records⟩ := letter_case_ignored sceneCompiler rfl rfl rfl named rfl rfl rfl rfl
    (items "red") noMap
  have compiles := literals (.string "RED") ["RED"] (items "RED") (.cons (by decide) .nil)
  rw [colorRule_compiles] at compiles
  have recased : (scene "red").Recased (scene "Red") :=
    .object (.cons (.map (.cons (.list (.cons (.map (.cons (.text (by decide)) .nil)) .nil)) .nil))
      .nil) .nil
  have answer : colorLeaf.evaluate (scene "red") = .ok false := by decide +kernel
  refine ⟨colorLeaf, mapError_eq_ok_iff.mp compiles, ?_, answer⟩
  rw [records colorLeaf colorRule_compiles _ _ (scene_conforms _) recased, answer]

end RecordFilter
