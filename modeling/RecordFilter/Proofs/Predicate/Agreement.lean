import RecordFilter.Proofs.Path.Untyped
import RecordFilter.Proofs.Predicate.Duality

/-!
# Typed and untyped leaves agree

A leaf that compiles on a typed path compiles on the same path under an untyped member, to
the same check. When the member holds a document that mirrors the record, both leaves give
the same answer. This needs a declared type that is natural for the scalars at the end of
the path, because an untyped field is compared without knowing what it should be.
-/

namespace RecordFilter

/-! ## Natural types -/

/-- The declared types that are natural for a scalar type; operators that look for a part of a
text are natural for texts only. -/
inductive Natural (operator : Operator) : DeclaredType → FieldType → Prop where
  | text : Natural operator .string .text
  | int {declared : DeclaredType} (numeric : declared.isNumeric = true)
      (whole : operator.isTextMatch = false) : Natural operator declared .int
  | long {declared : DeclaredType} (numeric : declared.isNumeric = true)
      (whole : operator.isTextMatch = false) : Natural operator declared .long
  | double {declared : DeclaredType} (numeric : declared.isNumeric = true)
      (whole : operator.isTextMatch = false) : Natural operator declared .double
  | bool (whole : operator.isTextMatch = false) : Natural operator .boolean .bool

namespace Natural

variable {operator : Operator} {declared : DeclaredType} {schema : Schema}
  {untyped : Value → Prop} {base type : FieldType} {value : Value}

theorem scalar (natural : Natural operator declared base)
    (conforms : Conforms schema untyped base value) :
    (∀ items, value ≠ .list items) ∧ (∀ entries, value ≠ .map entries) ∧
      ∀ members indexed, value ≠ .object members indexed := by
  cases natural <;> cases conforms <;> simp

/-- Under list layers and nullable wrappers there are no maps and no records. -/
theorem flat (natural : Natural operator declared type.openLists.2.nonNull)
    (conforms : Conforms schema untyped type value) :
    (∀ entries, value ≠ .map entries) ∧ ∀ members indexed, value ≠ .object members indexed := by
  rcases conforms.null_or_nonNull with rfl | unwrapped
  · simp
  · by_cases list : ∃ element, type.nonNull = .list element
    · obtain ⟨element, list⟩ := list
      rw [list] at unwrapped
      cases unwrapped
      simp
    · have opened := FieldType.openLists_of_not_list fun element same => list ⟨element, same⟩
      rw [opened] at natural
      exact (natural.scalar unwrapped).2

/-- Scalars are read from a document that mirrors them. -/
theorem ofJson_eq (natural : Natural operator declared type.nonNull)
    (conforms : Conforms schema untyped type value) {document : Json}
    (mirrors : Mirrors value document) : .ofJson document = value := by
  rcases conforms.null_or_nonNull with rfl | unwrapped
  · exact mirrors.ofJson_eq (by simp) (by simp) (by simp)
  · obtain ⟨noList, noMap, noRecord⟩ := natural.scalar unwrapped
    exact mirrors.ofJson_eq noList noMap noRecord

theorem not_map (natural : Natural operator declared type.openLists.2.nonNull) (key : KeyKind)
    (element : FieldType) : type.nonNull ≠ .map key element := by
  intro map
  have opened := FieldType.openLists_of_not_list fun inner list => by
    rw [map] at list
    cases list
  rw [opened, map] at natural
  cases natural

theorem not_any (natural : Natural operator declared type.openLists.2.nonNull) :
    type ≠ .any := by
  rintro rfl
  cases natural

end Natural

/-! ## Tests -/

namespace Value

theorem anyItemOf_eq_any (test : Value → Bool) (items : List Value) :
    anyItemOf test items = items.any (anyItem test) := by
  induction items with
  | nil => rfl
  | cons item rest inductionHypothesis =>
      rw [anyItemOf, inductionHypothesis, List.any_cons]

end Value

namespace Check

variable {operator : Operator} {negated : Bool} {operands : List Literal}
  {semantics : Semantics}

/-- A test with literals takes a list for its items, with the quantifier of the operator. -/
theorem test_list_eq_scan (takes : operator.isPresenceTest = false) (values : List Value) :
    Outcome.scan (if negated then .all else .any)
        (test (.builtin operator negated operands semantics)) (values.map .reached) =
      .ok (test (.builtin operator negated operands semantics) (.list values)) := by
  have single (value : Value) : test (.builtin operator negated operands semantics) value =
      (negated ^^ value.anyItem (semantics.holds operator operands)) := by
    rw [test, positive, if_neg (ne_true_of_eq_false takes)]
  rw [Outcome.scan_reached_all, single, Value.anyItem, Value.anyItemOf_eq_any]
  cases negated with
  | false =>
      have same : test (.builtin operator false operands semantics) =
          Value.anyItem (semantics.holds operator operands) := by
        funext value
        rw [single, Bool.false_xor]
      rw [same, Bool.false_xor]
      rfl
  | true =>
      have same : test (.builtin operator true operands semantics) =
          fun value => !value.anyItem (semantics.holds operator operands) := by
        funext value
        rw [single, Bool.true_xor]
      rw [same, Bool.true_xor, List.not_any_eq_all_not]
      rfl

theorem test_presence_congr (presence : operator.isPresenceTest = true) {value other : Value}
    (size : other.size? = value.size?) (null : other.isNull = value.isNull) :
    test (.builtin operator negated operands semantics) other =
      test (.builtin operator negated operands semantics) value := by
  rw [test, test, positive, positive, if_pos presence, if_pos presence]
  unfold isPresent
  rw [size, null]

end Check

/-! ## Checks -/

theorem Compiler.renderAll_eq_self {literals : List Literal}
    (texts : ∀ literal ∈ literals, ∃ text, literal = .text text) :
    renderAll literals = literals := by
  have each : ∀ literal ∈ literals, Literal.text literal.render = id literal := by
    intro literal member
    obtain ⟨text, rfl⟩ := texts literal member
    rfl
  rw [renderAll, List.map_congr_left each, List.map_id]

section Checks

variable {options : Options} {operator : Operator} {plan other : LeafPlan} {check : Check}

theorem Adapts.not_list {textMatch : Bool} {declared : DeclaredType}
    {semantics adapted : Semantics} {literals operands : List Literal} {base : FieldType}
    (adapts : Adapts options textMatch declared semantics literals base adapted operands)
    (element : FieldType) : base ≠ .list element := by
  rintro rfl
  cases adapts with
  | rendered scalar _ _ => cases scalar
  | own _ _ compatible => cases compatible

theorem Adapts.any_of_own {declared : DeclaredType} {semantics adapted : Semantics}
    {literals operands : List Literal} {base : FieldType}
    (adapts : Adapts options operator.isTextMatch declared semantics literals base adapted
      operands)
    (scalar : base.isScalar = true) (whole : operator.isTextMatch = false)
    (noText : declared ≠ .string) :
    Adapts options operator.isTextMatch declared semantics literals .any adapted operands := by
  rw [whole] at adapts ⊢
  cases adapts with
  | own _ _ _ => exact .any
  | rendered _ asText _ =>
      rcases asText with part | texts
      · cases part
      · exact absurd texts noText
  | any | text | enumName _ _ _ | enumNumber _ _ | enumText _ _ => cases scalar

/-- For a natural declared type the literals are adapted as for an untyped field. -/
theorem Natural.adapts {declared : DeclaredType} {semantics adapted : Semantics}
    {literals operands : List Literal} {base : FieldType}
    (natural : Natural operator declared base)
    (texts : declared = .string → Compiler.renderAll literals = literals)
    (adapts : Adapts options operator.isTextMatch declared semantics literals base adapted
      operands) :
    Adapts options operator.isTextMatch declared semantics literals .any adapted operands := by
  cases natural with
  | text =>
      cases adapts with
      | text =>
          have same : Compiler.renderAll literals =
              if operator.isTextMatch then Compiler.renderAll literals else literals := by
            rw [texts rfl, ite_self]
          rw [same]
          exact .any
      | rendered scalar _ _ => cases scalar
      | own _ kind _ => exact absurd rfl kind
  | int numeric whole | long numeric whole | double numeric whole =>
      have noText : declared ≠ .string := by
        rintro rfl
        cases numeric
      exact adapts.any_of_own rfl whole noText
  | bool whole => exact adapts.any_of_own rfl whole (by decide)

/-- A check on a field with a natural declared type is also the check on an untyped field. -/
theorem Checks.untyped
    (natural : Natural operator plan.declared plan.chain.target.openLists.2.nonNull)
    (texts : plan.declared = .string → Compiler.renderAll plan.literals = plan.literals)
    (declared : other.declared = plan.declared) (literals : other.literals = plan.literals)
    (any : other.chain.target = .any) (checks : Checks options operator plan check) :
    Checks options operator other check := by
  have semantics : other.semantics options = plan.semantics options := by
    unfold LeafPlan.semantics
    rw [declared]
  cases checks with
  | presence presence =>
      rw [← semantics, ← literals]
      exact .presence presence
  | keys _ map _ => exact absurd map (natural.not_map _ _)
  | compared takes ordered adapts =>
      have opened := FieldType.openLists_of_not_list adapts.not_list
      rw [opened] at natural
      refine .compared takes (fun _ => by rw [any]; rfl) ?_
      rw [any, declared, literals, semantics]
      exact natural.adapts texts adapts

variable {schema : Schema} {untyped : Value → Prop}

/-- A check tests a value and a document that mirrors it alike. -/
theorem Checks.agrees (checks : Checks options operator plan check)
    (natural : Natural operator plan.declared plan.chain.target.openLists.2.nonNull)
    (value : Value) (document : Json) (conforms : Conforms schema untyped plan.chain.target value)
    (mirrors : Mirrors value document) :
    check.test (.ofJson document) = check.test value := by
  cases checks with
  | presence presence =>
      obtain ⟨noMap, noRecord⟩ := natural.flat conforms
      obtain ⟨size, null⟩ := mirrors.size?_ofJson noMap noRecord
      exact Check.test_presence_congr (operator.isPresenceTest_positive.trans presence) size null
  | keys _ map _ => exact absurd map (natural.not_map _ _)
  | compared _ _ adapts =>
      have opened := FieldType.openLists_of_not_list adapts.not_list
      rw [opened] at natural
      rw [natural.ofJson_eq conforms mirrors]

theorem Checks.test_list_eq_scan (checks : Checks options operator plan check)
    (builtin : plan.operator = .builtin operator) (takes : operator.isPresenceTest = false)
    (natural : Natural operator plan.declared plan.chain.target.openLists.2.nonNull)
    (values : List Value) :
    Outcome.scan plan.quantifier check.test (values.map .reached) =
      .ok (check.test (.list values)) := by
  rw [LeafPlan.quantifier_of_builtin builtin]
  cases checks with
  | presence presence =>
      rw [takes] at presence
      cases presence
  | keys _ map _ => exact absurd map (natural.not_map _ _)
  | compared _ _ _ =>
      exact Check.test_list_eq_scan (operator.isPresenceTest_positive.trans takes) values

end Checks

/-! ## Leaves -/

/-- The same rule with its path under a member. -/
def Rule.under (rule : Rule) (member : String) : Rule :=
  { rule with field := some (member ++ "." ++ rule.fieldPath) }

/-- The chain through an untyped member along the named steps of a chain. -/
def Chain.under (chain : Chain) (member path : String) : Chain :=
  ⟨path, .member member :: Chain.untypedSteps chain.steps, .any, chain.nullGuard⟩

theorem Chain.outcomes_under {chain : Chain} {member path : String} {document : Json}
    {members indexed : List (String × Value)}
    (held : members.lookup member = some (.ofJson document)) :
    (chain.under member path).outcomes (.object members indexed) =
      (chain.under member path).outcomesFrom (untypedSteps chain.steps) (.ofJson document) := by
  have hop : (Step.member member).hop (.object members indexed) = .found (.ofJson document) := by
    rw [Step.hop, held]
  exact outcomesFrom_found rfl rfl hop

namespace Compiler

variable {typed holder : Compiler} {member : String} {rule : Rule} {plan : LeafPlan}
  {leaf : Leaf} {operator : Operator}

theorem untypedSteps_extendChain (arity : Arity) (chain : Chain) :
    Chain.untypedSteps (extendChain arity chain).steps = Chain.untypedSteps chain.steps := by
  unfold extendChain
  split
  · rfl
  · unfold Chain.throughLists Chain.untypedSteps
    rw [List.filterMap_append, filterMap_name?_each, List.append_nil]

/-- Records have an untyped member, and paths can name it. -/
structure HasUntyped (holder : Compiler) (member : String) : Prop where
  declared : ∃ type, (holder.schema.shape holder.root).find? member = some type ∧
    type.nonNull = .any
  named : member ≠ ""
  trimmed : Text.trim member = member
  whole : '.' ∉ member.toList

/-- The path of a typed leaf resolves under an untyped member too. -/
theorem resolve_under (same : holder.options = typed.options)
    (plain : ∀ shape, (typed.schema.shape shape).indexer = none)
    (has : holder.HasUntyped member) (plans : typed.Plans rule plan) :
    (rule.under member).fieldPath ≠ "" ∧
      holder.resolver.resolve (.object holder.root) (rule.under member).fieldPath =
        .ok (plan.chain.under member (rule.under member).fieldPath) := by
  obtain ⟨resolved, found, extended⟩ := plans.chain
  obtain ⟨memberType, declared, any⟩ := has.declared
  -- The dynamic steps are made for the segments of the typed path, which its steps still name.
  have names := ((Resolver.resolve_eq_ok found).1.names plain).1
  have filled := Resolver.segments_of_resolve found
  rw [Resolver.segmentsOf_trim] at names filled
  have field : (rule.under member).fieldPath =
      Text.trim (member ++ "." ++ rule.fieldPath) := rfl
  have segments : Resolver.segmentsOf (rule.under member).fieldPath =
      member :: Resolver.segmentsOf rule.fieldPath := by
    rw [field, Resolver.segmentsOf_trim, Resolver.segmentsOf_member has.trimmed has.whole]
  have steps : Chain.untypedSteps plan.chain.steps =
      (Resolver.segmentsOf rule.fieldPath).map .dynamic := by
    rw [extended, untypedSteps_extendChain, Chain.untypedSteps, names]
  obtain ⟨segment, rest, split⟩ := Resolver.exists_segmentsOf_eq_cons rule.fieldPath
  constructor
  · intro empty
    have alone : Resolver.segmentsOf "" = [""] := by decide +kernel
    rw [empty, alone] at segments
    exact has.named (List.cons.inj segments).1.symm
  · have splitUnder : Resolver.segmentsOf (Text.trim (rule.under member).fieldPath) =
        member :: segment :: rest := by
      rw [Resolver.segmentsOf_trim, segments, split]
    have filledUnder : (member :: segment :: rest).any String.isEmpty = false := by
      rw [← split, List.any_cons, filled, Bool.or_false]
      simpa using has.named
    have followed : holder.resolver.follow (Text.trim (rule.under member).fieldPath)
        (.object holder.root) (member :: segment :: rest) =
          .ok (.member member :: .dynamic segment :: rest.map .dynamic, .any) :=
      Resolver.follow_member rfl declared (Resolver.follow_of_any any segment rest)
    rw [Resolver.resolve_of_follow splitUnder filledUnder followed, Chain.under, steps, split,
      field, Text.trim_trim, plans.nullGuard, ← same]
    rfl

/-- Only operators that take literals go through the items of a list at the end. -/
theorem Plans.takes_of_last (plans : typed.Plans rule plan)
    (plain : ∀ shape, (typed.schema.shape shape).indexer = none)
    (builtin : plan.operator = .builtin operator)
    (last : plan.chain.steps.getLast? = some .each) : operator.isPresenceTest = false := by
  obtain ⟨resolved, found, extended⟩ := plans.chain
  have notEach := ((Resolver.resolve_eq_ok found).1.names plain).2
  rw [← Bool.not_eq_true]
  intro presence
  have none : plan.operator.arity = .none := by
    rw [builtin]
    exact of_decide_eq_true presence
  rw [extended, none] at last
  exact notEach last

/-- A leaf with a natural declared type compiles to the same check under an untyped member. -/
theorem leaf_under (same : holder.options = typed.options)
    (plain : ∀ shape, (typed.schema.shape shape).indexer = none)
    (has : holder.HasUntyped member) (compiled : typed.leaf rule = .ok (plan, leaf))
    (builtin : plan.operator = .builtin operator)
    (natural : Natural operator plan.declared leaf.chain.target.openLists.2.nonNull) :
    ∃ untypedPlan, holder.leaf (rule.under member) =
      .ok (untypedPlan,
        ⟨leaf.chain.under member (rule.under member).fieldPath, leaf.quantifier, leaf.check⟩) := by
  obtain ⟨plans, checked, chain, quantifier⟩ := leaf_eq_ok_iff.mp compiled
  obtain ⟨_, resolved⟩ := resolve_under same plain has plans
  have untypedTarget (arity : Arity) (path : String) :
      extendChain arity (plan.chain.under member path) = plan.chain.under member path := by
    unfold extendChain
    split
    · rfl
    · unfold Chain.throughLists Chain.under
      simp [FieldType.openLists, FieldType.openListsFrom]
  let untypedPlan : LeafPlan := {
    plan with
    field := (rule.under member).fieldPath
    chain := plan.chain.under member (rule.under member).fieldPath }
  have untypedPlans : holder.Plans (rule.under member) untypedPlan := {
    field := rfl
    operator := same ▸ plans.operator
    declared := declaredType_of_typeTag plans.declared rfl
    orderable := plans.orderable
    chain := ⟨_, resolved, (untypedTarget _ _).symm⟩
    literals := by
      rw [same]
      refine (Coercer.coerce_congr ?_).mp plans.literals
      rfl }
  have texts : plan.declared = .string → renderAll plan.literals = plan.literals :=
    fun string => renderAll_eq_self (Coercer.exists_text_of_coerce string plans.literals)
  refine ⟨untypedPlan, leaf_eq_ok_iff.mpr ⟨untypedPlans, ?_, by rw [chain], quantifier⟩⟩
  have checks := (check_eq_ok_iff_of_builtin builtin).mp checked
  have untypedBuiltin : untypedPlan.operator = .builtin operator := builtin
  rw [check_eq_ok_iff_of_builtin untypedBuiltin, same]
  rw [chain] at natural
  exact checks.untyped natural texts rfl rfl rfl

end Compiler

/-- A typed leaf and the leaf on the same path under an untyped member agree. When nothing on
the way is null or missing, both give the same answer for a record and a document that mirrors
it. -/
theorem typed_untyped_agree (typed holder : Compiler) (same : holder.options = typed.options)
    (plain : ∀ shape, (typed.schema.shape shape).indexer = none) {member : String}
    (has : holder.HasUntyped member) {rule : Rule} {plan : LeafPlan} {leaf : Leaf}
    (compiled : typed.leaf rule = .ok (plan, leaf)) {operator : Operator}
    (builtin : plan.operator = .builtin operator)
    (natural : Natural operator plan.declared leaf.chain.target.openLists.2.nonNull) :
    ∃ untypedPlan untypedLeaf,
      holder.leaf (rule.under member) = .ok (untypedPlan, untypedLeaf) ∧
        ∀ record document members indexed,
          Conforms typed.schema (fun _ => True) (.object typed.root) record →
          Mirrors record document → leaf.chain.Unobstructed leaf.chain.steps record →
          members.lookup member = some (.ofJson document) →
            ∃ verdict, leaf.evaluate record = .ok verdict ∧
              untypedLeaf.evaluate (.object members indexed) = .ok verdict := by
  obtain ⟨untypedPlan, untypedOk⟩ :=
    Compiler.leaf_under same plain has compiled builtin natural
  obtain ⟨plans, checked, chain, quantifier⟩ := Compiler.leaf_eq_ok_iff.mp compiled
  refine ⟨untypedPlan, _, untypedOk, ?_⟩
  intro record document members indexed conforms mirrors free held
  have checks : Checks typed.options operator plan leaf.check :=
    (Compiler.check_eq_ok_iff_of_builtin builtin).mp checked
  have leads := plans.leads
  rw [← chain] at leads
  have distributes : leaf.chain.steps.getLast? = some .each → ∀ values,
      Outcome.scan leaf.quantifier leaf.check.test (values.map .reached) =
        .ok (leaf.check.test (.list values)) := by
    intro last values
    have takes := plans.takes_of_last plain builtin (chain ▸ last)
    rw [quantifier]
    exact checks.test_list_eq_scan builtin takes (chain ▸ natural) values
  have agree : Outcome.scan leaf.quantifier leaf.check.test
        ((leaf.chain.under member (rule.under member).fieldPath).outcomesFrom
          (Chain.untypedSteps leaf.chain.steps) (.ofJson document)) =
      Outcome.scan leaf.quantifier leaf.check.test (leaf.chain.outcomes record) :=
    Chain.scan_untypedSteps leads natural.not_any (leads.index_not_mem plain)
      (chain ▸ checks.agrees (chain ▸ natural)) distributes conforms mirrors free
  obtain ⟨verdict, answer⟩ : ∃ verdict,
      Outcome.scan leaf.quantifier leaf.check.test (leaf.chain.outcomes record) = .ok verdict :=
    Outcome.exists_scan_eq_ok free
  refine ⟨verdict, ?_, ?_⟩
  · rw [Leaf.evaluate, Chain.visit_eq_scan]
    exact answer
  · rw [Leaf.evaluate, Chain.visit_eq_scan, Chain.outcomes_under held, agree]
    exact answer

/-- Records with one untyped member. -/
def holderCompiler : Compiler :=
  ⟨.default, ⟨[⟨"Holder", [("Document", .any)], none⟩]⟩, "Holder"⟩

theorem holder_hasUntyped : holderCompiler.HasUntyped "Document" where
  declared := ⟨.any, rfl, rfl⟩
  named := by decide
  trimmed := by decide +kernel
  whole := by decide

/-- A node without a next one, with a row of seven and an empty row. -/
def sevenNode : Value :=
  .object [("Next", .null), ("Rows", .list [.list [.int 7], .list []])] []

def sevenDocument : Json :=
  .object [("Next", .null), ("Rows", .array [.array [.integer 7], .array []])]

theorem sevenNode_conforms :
    Conforms nodeCompiler.schema (fun _ => True) (.object "Node") sevenNode := by
  have seven : Conforms nodeSchema Value.IsJson .long (.int 7) := .long (by decide)
  have rows : ∀ row ∈ [Value.list [.int 7], .list []],
      Conforms nodeSchema Value.IsJson (.nullable (.list .long)) row := by
    intro row member
    rcases List.mem_pair.mp member with rfl | rfl
    · exact .nullable (.list (List.forall_mem_singleton.mpr seven))
    · exact .nullable (.list fun item impossible => absurd impossible List.not_mem_nil)
  exact (node_conforms (.null _) rows).imp fun _ _ => trivial

theorem sevenDocument_mirrors : Mirrors sevenNode sevenDocument := by
  have seven : Mirrors (.int 7) (.integer 7) := .scalar rfl rfl
  have rows : Mirrors (.list [.list [.int 7], .list []])
      (.array [.array [.integer 7], .array []]) :=
    .list (.cons (.list (.cons seven .nil)) (.cons (.list .nil) .nil))
  have next : Mirrors .null .null := .scalar rfl rfl
  exact .of_fields (.cons ⟨rfl, next⟩ (.cons ⟨rfl, rows⟩ .nil))

/-- Both leaves see the seven in the rows. -/
theorem typed_untyped_agree_seven :
    ∃ untypedPlan untypedLeaf,
      holderCompiler.leaf (rowsRule.under "Document") = .ok (untypedPlan, untypedLeaf) ∧
        rowsLeaf.evaluate sevenNode = .ok false ∧
          untypedLeaf.evaluate (.object [("Document", .ofJson sevenDocument)] []) = .ok false := by
  have plain (shape : String) : (nodeSchema.shape shape).indexer = none := by
    unfold Schema.shape nodeSchema
    rw [List.find?_cons]
    split <;> rfl
  have compiled : nodeCompiler.leaf rowsRule = .ok (rowsPlan, rowsLeaf) :=
    Compiler.leaf_eq_ok_iff.mpr ⟨rowsRule_plans, rfl, rfl, rfl⟩
  have free : rowsLeaf.chain.Unobstructed rowsLeaf.chain.steps sevenNode := by
    have outcomes : rowsLeaf.chain.outcomesFrom rowsLeaf.chain.steps sevenNode =
        [.reached (.int 7)] := rfl
    unfold Chain.Unobstructed
    rw [outcomes]
    exact List.forall_mem_singleton.mpr ⟨.int 7, rfl⟩
  obtain ⟨untypedPlan, untypedLeaf, untypedOk, agree⟩ :=
    typed_untyped_agree nodeCompiler holderCompiler rfl plain holder_hasUntyped compiled rfl
      (.long rfl rfl)
  obtain ⟨verdict, answer, untypedAnswer⟩ :=
    agree _ _ [("Document", .ofJson sevenDocument)] [] sevenNode_conforms sevenDocument_mirrors
      free rfl
  have negative : rowsLeaf.evaluate sevenNode = .ok false := rfl
  rw [negative] at answer
  cases answer
  exact ⟨untypedPlan, untypedLeaf, untypedOk, negative, untypedAnswer⟩

end RecordFilter
