import RecordFilter.Proofs.Path.Soundness
import RecordFilter.Proofs.Predicate.Order
import RecordFilter.Proofs.Predicate.Tree

/-!
# Ordered rules decide

When a rule with `less` compiles on a typed field, the rules with the other comparisons
compile on it too, and they all read the same order of the field's value and the literal. So
exactly one of `less`, `equal` and `greater` holds for a value that is neither null nor NaN.
-/

namespace RecordFilter

/-! ## Adapting literals with an order -/

theorem Operator.takes_of_needsOrder {operator : Operator} (needs : operator.needsOrder = true) :
    operator.isPresenceTest = false ∧ operator.isTextMatch = false := by
  cases operator with
  | less | lessOrEqual | greater | greaterOrEqual | between | notBetween => exact ⟨rfl, rfl⟩
  | _ => cases needs

theorem Literal.Measures.foldLiteral {declared : DeclaredType} {literal : Literal}
    (measures : literal.Measures declared) (semantics : Semantics) :
    Compiler.foldLiteral semantics literal = literal := by
  cases measures with
  | time time _ => rfl
  | number _ number _ =>
      cases literal with
      | int _ | double _ => rfl
      | bool _ | text _ | dateTime _ | guid _ => cases number

namespace Comparable

variable {options : Options} {declared : DeclaredType} {semantics adapted : Semantics}
  {literals operands : List Literal} {base : FieldType}

theorem isOrderable (comparable : Comparable declared base) :
    declared.isOrderable = true ∧ base.isOrderable = true := by
  rw [declared.isOrderable_eq, Bool.or_eq_true]
  cases comparable with
  | int numeric | long numeric | double numeric | enum _ numeric => exact ⟨Or.inl numeric, rfl⟩
  | date dated | dateTime dated => exact ⟨Or.inr dated, rfl⟩

theorem isDated_of_isCompatible (compatible : Compiler.isCompatible declared .date = true) :
    declared.isDated = true := by
  cases declared with
  | date | dateTime => rfl
  | _ => cases compatible

/-- Literals of a type that fits are left as they are. -/
theorem adapts (comparable : Comparable declared base) (semantics : Semantics)
    (literals : List Literal) :
    Adapts options false declared semantics literals base semantics literals := by
  have noText : declared ≠ .string := by
    rintro rfl
    cases comparable.isOrderable.1
  cases comparable with
  | int numeric | long numeric | double numeric => exact .own rfl noText numeric
  | enum members numeric => exact .enumNumber rfl numeric
  | date dated | dateTime dated =>
      refine .own rfl noText ?_
      cases declared with
      | date | dateTime => rfl
      | _ => cases dated

/-- Only types that fit are left when both sides have an order. -/
theorem of_adapts (ordered : declared.isOrderable = true) (orderable : base.isOrderable = true)
    (typed : base ≠ .any)
    (adapts : Adapts options false declared semantics literals base adapted operands) :
    Comparable declared base := by
  have noText : declared ≠ .string := by
    rintro rfl
    cases ordered
  cases adapts with
  | any => exact absurd rfl typed
  | text => cases orderable
  | enumName _ texts _ => exact absurd texts noText
  | enumNumber _ numeric => exact .enum _ numeric
  | enumText part _ => cases part
  | rendered _ asText _ =>
      rcases asText with part | texts
      · cases part
      · exact absurd texts noText
  | own _ _ compatible =>
      cases base with
      | int => exact .int compatible
      | long => exact .long compatible
      | double => exact .double compatible
      | date => exact .date (isDated_of_isCompatible compatible)
      | dateTime => exact .dateTime (isDated_of_isCompatible compatible)
      | bool | guid => cases orderable
      | text | enum _ | object _ | list _ | map _ _ | nullable _ | any => cases compatible

theorem of_checks {operator : Operator} {plan : LeafPlan} {check : Check}
    (needs : operator.needsOrder = true) (checks : Checks options operator plan check)
    (ordered : plan.declared.isOrderable = true)
    (typed : plan.chain.target.nonNull ≠ .any) :
    Comparable plan.declared plan.chain.target.nonNull := by
  obtain ⟨takes, whole⟩ := Operator.takes_of_needsOrder needs
  cases checks with
  | presence presence =>
      rw [takes] at presence
      cases presence
  | keys _ _ contains =>
      unfold Operator.isTextMatch at whole
      rw [contains] at whole
      cases whole
  | compared _ orderable adapts =>
      rw [whole] at adapts
      exact .of_adapts ordered (orderable needs) typed adapts

end Comparable

/-! ## Leaves on fields with an order -/

/-- The leaf that compares values with the literals as they are. -/
def LeafPlan.comparison (plan : LeafPlan) (options : Options) (operator : Operator) : Leaf where
  chain := plan.chain
  quantifier := plan.quantifier
  check :=
    .builtin operator.positive operator.isNegated plan.literals (plan.semantics options)

/-- Where literals and values have an order, all operators but the text matches compile. -/
theorem Compiler.leaf_of_comparable {compiler : Compiler} {rule : Rule} {plan : LeafPlan}
    {operator : Operator} (plans : compiler.Plans rule plan)
    (builtin : plan.operator = .builtin operator) (takes : operator.isPresenceTest = false)
    (whole : operator.isTextMatch = false)
    (comparable : Comparable plan.declared plan.chain.target.nonNull)
    (measures : ∀ literal ∈ plan.literals, literal.Measures plan.declared) :
    compiler.leaf rule = .ok (plan, plan.comparison compiler.options operator) := by
  have folded : plan.literals.map (foldLiteral (plan.semantics compiler.options)) =
      plan.literals := by
    have each : ∀ literal ∈ plan.literals,
        foldLiteral (plan.semantics compiler.options) literal = id literal :=
      fun literal member => (measures literal member).foldLiteral _
    rw [List.map_congr_left each, List.map_id]
  have checks : Checks compiler.options operator plan
      (.builtin operator.positive operator.isNegated
        (plan.literals.map (foldLiteral (plan.semantics compiler.options)))
        (plan.semantics compiler.options)) := by
    refine .compared takes (fun _ => comparable.isOrderable.2) ?_
    rw [whole]
    exact comparable.adapts _ _
  rw [folded] at checks
  exact leaf_eq_ok_iff.mpr ⟨plans, (check_eq_ok_iff_of_builtin builtin).mpr checks, rfl, rfl⟩

/-! ## Rules on one field -/

namespace Compiler

variable {compiler : Compiler} {field tag : String} {declared : DeclaredType} {chain : Chain}

/-- A field and a type tag whose values and literals have an order. -/
structure Orders (compiler : Compiler) (field tag : String) (declared : DeclaredType)
    (chain : Chain) : Prop where
  named : Text.trim field ≠ ""
  tagged : ∀ operator value, declaredType (.leaf field operator tag value) = .ok declared
  resolved : ∃ resolved,
    compiler.resolver.resolve (.object compiler.root) (Text.trim field) = .ok resolved ∧
      chain = resolved.throughLists
  comparable : Comparable declared chain.target.nonNull

/-- How a value is compared with the literals of an ordered rule. -/
def ordering (compiler : Compiler) (declared : DeclaredType) : Semantics :=
  ⟨compiler.options.caseSensitive, false, declared = .date⟩

def orderedLeaf (compiler : Compiler) (declared : DeclaredType) (chain : Chain)
    (operator : Operator) (literals : List Literal) : Leaf where
  chain := chain
  quantifier := if operator.isNegated then .all else .any
  check :=
    .builtin operator.positive operator.isNegated literals (compiler.ordering declared)

/-- All operators but the text matches compile on such a field. -/
theorem Orders.compiles (orders : compiler.Orders field tag declared chain)
    (builtin : compiler.options.operators = []) {operator : Operator} {raw : Json}
    {literals : List Literal} (takes : operator.isPresenceTest = false)
    (whole : operator.isTextMatch = false)
    (read : compiler.options.coercer.coerce ⟨Text.trim field, operator.name, declared⟩
      operator.arity (some raw) = .ok literals)
    (measures : ∀ literal ∈ literals, literal.Measures declared) :
    compiler.predicate (.leaf field operator.name tag raw) =
      .ok (.leaf (compiler.orderedLeaf declared chain operator literals)) := by
  obtain ⟨resolved, found, extended⟩ := orders.resolved
  have named : Operator.ofName? (Rule.leaf field operator.name tag raw).operatorName =
      some operator := operator.ofName?_trim_name
  have fieldPath : (Rule.leaf field operator.name tag raw).fieldPath ≠ "" := orders.named
  let plan : LeafPlan := ⟨Text.trim field, .builtin operator, declared, chain, literals⟩
  have plans : compiler.Plans (.leaf field operator.name tag raw) plan := {
    field := rfl
    operator := resolveOperator?_builtin builtin named
    declared := orders.tagged _ _
    orderable := fun _ _ _ => orders.comparable.isOrderable.1
    chain := by
      have literalsTaken : operator.arity ≠ .none := of_decide_eq_false takes
      refine ⟨resolved, found, extended.trans ?_⟩
      exact (if_neg literalsTaken).symm
    literals := read }
  have leafOk := leaf_of_comparable plans rfl takes whole orders.comparable measures
  have same : plan.comparison compiler.options operator =
      compiler.orderedLeaf declared chain operator literals := by
    rw [LeafPlan.comparison, LeafPlan.quantifier_of_builtin rfl]
    rfl
  rw [same] at leafOk
  exact (predicate_leaf_eq_ok_iff rfl fieldPath).mpr ⟨plan, _, leafOk, rfl⟩

/-- The plan of a leaf with `less`, and its only literal. -/
theorem plans_of_less (builtin : compiler.options.operators = []) {raw : Json}
    (scalar : ∀ items, raw ≠ .array items) {leaf : Leaf}
    (compiled : compiler.predicate (.leaf field "less" tag raw) = .ok (.leaf leaf)) :
    Text.trim field ≠ "" ∧ ∃ plan, compiler.Plans (.leaf field "less" tag raw) plan ∧
      plan.operator = .builtin .less ∧ compiler.check plan = .ok leaf.check ∧
        leaf.chain = plan.chain ∧
          ∃ literal, compiler.options.coercer.readLiteral plan.declared raw = .ok literal := by
  have named := (tests_of_predicate compiled).2
  obtain ⟨plan, leafOk⟩ := leaf_of_predicate compiled
  obtain ⟨plans, checked, chain, _⟩ := leaf_eq_ok_iff.mp leafOk
  have lessNamed : Operator.ofName? (Rule.leaf field "less" tag raw).operatorName =
      some .less := Operator.ofName?_trim_name .less
  have isLess : plan.operator = .builtin .less := plans.builtin builtin lessNamed
  have literals := plans.literals
  rw [isLess] at literals
  obtain ⟨literal, read, _⟩ := (Coercer.coerce_single_eq_ok_iff scalar).mp literals
  exact ⟨named, plan, plans, isLess, checked, chain, literal, read⟩

/-- A leaf with `less` compiles on a field of known type only if the field and the tag are
ordered alike. -/
theorem orders_of_less (builtin : compiler.options.operators = []) {raw : Json}
    (scalar : ∀ items, raw ≠ .array items) {leaf : Leaf}
    (compiled : compiler.predicate (.leaf field "less" tag raw) = .ok (.leaf leaf))
    (typed : leaf.chain.target.nonNull ≠ .any) :
    ∃ declared, compiler.Orders field tag declared leaf.chain := by
  obtain ⟨named, plan, plans, isLess, checked, chain, _⟩ :=
    plans_of_less builtin scalar compiled
  have ordered := plans.orderable .less isLess rfl
  obtain ⟨resolved, found, extended⟩ := plans.chain
  have comparable : Comparable plan.declared leaf.chain.target.nonNull := by
    rw [chain] at typed ⊢
    exact .of_checks rfl ((check_eq_ok_iff_of_builtin isLess).mp checked) ordered typed
  have tagged (operator : String) (value : Json) :
      declaredType (.leaf field operator tag value) = .ok plan.declared :=
    declaredType_of_typeTag plans.declared rfl
  refine ⟨plan.declared, named, tagged, ⟨resolved, found, ?_⟩, comparable⟩
  rw [chain, extended, isLess]
  rfl

theorem Orders.readLiteral_of_less (orders : compiler.Orders field tag declared chain)
    (builtin : compiler.options.operators = []) {raw : Json}
    (scalar : ∀ items, raw ≠ .array items) {leaf : Leaf}
    (compiled : compiler.predicate (.leaf field "less" tag raw) = .ok (.leaf leaf)) :
    ∃ literal, compiler.options.coercer.readLiteral declared raw = .ok literal := by
  obtain ⟨_, plan, plans, _, _, _, literal, read⟩ := plans_of_less builtin scalar compiled
  have same : plan.declared = declared :=
    plans.declared_eq (orders.tagged _ _)
  exact ⟨literal, same ▸ read⟩

/-! ## Answers -/

/-- What a rule answers for a record, given that it compiles. -/
def Answers (compiler : Compiler) (rule : Rule) (record : Value) (answer : Bool) : Prop :=
  ∃ compiled, compiler.predicate rule = .ok compiled ∧ compiled.evaluate record = .ok answer

section Answers

variable {raw : Json} {literal low high : Literal} {record value : Value}

theorem evaluate_orderedLeaf {operator : Operator} {literals : List Literal}
    (reads : chain.outcomes record = [.reached value]) :
    (compiler.orderedLeaf declared chain operator literals).evaluate record =
      .ok (operator.isNegated ^^
        Check.positive operator.positive literals (compiler.ordering declared) value) :=
  Leaf.evaluate_of_reached reads

theorem Orders.compiles_one (orders : compiler.Orders field tag declared chain)
    (operator : Operator) (builtin : compiler.options.operators = [])
    (compares : operator.comparesOne = true)
    (scalar : ∀ items, raw ≠ .array items)
    (read : compiler.options.coercer.readLiteral declared raw = .ok literal) :
    compiler.predicate (.leaf field operator.name tag raw) =
      .ok (.leaf (compiler.orderedLeaf declared chain operator [literal])) := by
  have measures := Coercer.measures_of_readLiteral orders.comparable.isOrderable.1 read
  have shape : operator.arity = .single ∧ operator.isPresenceTest = false ∧
      operator.isTextMatch = false := by
    cases operator with
    | equal | less | lessOrEqual | greater | greaterOrEqual => exact ⟨rfl, rfl, rfl⟩
    | _ => cases compares
  apply orders.compiles builtin shape.2.1 shape.2.2
  · rw [shape.1]
    exact (Coercer.coerce_single_eq_ok_iff scalar).mpr ⟨literal, read, rfl⟩
  · intro other member
    rw [List.mem_singleton.mp member]
    exact measures

theorem Orders.compiles_pair (orders : compiler.Orders field tag declared chain)
    (operator : Operator) (builtin : compiler.options.operators = [])
    (pair : operator.arity = .pair) {other : Json}
    (readLow : compiler.options.coercer.readLiteral declared raw = .ok low)
    (readHigh : compiler.options.coercer.readLiteral declared other = .ok high) :
    compiler.predicate (.leaf field operator.name tag (.array [raw, other])) =
      .ok (.leaf (compiler.orderedLeaf declared chain operator [low, high])) := by
  have ordered := orders.comparable.isOrderable.1
  have shape : operator.isPresenceTest = false ∧ operator.isTextMatch = false := by
    cases operator with
    | between | notBetween => exact ⟨rfl, rfl⟩
    | _ => cases pair
  apply orders.compiles builtin shape.1 shape.2
  · rw [pair]
    exact Coercer.coerce_pair readLow readHigh
  · intro literal member
    rcases List.mem_pair.mp member with rfl | rfl
    · exact Coercer.measures_of_readLiteral ordered readLow
    · exact Coercer.measures_of_readLiteral ordered readHigh

/-- A rule with one literal answers by the order of the value and the literal. -/
theorem Orders.answers_one (orders : compiler.Orders field tag declared chain)
    (operator : Operator) (builtin : compiler.options.operators = [])
    (compares : operator.comparesOne = true)
    (scalar : ∀ items, raw ≠ .array items)
    (read : compiler.options.coercer.readLiteral declared raw = .ok literal)
    (reads : chain.outcomes record = [.reached value])
    (single : ∀ items, value ≠ .list items) :
    compiler.Answers (.leaf field operator.name tag raw) record
      (((compiler.ordering declared).order? value literal).any operator.accepts) := by
  have measures := Coercer.measures_of_readLiteral orders.comparable.isOrderable.1 read
  refine ⟨_, orders.compiles_one operator builtin compares scalar read, ?_⟩
  have own : operator.isNegated = false ∧ operator.positive = operator := by
    cases operator with
    | equal | less | lessOrEqual | greater | greaterOrEqual => exact ⟨rfl, rfl⟩
    | _ => cases compares
  rw [Predicate.evaluate, evaluate_orderedLeaf reads, own.1, own.2, Bool.false_xor,
    Check.positive_comparesOne compares measures single]

theorem Orders.answers_pair (orders : compiler.Orders field tag declared chain)
    (operator : Operator) (builtin : compiler.options.operators = [])
    (pair : operator.arity = .pair) {other : Json}
    (readLow : compiler.options.coercer.readLiteral declared raw = .ok low)
    (readHigh : compiler.options.coercer.readLiteral declared other = .ok high)
    (reads : chain.outcomes record = [.reached value])
    (single : ∀ items, value ≠ .list items) :
    compiler.Answers (.leaf field operator.name tag (.array [raw, other])) record
      (operator.isNegated ^^
        (((compiler.ordering declared).order? value low).any Ordering.isGE &&
          ((compiler.ordering declared).order? value high).any Ordering.isLE)) := by
  refine ⟨_, orders.compiles_pair operator builtin pair readLow readHigh, ?_⟩
  have between : operator.positive = .between := by
    cases operator with
    | between | notBetween => rfl
    | _ => cases pair
  rw [Predicate.evaluate, evaluate_orderedLeaf reads, between, Check.positive_between single]

end Answers

/-- What such a field holds: null, or a value that has an order unless it is NaN. -/
theorem Orders.value_of_reads (orders : compiler.Orders field tag declared chain)
    {record value : Value}
    (conforms : Conforms compiler.schema (fun _ => True) (.object compiler.root) record)
    (reads : chain.outcomes record = [.reached value]) :
    value = .null ∨
      Conforms compiler.schema (fun _ => True) chain.target.nonNull value := by
  obtain ⟨resolved, found, rfl⟩ := orders.resolved
  have leads := Chain.leads_throughLists (Resolver.resolve_eq_ok found).1.leads
  have member : Outcome.reached value ∈ resolved.throughLists.outcomes record := by
    rw [reads]
    exact List.mem_singleton_self _
  have admitted := Chain.outcomes_admitted .all leads conforms _ member
  cases admitted with
  | reached valueConforms => exact valueConforms.null_or_nonNull

end Compiler

/-- When a rule with `less` compiles on a field of known type, all comparisons compile. For a
value that is neither null nor NaN exactly one of `less`, `equal` and `greater` holds, for
other values none; the answers of the other comparisons follow from these. -/
theorem less_decides (compiler : Compiler) (builtin : compiler.options.operators = [])
    {field tag : String} {a b : Json} (scalarA : ∀ items, a ≠ .array items)
    (scalarB : ∀ items, b ≠ .array items) {leafA leafB : Leaf}
    (compiledA : compiler.predicate (.leaf field "less" tag a) = .ok (.leaf leafA))
    (compiledB : compiler.predicate (.leaf field "less" tag b) = .ok (.leaf leafB))
    (typed : leafA.chain.target.nonNull ≠ .any) :
    (∀ name ∈ ["equal", "less_or_equal", "greater", "greater_or_equal"],
      ∃ compiled, compiler.predicate (.leaf field name tag a) = .ok compiled) ∧
    (∀ name ∈ ["between", "not_between"],
      ∃ compiled, compiler.predicate (.leaf field name tag (.array [a, b])) = .ok compiled) ∧
    ∀ record value,
      Conforms compiler.schema (fun _ => True) (.object compiler.root) record →
      leafA.chain.outcomes record = [.reached value] →
      ∃ less equal greater lessOrEqualB,
        compiler.Answers (.leaf field "less" tag a) record less ∧
        compiler.Answers (.leaf field "equal" tag a) record equal ∧
        compiler.Answers (.leaf field "greater" tag a) record greater ∧
        compiler.Answers (.leaf field "less_or_equal" tag b) record lessOrEqualB ∧
        compiler.Answers (.leaf field "less_or_equal" tag a) record (less || equal) ∧
        compiler.Answers (.leaf field "greater_or_equal" tag a) record (greater || equal) ∧
        compiler.Answers (.leaf field "between" tag (.array [a, b])) record
          ((greater || equal) && lessOrEqualB) ∧
        compiler.Answers (.leaf field "not_between" tag (.array [a, b])) record
          (!((greater || equal) && lessOrEqualB)) ∧
        (value ≠ .null → value ≠ .double .nan → [less, equal, greater].count true = 1) ∧
        (value = .null ∨ value = .double .nan → [less, equal, greater].count true = 0) := by
  obtain ⟨declared, orders⟩ := Compiler.orders_of_less builtin scalarA compiledA typed
  obtain ⟨low, readA⟩ := orders.readLiteral_of_less builtin scalarA compiledA
  obtain ⟨high, readB⟩ := orders.readLiteral_of_less builtin scalarB compiledB
  refine ⟨?_, ?_, ?_⟩
  · intro name member
    have named : ∃ operator : Operator, operator.comparesOne = true ∧ operator.name = name := by
      simp only [List.mem_cons, List.not_mem_nil, or_false] at member
      rcases member with rfl | rfl | rfl | rfl
      · exact ⟨.equal, rfl, rfl⟩
      · exact ⟨.lessOrEqual, rfl, rfl⟩
      · exact ⟨.greater, rfl, rfl⟩
      · exact ⟨.greaterOrEqual, rfl, rfl⟩
    obtain ⟨operator, compares, rfl⟩ := named
    exact ⟨_, orders.compiles_one operator builtin compares scalarA readA⟩
  · intro name member
    rcases List.mem_pair.mp member with rfl | rfl
    · exact ⟨_, orders.compiles_pair .between builtin rfl readA readB⟩
    · exact ⟨_, orders.compiles_pair .notBetween builtin rfl readA readB⟩
  · intro record value conforms reads
    have held := orders.value_of_reads conforms reads
    have single : ∀ items, value ≠ .list items := by
      rcases held with rfl | valueConforms
      · exact fun items impossible => by cases impossible
      · exact orders.comparable.not_list valueConforms
    -- Each rule below answers by the order of the value and one of the two literals.
    have one (operator : Operator) (compares : operator.comparesOne = true) :=
      orders.answers_one operator builtin compares scalarA readA reads single
    have pair (operator : Operator) (takesPair : operator.arity = .pair) :=
      orders.answers_pair operator builtin takesPair readA readB reads single
    refine ⟨_, _, _, _, one .less rfl, one .equal rfl, one .greater rfl,
      orders.answers_one .lessOrEqual builtin rfl scalarB readB reads single, ?_, ?_, ?_, ?_,
      ?_, ?_⟩
    · exact any_isLE _ ▸ one .lessOrEqual rfl
    · exact any_isGE _ ▸ one .greaterOrEqual rfl
    · have between := pair .between rfl
      have plain : Operator.between.isNegated = false := rfl
      rw [any_isGE, plain, Bool.false_xor] at between
      exact between
    · have notBetween := pair .notBetween rfl
      have negated : Operator.notBetween.isNegated = true := rfl
      rw [any_isGE, negated, Bool.true_xor] at notBetween
      exact notBetween
    · intro present proper
      have ordered := Coercer.measures_of_readLiteral orders.comparable.isOrderable.1 readA
      refine (count_orderings _).trans (if_pos ?_)
      rcases held with null | valueConforms
      · exact absurd null present
      · exact Semantics.isSome_order? orders.comparable valueConforms ordered proper
    · rintro (rfl | rfl)
      · rw [Semantics.order?_null]
        rfl
      · rw [Semantics.order?_nan]
        rfl

/-- Samples with a level that may be missing, under the default options. -/
def sampleCompiler : Compiler :=
  ⟨.default, ⟨[⟨"Sample", [("Level", .nullable .double)], none⟩]⟩, "Sample"⟩

def levelChain : Chain :=
  ⟨"Level", [.member "Level"], .nullable .double, false⟩

theorem level_orders : sampleCompiler.Orders "Level" "double" .double levelChain := by
  have trimmed : Text.trim "Level" = "Level" := by decide +kernel
  have split : Resolver.segmentsOf (Text.trim "Level") = ["Level"] := by decide +kernel
  have followed :
      sampleCompiler.resolver.follow (Text.trim "Level") (.object "Sample") ["Level"] =
        .ok ([.member "Level"], .nullable .double) :=
    Resolver.follow_member rfl rfl rfl
  have resolved := Resolver.resolve_of_follow split (by decide) followed
  rw [trimmed] at resolved
  refine ⟨by rw [trimmed]; decide, fun operator value => ?_, ⟨levelChain, ?_, rfl⟩, .double rfl⟩
  · exact Compiler.declaredType_of_tag rfl (by decide +kernel) (by decide +kernel)
  · rw [trimmed]
    exact resolved

theorem sample_conforms {level : Value}
    (conforms : Conforms sampleCompiler.schema (fun _ => True) (.nullable .double) level) :
    Conforms sampleCompiler.schema (fun _ => True) (.object "Sample")
      (.object [("Level", level)] []) := by
  have only : ∀ member type,
      (member, type) ∈ (sampleCompiler.schema.shape "Sample").members →
        member = "Level" ∧ type = .nullable .double := by
    intro member type declared
    simpa [Schema.shape, sampleCompiler] using declared
  refine .object ?_ ?_ ?_
  · intro member type declared
    obtain ⟨rfl, _⟩ := only member type declared
    rfl
  · intro member type value declared found
    obtain ⟨rfl, rfl⟩ := only member type declared
    cases found
    exact conforms
  · intro type key value indexer
    cases indexer

/-- A level of five is exactly one of less than five, five, and greater than five. -/
theorem less_decides_level :
    let record := Value.object [("Level", .double (.ofInt 5))] []
    ∃ less equal greater,
      sampleCompiler.Answers (.leaf "Level" "less" "double" (.integer 5)) record less ∧
        sampleCompiler.Answers (.leaf "Level" "equal" "double" (.integer 5)) record equal ∧
        sampleCompiler.Answers (.leaf "Level" "greater" "double" (.integer 5)) record greater ∧
        [less, equal, greater].count true = 1 := by
  have scalar (number : Int) (items : List Json) : Json.integer number ≠ .array items :=
    fun impossible => by cases impossible
  have compiled (number : Int) := level_orders.compiles_one .less rfl rfl (scalar number)
    (rfl : sampleCompiler.options.coercer.readLiteral .double (.integer number) =
      .ok (.double (.ofInt number)))
  have decided := less_decides sampleCompiler rfl (scalar 5) (scalar 7) (compiled 5) (compiled 7)
    (by decide)
  have conforms := sample_conforms (.nullable (.double (.ofInt 5)))
  have proper : Value.double (.ofInt 5) ≠ .double .nan :=
    fun same => Number.Double.ofInt_ne_nan 5 (Value.double.inj same)
  obtain ⟨less, equal, greater, _, lessOk, equalOk, greaterOk, _, _, _, _, _, one, _⟩ :=
    decided.2.2 _ _ conforms rfl
  exact ⟨less, equal, greater, lessOk, equalOk, greaterOk, one (fun null => by cases null) proper⟩

end RecordFilter
