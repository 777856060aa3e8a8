import RecordFilter.Proofs.Path.Exchange
import RecordFilter.Proofs.Predicate.Duality
import RecordFilter.Proofs.Predicate.Membership

/-!
# Membership as a group of equalities

A rule with `in` says what a group of rules with `equal` says, one for each of its literals,
and a rule with `not_in` what a group with `not_equal` says. The group scans the record once
for each literal, so it may run into an error where the single rule has its answer already;
that is the only difference, and there is none without list hops.
-/

namespace RecordFilter

/-! ## Testing literals one by one -/

namespace Value

variable (tests : List (Value → Bool))

mutual

/-- An item passes one of several tests when the value passes one of them with some item. -/
theorem anyItem_any :
    ∀ value : Value, value.anyItem (fun item => tests.any fun test => test item) =
      tests.any fun test => value.anyItem test
  | .list items => by
      simp only [anyItem]
      exact anyItemOf_any items
  | .null => by simp [anyItem]
  | .bool _ | .int _ | .double _ | .text _ | .dateTime _ | .guid _ | .enum _ _ | .map _
  | .intMap _ | .object _ _ => rfl

theorem anyItemOf_any :
    ∀ items : List Value, anyItemOf (fun item => tests.any fun test => test item) items =
      tests.any fun test => anyItemOf test items
  | [] => by simp [anyItemOf]
  | item :: rest => by
      rw [anyItemOf, anyItem_any item, anyItemOf_any rest, Bool.eq_iff_iff]
      simp only [anyItemOf, Bool.or_eq_true, List.any_eq_true]
      constructor
      · rintro (⟨test, member, passes⟩ | ⟨test, member, passes⟩)
        · exact ⟨test, member, Or.inl passes⟩
        · exact ⟨test, member, Or.inr passes⟩
      · rintro ⟨test, member, passes | passes⟩
        · exact Or.inl ⟨test, member, passes⟩
        · exact Or.inr ⟨test, member, passes⟩

end

end Value

/-- A value is among literals when it is equal to one of them. -/
theorem Check.positive_oneOf (operands : List Literal) (semantics : Semantics) (value : Value) :
    positive .oneOf operands semantics value =
      operands.any fun operand => positive .equal [operand] semantics value := by
  have several := Value.anyItem_any
    (operands.map fun operand => semantics.holds .equal [operand]) value
  simp only [List.any_map] at several
  exact several

/-- With its own quantifier, a negated test settles exactly when its positive form holds. -/
theorem Quantifier.isSettledBy_xor (negated holds : Bool) :
    (if negated then all else any).isSettledBy (negated ^^ holds) = holds := by
  cases negated <;> cases holds <;> rfl

/-! ## Groups -/

/-- The group of one rule for each value. With a negated operator all of them have to pass. -/
def Rule.askingEach (field typeTag : Option String) (operator : Operator)
    (values : List Json) : Rule :=
  .group (if operator.isNegated then .and else .or)
    (values.map (.asking field typeTag operator))

theorem Condition.quantifier_ite (negated : Bool) :
    (if negated then and else or).quantifier = if negated then .all else .any := by
  cases negated <;> rfl

namespace Compiler

/-- A group that says what a single rule says. It may err where the rule has its answer
already, and without list hops it does not. -/
structure Splits (compiler : Compiler) (rule group : Rule) : Prop where
  compiles : (∃ whole, compiler.predicate rule = .ok whole) ↔
    ∀ child ∈ group.rules, ∃ part, compiler.predicate child = .ok part
  answer {whole parts : Predicate} (wholeOk : compiler.predicate rule = .ok whole)
    (partsOk : compiler.predicate group = .ok parts) (record : Value) (passed : Bool) :
    parts.evaluate record = .ok passed → whole.evaluate record = .ok passed
  error {whole parts : Predicate} (wholeOk : compiler.predicate rule = .ok whole)
    (partsOk : compiler.predicate group = .ok parts) (record : Value) (error : EvalError) :
    whole.evaluate record = .error error → parts.evaluate record = .error error
  flat {whole parts : Predicate} (wholeOk : compiler.predicate rule = .ok whole)
    (partsOk : compiler.predicate group = .ok parts)
    (noHop : ∀ leaf, whole = .leaf leaf → leaf.chain.hasEach = false) (record : Value) :
    parts.evaluate record = whole.evaluate record

variable {compiler : Compiler} {field typeTag : Option String} {semantics : Semantics}
  {operandOf : Json → Literal → Prop} {chain : Chain} {whole part : Operator}
  {operands : List Literal} {values : List Json}

section Evaluations

variable (several : whole.positive = .oneOf) (single : part.positive = .equal)
  (negated : part.isNegated = whole.isNegated) (record : Value)

def partTests (semantics : Semantics) (negated : Bool) (operands : List Literal) :
    List (Value → Bool) :=
  operands.map fun operand =>
    Check.test (.builtin .equal negated [foldLiteral semantics operand] semantics)

include single in
theorem evaluate_parts :
    (join (if part.isNegated then .and else .or)
        (operands.map fun operand =>
          .leaf (membershipLeaf chain semantics part [operand]))).evaluate record =
      (if part.isNegated then Quantifier.all else .any).visitItems
        (fun test => Outcome.scan (if part.isNegated then .all else .any) test
          (chain.outcomes record))
        (partTests semantics part.isNegated operands) := by
  rw [evaluate_join, Condition.quantifier_ite, Quantifier.visitItems_map, partTests,
    Quantifier.visitItems_map]
  refine Quantifier.visitItems_congr fun operand _ => ?_
  rw [Predicate.evaluate, Leaf.evaluate, Chain.visit_eq_scan, membershipLeaf, single]
  rfl

include several in
theorem evaluate_whole :
    (membershipLeaf chain semantics whole operands).evaluate record =
      Outcome.scan (if whole.isNegated then .all else .any)
        (Check.test (.builtin .oneOf whole.isNegated (operands.map (foldLiteral semantics))
          semantics))
        (chain.outcomes record) := by
  rw [Leaf.evaluate, Chain.visit_eq_scan, membershipLeaf, several]

theorem isSettledBy_whole (negated : Bool) (value : Value) :
    (if negated then Quantifier.all else .any).isSettledBy
        (Check.test (.builtin .oneOf negated (operands.map (foldLiteral semantics)) semantics)
          value) =
      (partTests semantics negated operands).any fun test =>
        (if negated then Quantifier.all else .any).isSettledBy (test value) := by
  simp only [partTests, List.any_map, Function.comp_def, Check.test, Quantifier.isSettledBy_xor,
    Check.positive_oneOf]

end Evaluations

section Splitting

variable (memberships : compiler.Memberships field typeTag chain semantics operandOf)
  (several : whole.positive = .oneOf) (single : part.positive = .equal)
  (negated : part.isNegated = whole.isNegated)
  (scalar : ∀ value ∈ values, ∀ items, value ≠ .array items) (nonempty : values ≠ [])

include memberships several single scalar nonempty in
/-- The single rule and the parts of the group need the same operands to compile. -/
theorem Memberships.compiles_iff :
    (∃ compiled, compiler.predicate (.asking field typeTag whole (.array values)) =
        .ok compiled) ↔
      ∀ child ∈ (Rule.askingEach field typeTag part values).rules,
        ∃ compiled, compiler.predicate child = .ok compiled := by
  change _ ↔ ∀ child ∈ values.map (Rule.asking field typeTag part), _
  have compiles : (∃ compiled,
      compiler.predicate (.asking field typeTag whole (.array values)) = .ok compiled) ↔
        ∃ operands, List.Forall₂ operandOf values operands := by
    simp only [memberships.many whole values _ several nonempty]
    constructor
    · rintro ⟨_, operands, operandsOf, _⟩
      exact ⟨operands, operandsOf⟩
    · rintro ⟨operands, operandsOf⟩
      exact ⟨_, operands, operandsOf, rfl⟩
  rw [compiles, exists_forall₂_iff, List.forall_mem_map]
  refine forall₂_congr fun value member => ?_
  simp only [memberships.one part value _ single (scalar value member)]
  constructor
  · rintro ⟨operand, operandOfValue⟩
    exact ⟨_, operand, operandOfValue, rfl⟩
  · rintro ⟨_, operand, operandOfValue, _⟩
    exact ⟨operand, operandOfValue⟩

include memberships single scalar nonempty in
theorem Memberships.predicate_group (operandsOf : List.Forall₂ operandOf values operands) :
    compiler.predicate (.askingEach field typeTag part values) =
      .ok (join (if part.isNegated then .and else .or)
        (operands.map fun operand => .leaf (membershipLeaf chain semantics part [operand]))) := by
  have children : values.map (Rule.asking field typeTag part) ≠ [] := by simpa using nonempty
  refine (predicate_group_eq_ok_iff children).mpr ⟨_, ?_, rfl⟩
  refine List.forall₂_map_left_iff.mpr (List.forall₂_map_right_iff.mpr ?_)
  have each := (List.forall₂_and_left values operands).mpr ⟨scalar, operandsOf⟩
  exact each.imp fun value operand ⟨valueScalar, operandOfValue⟩ =>
    (memberships.one part value _ single valueScalar).mpr ⟨operand, operandOfValue, rfl⟩

include memberships several single negated scalar nonempty in
/-- Both forms scan the outcomes of one chain, with all tests at once and one by one. -/
theorem Memberships.scans {compiled parts : Predicate}
    (compiledOk : compiler.predicate (.asking field typeTag whole (.array values)) =
      .ok compiled)
    (partsOk : compiler.predicate (.askingEach field typeTag part values) = .ok parts) :
    ∃ operands,
      compiled = .leaf (membershipLeaf chain semantics whole operands) ∧
      partTests semantics part.isNegated operands ≠ [] ∧
      ∀ record,
        compiled.evaluate record =
          Outcome.scan (if part.isNegated then .all else .any)
            (Check.test (.builtin .oneOf part.isNegated (operands.map (foldLiteral semantics))
              semantics)) (chain.outcomes record) ∧
        parts.evaluate record =
          (if part.isNegated then Quantifier.all else .any).visitItems
            (fun test => Outcome.scan (if part.isNegated then .all else .any) test
              (chain.outcomes record))
            (partTests semantics part.isNegated operands) := by
  obtain ⟨operands, operandsOf, rfl⟩ :=
    (memberships.many whole values compiled several nonempty).mp compiledOk
  have group := memberships.predicate_group single scalar nonempty operandsOf
  cases Except.ok.inj (group.symm.trans partsOk)
  refine ⟨operands, rfl, ?_, fun record => ⟨?_, evaluate_parts single record⟩⟩
  · rw [partTests, ne_eq, List.map_eq_nil_iff]
    rintro rfl
    cases operandsOf
    exact nonempty rfl
  · rw [negated]
    exact evaluate_whole several record

include memberships scalar nonempty in
theorem Memberships.splits (whole part : Operator) (several : whole.positive = .oneOf)
    (single : part.positive = .equal) (negated : part.isNegated = whole.isNegated) :
    compiler.Splits (.asking field typeTag whole (.array values))
      (.askingEach field typeTag part values) := by
  refine ⟨memberships.compiles_iff several single scalar nonempty, ?_, ?_, ?_⟩
  · intro compiled parts compiledOk partsOk record passed answered
    obtain ⟨operands, _, someTests, evaluates⟩ :=
      memberships.scans several single negated scalar nonempty compiledOk partsOk
    obtain ⟨wholeScan, partScans⟩ := evaluates record
    rw [partScans] at answered
    rw [wholeScan]
    exact (Outcome.loosens_scan_many (isSettledBy_whole _) someTests _).answer answered
  · intro compiled parts compiledOk partsOk record error failed
    obtain ⟨operands, _, someTests, evaluates⟩ :=
      memberships.scans several single negated scalar nonempty compiledOk partsOk
    obtain ⟨wholeScan, partScans⟩ := evaluates record
    rw [wholeScan] at failed
    rw [partScans]
    exact (Outcome.loosens_scan_many (isSettledBy_whole _) someTests _).error failed
  · intro compiled parts compiledOk partsOk noHop record
    obtain ⟨operands, rfl, someTests, evaluates⟩ :=
      memberships.scans several single negated scalar nonempty compiledOk partsOk
    obtain ⟨wholeScan, partScans⟩ := evaluates record
    have leads := leads_of_predicate compiledOk
    have noEach : .each ∉ chain.steps := by
      have none := noHop _ rfl
      simpa [Chain.hasEach, membershipLeaf] using none
    rw [wholeScan, partScans]
    exact (Outcome.scan_many_eq_visitItems (isSettledBy_whole _) someTests
      (Chain.outcomesFrom_flat leads noEach record)).symm

include nonempty in
/-- Rules without a field pass every record, one by one and together. -/
theorem splits_of_unnamed (whole part : Operator) (unnamed : (field.map Text.trim).getD "" = "") :
    compiler.Splits (.asking field typeTag whole (.array values))
      (.askingEach field typeTag part values) := by
  have vacuous (operator : Operator) (value : Json) :
      compiler.predicate (.asking field typeTag operator value) = .ok .always :=
    predicate_vacuous rfl unnamed
  have children : values.map (Rule.asking field typeTag part) ≠ [] := by simpa using nonempty
  have group : compiler.predicate (.askingEach field typeTag part values) =
        .ok (join (if part.isNegated then .and else .or) (values.map fun _ => .always)) := by
    refine (predicate_group_eq_ok_iff children).mpr ⟨_, ?_, rfl⟩
    refine List.forall₂_map_left_iff.mpr (List.forall₂_map_right_iff.mpr ?_)
    exact List.forall₂_same.mpr fun value _ => vacuous part value
  have passes (record : Value) :
      (join (if part.isNegated then .and else .or)
        (values.map fun _ => .always)).evaluate record = .ok true := by
    rw [evaluate_join, Condition.quantifier_ite, Quantifier.visitItems_map]
    cases part.isNegated with
    | true => exact Quantifier.visitItems_of_none fun _ _ => rfl
    | false =>
        obtain ⟨first, others, rfl⟩ := List.exists_cons_of_ne_nil nonempty
        rfl
  have same {compiled parts : Predicate}
      (compiledOk : compiler.predicate (.asking field typeTag whole (.array values)) =
        .ok compiled)
      (partsOk : compiler.predicate (.askingEach field typeTag part values) = .ok parts)
      (record : Value) :
      parts.evaluate record = compiled.evaluate record := by
    cases Except.ok.inj ((vacuous whole _).symm.trans compiledOk)
    cases Except.ok.inj (group.symm.trans partsOk)
    exact passes record
  refine ⟨?_, ?_, ?_, ?_⟩
  · constructor
    · intro _ child member
      obtain ⟨value, _, rfl⟩ := List.mem_map.mp member
      exact ⟨_, vacuous part value⟩
    · exact fun _ => ⟨_, vacuous whole _⟩
  · intro compiled parts compiledOk partsOk record passed answered
    rw [← same compiledOk partsOk record, answered]
  · intro compiled parts compiledOk partsOk record error failed
    rw [same compiledOk partsOk record, failed]
  · exact fun compiledOk partsOk _ record => same compiledOk partsOk record

end Splitting

end Compiler

/-- Membership is a disjunction of equalities, and its negated form a conjunction of
inequalities. -/
theorem membership_splits (compiler : Compiler) (builtin : compiler.options.operators = [])
    (field typeTag : Option String) {values : List Json} (nonempty : values ≠ [])
    (scalar : ∀ value ∈ values, ∀ items, value ≠ .array items) :
    compiler.Splits (.asking field typeTag .oneOf (.array values))
        (.anyOf (values.map (.asking field typeTag .equal))) ∧
      compiler.Splits (.asking field typeTag .notOneOf (.array values))
        (.allOf (values.map (.asking field typeTag .notEqual))) := by
  by_cases named : (field.map Text.trim).getD "" = ""
  · constructor
    · exact Compiler.splits_of_unnamed nonempty .oneOf .equal named
    · exact Compiler.splits_of_unnamed nonempty .notOneOf .notEqual named
  · obtain ⟨chain, semantics, operandOf, memberships⟩ :=
      Compiler.exists_memberships builtin field typeTag named
    constructor
    · exact memberships.splits scalar nonempty .oneOf .equal rfl rfl rfl
    · exact memberships.splits scalar nonempty .notOneOf .notEqual rfl rfl rfl

/-- The rule that asks the rows of a node for two numbers. -/
def amongRows : Rule :=
  .asking (some "Rows") (some "long") .oneOf
    (.array [.number (.integer 8), .number (.integer 7)])

theorem amongRows_compiles :
    nodeCompiler.predicate amongRows =
      .ok (.leaf (Compiler.membershipLeaf
        ⟨"Rows", [.member "Rows", .each, .each], .long, false⟩ ⟨false, false, false⟩ .oneOf
        [.int 8, .int 7])) := by
  have trimmed : Text.trim "Rows" = "Rows" := by decide +kernel
  have split : Resolver.segmentsOf "Rows" = ["Rows"] := by decide +kernel
  have followed : nodeCompiler.resolver.follow "Rows" (.object "Node") ["Rows"] =
      .ok ([.member "Rows"], .list (.nullable (.list .long))) :=
    Resolver.follow_member rfl rfl rfl
  have resolved := Resolver.resolve_of_trimmed trimmed split (by decide) followed
  have field : amongRows.fieldPath = "Rows" := trimmed
  rw [← field] at resolved
  refine (Compiler.predicate_asking_eq_ok_iff rfl rfl (by rw [← amongRows, field]; decide)).mpr
    ⟨.long, _, [.int 8, .int 7], _, [.int 8, .int 7], ?_, resolved, rfl, .own rfl ?_ rfl, ?_⟩
  · exact Compiler.declaredType_of_tag rfl (by decide +kernel) (by decide +kernel)
  · decide
  · rw [field]
    rfl

/-- The rule and the group meet the same null row. -/
theorem membership_splits_rows :
    let group := Rule.anyOf ([.number (.integer 8), .number (.integer 7)].map
      (.asking (some "Rows") (some "long") .equal))
    let record := Value.object
      [("Next", .null), ("Rows", .list [.null, .list [.int 7]])] []
    ∃ whole parts, nodeCompiler.predicate amongRows = .ok whole ∧
      nodeCompiler.predicate group = .ok parts ∧
        whole.evaluate record = .error (.nullReference "Rows" "[*]") ∧
          parts.evaluate record = .error (.nullReference "Rows" "[*]") := by
  intro group record
  have splits := (membership_splits nodeCompiler rfl (some "Rows") (some "long")
    (List.cons_ne_nil (.number (.integer 8)) [.number (.integer 7)]) (by simp)).1
  have children := splits.compiles.mp ⟨_, amongRows_compiles⟩
  obtain ⟨compiled, each⟩ := exists_forall₂_iff.mpr children
  have groupOk : nodeCompiler.predicate group = .ok (.anyOf compiled) :=
    (Compiler.predicate_group_eq_ok_iff (List.cons_ne_nil _ _)).mpr ⟨compiled, each, rfl⟩
  refine ⟨_, _, amongRows_compiles, groupOk, rfl, ?_⟩
  exact splits.error amongRows_compiles groupOk record _ rfl

end RecordFilter
