import RecordFilter.Proofs.Path.Alike
import RecordFilter.Proofs.Path.Soundness
import RecordFilter.Proofs.Predicate.KeyPresence

/-!
# Null tests and empty tests

The four operators without literals compile alike and go the same way through a record. Whatever
is null is empty, so an empty test follows from a null test although the two may stop at different
items of a list. Values without a size are empty only if they are null; on a field of such values
the two tests give the same results, and so do their negated forms.
-/

namespace RecordFilter

/-! ## What a rule without literals compiles to -/

/-- A leaf rule that asks a built-in operator of a path, with a type tag that is known. -/
structure Compiler.Asks (compiler : Compiler) (operator : Operator) (path : String)
    (rule : Rule) : Prop where
  childless : rule.rules = []
  field : rule.fieldPath = Text.trim path
  resolves : resolveOperator? compiler.options.operators rule.operatorName =
    some (.builtin operator)
  tagged : ∃ declared, Compiler.declaredType rule = .ok declared

/-- Whether a value passes an operator without literals. -/
def Operator.presence (operator : Operator) (value : Value) : Bool :=
  operator.isNegated ^^ Check.isPresent operator.positive value

theorem Check.test_presence {operator : Operator} (presence : operator.isPresenceTest = true)
    (operands : List Literal) (semantics : Semantics) (value : Value) :
    (Check.builtin operator.positive operator.isNegated operands semantics).test value =
      operator.presence value := by
  have positive : operator.positive.isPresenceTest = true :=
    operator.isPresenceTest_positive.trans presence
  rw [test, Check.positive, if_pos positive]
  rfl

namespace Compiler

variable {compiler : Compiler} {operator : Operator} {path : String} {rule : Rule}

/-- What a rule answers for a record, or why it does not compile. -/
def answer (compiler : Compiler) (rule : Rule) (record : Value) :
    Except CompileError (Except EvalError Bool) :=
  (compiler.predicate rule).map fun predicate => predicate.evaluate record

theorem checkOrderable_of_presence (presence : operator.isPresenceTest = true)
    (context : LeafContext) : checkOrderable context (.builtin operator) = .ok () := by
  cases operator with
  | isEmpty | isNotEmpty | isNull | isNotNull => rfl
  | _ => cases presence

/-- An operator without literals is planned as soon as its path is resolved. -/
theorem Asks.plan_eq_map (asks : compiler.Asks operator path rule)
    (presence : operator.isPresenceTest = true) :
    ∃ declared, compiler.plan rule =
      (compiler.resolver.resolve (.object compiler.root) path).map fun chain =>
        ⟨rule.fieldPath, .builtin operator, declared, chain, []⟩ := by
  obtain ⟨declared, tagged⟩ := asks.tagged
  have arity : operator.arity = .none := of_decide_eq_true presence
  refine ⟨declared, ?_⟩
  rw [plan_of_resolved asks.resolves tagged, checkOrderable_of_presence presence, asks.field,
    compiler.resolver.resolve_trim]
  simp only [ResolvedOperator.arity, Coercer.coerce, extendChain, arity, if_true]
  cases compiler.resolver.resolve (.object compiler.root) path with
  | error error => rfl
  | ok chain => rfl

/-- A rule without literals visits the chain of its path and tests what it finds there; without
a path it says nothing. -/
theorem Asks.answer_eq (asks : compiler.Asks operator path rule)
    (presence : operator.isPresenceTest = true) (record : Value) :
    compiler.answer rule record =
      if Text.trim path = "" then .ok (.ok true)
      else
        (compiler.resolver.resolve (.object compiler.root) path).map fun chain =>
          chain.visit record (if operator.isNegated then .all else .any) operator.presence := by
  unfold answer
  split
  next blank =>
      rw [predicate_vacuous asks.childless (asks.field.trans blank)]
      rfl
  next visible =>
      have named : rule.fieldPath ≠ "" := by
        rw [asks.field]
        exact visible
      obtain ⟨declared, planned⟩ := asks.plan_eq_map presence
      cases resolved : compiler.resolver.resolve (.object compiler.root) path with
      | error error =>
          rw [resolved] at planned
          rw [predicate_of_plan_error asks.childless named planned]
          rfl
      | ok chain =>
          have test : ∀ operands semantics,
              (Check.builtin operator.positive operator.isNegated operands semantics).test =
                operator.presence :=
            fun operands semantics => funext (Check.test_presence presence operands semantics)
          have known : compiler.plan rule =
              .ok ⟨rule.fieldPath, .builtin operator, declared, chain, []⟩ := by
            rw [planned, resolved]
            rfl
          rw [predicate_of_plan asks.childless named known]
          change ((builtinCheck _ operator _).map _).map _ = _
          rw [builtinCheck_presence presence]
          simp only [Except.map, Predicate.evaluate, Leaf.evaluate, test]
          rfl

end Compiler

/-! ## Values without a size -/

/-- Whether values of the type have no size: scalars that are no text, enum members, records. -/
def FieldType.isSizeless : FieldType → Bool
  | enum _ | object _ => true
  | other => other.isScalar

theorem Conforms.size?_eq_none {schema : Schema} {untyped : Value → Prop} {type : FieldType}
    {value : Value} (conforms : Conforms schema untyped type value)
    (sizeless : type.nonNull.isSizeless = true) : value.size? = none := by
  rcases conforms.null_or_nonNull with rfl | unwrapped
  · rfl
  · generalize type.nonNull = base at unwrapped sizeless
    cases unwrapped with
    | int _ | long _ | double _ | bool _ | date _ | dateTime _ | guid _ | enum _ => rfl
    | object _ _ _ => rfl
    | text _ | list _ | map _ _ | intMap _ | null _ | nullable _ | any _ => cases sizeless

namespace Operator

theorem presence_isEmpty_of_isNull {value : Value} (null : isNull.presence value = true) :
    isEmpty.presence value = true := by
  simp only [presence, isNegated, positive, Check.isPresent, Bool.false_bne] at null ⊢
  rw [null, Bool.true_or]

theorem presence_isEmpty_eq {value : Value} (sizeless : value.size? = none) :
    isEmpty.presence value = isNull.presence value := by
  simp [presence, isNegated, positive, Check.isPresent, sizeless]

/-- A negated operator without literals holds where its positive form fails. -/
theorem presence_negated (operator : Operator) (negated : operator.isNegated = true)
    (value : Value) : operator.presence value = !operator.positive.presence value := by
  rw [presence, presence, negated, operator.isNegated_positive, operator.positive_positive]
  simp

end Operator

/-! ## Both tests on one path -/

section Tests

variable {compiler : Compiler} {first second : Operator} {path : String}
  {firstRule secondRule : Rule} {record : Value}

/-- A yes of one test is a yes of another test with the same quantifier that more values pass. -/
theorem Compiler.Asks.answer_mono (asksFirst : compiler.Asks first path firstRule)
    (asksSecond : compiler.Asks second path secondRule)
    (firstPresence : first.isPresenceTest = true) (secondPresence : second.isPresenceTest = true)
    (negated : first.isNegated = second.isNegated)
    (more : ∀ value, first.presence value = true → second.presence value = true)
    (passes : compiler.answer firstRule record = .ok (.ok true)) :
    compiler.answer secondRule record = .ok (.ok true) := by
  rw [asksFirst.answer_eq firstPresence] at passes
  rw [asksSecond.answer_eq secondPresence, ← negated]
  split at passes
  next blank => rw [if_pos blank]
  next visible =>
      rw [if_neg visible]
      obtain ⟨chain, resolved, visited⟩ := map_eq_ok_iff.mp passes
      refine map_eq_ok_iff.mpr ⟨chain, resolved, ?_⟩
      rw [chain.visit_eq_scan] at visited ⊢
      exact Outcome.scan_mono (fun value _ => more value) visited

/-- Two tests with the same quantifier have the same results on a conforming record when they
agree on values without a size and the path leads to such values. -/
theorem Compiler.Asks.answer_congr (asksFirst : compiler.Asks first path firstRule)
    (asksSecond : compiler.Asks second path secondRule)
    (firstPresence : first.isPresenceTest = true) (secondPresence : second.isPresenceTest = true)
    (negated : first.isNegated = second.isNegated)
    (agree : ∀ value, value.size? = none → first.presence value = second.presence value)
    {chain : Chain}
    (resolved : compiler.resolver.resolve (.object compiler.root) path = .ok chain)
    (sizeless : chain.target.nonNull.isSizeless = true)
    (conforms : Conforms compiler.schema (fun _ => True) (.object compiler.root) record) :
    ∃ result, compiler.answer firstRule record = .ok result ∧
      compiler.answer secondRule record = .ok result := by
  have visible := Resolver.trim_ne_of_resolve resolved
  have leads := (Resolver.resolve_eq_ok resolved).1.leads
  rw [asksFirst.answer_eq firstPresence, asksSecond.answer_eq secondPresence, if_neg visible,
    if_neg visible, resolved, ← negated]
  refine ⟨_, rfl, ?_⟩
  have same : ∀ value, .reached value ∈ chain.outcomes record →
      second.presence value = first.presence value := by
    intro value member
    have admitted := Chain.outcomes_admitted .all leads conforms _ member
    cases admitted with
    | reached valueConforms => exact (agree value (valueConforms.size?_eq_none sizeless)).symm
  simp only [Except.map, chain.visit_eq_scan, Outcome.scan_congr same]

end Tests

/-- On one path, where the null test says yes, so does the empty test, and where the negated empty
test says yes, so does the negated null test. On a conforming record and a path to values without
a size, the empty test and the null test have the same result, be it an answer or an error, and so
have their negated forms. -/
theorem empty_tests_follow_null_tests (compiler : Compiler) {path : String}
    {rules : Operator → Rule}
    (asks : ∀ operator, operator.isPresenceTest = true →
      compiler.Asks operator path (rules operator))
    (record : Value) :
    (compiler.answer (rules .isNull) record = .ok (.ok true) →
      compiler.answer (rules .isEmpty) record = .ok (.ok true)) ∧
    (compiler.answer (rules .isNotEmpty) record = .ok (.ok true) →
      compiler.answer (rules .isNotNull) record = .ok (.ok true)) ∧
    ∀ chain, compiler.resolver.resolve (.object compiler.root) path = .ok chain →
      chain.target.nonNull.isSizeless = true →
      Conforms compiler.schema (fun _ => True) (.object compiler.root) record →
        (∃ result, compiler.answer (rules .isEmpty) record = .ok result ∧
          compiler.answer (rules .isNull) record = .ok result) ∧
        ∃ result, compiler.answer (rules .isNotEmpty) record = .ok result ∧
          compiler.answer (rules .isNotNull) record = .ok result := by
  have notNull : ∀ value, Operator.isNotEmpty.presence value = true →
      Operator.isNotNull.presence value = true := by
    intro value passes
    rw [Operator.presence_negated _ rfl, Bool.not_eq_true'] at passes ⊢
    by_contra null
    rw [Bool.not_eq_false] at null
    exact ne_true_of_eq_false passes (Operator.presence_isEmpty_of_isNull null)
  have sameNegated : ∀ value : Value, value.size? = none →
      Operator.isNotEmpty.presence value = Operator.isNotNull.presence value := by
    intro value sizeless
    have same := Operator.presence_isEmpty_eq sizeless
    rw [Operator.presence_negated .isNotEmpty rfl, Operator.presence_negated .isNotNull rfl]
    exact congrArg _ same
  refine ⟨?_, ?_, fun chain resolved sizeless conforms => ⟨?_, ?_⟩⟩
  · exact (asks .isNull rfl).answer_mono (asks .isEmpty rfl) rfl rfl rfl
      fun _ => Operator.presence_isEmpty_of_isNull
  · exact (asks .isNotEmpty rfl).answer_mono (asks .isNotNull rfl) rfl rfl rfl notNull
  · exact (asks .isEmpty rfl).answer_congr (asks .isNull rfl) rfl rfl rfl
      (fun _ => Operator.presence_isEmpty_eq) resolved sizeless conforms
  · exact (asks .isNotEmpty rfl).answer_congr (asks .isNotNull rfl) rfl rfl rfl sameNegated
      resolved sizeless conforms

/-- Folders with an optional parent and optional parts, under the default options. -/
def folderCompiler : Compiler :=
  ⟨.default,
    ⟨[⟨"Folder", [("Parent", .nullable (.object "Folder")),
      ("Parts", .list (.nullable (.object "Folder")))], none⟩]⟩,
    "Folder"⟩

def folder (parent : Value) (parts : List Value) : Value :=
  .object [("Parent", parent), ("Parts", .list parts)] []

theorem folder_conforms {parent : Value} {parts : List Value}
    (parentConforms : Conforms folderCompiler.schema (fun _ => True)
      (.nullable (.object "Folder")) parent)
    (each : ∀ part ∈ parts, Conforms folderCompiler.schema (fun _ => True)
      (.nullable (.object "Folder")) part) :
    Conforms folderCompiler.schema (fun _ => True) (.object "Folder") (folder parent parts) := by
  refine .object ?_ ?_ ?_
  · intro member type declared
    rcases (by simpa [Schema.shape, folderCompiler] using declared :
      (member = "Parent" ∧ _) ∨ (member = "Parts" ∧ _)) with ⟨rfl, _⟩ | ⟨rfl, _⟩
    · rfl
    · rfl
  · intro member type value declared found
    rcases (by simpa [Schema.shape, folderCompiler] using declared :
      (member = "Parent" ∧ type = _) ∨ (member = "Parts" ∧ type = _)) with
      ⟨rfl, rfl⟩ | ⟨rfl, rfl⟩
    · cases found
      exact parentConforms
    · cases found
      exact .list each
  · intro type key value indexer
    cases indexer

/-- The parents of the parts of a folder whose second part is null. A first part without a parent
decides before that; otherwise both tests err alike. -/
theorem empty_tests_follow_null_tests_parents :
    let asking (operator : Operator) : Rule := .test "Parts.Parent" operator.name
    let orphan := folder .null []
    let decided := folder .null [orphan, .null]
    let erring := folder .null [folder orphan [], .null]
    let error : Except EvalError Bool := .error (.nullReference "Parts.Parent" "Parent")
    (folderCompiler.answer (asking .isNull) decided = .ok (.ok true) ∧
      folderCompiler.answer (asking .isEmpty) decided = .ok (.ok true)) ∧
    folderCompiler.answer (asking .isNull) erring = .ok error ∧
      folderCompiler.answer (asking .isEmpty) erring = .ok error := by
  intro asking orphan decided erring error
  have asks : ∀ operator, operator.isPresenceTest = true →
      folderCompiler.Asks operator "Parts.Parent" (asking operator) := fun operator _ => {
    childless := rfl
    field := rfl
    resolves := Compiler.resolveOperator?_of_free fun other member =>
      absurd member List.not_mem_nil
    tagged := ⟨.string, rfl⟩ }
  have trimmed : Text.trim "Parts.Parent" = "Parts.Parent" := by decide +kernel
  have split : Resolver.segmentsOf "Parts.Parent" = ["Parts", "Parent"] := by decide +kernel
  have resolved : folderCompiler.resolver.resolve (.object folderCompiler.root) "Parts.Parent" =
      .ok ⟨"Parts.Parent", [.member "Parts", .each, .member "Parent"],
        .nullable (.object "Folder"), false⟩ :=
    Resolver.resolve_of_trimmed trimmed split (by decide)
      (Resolver.follow_member rfl rfl (Resolver.follow_member rfl rfl rfl))
  have visible : Text.trim "Parts.Parent" ≠ "" := Resolver.trim_ne_of_resolve resolved
  have answers (record : Value) := (asks .isNull rfl).answer_eq rfl record
  simp only [if_neg visible, resolved, Except.map] at answers
  have orphanConforms := folder_conforms (.null _)
    fun part (member : part ∈ []) => absurd member List.not_mem_nil
  have parts : ∀ part ∈ [folder orphan [], .null], Conforms folderCompiler.schema
      (fun _ => True) (.nullable (.object "Folder")) part := by
    intro part member
    rcases List.mem_pair.mp member with rfl | rfl
    · exact .nullable (folder_conforms (.nullable orphanConforms)
        fun part member => absurd member List.not_mem_nil)
    · exact .null _
  have erringConforms := folder_conforms (.null _) parts
  have decidedNull : folderCompiler.answer (asking .isNull) decided = .ok (.ok true) :=
    (answers decided).trans rfl
  have erringNull : folderCompiler.answer (asking .isNull) erring = .ok error :=
    (answers erring).trans rfl
  refine ⟨⟨decidedNull, ?_⟩, erringNull, ?_⟩
  · exact (empty_tests_follow_null_tests folderCompiler asks decided).1 decidedNull
  · obtain ⟨result, empty, null⟩ := ((empty_tests_follow_null_tests folderCompiler asks
      erring).2.2 _ resolved rfl erringConforms).1
    rw [empty, ← null, erringNull]

end RecordFilter
