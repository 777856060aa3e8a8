import RecordFilter.Proofs.Predicate.Membership
import RecordFilter.Proofs.Predicate.Order

/-!
# Names of enum members

A text that an enum field is compared with stands for the first member that it names, and the
field is then compared with that member exactly. Where letter case is ignored a text may name
several members; only the first of them is ever found.
-/

namespace RecordFilter

/-! ## Naming -/

namespace Options

/-- Whether a text names an enum member. -/
def names (options : Options) (text member : String) : Bool :=
  if options.caseSensitive then member == text else Text.equalIgnoringCase member text

/-- The enum member that a text stands for: the first one that it names. -/
def firstNamed? (options : Options) (members : List (String × Int)) (text : String) :
    Option String :=
  (members.find? fun (member, _) => options.names text member).map Prod.fst

variable {options : Options} {members : List (String × Int)} {text other member : String}

theorem names_of_firstNamed? (first : options.firstNamed? members text = some member) :
    options.names text member = true := by
  obtain ⟨entry, found, rfl⟩ := Option.map_eq_some_iff.mp first
  have passes := List.find?_some found
  exact passes

/-- Texts that name one member name the same members. -/
theorem names_congr (text_names : options.names text member = true)
    (other_names : options.names other member = true) :
    options.names text = options.names other := by
  funext name
  unfold names at text_names other_names ⊢
  cases exact : options.caseSensitive with
  | true =>
      rw [if_pos exact, beq_iff_eq] at text_names other_names
      rw [← text_names, ← other_names]
  | false =>
      rw [exact, if_neg Bool.false_ne_true, Text.equalIgnoringCase_iff] at text_names other_names
      rw [if_neg Bool.false_ne_true, if_neg Bool.false_ne_true, Bool.eq_iff_iff,
        Text.equalIgnoringCase_iff, Text.equalIgnoringCase_iff, ← text_names, ← other_names]

theorem firstNamed?_congr (text_names : options.names text member = true)
    (other_names : options.names other member = true) :
    options.firstNamed? members text = options.firstNamed? members other := by
  unfold firstNamed?
  rw [names_congr text_names other_names]

section Found

variable {texts found : List String}
  (each : texts.map (options.firstNamed? members) = found.map some)

include each

theorem exists_firstNamed? (text : String) (memberText : text ∈ texts) :
    ∃ member, options.firstNamed? members text = some member := by
  have first := List.mem_map_of_mem (f := options.firstNamed? members) memberText
  rw [each] at first
  obtain ⟨member, _, same⟩ := List.mem_map.mp first
  exact ⟨member, same.symm⟩

theorem any_firstNamed? (name : String) :
    (texts.any fun text => options.firstNamed? members text = some name) =
      found.any fun member => name = member :=
  calc
    (texts.any fun text => options.firstNamed? members text = some name) =
        (texts.map (options.firstNamed? members)).any fun first => first = some name := by
      rw [List.any_map]
      rfl
    _ = (found.map some).any fun first => first = some name := by rw [each]
    _ = found.any fun member => name = member := by
      rw [List.any_map]
      simp only [Function.comp_def, Option.some.injEq, eq_comm]

end Found

/-- No text names two members of different names. -/
def Unambiguous (options : Options) (members : List (String × Int)) (texts : List String) : Prop :=
  ∀ text ∈ texts, ∀ first ∈ members, ∀ second ∈ members,
    options.names text first.1 = true → options.names text second.1 = true → first.1 = second.1

theorem unambiguous_iff {texts : List String} :
    options.Unambiguous members texts ↔ options.caseSensitive = true ∨
      ∀ text ∈ texts, ∀ first ∈ members, ∀ second ∈ members,
        Text.equalIgnoringCase first.1 text = true →
          Text.equalIgnoringCase second.1 text = true → first.1 = second.1 := by
  unfold Unambiguous names
  cases options.caseSensitive with
  | true =>
      simp only [if_true, beq_iff_eq, true_or, iff_true]
      rintro text - first - second - rfl same
      exact same.symm
  | false => simp

/-- Each text finds all the members that it names exactly when it names one only. -/
theorem any_firstNamed?_iff {texts : List String}
    (named : ∀ text ∈ texts, ∃ member, options.firstNamed? members text = some member) :
    (∀ entry ∈ members, texts.any (fun text => options.firstNamed? members text = some entry.1) =
        texts.any fun text => options.names text entry.1) ↔
      options.Unambiguous members texts := by
  constructor
  · intro agree text memberText
    obtain ⟨first, found⟩ := named text memberText
    -- Whatever text finds a member that this one names, it finds the member this one stands for.
    have only : ∀ entry ∈ members, options.names text entry.1 = true → entry.1 = first := by
      intro entry memberEntry names
      have finds := (Bool.eq_iff_iff.mp (agree entry memberEntry)).mpr
        (List.any_eq_true.mpr ⟨text, memberText, names⟩)
      obtain ⟨other, _, otherFinds⟩ := List.any_eq_true.mp finds
      have otherFirst := of_decide_eq_true otherFinds
      have same : options.firstNamed? members text = options.firstNamed? members other :=
        firstNamed?_congr names (names_of_firstNamed? otherFirst)
      rw [found, otherFirst] at same
      exact (Option.some.inj same).symm
    intro entry memberEntry second memberSecond names secondNames
    rw [only entry memberEntry names, only second memberSecond secondNames]
  · intro unambiguous entry memberEntry
    rw [Bool.eq_iff_iff, List.any_eq_true, List.any_eq_true]
    constructor
    · rintro ⟨text, memberText, first⟩
      exact ⟨text, memberText, names_of_firstNamed? (of_decide_eq_true first)⟩
    · rintro ⟨text, memberText, names⟩
      obtain ⟨member, found⟩ := named text memberText
      obtain ⟨first, foundEntry, rfl⟩ := Option.map_eq_some_iff.mp found
      have same := unambiguous text memberText first (List.mem_of_find?_eq_some foundEntry) entry
        memberEntry (names_of_firstNamed? found) names
      rw [same] at found
      exact ⟨text, memberText, decide_eq_true found⟩

end Options

namespace Compiler

theorem enumMember_text_eq_ok_iff {options : Options} {context : LeafContext}
    {members : List (String × Int)} {text : String} {operand : Literal} :
    enumMember options.caseSensitive context members (.text text) = .ok operand ↔
      ∃ member, options.firstNamed? members text = some member ∧ operand = .text member := by
  unfold enumMember Options.firstNamed? Options.names
  simp only [Literal.render]
  generalize members.find? _ = found
  cases found with
  | none => simp
  | some entry => simp [eq_comm]

/-- Texts that fit an enum field are replaced by the members that they stand for. -/
theorem exists_firstNamed_of_adapts {options : Options} {semantics adapted : Semantics}
    {members : List (String × Int)} {texts : List String} {operands : List Literal}
    (adapts : Adapts options false .string semantics (texts.map .text) (.enum members) adapted
      operands) :
    adapted.caseSensitive = true ∧ adapted.renderText = true ∧
      ∃ found : List String, texts.map (options.firstNamed? members) = found.map some ∧
        operands = found.map .text := by
  cases adapts with
  | enumNumber _ numeric => cases numeric
  | enumText part _ => cases part
  | rendered scalar _ _ => cases scalar
  | own _ kind _ => exact absurd rfl kind
  | enumName _ _ each =>
      refine ⟨rfl, rfl, ?_⟩
      rw [List.forall₂_map_left_iff] at each
      induction each with
      | nil => exact ⟨[], rfl, rfl⟩
      | cons head _ inductionHypothesis =>
          obtain ⟨member, first, rfl⟩ := enumMember_text_eq_ok_iff.mp (head ⟨"", "", .string⟩)
          obtain ⟨found, each, rfl⟩ := inductionHypothesis
          exact ⟨member :: found, by rw [List.map_cons, List.map_cons, first, each], rfl⟩

end Compiler

/-! ## Testing -/

namespace Semantics

variable {semantics : Semantics} {operator : Operator}

/-- With one operand, `equal` is membership too. -/
theorem holds_membership (membership : operator.isMembership = true) {operands : List Literal}
    (one : operator.arity = .single → ∃ operand, operands = [operand]) (value : Value) :
    semantics.holds operator.positive operands value =
      operands.any fun operand => semantics.equals value operand := by
  cases operator with
  | equal | notEqual =>
      obtain ⟨operand, rfl⟩ := one rfl
      exact (Bool.or_false _).symm
  | oneOf | notOneOf => rfl
  | _ => cases membership

theorem fold_exact (exact : semantics.caseSensitive = true) (text : String) :
    semantics.fold text = text :=
  if_pos exact

theorem equals_enum (exact : semantics.caseSensitive = true)
    (render : semantics.renderText = true) (name text : String) (number : Int) :
    semantics.equals (.enum name number) (.text text) = decide (name = text) := by
  simp [equals, textOf?, render, Value.toText?, fold_exact exact]

end Semantics

namespace Compiler

variable {semantics : Semantics} {operator : Operator}

/-- A membership leaf passes a value that is neither a list nor null when it equals one of the
operands, or when it equals none if the operator is negated. -/
theorem test_membershipLeaf (membership : operator.isMembership = true) {operands : List Literal}
    (one : operator.arity = .single → ∃ operand, operands = [operand]) (chain : Chain)
    {value : Value} (single : ∀ items, value ≠ .list items) :
    (membershipLeaf chain semantics operator operands).check.test value =
      (operator.isNegated ^^ (!value.isNull &&
        operands.any fun operand => semantics.equals value (foldLiteral semantics operand))) := by
  have oneFolded : operator.arity = .single →
      ∃ operand, operands.map (foldLiteral semantics) = [operand] := by
    intro takesOne
    obtain ⟨operand, rfl⟩ := one takesOne
    exact ⟨_, rfl⟩
  have takes : operator.positive.isPresenceTest = false :=
    operator.isPresenceTest_positive.trans (Operator.isMembership_spec membership).1
  rw [membershipLeaf, Check.test, Check.positive_of_not_list takes single,
    Semantics.holds_membership membership oneFolded, List.any_map]
  rfl

/-- A membership leaf on an enum field finds the members among its operands. -/
theorem test_membershipLeaf_enum (membership : operator.isMembership = true)
    (exact : semantics.caseSensitive = true) (render : semantics.renderText = true)
    {found : List String} (one : operator.arity = .single → ∃ member, found = [member])
    (chain : Chain) (name : String) (number : Int) :
    (membershipLeaf chain semantics operator (found.map .text)).check.test (.enum name number) =
      (operator.isNegated ^^ found.any fun member => name = member) := by
  have oneOperand : operator.arity = .single → ∃ operand, found.map Literal.text = [operand] := by
    intro single
    obtain ⟨member, rfl⟩ := one single
    exact ⟨.text member, rfl⟩
  have single : ∀ items, Value.enum name number ≠ .list items :=
    fun items impossible => by cases impossible
  rw [test_membershipLeaf membership oneOperand chain single, List.any_map]
  simp only [Value.isNull, Bool.not_false, Bool.true_and, Function.comp_def, foldLiteral,
    Semantics.fold_exact exact, Semantics.equals_enum exact render]

end Compiler

/-- A rule that compares an enum field with texts answers for the members that the texts stand
for. That is an answer for all the members that the texts name unless letter case is ignored and
a text names several. -/
theorem enum_names_found_first (compiler : Compiler) (builtin : compiler.options.operators = [])
    {operator : Operator} (membership : operator.isMembership = true)
    {field typeTag : Option String} {value : Json} {texts : List String}
    (items : Coercer.itemsOf operator.arity value = texts.map .string)
    (tagged : Compiler.declaredType (.asking field typeTag operator value) = .ok .string)
    {leaf : Leaf}
    (compiled : compiler.predicate (.asking field typeTag operator value) = .ok (.leaf leaf))
    {members : List (String × Int)} (enum : leaf.chain.target.nonNull = .enum members) :
    (∀ record name number, leaf.chain.outcomes record = [.reached (.enum name number)] →
        leaf.evaluate record = .ok (leaf.check.test (.enum name number))) ∧
      (∀ name number, leaf.check.test (.enum name number) =
        (operator.isNegated ^^
          texts.any fun text => compiler.options.firstNamed? members text = some name)) ∧
      ((∀ entry ∈ members, leaf.check.test (.enum entry.1 entry.2) =
          (operator.isNegated ^^ texts.any fun text => compiler.options.names text entry.1)) ↔
        compiler.options.caseSensitive = true ∨
          ∀ text ∈ texts, ∀ first ∈ members, ∀ second ∈ members,
            Text.equalIgnoringCase first.1 text = true →
              Text.equalIgnoringCase second.1 text = true → first.1 = second.1) := by
  have takes : operator.arity ≠ .none :=
    of_decide_eq_false (Operator.isMembership_spec membership).1
  have named := (Compiler.tests_of_predicate compiled).2
  obtain ⟨declared, resolved, literals, adapted, operands, otherTagged, _, read, adapts, same⟩ :=
    (Compiler.predicate_asking_eq_ok_iff builtin membership named).mp compiled
  cases Except.ok.inj (tagged.symm.trans otherTagged)
  cases Predicate.leaf.inj same
  obtain ⟨rfl, one⟩ := Coercer.texts_of_coerce takes items rfl read
  change resolved.throughLists.target.nonNull = .enum members at enum
  rw [enum] at adapts
  obtain ⟨exact, render, found, each, rfl⟩ := Compiler.exists_firstNamed_of_adapts adapts
  have oneFound : operator.arity = .single → ∃ member, found = [member] := by
    intro single
    obtain ⟨text, rfl⟩ := one single
    exact List.length_eq_one_iff.mp (by simpa using (congrArg List.length each).symm)
  have tests (name : String) (number : Int) :=
    Compiler.test_membershipLeaf_enum membership exact render oneFound resolved.throughLists name
      number
  refine ⟨fun record name number reached => Leaf.evaluate_of_reached reached, ?_, ?_⟩
  · intro name number
    rw [tests, Options.any_firstNamed? each]
  · rw [← Options.unambiguous_iff, ← Options.any_firstNamed?_iff (Options.exists_firstNamed? each)]
    simp only [tests, Options.any_firstNamed? each, Bool.xor_right_inj]

/-- Devices whose levels differ in letter case only, under the default options. -/
def deviceCompiler : Compiler :=
  ⟨.default, ⟨[⟨"Device", [("Level", .enum [("low", 1), ("LOW", 2)])], none⟩]⟩, "Device"⟩

def capitalLevelRule : Rule :=
  .asking (some "Level") none .equal (.string "LOW")

theorem capitalLevelRule_compiles :
    deviceCompiler.predicate capitalLevelRule =
      .ok (.leaf (Compiler.membershipLeaf
        ⟨"Level", [.member "Level"], .enum [("low", 1), ("LOW", 2)], false⟩
        ⟨true, true, false⟩ .equal [.text "low"])) := by
  have trimmed : Text.trim "Level" = "Level" := by decide +kernel
  have split : Resolver.segmentsOf "Level" = ["Level"] := by decide +kernel
  have resolved := Resolver.resolve_of_trimmed trimmed split (by decide)
    (Resolver.follow_member rfl rfl rfl :
      deviceCompiler.resolver.follow "Level" (.object "Device") ["Level"] = _)
  have field : capitalLevelRule.fieldPath = "Level" := trimmed
  rw [← field] at resolved
  have first (context : LeafContext) :
      Compiler.enumMember deviceCompiler.options.caseSensitive context [("low", 1), ("LOW", 2)]
        (.text "LOW") = .ok (.text "low") :=
    Compiler.enumMember_text_eq_ok_iff.mpr ⟨"low", by decide +kernel, rfl⟩
  have named : capitalLevelRule.fieldPath ≠ "" := by rw [field]; decide
  refine (Compiler.predicate_asking_eq_ok_iff rfl rfl named).mpr
    ⟨.string, _, [.text "LOW"], _, [.text "low"], rfl, resolved, rfl,
      .enumName rfl rfl (.cons first .nil), ?_⟩
  rw [field]
  rfl

/-- The capital name stands for the other level, and its own level is not found. -/
theorem enum_names_found_first_level :
    ∃ leaf, deviceCompiler.predicate capitalLevelRule = .ok (.leaf leaf) ∧
      leaf.evaluate (.object [("Level", .enum "low" 1)] []) = .ok true ∧
        leaf.evaluate (.object [("Level", .enum "LOW" 2)] []) = .ok false := by
  have items : Coercer.itemsOf Operator.equal.arity (.string "LOW") = ["LOW"].map .string := rfl
  obtain ⟨answers, tests, _⟩ :=
    enum_names_found_first deviceCompiler rfl rfl items rfl capitalLevelRule_compiles rfl
  have first : deviceCompiler.options.firstNamed? [("low", 1), ("LOW", 2)] "LOW" = some "low" := by
    decide +kernel
  refine ⟨_, capitalLevelRule_compiles, ?_, ?_⟩
  · rw [answers _ "low" 1 rfl, tests]
    simp [first, Operator.isNegated]
  · rw [answers _ "LOW" 2 rfl, tests]
    simp [first, Operator.isNegated]

end RecordFilter
