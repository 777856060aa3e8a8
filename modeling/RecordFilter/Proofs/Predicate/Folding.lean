import RecordFilter.Proofs.Path.Alike
import RecordFilter.Proofs.Path.Soundness
import RecordFilter.Proofs.Predicate.Tree
import RecordFilter.Proofs.Text.Lower

/-!
# Leaves that ignore letter case

A leaf that ignores letter case lower-cases the texts that it looks for and the text of the
field, each as a whole. It compiles when the exact leaf does, and it finds what the exact leaf
finds unless a text that it looks for has a capital sigma at an end where the field may go on.
-/

namespace RecordFilter

/-! ## Looking for a text -/

namespace Text

theorem toList_lower (text : String) : (lower text).toList = lowerAfter [] text.toList :=
  String.toList_ofList

theorem startsWith_iff {text part : String} :
    startsWith text part = true ↔ part.toList <+: text.toList :=
  List.isPrefixOf_iff_prefix

theorem endsWith_iff {text part : String} :
    endsWith text part = true ↔ part.toList <:+ text.toList :=
  List.isSuffixOf_iff_suffix

theorem contains_iff {text part : String} :
    contains text part = true ↔ part.toList <:+: text.toList :=
  occursIn_iff

theorem forall_toList_iff {property : List Char → Prop} :
    (∀ text : String, property text.toList) ↔ ∀ text, property text := by
  constructor
  · intro each text
    rw [← String.toList_ofList (l := text)]
    exact each _
  · exact fun each text => each _

end Text

namespace Operator

/-- The operators that find a part in a text: as the whole, at the start, at the end or
inside. -/
def textual : List Operator :=
  [equal, oneOf, beginsWith, contains, endsWith]

theorem spec_of_textual : ∀ operator ∈ textual,
    operator.isPresenceTest = false ∧ operator.needsOrder = false ∧
      operator.positive = operator ∧ operator.isNegated = false ∧
        (operator.arity = .single ∨ operator = .oneOf) := by
  decide

/-- Whether an operator finds a part in a text. -/
def finds (operator : Operator) (text part : String) : Bool :=
  match operator with
  | equal | oneOf => text == part
  | beginsWith => Text.startsWith text part
  | contains => Text.contains text part
  | endsWith => Text.endsWith text part
  | _ => false

/-- Whether the part has no capital sigma at an end where the text may go on. -/
def isSettled (operator : Operator) (part : String) : Bool :=
  match operator with
  | beginsWith => !Text.closesWithSigma part.toList
  | contains => !Text.opensWithSigma part.toList && !Text.closesWithSigma part.toList
  | endsWith => !Text.opensWithSigma part.toList
  | _ => true

/-- Settled parts are the ones that no lower-casing loses. -/
theorem finds_lower_iff {operator : Operator} (textual : operator ∈ textual) (part : String) :
    (∀ text, operator.finds text part = true →
        operator.finds (Text.lower text) (Text.lower part) = true) ↔
      operator.isSettled part = true := by
  have same : ∀ text, (text == part) = true → (Text.lower text == Text.lower part) = true := by
    intro text equality
    rw [beq_iff_eq] at equality ⊢
    rw [equality]
  simp only [Operator.textual, List.mem_cons, List.not_mem_nil, or_false] at textual
  rcases textual with rfl | rfl | rfl | rfl | rfl
  · exact iff_of_true same rfl
  · exact iff_of_true same rfl
  · simp only [finds, isSettled, Text.startsWith_iff, Text.toList_lower, Bool.not_eq_true']
    rw [← Text.lowerAfter_prefix_iff, ← Text.forall_toList_iff]
  · simp only [finds, isSettled, Text.contains_iff, Text.toList_lower, Bool.and_eq_true,
      Bool.not_eq_true']
    rw [← Text.lowerAfter_infix_iff, ← Text.forall_toList_iff]
  · simp only [finds, isSettled, Text.endsWith_iff, Text.toList_lower, Bool.not_eq_true']
    rw [← Text.lowerAfter_suffix_iff, ← Text.forall_toList_iff]

end Operator

/-! ## Checks of text fields -/

/-- The check that looks for texts in a text field. -/
def Check.textual (exact : Bool) (operator : Operator) (texts : List String) : Check :=
  let semantics : Semantics := ⟨exact, false, false⟩
  .builtin operator false (texts.map fun text => .text (semantics.fold text)) semantics

section Checks

variable {operator : Operator} {texts : List String}

theorem Semantics.equals_text (semantics : Semantics) (actual expected : String) :
    semantics.equals (.text actual) (.text expected) = (semantics.fold actual == expected) := by
  rw [Bool.eq_iff_iff, beq_iff_eq]
  simp [equals, textOf?]

theorem Semantics.holds_textual (semantics : Semantics) (textual : operator ∈ Operator.textual)
    (one : operator.arity = .single → ∃ text, texts = [text]) (actual : String) :
    semantics.holds operator (texts.map fun text => .text (semantics.fold text)) (.text actual) =
      texts.any fun text => operator.finds (semantics.fold actual) (semantics.fold text) := by
  simp only [Operator.textual, List.mem_cons, List.not_mem_nil, or_false] at textual
  rcases textual with rfl | rfl | rfl | rfl | rfl
  · obtain ⟨text, rfl⟩ := one rfl
    exact (equals_text _ _ _).trans (Bool.or_false _).symm
  · rw [holds, List.any_map]
    exact congrArg texts.any (funext fun text => equals_text _ _ _)
  all_goals
    exact List.any_map

theorem Check.test_textual (textual : operator ∈ Operator.textual)
    (one : operator.arity = .single → ∃ text, texts = [text]) (exact : Bool) (actual : String) :
    (Check.textual exact operator texts).test (.text actual) =
      texts.any fun text => operator.finds (Semantics.fold ⟨exact, false, false⟩ actual)
        (Semantics.fold ⟨exact, false, false⟩ text) := by
  obtain ⟨takes, _⟩ := Operator.spec_of_textual operator textual
  rw [Check.textual, test, positive, takes, if_neg Bool.false_ne_true, Bool.false_xor]
  exact Semantics.holds_textual _ textual one actual

theorem Check.test_textual_null (textual : operator ∈ Operator.textual) (exact : Bool) :
    (Check.textual exact operator texts).test .null = false := by
  obtain ⟨takes, _⟩ := Operator.spec_of_textual operator textual
  rw [Check.textual, test, positive, takes, if_neg Bool.false_ne_true, Bool.false_xor]
  rfl

/-- Lower-casing loses no text exactly when all parts that are looked for are settled. -/
theorem Check.test_textual_le_iff (textual : operator ∈ Operator.textual)
    (one : operator.arity = .single → ∃ text, texts = [text]) :
    (∀ actual, (Check.textual true operator texts).test (.text actual) = true →
        (Check.textual false operator texts).test (.text actual) = true) ↔
      ∀ part ∈ texts, operator.isSettled part = true := by
  have exactFold (text : String) : Semantics.fold ⟨true, false, false⟩ text = text := rfl
  have lowerFold (text : String) : Semantics.fold ⟨false, false, false⟩ text = Text.lower text :=
    rfl
  simp only [test_textual textual one, exactFold, lowerFold, List.any_eq_true]
  constructor
  · intro keeps part member
    obtain ⟨_, _, _, _, single | rfl⟩ := Operator.spec_of_textual operator textual
    · obtain ⟨text, rfl⟩ := one single
      refine (Operator.finds_lower_iff textual part).mp fun actual found => ?_
      obtain ⟨other, otherMember, lowerFound⟩ := keeps actual ⟨part, member, found⟩
      rw [List.mem_singleton] at member otherMember
      rwa [member, ← otherMember]
    · rfl
  · rintro settled actual ⟨part, member, found⟩
    have keeps := (Operator.finds_lower_iff textual part).mpr (settled part member)
    exact ⟨part, member, keeps actual found⟩

end Checks

/-! ## Compiling with and without letter case -/

namespace Compiler

/-- The compiler with another setting for letter case. -/
def withCase (compiler : Compiler) (exact : Bool) : Compiler :=
  { compiler with options := compiler.options.withCaseSensitive exact }

variable {compiler : Compiler} {rule : Rule} {operator : Operator} {plan : LeafPlan}
  {exact : Bool} {texts : List String}

/-- What a leaf is planned to be does not depend on the setting for letter case. -/
theorem Plans.withCase (plans : (compiler.withCase exact).Plans rule plan) (other : Bool) :
    (compiler.withCase other).Plans rule plan where
  field := plans.field
  operator := plans.operator
  declared := plans.declared
  orderable := plans.orderable
  chain := plans.chain
  literals := plans.literals

theorem check_textual (textual : operator ∈ Operator.textual)
    (builtin : plan.operator = .builtin operator) (string : plan.declared = .string)
    (literals : plan.literals = texts.map .text) (target : plan.chain.target.nonNull = .text)
    (exact : Bool) :
    (compiler.withCase exact).check plan = .ok (.textual exact operator texts) := by
  obtain ⟨takes, unordered, positive, plain, _⟩ := Operator.spec_of_textual operator textual
  have semantics : plan.semantics (compiler.withCase exact).options = ⟨exact, false, false⟩ := by
    rw [LeafPlan.semantics, string]
    rfl
  have adapts : Adapts (compiler.withCase exact).options operator.isTextMatch plan.declared
      (plan.semantics (compiler.withCase exact).options) plan.literals plan.chain.target.nonNull
      (plan.semantics (compiler.withCase exact).options) (renderAll plan.literals) := by
    rw [target]
    exact .text
  have checks := (check_eq_ok_iff_of_builtin builtin).mpr
    (Checks.of_unordered takes unordered adapts)
  rw [checks, positive, plain, semantics, literals, renderAll, List.map_map, List.map_map]
  rfl

/-- The leaf of a text field, with each setting for letter case. -/
theorem exists_textual_leaf (textual : operator ∈ Operator.textual)
    (resolves : resolveOperator? compiler.options.operators rule.operatorName =
      some (.builtin operator))
    (tagged : declaredType rule = .ok .string) {value : Json} (valued : rule.value = some value)
    (items : Coercer.itemsOf operator.arity value = texts.map .string) {leaf : Leaf}
    (compiled : (compiler.withCase exact).predicate rule = .ok (.leaf leaf))
    (target : leaf.chain.target.nonNull = .text) :
    (operator.arity = .single → ∃ text, texts = [text]) ∧ leaf.quantifier = .any ∧
      leaf.check = .textual exact operator texts ∧
      Leads compiler.schema (.object compiler.root) leaf.chain.steps leaf.chain.target ∧
      ∀ other, (compiler.withCase other).predicate rule =
        .ok (.leaf { leaf with check := .textual other operator texts }) := by
  obtain ⟨childless, named⟩ := tests_of_predicate compiled
  obtain ⟨plan, leafOk⟩ := leaf_of_predicate compiled
  obtain ⟨plans, checked, chain, quantifier⟩ := leaf_eq_ok_iff.mp leafOk
  obtain ⟨takes, _, _, plain, _⟩ := Operator.spec_of_textual operator textual
  have builtin := plans.operator_eq resolves
  have string := plans.declared_eq tagged
  have read := plans.literals
  rw [valued, builtin] at read
  obtain ⟨literals, one⟩ :=
    Coercer.texts_of_coerce (of_decide_eq_false takes) items string read
  rw [chain] at target
  have check (other : Bool) : (compiler.withCase other).check plan =
      .ok (.textual other operator texts) :=
    check_textual textual builtin string literals target other
  refine ⟨one, ?_, Except.ok.inj (checked.symm.trans (check exact)), ?_, fun other => ?_⟩
  · rw [quantifier, LeafPlan.quantifier_of_builtin builtin, plain]
    rfl
  · rw [chain]
    exact plans.leads
  · have leafOther : (compiler.withCase other).leaf rule =
        .ok (plan, { leaf with check := .textual other operator texts }) :=
      leaf_eq_ok_iff.mpr ⟨plans.withCase other, check other, chain, quantifier⟩
    exact (predicate_leaf_eq_ok_iff childless named).mpr ⟨plan, _, leafOther, rfl⟩

end Compiler

/-! ## Finding more -/

/-- A leaf that looks for texts in a text field compiles with letter case ignored when it does
with exact comparison. It then finds whatever the exact leaf finds if and only if no text that
it looks for has a capital sigma at an end at which the field may go on. -/
theorem folding_keeps_settled (compiler : Compiler) {rule : Rule} {operator : Operator}
    (textual : operator ∈ Operator.textual)
    (resolves : resolveOperator? compiler.options.operators rule.operatorName =
      some (.builtin operator))
    (tagged : Compiler.declaredType rule = .ok .string) {value : Json}
    (valued : rule.value = some value) {texts : List String}
    (items : Coercer.itemsOf operator.arity value = texts.map .string) {exact : Leaf}
    (compiled : (compiler.withCase true).predicate rule = .ok (.leaf exact))
    (target : exact.chain.target.nonNull = .text) :
    ∃ folded, (compiler.withCase false).predicate rule = .ok (.leaf folded) ∧
      folded.chain = exact.chain ∧
      ((∀ actual, exact.check.test (.text actual) = true →
          folded.check.test (.text actual) = true) ↔
        ∀ part ∈ texts, operator.isSettled part = true) ∧
      ((∀ part ∈ texts, operator.isSettled part = true) → ∀ record,
        Conforms compiler.schema (fun _ => True) (.object compiler.root) record →
        exact.evaluate record = .ok true → folded.evaluate record = .ok true) := by
  obtain ⟨one, quantifier, check, leads, compiles⟩ :=
    Compiler.exists_textual_leaf textual resolves tagged valued items compiled target
  refine ⟨_, compiles false, rfl, ?_, fun settled record conforms passes => ?_⟩
  · rw [check]
    exact Check.test_textual_le_iff textual one
  · rw [Leaf.evaluate, Chain.visit_eq_scan, quantifier, check] at passes
    rw [Leaf.evaluate, Chain.visit_eq_scan, quantifier]
    refine Outcome.scan_mono (fun value member accepted => ?_) passes
    -- A conforming record holds texts and nulls there, and null passes no such test.
    have admitted := Chain.outcomes_admitted .all leads conforms _ member
    cases admitted with
    | reached valueConforms =>
        rcases valueConforms.null_or_nonNull with rfl | unwrapped
        · rw [Check.test_textual_null textual] at accepted
          cases accepted
        · rw [target] at unwrapped
          cases unwrapped with
          | text actual => exact (Check.test_textual_le_iff textual one).mpr settled actual accepted

/-- Books that have a title. -/
def bookCompiler : Compiler :=
  ⟨.default, ⟨[⟨"Book", [("Title", .text)], none⟩]⟩, "Book"⟩

/-- The rule that asks for titles that begin with an alpha and a sigma. -/
def titleRule : Rule :=
  ⟨.and, some "Title", none, some "begins_with", some (.string "\u0391\u03A3"), []⟩

def titlePlan : LeafPlan :=
  ⟨"Title", .builtin .beginsWith, .string, ⟨"Title", [.member "Title"], .text, false⟩,
    [.text "\u0391\u03A3"]⟩

theorem titleRule_plans (exact : Bool) :
    (bookCompiler.withCase exact).Plans titleRule titlePlan := by
  have field : titleRule.fieldPath = "Title" := by decide +kernel
  have trimmed : Text.trim "Title" = "Title" := by decide +kernel
  have split : Resolver.segmentsOf "Title" = ["Title"] := by decide +kernel
  have followed : bookCompiler.resolver.follow "Title" (.object "Book") ["Title"] =
      .ok ([.member "Title"], .text) := Resolver.follow_member rfl rfl rfl
  have resolved := Resolver.resolve_of_trimmed trimmed split (by decide) followed
  rw [← field] at resolved
  exact {
    field := field.symm
    operator := Compiler.resolveOperator?_builtin rfl (by decide +kernel)
    declared := rfl
    orderable := by
      rintro operator ⟨⟩ ordered
      cases ordered
    chain := ⟨_, resolved, by rw [field]; rfl⟩
    literals := rfl }

def titleLeaf (exact : Bool) : Leaf :=
  ⟨titlePlan.chain, .any, .textual exact .beginsWith ["\u0391\u03A3"]⟩

theorem titleRule_compiles (exact : Bool) :
    (bookCompiler.withCase exact).predicate titleRule = .ok (.leaf (titleLeaf exact)) := by
  have literals : titlePlan.literals = ["\u0391\u03A3"].map .text := rfl
  have check : (bookCompiler.withCase exact).check titlePlan = .ok (titleLeaf exact).check :=
    Compiler.check_textual (by decide) rfl rfl literals rfl exact
  have compiled : (bookCompiler.withCase exact).leaf titleRule = .ok (titlePlan, titleLeaf exact) :=
    Compiler.leaf_eq_ok_iff.mpr ⟨titleRule_plans exact, check, rfl, rfl⟩
  exact (Compiler.predicate_leaf_eq_ok_iff rfl (by decide +kernel)).mpr ⟨_, _, compiled, rfl⟩

/-- An alpha after the sigma: the title begins with both letters, but with letter case ignored
it is not found, since the sigma is final in the rule and medial in the title. -/
theorem folding_keeps_settled_title :
    let title := Value.object [("Title", .text "\u0391\u03A3\u0391")] []
    ∃ exact folded, (bookCompiler.withCase true).predicate titleRule = .ok (.leaf exact) ∧
      (bookCompiler.withCase false).predicate titleRule = .ok (.leaf folded) ∧
        exact.evaluate title = .ok true ∧ folded.evaluate title = .ok false := by
  intro title
  have items : Coercer.itemsOf Operator.beginsWith.arity (.string "\u0391\u03A3") =
      ["\u0391\u03A3"].map .string := rfl
  obtain ⟨folded, foldedOk, _⟩ := folding_keeps_settled bookCompiler (by decide)
    (titleRule_plans true).operator rfl rfl items (titleRule_compiles true) rfl
  cases Predicate.leaf.inj (Except.ok.inj ((titleRule_compiles false).symm.trans foldedOk))
  have answer (exact : Bool) : (titleLeaf exact).evaluate title =
      .ok ((titleLeaf exact).check.test (.text "\u0391\u03A3\u0391")) :=
    Leaf.evaluate_of_reached rfl
  refine ⟨_, _, titleRule_compiles true, foldedOk, ?_, ?_⟩
  · rw [answer, titleLeaf, Check.test_textual (by decide) fun _ => ⟨_, rfl⟩]
    decide +kernel
  · rw [answer, titleLeaf, Check.test_textual (by decide) fun _ => ⟨_, rfl⟩]
    decide +kernel

end RecordFilter
