import RecordFilter.Proofs.Literal.Rendering
import RecordFilter.Proofs.Path.Alike
import RecordFilter.Proofs.Path.Extension
import RecordFilter.Proofs.Path.Soundness
import RecordFilter.Proofs.Predicate.EnumNames

/-!
# Three ways to compare

An integer, a boolean or a guid is compared with literals of its own type as it is. Written into
a text field it is compared with the texts of these literals, and with literals that are texts it
is written itself. Each value has one text, so the three ways agree.
-/

namespace RecordFilter

/-- Whether a field of the type holds values for which there are literals of the declared type. -/
def DeclaredType.owns (declared : DeclaredType) : FieldType → Bool
  | .int | .long => declared.isWhole
  | .bool => declared = .boolean
  | .guid => declared = .guid
  | _ => false

namespace DeclaredType

variable {declared : DeclaredType} {base : FieldType}

/-- Such a field is compared with literals of its own type, and it is written for texts. -/
theorem owns_spec (owns : declared.owns base = true) :
    (declared.isWhole = true ∨ declared = .boolean ∨ declared = .guid) ∧
      Compiler.isCompatible declared base = true ∧ base.isScalar = true := by
  cases base with
  | int | long => exact ⟨Or.inl owns, isNumeric_of_isWhole owns, rfl⟩
  | bool => exact ⟨Or.inr (Or.inl (of_decide_eq_true owns)), owns, rfl⟩
  | guid => exact ⟨Or.inr (Or.inr (of_decide_eq_true owns)), owns, rfl⟩
  | _ => cases owns

theorem exact_spec (exact : declared.isWhole = true ∨ declared = .boolean ∨ declared = .guid) :
    declared ≠ .string ∧ declared ≠ .date := by
  rcases exact with whole | rfl | rfl
  · refine ⟨?_, ?_⟩ <;> rintro rfl <;> cases whole
  · decide
  · decide

theorem exists_standsFor_of_conforms {schema : Schema} {untyped : Value → Prop} {value : Value}
    (owns : declared.owns base = true) (conforms : Conforms schema untyped base value) :
    ∃ literal, Literal.StandsFor declared literal value := by
  cases conforms with
  | int _ | long _ => exact ⟨_, .int _ owns⟩
  | bool answer => exact ⟨_, .bool answer (of_decide_eq_true owns)⟩
  | guid guid => exact ⟨_, .guid guid (of_decide_eq_true owns)⟩
  | _ => cases owns

end DeclaredType

/-! ## Equality -/

namespace Literal.StandsFor

variable {declared : DeclaredType} {literal other : Literal} {value otherValue : Value}
  {semantics : Semantics}

theorem single (stands : StandsFor declared literal value) :
    (∀ items, value ≠ .list items) ∧ value.isNull = false := by
  refine ⟨?_, by cases stands <;> rfl⟩
  rintro items rfl
  cases stands

theorem fold_render (stands : StandsFor declared literal value) :
    semantics.fold literal.render = literal.render := by
  unfold Semantics.fold
  rw [stands.lower_render, ite_self]

/-- A value equals the literal for it only. -/
theorem equals_own (stands : StandsFor declared literal value)
    (otherStands : StandsFor declared other otherValue) :
    semantics.equals value (Compiler.foldLiteral semantics other) = decide (literal = other) := by
  refine stands.pair_cases otherStands (fun first second => ?_) (fun first second => ?_)
    fun first second => ?_
  · simp only [Literal.int.injEq]
    rfl
  · simp only [Literal.bool.injEq]
    rfl
  · simp only [Literal.guid.injEq]
    rfl

/-- What shows the text of a literal equals the text of this literal only. -/
theorem equals_render (stands : StandsFor declared literal value)
    (otherStands : StandsFor declared other otherValue) {shown : Value}
    (shows : semantics.textOf? shown = some literal.render) :
    semantics.equals shown (Compiler.foldLiteral semantics (.text other.render)) =
      decide (literal = other) := by
  rw [Compiler.foldLiteral, otherStands.fold_render]
  have text : semantics.equals shown (.text other.render) =
      decide (semantics.textOf? shown = some other.render) := by
    cases shown <;> rfl
  rw [text, shows, decide_eq_decide, Option.some.injEq, stands.render_inj otherStands]

theorem textOf?_text (stands : StandsFor declared literal value) :
    semantics.textOf? (.text literal.render) = some literal.render :=
  congrArg some stands.fold_render

theorem textOf?_rendered (stands : StandsFor declared literal value)
    (renders : semantics.renderText = true) :
    semantics.textOf? value = some literal.render := by
  have written : semantics.textOf? value = value.toText?.map semantics.fold := by
    unfold Semantics.textOf?
    cases stands <;> exact if_pos renders
  rw [written, stands.toText?_eq, Option.map_some, stands.fold_render]

end Literal.StandsFor

/-! ## Leaves -/

/-- A field that is null, and one that holds the text of another field. -/
inductive Value.RendersTo : Value → Value → Prop where
  | null : RendersTo .null .null
  | text {value : Value} {text : String} (rendered : value.toText? = some text) :
      RendersTo value (.text text)

namespace Compiler

variable {compiler : Compiler} {operator : Operator} {declared : DeclaredType}
  {literals : List Literal} {chain : Chain}

theorem renderAll_renderAll (literals : List Literal) :
    renderAll (renderAll literals) = renderAll literals := by
  rw [renderAll, renderAll, List.map_map]
  rfl

theorem one_renderAll (one : operator.arity = .single → ∃ literal, literals = [literal]) :
    operator.arity = .single → ∃ literal, renderAll literals = [literal] := by
  intro single
  obtain ⟨only, rfl⟩ := one single
  exact ⟨_, rfl⟩

section Tests

variable (membership : operator.isMembership = true)
  (one : operator.arity = .single → ∃ literal, literals = [literal])

include membership one

/-- Null equals no literal. -/
theorem test_membershipLeaf_null {semantics : Semantics} :
    (membershipLeaf chain semantics operator literals).check.test .null = operator.isNegated := by
  have single : ∀ items, Value.null ≠ .list items := fun items impossible => by cases impossible
  rw [test_membershipLeaf membership one chain single, Value.isNull, Bool.not_true,
    Bool.false_and, Bool.xor_false]

variable (exact : ∀ literal ∈ literals, ∃ held, literal.StandsFor declared held)
  {literal : Literal} {held : Value} (stands : literal.StandsFor declared held)
  {semantics : Semantics}

include exact stands

/-- Literals of the type of a field are found by equality. -/
theorem test_membershipLeaf_own :
    (membershipLeaf chain semantics operator literals).check.test held =
      (operator.isNegated ^^ literals.any fun other => literal = other) := by
  obtain ⟨single, notNull⟩ := stands.single
  rw [test_membershipLeaf membership one chain single, notNull, Bool.not_false, Bool.true_and]
  refine congrArg (operator.isNegated ^^ ·) (any_congr_mem fun other member => ?_)
  obtain ⟨otherHeld, otherStands⟩ := exact other member
  exact stands.equals_own otherStands

/-- The texts of literals are found by equality of the literals. -/
theorem test_membershipLeaf_shown {shown : Value} (single : ∀ items, shown ≠ .list items)
    (notNull : shown.isNull = false) (shows : semantics.textOf? shown = some literal.render) :
    (membershipLeaf chain semantics operator (renderAll literals)).check.test shown =
      (operator.isNegated ^^ literals.any fun other => literal = other) := by
  rw [test_membershipLeaf membership (one_renderAll one) chain single, notNull, Bool.not_false,
    Bool.true_and, renderAll, List.any_map]
  refine congrArg (operator.isNegated ^^ ·) (any_congr_mem fun other member => ?_)
  obtain ⟨otherHeld, otherStands⟩ := exact other member
  exact stands.equals_render otherStands shows

theorem test_membershipLeaf_text :
    (membershipLeaf chain semantics operator (renderAll literals)).check.test
        (.text literal.render) =
      (operator.isNegated ^^ literals.any fun other => literal = other) := by
  have single : ∀ items, Value.text literal.render ≠ .list items :=
    fun items impossible => by cases impossible
  exact test_membershipLeaf_shown membership one exact stands single rfl stands.textOf?_text

theorem test_membershipLeaf_rendered (renders : semantics.renderText = true) :
    (membershipLeaf chain semantics operator (renderAll literals)).check.test held =
      (operator.isNegated ^^ literals.any fun other => literal = other) :=
  test_membershipLeaf_shown membership one exact stands stands.single.1 stands.single.2
    (stands.textOf?_rendered renders)

end Tests

section Records

variable (membership : operator.isMembership = true)
  (one : operator.arity = .single → ∃ literal, literals = [literal])
  (exact : ∀ literal ∈ literals, ∃ held, literal.StandsFor declared held)
  {record : Value}
  (holds : ∀ held, .reached held ∈ chain.outcomes record →
    held = .null ∨ ∃ literal, Literal.StandsFor declared literal held)
  {semantics : Semantics}

include membership one exact holds

theorem evaluate_membershipLeaf_rendered {rendering : Semantics}
    (renders : rendering.renderText = true) :
    (membershipLeaf chain semantics operator literals).evaluate record =
      (membershipLeaf chain rendering operator (renderAll literals)).evaluate record := by
  rw [Leaf.evaluate, Leaf.evaluate, Chain.visit_eq_scan, Chain.visit_eq_scan]
  refine Outcome.scan_congr fun held member => ?_
  rcases holds held member with rfl | ⟨literal, stands⟩
  · rw [test_membershipLeaf_null membership one,
      test_membershipLeaf_null membership (one_renderAll one)]
  · rw [test_membershipLeaf_own membership one exact stands,
      test_membershipLeaf_rendered membership one exact stands renders]

theorem evaluate_membershipLeaf_text {textChain : Chain} {other : Value}
    (alike : List.Forall₂ (Outcome.Alike Value.RendersTo) (chain.outcomes record)
      (textChain.outcomes other)) :
    (membershipLeaf chain semantics operator literals).evaluate record =
      (membershipLeaf textChain semantics operator (renderAll literals)).evaluate other := by
  rw [Leaf.evaluate, Leaf.evaluate, Chain.visit_eq_scan, Chain.visit_eq_scan]
  refine Outcome.scan_eq_of_alike alike fun held shown member _ renders => ?_
  rcases holds held member with rfl | ⟨literal, stands⟩
  · cases renders with
    | null =>
        rw [test_membershipLeaf_null membership one,
          test_membershipLeaf_null membership (one_renderAll one)]
    | text rendered => cases rendered
  · cases renders with
    | null => cases stands
    | text rendered =>
        cases stands.toText?_eq.symm.trans rendered
        rw [test_membershipLeaf_own membership one exact stands,
          test_membershipLeaf_text membership one exact stands]

end Records

/-- A membership rule on a field compiles once its literals are read and fit the field. -/
theorem predicate_asking_of_fits
    (resolves : resolveOperator? compiler.options.operators (Text.trim operator.name) =
      some (.builtin operator))
    (membership : operator.isMembership = true) {path : String} {typeTag : Option String}
    {value : Json}
    (tagged : declaredType (.asking (some path) typeTag operator value) = .ok declared)
    (found : compiler.resolver.resolve (.object compiler.root) path = .ok chain)
    {context : LeafContext} (kind : context.declared = declared)
    (read : compiler.options.coercer.coerce context operator.arity (some value) = .ok literals)
    {adapted : Semantics} {operands : List Literal}
    (adapts : Adapts compiler.options false declared
      ⟨compiler.options.caseSensitive, false, declared = .date⟩ literals
      chain.throughLists.target.nonNull adapted operands) :
    compiler.predicate (.asking (some path) typeTag operator value) =
      .ok (.leaf (membershipLeaf chain.throughLists adapted operator operands)) := by
  have trimmed := (compiler.resolver.resolve_trim (.object compiler.root) path).trans found
  have named : (Rule.asking (some path) typeTag operator value).fieldPath ≠ "" :=
    Resolver.trim_ne_of_resolve found
  refine predicate_asking_of_adapts resolves membership named tagged trimmed
    ((Coercer.coerce_congr ?_).mp read) adapts
  exact kind

end Compiler

/-- Integers, booleans and guids are compared with literals of their type as they are, as texts
in a text field, or as texts in a rule about texts: the three rules compile, and they have the
same answers, in a field and so in a record. -/
theorem literals_reconciled_alike (compiler : Compiler)
    (implicit : compiler.options.explicitText = false) {operator : Operator}
    (resolves : resolveOperator? compiler.options.operators (Text.trim operator.name) =
      some (.builtin operator))
    (membership : operator.isMembership = true) {declared : DeclaredType}
    {ownPath textPath : String} {ownChain textChain : Chain}
    (ownFound : compiler.resolver.resolve (.object compiler.root) ownPath = .ok ownChain)
    (owns : declared.owns ownChain.throughLists.target.nonNull = true)
    (textFound : compiler.resolver.resolve (.object compiler.root) textPath = .ok textChain)
    (text : textChain.throughLists.target.nonNull = .text) {typeTag textTag : Option String}
    {value textual : Json} {literals : List Literal}
    (tagged : Compiler.declaredType (.asking (some ownPath) typeTag operator value) = .ok declared)
    (textTagged : Compiler.declaredType (.asking (some ownPath) textTag operator textual) =
      .ok .string)
    (read : compiler.options.coercer.coerce ⟨ownPath, operator.name, declared⟩ operator.arity
      (some value) = .ok literals)
    (written : Coercer.itemsOf operator.arity textual =
      literals.map fun literal => .string literal.render) :
    ∃ ownLeaf textLeaf stringLeaf,
      compiler.predicate (.asking (some ownPath) typeTag operator value) = .ok (.leaf ownLeaf) ∧
      compiler.predicate (.asking (some textPath) typeTag operator value) = .ok (.leaf textLeaf) ∧
      compiler.predicate (.asking (some ownPath) textTag operator textual) =
        .ok (.leaf stringLeaf) ∧
      (∀ literal held, Literal.StandsFor declared literal held →
        let verdict := operator.isNegated ^^ literals.any fun other => literal = other
        held.toText? = some literal.render ∧ ownLeaf.check.test held = verdict ∧
          textLeaf.check.test (.text literal.render) = verdict ∧
          stringLeaf.check.test held = verdict) ∧
      ∀ record, Conforms compiler.schema (fun _ => True) (.object compiler.root) record →
        ownLeaf.evaluate record = stringLeaf.evaluate record ∧
        ∀ other, List.Forall₂ (Outcome.Alike Value.RendersTo) (ownLeaf.chain.outcomes record)
            (textLeaf.chain.outcomes other) →
          ownLeaf.evaluate record = textLeaf.evaluate other := by
  obtain ⟨exact, compatible, scalar⟩ := DeclaredType.owns_spec owns
  obtain ⟨notString, notDate⟩ := DeclaredType.exact_spec exact
  have each : ∀ literal ∈ literals, ∃ held, literal.StandsFor declared held :=
    Coercer.forall_of_coerce (fun _ _ literalRead => Coercer.exists_standsFor exact literalRead)
      read
  have takes : operator.arity ≠ .none :=
    of_decide_eq_false (Operator.isMembership_spec membership).1
  have one : operator.arity = .single → ∃ literal, literals = [literal] := by
    intro single
    rw [single] at read
    exact Coercer.exists_singleton_of_coerce read
  have textRead : compiler.options.coercer.coerce ⟨ownPath, operator.name, .string⟩ operator.arity
      (some textual) = .ok (Compiler.renderAll literals) := by
    have texts : Coercer.itemsOf operator.arity textual =
        (literals.map Literal.render).map .string := by
      rw [written, List.map_map]
      rfl
    rw [Coercer.coerce_texts takes rfl texts, List.length_map,
      Coercer.wantedBy_of_coerce takes read, List.map_map]
    rfl
  let plain : Semantics := ⟨compiler.options.caseSensitive, false, declared = .date⟩
  let rendering : Semantics := ⟨compiler.options.caseSensitive, true, false⟩
  have retagged : Compiler.declaredType (.asking (some textPath) typeTag operator value) =
      .ok declared := Compiler.declaredType_of_typeTag tagged rfl
  have ownFits : Adapts compiler.options false declared plain literals
      ownChain.throughLists.target.nonNull plain literals := .own rfl notString compatible
  have textFits : Adapts compiler.options false declared plain literals
      textChain.throughLists.target.nonNull plain (Compiler.renderAll literals) := by
    rw [text]
    exact .text
  have stringFits : Adapts compiler.options false .string
      ⟨compiler.options.caseSensitive, false, false⟩ (Compiler.renderAll literals)
      ownChain.throughLists.target.nonNull rendering
      (Compiler.renderAll (Compiler.renderAll literals)) :=
    .rendered scalar (Or.inr rfl) implicit
  have ownOk := Compiler.predicate_asking_of_fits resolves membership tagged ownFound rfl read
    ownFits
  have textOk := Compiler.predicate_asking_of_fits resolves membership retagged textFound rfl read
    textFits
  have stringOk := Compiler.predicate_asking_of_fits resolves membership textTagged ownFound rfl
    textRead stringFits
  rw [Compiler.renderAll_renderAll] at stringOk
  refine ⟨_, _, _, ownOk, textOk, stringOk, fun literal held stands => ?_,
    fun record conforms => ?_⟩
  · exact ⟨stands.toText?_eq, Compiler.test_membershipLeaf_own membership one each stands,
      Compiler.test_membershipLeaf_text membership one each stands,
      Compiler.test_membershipLeaf_rendered membership one each stands rfl⟩
  · have holds : ∀ held, .reached held ∈ ownChain.throughLists.outcomes record →
        held = .null ∨ ∃ literal, Literal.StandsFor declared literal held := by
      intro held member
      have admitted := Chain.outcomes_admitted .all (Compiler.leads_of_predicate ownOk) conforms _
        member
      cases admitted with
      | reached heldConforms =>
          exact heldConforms.null_or_nonNull.imp id (DeclaredType.exists_standsFor_of_conforms owns)
    exact ⟨Compiler.evaluate_membershipLeaf_rendered membership one each holds rfl,
      fun other alike => Compiler.evaluate_membershipLeaf_text membership one each holds alike⟩

/-- Tickets that have a number, and a label into which it may be written. -/
def ticketCompiler : Compiler :=
  ⟨.default, ⟨[⟨"Ticket", [("Number", .int), ("Label", .text)], none⟩]⟩, "Ticket"⟩

theorem ticket_resolves {member : String} {type : FieldType} (trimmed : Text.trim member = member)
    (split : Resolver.segmentsOf member = [member]) (filled : member.isEmpty = false)
    (found : (ticketCompiler.schema.shape "Ticket").find? member = some type) :
    ticketCompiler.resolver.resolve (.object "Ticket") member =
      .ok ⟨member, [.member member], type, false⟩ := by
  have followed : ticketCompiler.resolver.follow member (.object "Ticket") [member] = _ :=
    Resolver.follow_member rfl found rfl
  have named : [member].any String.isEmpty = false := by rw [List.any_cons, filled]; rfl
  exact Resolver.resolve_of_trimmed trimmed split named followed

/-- Ticket eight is found by its number, by the number on its label, and by a text. -/
theorem literals_reconciled_alike_ticket :
    let numbers : Json := .array [.integer 7, .string " +8"]
    let texts : Json := .array [.string "7", .string "8"]
    ∃ ownLeaf textLeaf stringLeaf,
      ticketCompiler.predicate (.asking (some "Number") (some "integer") .oneOf numbers) =
        .ok (.leaf ownLeaf) ∧
      ticketCompiler.predicate (.asking (some "Label") (some "integer") .oneOf numbers) =
        .ok (.leaf textLeaf) ∧
      ticketCompiler.predicate (.asking (some "Number") none .oneOf texts) =
        .ok (.leaf stringLeaf) ∧
      ownLeaf.check.test (.int 8) = true ∧ textLeaf.check.test (.text "8") = true ∧
        stringLeaf.check.test (.int 8) = true := by
  intro numbers texts
  have ownFound := ticket_resolves (by decide +kernel) (by decide +kernel) (by decide)
    (rfl : (ticketCompiler.schema.shape "Ticket").find? "Number" = some .int)
  have textFound := ticket_resolves (by decide +kernel) (by decide +kernel) (by decide)
    (rfl : (ticketCompiler.schema.shape "Ticket").find? "Label" = some .text)
  have tagged : Compiler.declaredType (.asking (some "Number") (some "integer") .oneOf numbers) =
      .ok .integer := Compiler.declaredType_of_tag rfl (by decide +kernel) (by decide +kernel)
  have read : ticketCompiler.options.coercer.coerce ⟨"Number", Operator.oneOf.name, .integer⟩
      Operator.oneOf.arity (some numbers) = .ok [.int 7, .int 8] := rfl
  have untagged : Compiler.declaredType (.asking (some "Number") none .oneOf texts) =
      .ok .string := rfl
  have written : Coercer.itemsOf Operator.oneOf.arity texts =
      [Literal.int 7, .int 8].map fun literal => .string literal.render := rfl
  have resolves := Compiler.resolveOperator?_builtin
    (rfl : ticketCompiler.options.operators = []) (Operator.ofName?_trim_name .oneOf)
  obtain ⟨ownLeaf, textLeaf, stringLeaf, ownOk, textOk, stringOk, tests, _⟩ :=
    literals_reconciled_alike ticketCompiler rfl resolves rfl ownFound rfl textFound rfl tagged
      untagged read written
  obtain ⟨_, own, text, string⟩ := tests (.int 8) (.int 8) (.int 8 rfl)
  exact ⟨ownLeaf, textLeaf, stringLeaf, ownOk, textOk, stringOk, own, text, string⟩

end RecordFilter
