import RecordFilter.Proofs.Predicate.KeyPresence

/-!
# Asking typed and untyped maps for a key

A typed map is asked for the key as the literal is written. What untyped data holds is seen
only when a record is read, so there the literal is folded like any text that is looked for,
and a map is asked for the folded key. The two answers differ where exactly one of the two keys
is in the map.
-/

namespace RecordFilter

namespace Value

theorem containsKey_map (entries : List (String × Value)) (key : String) :
    (map entries).containsKey key = decide (key ∈ entries.map Prod.fst) := by
  rw [Bool.eq_iff_iff, decide_eq_true_iff, List.mem_map]
  unfold containsKey entry?
  rw [List.lookup_isSome_iff]
  constructor
  · rintro ⟨entry, member, same⟩
    exact ⟨entry, member, (beq_iff_eq.mp same).symm⟩
  · rintro ⟨entry, member, rfl⟩
    exact ⟨entry, member, beq_self_eq_true _⟩

theorem map_fst_ofJsonMembers (fields : List (String × Json)) :
    (ofJsonMembers fields).map Prod.fst = fields.map Prod.fst := by
  induction fields with
  | nil => rfl
  | cons field rest inductionHypothesis =>
      rw [ofJsonMembers, List.map_cons, List.map_cons, inductionHypothesis]

end Value

/-- Where the chain of a leaf reaches one map, the leaf answers whether the map has a key. -/
def Leaf.AsksFor (leaf : Leaf) (negated : Bool) (key : String) : Prop :=
  ∀ record entries, leaf.chain.outcomes record = [.reached (.map entries)] →
    leaf.evaluate record = .ok (negated ^^ decide (key ∈ entries.map Prod.fst))

/-- The key for which a map in untyped data is asked. -/
def Options.untypedKey (options : Options) (key : String) : String :=
  if options.caseSensitive then key else Text.lower key

section Asking

variable {leaf : Leaf} {negated : Bool} {key : String}

theorem Leaf.asksFor_of_test
    (asks : ∀ entries, leaf.check.test (.map entries) =
      (negated ^^ decide (key ∈ entries.map Prod.fst))) : leaf.AsksFor negated key := by
  intro record entries reached
  rw [evaluate_of_reached reached, asks]

theorem Check.test_mapKey (entries : List (String × Value)) :
    (Check.mapKey [key] negated).test (.map entries) =
      (negated ^^ decide (key ∈ entries.map Prod.fst)) := by
  simp only [test, hasKey, List.any_cons, List.any_nil, Bool.or_false, Value.containsKey_map]

/-- A search for a text asks a map for the text as a key. -/
theorem Check.test_contains_map (semantics : Semantics) (entries : List (String × Value)) :
    (Check.builtin .contains negated [.text key] semantics).test (.map entries) =
      (negated ^^ decide (key ∈ entries.map Prod.fst)) := by
  have takes : Operator.contains.isPresenceTest = false := rfl
  simp only [test, positive, takes, Bool.false_eq_true, if_false, Value.anyItem, Semantics.holds,
    Semantics.containsOne, Literal.render, List.any_cons, List.any_nil, Bool.or_false,
    Value.containsKey_map]

end Asking

namespace Compiler

variable {compiler : Compiler} {rule : Rule} {operator : Operator} {declared : DeclaredType}
  {literal : Literal} {path : String} {chain : Chain} {value : FieldType}
  (resolves : resolveOperator? compiler.options.operators rule.operatorName =
    some (.builtin operator))
  (contains : operator.positive = .contains) (tagged : declaredType rule = .ok declared)
  (read : compiler.options.coercer.coerce ⟨rule.fieldPath, operator.name, declared⟩
    operator.arity rule.value = .ok [literal])
  (found : compiler.resolver.resolve (.object compiler.root) path = .ok chain)

include resolves contains tagged read found

theorem exists_leaf_of_map (map : chain.target.nonNull = .map .text value) :
    ∃ leaf, compiler.predicate (rule.on path) = .ok (.leaf leaf) ∧ leaf.chain = chain ∧
      leaf.AsksFor operator.isNegated literal.render := by
  obtain ⟨takes, unordered, _, _⟩ := spec_of_contains contains
  exact ⟨_, predicate_on unordered resolves tagged read found (by simp [map])
    (.keys takes map contains), rfl, Leaf.asksFor_of_test Check.test_mapKey⟩

theorem exists_leaf_of_any (any : chain.target.nonNull = .any) :
    ∃ leaf, compiler.predicate (rule.on path) = .ok (.leaf leaf) ∧ leaf.chain = chain ∧
      leaf.AsksFor operator.isNegated (compiler.options.untypedKey literal.render) := by
  obtain ⟨takes, unordered, _, part⟩ := spec_of_contains contains
  let plan : LeafPlan := ⟨Text.trim path, .builtin operator, declared, chain, [literal]⟩
  have adapts : Adapts compiler.options operator.isTextMatch plan.declared
      (plan.semantics compiler.options) plan.literals plan.chain.target.nonNull
      (plan.semantics compiler.options) (renderAll [literal]) := by
    have target : plan.chain.target.nonNull = .any := any
    rw [part, target]
    exact .any
  have checks : Checks compiler.options operator plan
      (.builtin .contains operator.isNegated [.text (compiler.options.untypedKey literal.render)]
        (plan.semantics compiler.options)) := by
    rw [← contains]
    exact .of_unordered takes unordered adapts
  exact ⟨_, predicate_on unordered resolves tagged read found (by simp [any]) checks, rfl,
    Leaf.asksFor_of_test (Check.test_contains_map _)⟩

end Compiler

/-- The same leaf on a typed map and on untyped data asks for the same key if texts are compared
exactly, and otherwise for the key and for the folded key. -/
theorem untyped_key_presence_folded (typed untyped : Compiler)
    (same : untyped.options = typed.options) {rule : Rule} {operator : Operator}
    (resolves : resolveOperator? typed.options.operators rule.operatorName =
      some (.builtin operator))
    (contains : operator.positive = .contains) {declared : DeclaredType}
    (tagged : Compiler.declaredType rule = .ok declared) {literals : List Literal}
    (read : typed.options.coercer.coerce ⟨rule.fieldPath, operator.name, declared⟩
      operator.arity rule.value = .ok literals)
    {path untypedPath : String} {chain untypedChain : Chain} {value : FieldType}
    (found : typed.resolver.resolve (.object typed.root) path = .ok chain)
    (map : chain.target.nonNull = .map .text value)
    (untypedFound : untyped.resolver.resolve (.object untyped.root) untypedPath =
      .ok untypedChain)
    (any : untypedChain.target.nonNull = .any) :
    ∃ key leaf untypedLeaf, literals.map Literal.render = [key] ∧
      typed.predicate (rule.on path) = .ok (.leaf leaf) ∧
      untyped.predicate (rule.on untypedPath) = .ok (.leaf untypedLeaf) ∧
      ∀ record untypedRecord entries fields,
        chain.outcomes record = [.reached (.map entries)] →
        untypedChain.outcomes untypedRecord = [.reached (.ofJson (.object fields))] →
        leaf.evaluate record =
            .ok (operator.isNegated ^^ decide (key ∈ entries.map Prod.fst)) ∧
          untypedLeaf.evaluate untypedRecord =
            .ok (operator.isNegated ^^
              decide (typed.options.untypedKey key ∈ fields.map Prod.fst)) ∧
          ((∀ name, name ∈ fields.map Prod.fst ↔ name ∈ entries.map Prod.fst) →
            (untypedLeaf.evaluate untypedRecord = leaf.evaluate record ↔
              typed.options.caseSensitive = true ∨
                (Text.lower key ∈ entries.map Prod.fst ↔ key ∈ entries.map Prod.fst))) := by
  have single : operator.arity = .single := (Compiler.spec_of_contains contains).2.2.1
  rw [single] at read
  obtain ⟨literal, rfl⟩ := Coercer.exists_singleton_of_coerce read
  rw [← single] at read
  obtain ⟨leaf, compiled, leafChain, asks⟩ :=
    Compiler.exists_leaf_of_map resolves contains tagged read found map
  obtain ⟨untypedLeaf, untypedCompiled, untypedLeafChain, untypedAsks⟩ :=
    Compiler.exists_leaf_of_any (same ▸ resolves) contains tagged (same ▸ read) untypedFound any
  rw [same] at untypedAsks
  refine ⟨literal.render, leaf, untypedLeaf, rfl, compiled, untypedCompiled, ?_⟩
  intro record untypedRecord entries fields reached untypedReached
  have answer := asks record entries (leafChain ▸ reached)
  have untypedAnswer := untypedAsks untypedRecord (Value.ofJsonMembers fields)
    (untypedLeafChain ▸ untypedReached)
  rw [Value.map_fst_ofJsonMembers] at untypedAnswer
  refine ⟨answer, untypedAnswer, fun sameKeys => ?_⟩
  rw [answer, untypedAnswer, Except.ok.injEq, Bool.xor_right_inj, decide_eq_decide, sameKeys]
  unfold Options.untypedKey
  cases typed.options.caseSensitive with
  | true => simp
  | false => simp

/-- Boxes with a typed map and untyped data, under the default options. -/
def boxCompiler : Compiler :=
  ⟨.default, ⟨[⟨"Box", [("Tags", .map .text .long), ("Data", .any)], none⟩]⟩, "Box"⟩

theorem box_resolves {member : String} {type : FieldType}
    (declared : (boxCompiler.schema.shape "Box").find? member = some type)
    (trimmed : Text.trim member = member) (alone : Resolver.segmentsOf member = [member])
    (named : member ≠ "") :
    boxCompiler.resolver.resolve (.object boxCompiler.root) member =
      .ok ⟨member, [.member member], type, false⟩ := by
  have filled : [member].any String.isEmpty = false := by simpa using named
  exact Resolver.resolve_of_trimmed trimmed alone filled (Resolver.follow_member rfl declared rfl)

/-- A capital letter in the key: the typed map has it, the untyped one does not answer to it. -/
theorem untyped_key_presence_folded_color :
    let color := Rule.asking none none .contains (.string "Color")
    let box := Value.object
      [("Tags", .map [("Color", .int 1)]), ("Data", .ofJson (.object [("Color", .integer 1)]))] []
    ∃ leaf untypedLeaf, boxCompiler.predicate (color.on "Tags") = .ok (.leaf leaf) ∧
      boxCompiler.predicate (color.on "Data") = .ok (.leaf untypedLeaf) ∧
        leaf.evaluate box = .ok true ∧ untypedLeaf.evaluate box = .ok false := by
  intro color box
  have resolves : resolveOperator? boxCompiler.options.operators color.operatorName =
      some (.builtin .contains) :=
    Compiler.resolveOperator?_of_free fun operator member => absurd member List.not_mem_nil
  have tags := box_resolves rfl (by decide +kernel : Text.trim "Tags" = "Tags")
    (by decide +kernel) (by decide)
  have data := box_resolves rfl (by decide +kernel : Text.trim "Data" = "Data")
    (by decide +kernel) (by decide)
  have read : boxCompiler.options.coercer.coerce ⟨color.fieldPath, "contains", .string⟩ .single
      color.value = .ok [.text "Color"] := rfl
  obtain ⟨key, leaf, untypedLeaf, named, compiled, untypedCompiled, answers⟩ :=
    untyped_key_presence_folded boxCompiler boxCompiler rfl resolves rfl rfl read tags rfl data rfl
  obtain rfl : key = "Color" := (List.singleton_inj.mp named).symm
  obtain ⟨answer, untypedAnswer, _⟩ :=
    answers box box [("Color", .int 1)] [("Color", .integer 1)] rfl rfl
  refine ⟨leaf, untypedLeaf, compiled, untypedCompiled, answer, ?_⟩
  have missing : boxCompiler.options.untypedKey "Color" ∉
      [("Color", Json.integer 1)].map Prod.fst := by decide +kernel
  rw [untypedAnswer, decide_eq_false missing]
  rfl

end RecordFilter
