import RecordFilter.Proofs.Path.Extension
import RecordFilter.Proofs.Predicate.Membership

/-!
# Asking for a key before reading it

A rule that asks a map for a key goes the way of a rule that reads the entry, up to the map.
Where the first one has an answer that lets a group go on, the map has the key, or both ways
end in the same dropped hop; so the second one has an answer as well.
-/

namespace RecordFilter

/-- The same leaf on another field. -/
def Rule.on (rule : Rule) (field : String) : Rule :=
  { rule with field := some field, rules := [] }

namespace Compiler

variable {compiler : Compiler} {path key : String} {chain : Chain} {value : FieldType}
  {operator : Operator}

/-! ## The rule that asks -/

theorem resolveOperator?_of_free {custom : List CustomOperator}
    (free : ∀ other ∈ custom, other.answersTo operator.name = false) :
    resolveOperator? custom (Text.trim operator.name) = some (.builtin operator) := by
  have none : custom.reverse.find? (fun other => other.answersTo (Text.trim operator.name)) =
      Option.none := by
    rw [List.find?_eq_none]
    intro other member
    unfold CustomOperator.answersTo
    rw [Text.trim_trim]
    exact ne_true_of_eq_false (free other (List.mem_reverse.mp member))
  unfold resolveOperator?
  rw [none, Operator.ofName?_trim, Operator.ofName?_name]
  rfl

theorem path_extendChain (arity : Arity) (chain : Chain) :
    (extendChain arity chain).path = chain.path := by
  unfold extendChain
  split
  · rfl
  · rfl

theorem extendChain_of_not_list {arity : Arity}
    (noList : ∀ element, chain.target.nonNull ≠ .list element) :
    extendChain arity chain = chain := by
  unfold extendChain Chain.throughLists
  split
  · rfl
  · simp [FieldType.openLists_of_not_list noList]

theorem extendChain_steps_of_last {arity : Arity} {step : Step}
    (last : (extendChain arity chain).steps.getLast? = some step) (other : step ≠ .each) :
    (extendChain arity chain).steps = chain.steps := by
  unfold extendChain at last ⊢
  split at last
  next presence => rw [if_pos presence]
  next takes =>
      rw [if_neg takes]
      unfold Chain.throughLists at last ⊢
      simp only [List.getLast?_append, List.getLast?_replicate] at last ⊢
      by_cases flat : chain.target.openLists.1 = 0
      · rw [flat]
        simp
      · rw [if_neg flat] at last
        cases last
        exact absurd rfl other

/-- A leaf that needs no order, on a field that is no list, compiles to its check. -/
theorem predicate_on {rule : Rule} {declared : DeclaredType} {literals : List Literal}
    {check : Check} (unordered : operator.needsOrder = false)
    (resolves : resolveOperator? compiler.options.operators rule.operatorName =
      some (.builtin operator))
    (tagged : declaredType rule = .ok declared)
    (read : compiler.options.coercer.coerce ⟨rule.fieldPath, operator.name, declared⟩
      operator.arity rule.value = .ok literals)
    (found : compiler.resolver.resolve (.object compiler.root) path = .ok chain)
    (noList : ∀ element, chain.target.nonNull ≠ .list element)
    (checks : Checks compiler.options operator
      ⟨Text.trim path, .builtin operator, declared, chain, literals⟩ check) :
    compiler.predicate (rule.on path) =
      .ok (.leaf ⟨chain, if operator.isNegated then .all else .any, check⟩) := by
  let plan : LeafPlan := ⟨Text.trim path, .builtin operator, declared, chain, literals⟩
  have plans : compiler.Plans (rule.on path) plan := {
    field := rfl
    operator := resolves
    declared := declaredType_of_typeTag tagged rfl
    orderable := by
      rintro other ⟨⟩ ordered
      rw [unordered] at ordered
      cases ordered
    chain := ⟨chain, (compiler.resolver.resolve_trim _ path).trans found,
      (extendChain_of_not_list noList).symm⟩
    literals := by
      refine (Coercer.coerce_congr ?_).mp read
      rfl }
  have named : (rule.on path).fieldPath ≠ "" := Resolver.trim_ne_of_resolve found
  exact (predicate_leaf_eq_ok_iff rfl named).mpr ⟨plan, _, leaf_eq_ok_iff.mpr ⟨plans,
    (check_eq_ok_iff_of_builtin rfl).mpr checks, rfl,
    (LeafPlan.quantifier_of_builtin rfl).symm⟩, rfl⟩

theorem spec_of_contains (contains : operator.positive = .contains) :
    operator.isPresenceTest = false ∧ operator.needsOrder = false ∧
      operator.arity = .single ∧ operator.isTextMatch = true := by
  cases operator with
  | contains | notContains => exact ⟨rfl, rfl, rfl, rfl⟩
  | _ => cases contains

/-- The leaf that asks a map for a key. -/
def keyLeaf (chain : Chain) (operator : Operator) (key : String) : Leaf where
  chain := chain
  quantifier := if operator.isNegated then .all else .any
  check := .mapKey [key] operator.isNegated

/-- The key is a text, so it is asked for as it is written. -/
theorem predicate_asking_key (operator : Operator) (contains : operator.positive = .contains)
    (free : ∀ other ∈ compiler.options.operators, other.answersTo operator.name = false)
    (found : compiler.resolver.resolve (.object compiler.root) path = .ok chain)
    (map : chain.target.nonNull = .map .text value) (key : String) :
    compiler.predicate (.asking (some path) none operator (.string key)) =
      .ok (.leaf (keyLeaf chain operator key)) := by
  obtain ⟨takes, unordered, single, _⟩ := spec_of_contains contains
  have noList (element : FieldType) : chain.target.nonNull ≠ .list element := by simp [map]
  have read (context : LeafContext) (string : context.declared = .string) :
      compiler.options.coercer.coerce context operator.arity (some (.string key)) =
        .ok [.text key] := by
    rw [single]
    refine (Coercer.coerce_single_eq_ok_iff fun items same => by cases same).mpr
      ⟨.text key, ?_, rfl⟩
    rw [string]
    rfl
  have asked : (Rule.asking none none operator (.string key)).on path =
      .asking (some path) none operator (.string key) := rfl
  rw [← asked]
  exact predicate_on unordered (resolveOperator?_of_free free) rfl (read _ rfl) found noList
    (.keys takes map contains)

/-! ## The rule that reads -/

/-- A chain that goes one step into the map reads the key with that step. -/
theorem step_of_key {rule : Rule} {leaf : Leaf} {step : Step}
    (found : compiler.resolver.resolve (.object compiler.root) path = .ok chain)
    (map : chain.target.nonNull = .map .text value)
    (trimmed : Text.trim key = key) (whole : '.' ∉ key.toList)
    (field : rule.fieldPath = Text.trim (path ++ "." ++ key))
    (compiled : compiler.predicate rule = .ok (.leaf leaf))
    (further : leaf.chain.steps = chain.steps ++ [step]) :
    step = .key key ∧ leaf.chain.nullGuard = chain.nullGuard ∧
      leaf.chain.path ≠ chain.path := by
  obtain ⟨plan, plans, planChain⟩ := plans_of_predicate compiled
  obtain ⟨resolved, longerFound, extended⟩ := plans.chain
  rw [field, compiler.resolver.resolve_trim] at longerFound
  obtain ⟨follows, chainPath, chainGuard⟩ := Resolver.resolve_eq_ok found
  obtain ⟨longerFollows, longerPath, longerGuard⟩ := Resolver.resolve_eq_ok longerFound
  have longerLeads := leads_of_predicate compiled
  rw [further] at longerLeads
  obtain ⟨name, rfl⟩ := (follows.leads.hops_last longerLeads).exists_key map
  -- The step was not put there by an extension through lists, so the path ends with it.
  have last : leaf.chain.steps.getLast? = some (.key name) := by
    rw [further]
    simp
  rw [planChain, extended] at last
  have steps := extendChain_steps_of_last last (by simp)
  rw [steps] at last
  have segment := longerFollows.getLast?_segments last rfl
  rw [Resolver.segmentsOf_trim, Resolver.segmentsOf_append trimmed whole,
    List.getLast?_concat] at segment
  cases segment
  refine ⟨rfl, ?_, ?_⟩
  · rw [planChain, plans.nullGuard, chainGuard]
    rfl
  · rw [planChain, extended, path_extendChain, longerPath, chainPath]
    exact Resolver.trim_append_ne trimmed whole

end Compiler

/-! ## Both rules in a group -/

section Groups

variable {chain : Chain} {key : String} {leaf : Leaf}

/-- The leaf that asks for the key errs on its own way, or settles the group, or the leaf
that reads the entry has an answer. -/
theorem Leaf.answers_of_keyLeaf (operator : Operator)
    (sameGuard : leaf.chain.nullGuard = chain.nullGuard)
    (further : leaf.chain.steps = chain.steps ++ [.key key])
    (typed : ∀ step ∈ chain.steps, step.isDynamic = false) (noEach : .each ∉ chain.steps)
    (record : Value) :
    (∃ error, (Compiler.keyLeaf chain operator key).evaluate record = .error error ∧
        error.path = chain.path) ∨
      (Compiler.keyLeaf chain operator key).evaluate record = .ok operator.isNegated ∨
        ∃ passed answer, (Compiler.keyLeaf chain operator key).evaluate record = .ok passed ∧
          leaf.evaluate record = .ok answer := by
  have prolongs : Chain.Prolongs chain leaf.chain [.key key] (chain.outcomes record)
      (leaf.chain.outcomes record) := by
    rw [Chain.outcomes, Chain.outcomes, further]
    exact Chain.prolongs_outcomesFrom sameGuard typed noEach record
  rw [evaluate, evaluate, Chain.visit_eq_scan, Chain.visit_eq_scan]
  change (∃ error, Outcome.scan _ _ (chain.outcomes record) = _ ∧ _) ∨
    Outcome.scan _ _ (chain.outcomes record) = _ ∨
      ∃ passed answer, Outcome.scan _ _ (chain.outcomes record) = _ ∧ _
  generalize chain.outcomes record = outcomes at prolongs ⊢
  generalize leaf.chain.outcomes record = furtherOutcomes at prolongs ⊢
  cases prolongs with
  | failed error _ own => exact Or.inl ⟨error, rfl, own⟩
  | dropped cause =>
      rw [Outcome.scan_dropped, Outcome.scan_dropped]
      exact Or.inr (Or.inr ⟨false, false, rfl, rfl⟩)
  | reached value =>
      rw [Outcome.scan_reached]
      have asked : (Compiler.keyLeaf chain operator key).check.test value =
          (operator.isNegated ^^ value.containsKey key) := by
        simp [Compiler.keyLeaf, Check.test, Check.hasKey]
      rw [asked]
      -- Without the key this answer settles the group; with it the entry is reached.
      cases contains : value.containsKey key with
      | false => exact Or.inr (Or.inl (by rw [Bool.xor_false]))
      | true =>
          obtain ⟨entry, reached⟩ := Chain.exists_reached_of_containsKey contains
          rw [reached, Outcome.scan_reached]
          exact Or.inr (Or.inr ⟨_, _, rfl, rfl⟩)

end Groups

/-- In a group of two the first rule keeps the second one from erring: an error of the group
is one of the first rule, and never the given one. -/
def Compiler.Shields (compiler : Compiler) (condition : Condition) (first second : Rule)
    (never : EvalError) : Prop :=
  ∃ guard group, compiler.predicate first = .ok guard ∧
    compiler.predicate (.group condition [first, second]) = .ok group ∧
      ∀ record error, group.evaluate record = .error error →
        guard.evaluate record = .error error ∧ error ≠ never

namespace Compiler

variable {compiler : Compiler} {path key : String} {chain : Chain} {value : FieldType}
  {operator : Operator} {rule : Rule} {leaf : Leaf}

theorem shields_of_keyLeaf (operator : Operator) {first : Rule}
    (firstOk : compiler.predicate first = .ok (.leaf (keyLeaf chain operator key)))
    (compiled : compiler.predicate rule = .ok (.leaf leaf))
    (sameGuard : leaf.chain.nullGuard = chain.nullGuard)
    (otherPath : leaf.chain.path ≠ chain.path)
    (further : leaf.chain.steps = chain.steps ++ [.key key])
    (typed : ∀ step ∈ chain.steps, step.isDynamic = false) (noEach : .each ∉ chain.steps) :
    compiler.Shields (if operator.isNegated then .or else .and) first rule
      (.keyNotFound leaf.chain.path key) := by
  refine ⟨_, _, firstOk, (predicate_group_eq_ok_iff (List.cons_ne_nil _ _)).mpr
    ⟨_, .cons firstOk (.cons compiled .nil), rfl⟩, fun record error failed => ?_⟩
  change (join (if operator.isNegated then .or else .and) _).evaluate record = _ at failed
  rw [evaluate_join] at failed
  rw [Predicate.evaluate]
  rcases Leaf.answers_of_keyLeaf operator sameGuard further typed noEach record with
    ⟨other, keyFailed, own⟩ | settled | ⟨passed, answer, keyOk, leafOk⟩
  · rw [Quantifier.visitItems_cons, Predicate.evaluate, keyFailed] at failed
    cases failed
    refine ⟨keyFailed, ?_⟩
    rintro rfl
    exact otherPath own
  · have settles : (if operator.isNegated then Condition.or else .and).quantifier.isSettledBy
        operator.isNegated = true := by
      cases operator.isNegated <;> rfl
    rw [Quantifier.visitItems_cons, Predicate.evaluate, settled, Quantifier.orElse_ok,
      if_pos settles] at failed
    cases failed
  · obtain ⟨child, member, childFailed⟩ := Quantifier.exists_error_of_visitItems failed
    rcases List.mem_pair.mp member with rfl | rfl
    · rw [Predicate.evaluate, keyOk] at childFailed
      cases childFailed
    · rw [Predicate.evaluate, leafOk] at childFailed
      cases childFailed

end Compiler

/-- Asking a map for a key shields every rule that reads the entry: joined with OR when it
asks whether the key is missing, joined with AND when it asks whether the key is there. -/
theorem key_presence_shields (compiler : Compiler)
    (free : ∀ operator ∈ compiler.options.operators,
      operator.answersTo "contains" = false ∧ operator.answersTo "not_contains" = false)
    {path key : String} {chain : Chain} {value : FieldType}
    (found : compiler.resolver.resolve (.object compiler.root) path = .ok chain)
    (flat : chain.hasEach = false) (map : chain.target.nonNull = .map .text value)
    (trimmed : Text.trim key = key) (whole : '.' ∉ key.toList) {rule : Rule} {leaf : Leaf}
    {step : Step} (field : rule.fieldPath = Text.trim (path ++ "." ++ key))
    (compiled : compiler.predicate rule = .ok (.leaf leaf))
    (further : leaf.chain.steps = chain.steps ++ [step]) :
    compiler.Shields .or (.asking (some path) none .notContains (.string key)) rule
        (.keyNotFound leaf.chain.path key) ∧
      compiler.Shields .and (.asking (some path) none .contains (.string key)) rule
        (.keyNotFound leaf.chain.path key) := by
  obtain ⟨rfl, sameGuard, otherPath⟩ :=
    Compiler.step_of_key found map trimmed whole field compiled further
  have leads := (Resolver.resolve_eq_ok found).1.leads
  have typed := leads.typed fun any => by
    rw [any] at map
    cases map
  have noEach : .each ∉ chain.steps := by simpa [Chain.hasEach] using flat
  have absentOk := Compiler.predicate_asking_key .notContains rfl
    (fun other member => (free other member).2) found map key
  have presentOk := Compiler.predicate_asking_key .contains rfl
    (fun other member => (free other member).1) found map key
  constructor
  · exact Compiler.shields_of_keyLeaf .notContains absentOk compiled sameGuard otherPath further
      typed noEach
  · exact Compiler.shields_of_keyLeaf .contains presentOk compiled sameGuard otherPath further
      typed noEach

/-- Items with optional tags that have numbers, under the default options. -/
def tagCompiler : Compiler :=
  ⟨.default,
    ⟨[⟨"Item", [("Parent", .nullable (.object "Item")), ("Tags", .nullable (.map .text .long))],
      none⟩]⟩,
    "Item"⟩

def sizeRule : Rule :=
  .asking (some "Parent.Tags.size") (some "long") .notEqual (.number (.integer 3))

theorem tags_resolve :
    tagCompiler.resolver.resolve (.object tagCompiler.root) "Parent.Tags" =
      .ok ⟨"Parent.Tags", [.member "Parent", .member "Tags"], .nullable (.map .text .long),
        false⟩ := by
  have trimmed : Text.trim "Parent.Tags" = "Parent.Tags" := by decide +kernel
  have split : Resolver.segmentsOf "Parent.Tags" = ["Parent", "Tags"] := by decide +kernel
  exact Resolver.resolve_of_trimmed trimmed split (by decide)
    (Resolver.follow_member rfl rfl (Resolver.follow_member rfl rfl rfl))

theorem sizeRule_compiles :
    tagCompiler.predicate sizeRule =
      .ok (.leaf (Compiler.membershipLeaf
        ⟨"Parent.Tags.size", [.member "Parent", .member "Tags", .key "size"], .long, false⟩
        ⟨false, false, false⟩ .notEqual [.int 3])) := by
  have trimmed : Text.trim "Parent.Tags.size" = "Parent.Tags.size" := by decide +kernel
  have split : Resolver.segmentsOf "Parent.Tags.size" = ["Parent", "Tags", "size"] := by
    decide +kernel
  have followed :
      tagCompiler.resolver.follow "Parent.Tags.size" (.object "Item")
          ["Parent", "Tags", "size"] =
        .ok ([.member "Parent", .member "Tags", .key "size"], .long) :=
    Resolver.follow_member rfl rfl (Resolver.follow_member rfl rfl rfl)
  have resolved := Resolver.resolve_of_trimmed trimmed split (by decide) followed
  have field : sizeRule.fieldPath = "Parent.Tags.size" := trimmed
  rw [← field] at resolved
  refine (Compiler.predicate_asking_eq_ok_iff rfl rfl (by rw [← sizeRule, field]; decide)).mpr
    ⟨.long, _, [.int 3], _, [.int 3], ?_, resolved, rfl, .own rfl ?_ rfl, ?_⟩
  · exact Compiler.declaredType_of_tag rfl (by decide +kernel) (by decide +kernel)
  · decide
  · rw [field]
    rfl

/-- An item without a parent: the group errs as its first rule does. -/
theorem key_presence_shields_tags :
    let absent := Rule.asking (some "Parent.Tags") none .notContains (.string "size")
    let item := Value.object [("Parent", .null), ("Tags", .null)] []
    ∃ guard group, tagCompiler.predicate absent = .ok guard ∧
      tagCompiler.predicate (.anyOf [absent, sizeRule]) = .ok group ∧
        group.evaluate item = .error (.nullReference "Parent.Tags" "Tags") ∧
          guard.evaluate item = .error (.nullReference "Parent.Tags" "Tags") := by
  intro absent item
  have free : ∀ operator ∈ tagCompiler.options.operators,
      operator.answersTo "contains" = false ∧ operator.answersTo "not_contains" = false :=
    fun operator member => absurd member List.not_mem_nil
  have shields := (key_presence_shields tagCompiler free tags_resolve rfl rfl
    (by decide +kernel : Text.trim "size" = "size") (by decide) (by decide +kernel)
    sizeRule_compiles rfl).1
  obtain ⟨guard, group, guardOk, groupOk, errs⟩ := shields
  have keyOk := Compiler.predicate_asking_key .notContains rfl
    (fun operator member => (free operator member).2) tags_resolve rfl "size"
  cases Except.ok.inj (keyOk.symm.trans guardOk)
  have children : (Rule.group .or [absent, sizeRule]).rules ≠ [] := List.cons_ne_nil _ _
  have knownGroup := (Compiler.predicate_group_eq_ok_iff children).mpr
    ⟨_, .cons keyOk (.cons sizeRule_compiles .nil), rfl⟩
  cases Except.ok.inj (knownGroup.symm.trans groupOk)
  refine ⟨_, _, guardOk, groupOk, rfl, ?_⟩
  exact (errs item _ rfl).1

end RecordFilter
