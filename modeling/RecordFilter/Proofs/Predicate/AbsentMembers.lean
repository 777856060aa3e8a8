import RecordFilter.Proofs.Path.Carried
import RecordFilter.Proofs.Path.Exchange
import RecordFilter.Proofs.Predicate.Agreement
import RecordFilter.Proofs.Predicate.KeyPresence
import RecordFilter.Proofs.Predicate.Order
import RecordFilter.Proofs.Record.Prunes

/-!
# Absent members are null

What an untyped document does not have under a name is tested as null. So a member that is null
may as well be absent: a path through the document meets the same values, but for maps that have
lost members themselves, and only the key test and the empty test look into a map.
-/

namespace RecordFilter

/-! ## Tests -/

namespace Value

/-- A test that is the same for all maps has one answer for the items of a document and of what
is left of it. -/
theorem anyItem_ofJson_prunes {test : Value → Bool}
    (uniform : ∀ entries others, test (.map entries) = test (.map others)) (document : Json) :
    ∀ pruned, document.Prunes pruned →
      (ofJson document).anyItem test = (ofJson pruned).anyItem test := by
  induction document using Json.items_induction with
  | single document single =>
      intro pruned prunes
      cases prunes with
      | scalar _ => rfl
      | object _ => exact uniform _ _
      | array _ => exact absurd rfl (single _)
  | array items inductionHypothesis =>
      intro pruned prunes
      cases prunes with
      | scalar impossible => cases impossible
      | @array items left each =>
          rw [ofJson, ofJson, anyItem, anyItem, anyItemOf_eq_any, anyItemOf_eq_any,
            ofJsonItems_eq_map, ofJsonItems_eq_map, List.any_map, List.any_map]
          induction each with
          | nil => rfl
          | @cons item pruned rest prunedRest head _ restHypothesis =>
              rw [List.any_cons, List.any_cons, Function.comp_apply, Function.comp_apply,
                inductionHypothesis item List.mem_cons_self pruned head,
                restHypothesis fun other member =>
                  inductionHypothesis other (List.mem_cons_of_mem item member)]

end Value

/-- Without a test for keys all maps are the same to an operator. -/
theorem Semantics.holds_map {operator : Operator} (noKeys : operator ≠ .contains)
    (semantics : Semantics) (operands : List Literal) (entries others : List (String × Value)) :
    semantics.holds operator operands (.map entries) =
      semantics.holds operator operands (.map others) := by
  have order : semantics.order? (.map entries) = semantics.order? (.map others) := by
    funext literal
    cases literal <;> rfl
  have equality : semantics.equals (.map entries) = semantics.equals (.map others) := by
    funext literal
    cases literal <;> rfl
  exact holds_congr equality order rfl fun contains => absurd contains noKeys

theorem Check.test_pruned {operator : Operator} (noKeys : operator ≠ .contains)
    (noSizes : operator ≠ .isEmpty) (negated : Bool) (operands : List Literal)
    (semantics : Semantics) {first second : Value} (pruned : first.Pruned second) :
    (Check.builtin operator negated operands semantics).test first =
      (Check.builtin operator negated operands semantics).test second := by
  obtain ⟨document, left, prunes, rfl, rfl⟩ := pruned
  have items := Value.anyItem_ofJson_prunes
    (fun entries others => semantics.holds_map noKeys operands entries others) document left prunes
  have present : isPresent operator (.ofJson document) = isPresent operator (.ofJson left) := by
    cases operator with
    | isEmpty => exact absurd rfl noSizes
    | isNull => exact Value.isNull_ofJson_prunes prunes
    | _ => rfl
  simp only [test, positive, items, present]

/-! ## Outcomes -/

namespace Chain

variable {chain : Chain}

/-- A path into untyped data goes on from null where there is nothing. -/
theorem outcomesFrom_dynamic_part {name : String} {names : List String} {value : Value}
    (single : ∀ items, value ≠ .list items) :
    chain.outcomesFrom ((name :: names).map .dynamic) value =
      chain.outcomesFrom (names.map .dynamic) ((value.part? name).getD .null) := by
  have nothing : chain.outcomesFrom (names.map .dynamic) .null = [.reached .null] := by
    cases names <;> rfl
  rw [List.map_cons, outcomesFrom_dynamic_single single]
  cases value.part? name with
  | some part => rfl
  | none => exact nothing.symm

/-- A path into a document and into what is left of it meets values of the same documents. The
induction is on the path, and for each segment on the arrays that it goes through. -/
theorem alike_of_prunes (names : List String) :
    ∀ document pruned : Json, document.Prunes pruned →
      List.Forall₂ (Outcome.Alike Value.Pruned)
        (chain.outcomesFrom (names.map .dynamic) (.ofJson document))
        (chain.outcomesFrom (names.map .dynamic) (.ofJson pruned)) := by
  induction names with
  | nil => exact fun document pruned prunes => .cons (.reached ⟨_, _, prunes, rfl, rfl⟩) .nil
  | cons name rest inductionHypothesis =>
      intro document
      induction document using Json.items_induction with
      | single document single =>
          intro pruned prunes
          have singleLeft : ∀ items, pruned ≠ .array items := by
            cases prunes with
            | scalar _ => exact single
            | array _ => exact absurd rfl (single _)
            | object _ => exact fun items impossible => by cases impossible
          obtain ⟨part, left, partPrunes, found, leftFound⟩ := Value.pruned_part prunes single name
          rw [outcomesFrom_dynamic_part (Value.ofJson_ne_list single),
            outcomesFrom_dynamic_part (Value.ofJson_ne_list singleLeft), found, leftFound]
          exact inductionHypothesis part left partPrunes
      | array items itemsHypothesis =>
          intro pruned prunes
          cases prunes with
          | scalar impossible => cases impossible
          | @array items left each =>
              rw [Value.ofJson, Value.ofJson, Value.ofJsonItems_eq_map, Value.ofJsonItems_eq_map,
                List.map_cons, outcomesFrom_dynamic_list, outcomesFrom_dynamic_list,
                List.flatMap_map, List.flatMap_map]
              exact forall₂_flatMap each itemsHypothesis

end Chain

/-! ## Paths that start at an untyped member -/

/-- A path that starts at an untyped member is followed without types from there on. -/
theorem Resolver.steps_of_untyped {resolver : Resolver} {shape path member : String}
    {segments : List String} {type : FieldType} {chain : Chain}
    (split : segmentsOf path = member :: segments)
    (declared : (resolver.schema.shape shape).find? member = some type)
    (untyped : type.nonNull = .any)
    (resolved : resolver.resolve (.object shape) path = .ok chain) :
    chain.steps = .member member :: segments.map .dynamic ∧ chain.target.nonNull = .any := by
  have filled := segments_of_resolve resolved
  rw [segmentsOf_trim, split] at filled
  rw [← segmentsOf_trim] at split
  cases segments with
  | nil =>
      have followed : resolver.follow (Text.trim path) (.object shape) [member] = _ :=
        follow_member rfl declared rfl
      cases resolved.symm.trans (resolve_of_follow split filled followed)
      exact ⟨rfl, untyped⟩
  | cons segment rest =>
      have followed : resolver.follow (Text.trim path) (.object shape)
          (member :: segment :: rest) = _ :=
        follow_member rfl declared (follow_of_any untyped segment rest)
      cases resolved.symm.trans (resolve_of_follow split filled followed)
      exact ⟨rfl, rfl⟩

theorem leads_dynamic {schema : Schema} (names : List String) :
    Leads schema .any (names.map .dynamic) .any := by
  induction names with
  | nil => exact .stop .any
  | cons name rest inductionHypothesis => exact .step (.dynamic name rfl) inductionHypothesis

namespace Compiler

variable {compiler : Compiler} {rule : Rule} {leaf : Leaf} {operator : Operator}

theorem Plans.steps_of_untyped {plan : LeafPlan} (plans : compiler.Plans rule plan)
    {member : String} {segments : List String} {type : FieldType}
    (split : Resolver.segmentsOf rule.fieldPath = member :: segments)
    (declared : (compiler.schema.shape compiler.root).find? member = some type)
    (untyped : type.nonNull = .any) :
    plan.chain.steps = .member member :: segments.map .dynamic ∧
      plan.chain.target.nonNull = .any := by
  obtain ⟨resolved, found, extended⟩ := plans.chain
  obtain ⟨steps, target⟩ := Resolver.steps_of_untyped split declared untyped found
  have noList : ∀ element, resolved.target.nonNull ≠ .list element := by
    rw [target]
    exact fun element impossible => by cases impossible
  rw [extended, extendChain_of_not_list noList]
  exact ⟨steps, target⟩

/-- The check of a leaf on untyped data is that of its operator. -/
theorem exists_check_of_untyped {plan : LeafPlan} {check : Check}
    (builtin : plan.operator = .builtin operator) (any : plan.chain.target.nonNull = .any)
    (checked : compiler.check plan = .ok check) :
    ∃ operands semantics,
      check = .builtin operator.positive operator.isNegated operands semantics := by
  have checks := (check_eq_ok_iff_of_builtin builtin).mp checked
  cases checks with
  | presence _ => exact ⟨_, _, rfl⟩
  | compared _ _ _ => exact ⟨_, _, rfl⟩
  | keys _ map _ =>
      rw [any] at map
      cases map

end Compiler

/-- A leaf on a path that starts at an untyped member has the same answer, and no error, for a
document and for what is left of it without some null members, unless its operator tests for keys
or for emptiness. -/
theorem absent_members_read_null (compiler : Compiler) {rule : Rule} {leaf : Leaf}
    {operator : Operator}
    (resolves : resolveOperator? compiler.options.operators rule.operatorName =
      some (.builtin operator))
    (noKeys : operator.positive ≠ .contains) (noSizes : operator.positive ≠ .isEmpty)
    (compiled : compiler.predicate rule = .ok (.leaf leaf))
    {member : String} {segments : List String}
    (split : Resolver.segmentsOf rule.fieldPath = member :: segments) {type : FieldType}
    (declared : (compiler.schema.shape compiler.root).find? member = some type)
    (untyped : type.nonNull = .any) {document pruned : Json} (prunes : document.Prunes pruned)
    {members others indexed otherIndexed : List (String × Value)}
    (held : members.lookup member = some (.ofJson document))
    (otherHeld : others.lookup member = some (.ofJson pruned)) :
    ∃ answer, leaf.evaluate (.object members indexed) = .ok answer ∧
      leaf.evaluate (.object others otherIndexed) = .ok answer := by
  obtain ⟨plan, leafOk⟩ := Compiler.leaf_of_predicate compiled
  obtain ⟨plans, checked, chain, _⟩ := Compiler.leaf_eq_ok_iff.mp leafOk
  have builtin := plans.operator_eq resolves
  obtain ⟨steps, any⟩ := plans.steps_of_untyped split declared untyped
  obtain ⟨operands, semantics, check⟩ := Compiler.exists_check_of_untyped builtin any checked
  have outcomes {fields entries : List (String × Value)} {value : Value}
      (found : fields.lookup member = some value) :
      leaf.chain.outcomes (.object fields entries) =
        leaf.chain.outcomesFrom (segments.map .dynamic) value := by
    have hop : (Step.member member).hop (.object fields entries) = .found value := by
      rw [Step.hop, found]
    rw [Chain.outcomes, chain, steps]
    exact Chain.outcomesFrom_found rfl rfl hop
  have leads : Leads compiler.schema .any (segments.map .dynamic) .any := leads_dynamic segments
  have scanned : ∃ answer, Outcome.scan leaf.quantifier leaf.check.test
      (leaf.chain.outcomesFrom (segments.map .dynamic) (.ofJson document)) = .ok answer :=
    Outcome.exists_scan_eq_ok (leaf.chain.reached_of_any leads rfl (.ofJson document))
  have blind : ∀ first second : Value, first.Pruned second →
      leaf.check.test first = leaf.check.test second := by
    intro first second values
    rw [check]
    exact Check.test_pruned noKeys noSizes _ operands semantics values
  obtain ⟨answer, answered⟩ := scanned
  refine ⟨answer, ?_, ?_⟩
  · rw [Leaf.evaluate, Chain.visit_eq_scan, outcomes held, answered]
  · rw [Leaf.evaluate, Chain.visit_eq_scan, outcomes otherHeld, ← answered]
    exact (Outcome.scan_eq_of_alike (leaf.chain.alike_of_prunes segments document pruned prunes)
      fun first second _ _ => blind first second).symm

/-- Scenes with untyped data, under the default options. -/
def sceneCompiler : Compiler :=
  ⟨.default, ⟨[⟨"Scene", [("Data", .any)], none⟩]⟩, "Scene"⟩

def colorRule : Rule :=
  .asking (some "Data.rows.color") none .notEqual (.string "red")

def colorLeaf : Leaf :=
  Compiler.membershipLeaf
    ⟨"Data.rows.color", [.member "Data", .dynamic "rows", .dynamic "color"], .any, false⟩
    ⟨false, false, false⟩ .notEqual [.text "red"]

theorem colorRule_compiles : sceneCompiler.predicate colorRule = .ok (.leaf colorLeaf) := by
  have trimmed : Text.trim "Data.rows.color" = "Data.rows.color" := by decide +kernel
  have split : Resolver.segmentsOf "Data.rows.color" = ["Data", "rows", "color"] := by
    decide +kernel
  have resolved := Resolver.resolve_of_trimmed trimmed split (by decide)
    (Resolver.follow_member rfl rfl (Resolver.follow_of_any rfl "rows" ["color"]) :
      sceneCompiler.resolver.follow "Data.rows.color" (.object "Scene")
        ["Data", "rows", "color"] = _)
  have field : colorRule.fieldPath = "Data.rows.color" := trimmed
  have named : colorRule.fieldPath ≠ "" := by rw [field]; decide
  rw [← field] at resolved
  refine (Compiler.predicate_asking_eq_ok_iff rfl rfl named).mpr
    ⟨.string, _, [.text "red"], _, _, rfl, resolved, rfl, .any, ?_⟩
  rw [field]
  rfl

/-- Two rows, one with a color. -/
def rowsWith (colorless : List (String × Json)) : Json :=
  .object [("rows", .array [.object (colorless ++ [("size", .integer 1)]),
    .object [("color", .string "blue")]])]

/-- A row whose color is null and a row without color are not red. -/
theorem absent_members_read_null_color :
    let scene (data : Json) := Value.object [("Data", .ofJson data)] []
    (rowsWith [("color", .null)]).Prunes (rowsWith []) ∧
      colorLeaf.evaluate (scene (rowsWith [("color", .null)])) = .ok true ∧
      colorLeaf.evaluate (scene (rowsWith [])) = .ok true := by
  intro scene
  have resolves : resolveOperator? sceneCompiler.options.operators colorRule.operatorName =
      some (.builtin .notEqual) :=
    Compiler.resolveOperator?_builtin rfl (Operator.ofName?_trim_name .notEqual)
  have split : Resolver.segmentsOf colorRule.fieldPath = ["Data", "rows", "color"] := by
    decide +kernel
  have colorless : Json.Prunes (.object [("color", .null), ("size", .integer 1)])
      (.object [("size", .integer 1)]) :=
    .object (.lose (by decide) (.keep (.scalar rfl) .nil))
  have colored : Json.Prunes (.object [("color", .string "blue")])
      (.object [("color", .string "blue")]) := .object (.keep (.scalar rfl) .nil)
  have prunes : (rowsWith [("color", .null)]).Prunes (rowsWith []) :=
    .object (.keep (.array (.cons colorless (.cons colored .nil))) .nil)
  have held (data : Json) : [("Data", Value.ofJson data)].lookup "Data" = some (.ofJson data) := rfl
  obtain ⟨answer, answered, otherAnswered⟩ :
      ∃ answer, colorLeaf.evaluate (scene (rowsWith [("color", .null)])) = .ok answer ∧
        colorLeaf.evaluate (scene (rowsWith [])) = .ok answer :=
    absent_members_read_null sceneCompiler resolves (by decide) (by decide) colorRule_compiles
      split rfl rfl prunes (held _) (held _)
  have passes : colorLeaf.evaluate (scene (rowsWith [])) = .ok true := by decide +kernel
  rw [passes] at otherAnswered
  cases otherAnswered
  exact ⟨prunes, answered, passes⟩

end RecordFilter
