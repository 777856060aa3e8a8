import RecordFilter.Proofs.Path.Scan
import RecordFilter.Proofs.Path.Typing
import RecordFilter.Proofs.Record.Layers
import RecordFilter.Proofs.Record.Mirrors
import RecordFilter.Proofs.Text.Blank

/-!
# Reading without types

A path through untyped data has a dynamic step for each segment and no step for lists: the
dynamic step spreads over them, and a list at the end reaches the test as a whole. For data
that mirrors a record this gives the answer of the typed chain. The proof follows the typed
steps; a list hop is the case in which the two go through a list in different ways.
-/

namespace RecordFilter

namespace Outcome

variable {quantifier : Quantifier} {test : Value → Bool}

/-- Lists whose items have equal answers one by one have equal answers. -/
theorem scan_flatMap_congr {α β : Type} {related : α → β → Prop} {left : α → List Outcome}
    {right : β → List Outcome} {items : List α} {others : List β}
    (same : ∀ item ∈ items, ∀ other, related item other →
      scan quantifier test (right other) = scan quantifier test (left item))
    (each : List.Forall₂ related items others) :
    scan quantifier test (others.flatMap right) = scan quantifier test (items.flatMap left) := by
  induction each with
  | nil => rfl
  | @cons item other rest restOthers head _ inductionHypothesis =>
      have restSame : ∀ item ∈ rest, ∀ other, related item other →
          scan quantifier test (right other) = scan quantifier test (left item) :=
        fun item member => same item (List.mem_cons_of_mem _ member)
      rw [List.flatMap_cons, List.flatMap_cons, scan_append, scan_append,
        same item List.mem_cons_self other head, inductionHypothesis restSame]

/-- A scan that meets nothing but values answers for them. -/
theorem scan_reached_all (values : List Value) :
    scan quantifier test (values.map .reached) =
      .ok (if quantifier = .all then values.all test else values.any test) := by
  induction values with
  | nil => cases quantifier <;> rfl
  | cons value rest inductionHypothesis =>
      rw [List.map_cons, scan, inductionHypothesis, List.all_cons, List.any_cons]
      cases quantifier <;> cases test value <;> rfl

/-- When every outcome is a value, the scan is an answer. -/
theorem exists_scan_eq_ok {outcomes : List Outcome}
    (reached : ∀ outcome ∈ outcomes, ∃ value, outcome = .reached value) :
    ∃ verdict, scan quantifier test outcomes = .ok verdict := by
  have values : ∃ values : List Value, outcomes = values.map .reached := by
    induction outcomes with
    | nil => exact ⟨[], rfl⟩
    | cons outcome rest inductionHypothesis =>
        obtain ⟨value, rfl⟩ := reached outcome List.mem_cons_self
        obtain ⟨others, rfl⟩ := inductionHypothesis fun other member =>
          reached other (List.mem_cons_of_mem _ member)
        exact ⟨value :: others, rfl⟩
  obtain ⟨values, rfl⟩ := values
  exact ⟨_, scan_reached_all values⟩

theorem spreadItems_eq_flatMap (name : String) (visit : Option Value → List Outcome)
    (items : List Value) :
    spreadItems name visit items = items.flatMap (spread name visit) := by
  induction items with
  | nil => rfl
  | cons item rest inductionHypothesis =>
      rw [spreadItems, inductionHypothesis, List.flatMap_cons]

end Outcome

namespace Chain

variable {chain plain : Chain} {schema : Schema} {untyped : Value → Prop}

/-- The steps through untyped data that stand for the steps of a chain. -/
def untypedSteps (steps : List Step) : List Step :=
  (steps.filterMap Step.name?).map .dynamic

/-- Without a named step there is nothing but list hops. -/
theorem getLast?_of_untypedSteps_eq_nil {rest : List Step} (empty : untypedSteps rest = []) :
    (Step.each :: rest).getLast? = some .each := by
  rw [List.getLast?_cons]
  cases last : rest.getLast? with
  | none => rfl
  | some step =>
      have unnamed : step.name? = none :=
        List.filterMap_eq_nil_iff.mp (List.map_eq_nil_iff.mp empty) step
          (List.mem_of_getLast? last)
      cases step with
      | each => rfl
      | member _ | key _ | index _ | dynamic _ => cases unnamed

/-- Dynamic steps go through a list item by item. -/
theorem outcomesFrom_dynamic_list (name : String) (rest : List Step) (items : List Value) :
    chain.outcomesFrom (.dynamic name :: rest) (.list items) =
      items.flatMap (chain.outcomesFrom (.dynamic name :: rest)) := by
  rw [outcomesFrom, Outcome.spread, Outcome.spreadItems_eq_flatMap]
  rfl

theorem outcomesFrom_dynamic_object {name : String} {rest : List Step}
    {fields : List (String × Json)} {part : Json} (found : fields.lookup name = some part) :
    chain.outcomesFrom (.dynamic name :: rest) (.ofJson (.object fields)) =
      chain.outcomesFrom rest (.ofJson part) := by
  have partFound := Value.part?_ofJson_object name fields
  rw [found, Value.ofJson] at partFound
  rw [outcomesFrom, Value.ofJson, Outcome.spread, partFound]
  · rfl
  · exact fun items impossible => by cases impossible

/-! ## Steps with a name -/

/-- A member of a record is the part of its document under the same name. -/
theorem exists_part_of_member {shape name : String} {next : FieldType} {value : Value}
    {document : Json} (conforms : Conforms schema untyped (.object shape) value)
    (declared : (schema.shape shape).find? name = some next)
    (mirrors : Mirrors value document) :
    ∃ found fields part, (Step.member name).hop value = .found found ∧
      Conforms schema untyped next found ∧ document = .object fields ∧
        fields.lookup name = some part ∧ Mirrors found part := by
  obtain ⟨found, hop, foundConforms⟩ := conforms.member declared
  cases conforms with
  | @object _ members indexed present typed entries =>
      have lookup : members.lookup name = some found := by
        cases lookup : members.lookup name with
        | none => simp [Step.hop, lookup] at hop
        | some other =>
            simp only [Step.hop, lookup, Hop.found.injEq] at hop
            rw [hop]
      obtain ⟨fields, part, rfl, partFound, partMirrors⟩ := mirrors.of_object lookup
      exact ⟨found, fields, part, hop, foundConforms, rfl, partFound, partMirrors⟩

/-- An entry of a map is the part of its document under the same name. -/
theorem exists_part_of_key {name : String} {next : FieldType} {value : Value}
    {document : Json} (conforms : Conforms schema untyped (.map .text next) value)
    (present : (Step.key name).hop value ≠ .missingKey name) (mirrors : Mirrors value document) :
    ∃ found fields part, (Step.key name).hop value = .found found ∧
      Conforms schema untyped next found ∧ document = .object fields ∧
        fields.lookup name = some part ∧ Mirrors found part := by
  cases conforms with
  | @map _ _ entries textual each =>
      cases lookup : entries.lookup name with
      | none =>
          rw [Step.hop, lookup] at present
          exact absurd rfl present
      | some found =>
          obtain ⟨fields, part, rfl, partFound, partMirrors⟩ := mirrors.of_map lookup
          refine ⟨found, fields, part, ?_, each name found (mem_of_lookup lookup), rfl,
            partFound, partMirrors⟩
          rw [Step.hop, lookup]
          rfl

/-! ## All steps -/

/-- Nothing on the way of a chain is null, and no key is missing. -/
def Unobstructed (chain : Chain) (steps : List Step) (value : Value) : Prop :=
  ∀ outcome ∈ chain.outcomesFrom steps value, ∃ found, outcome = .reached found

theorem Unobstructed.present {step : Step} {rest : List Step} {value : Value}
    (free : chain.Unobstructed (step :: rest) value) (typed : step.isDynamic = false) :
    value.isNull = false := by
  rw [← Bool.not_eq_true]
  intro null
  unfold Unobstructed at free
  rw [outcomesFrom_typed chain typed, if_pos null] at free
  obtain ⟨found, reached⟩ := free _ List.mem_cons_self
  unfold nullOutcome at reached
  split at reached
  next => cases reached
  next => cases reached

theorem Unobstructed.hop_ne_missingKey {name : String} {rest : List Step} {value : Value}
    (free : chain.Unobstructed (.key name :: rest) value) :
    (Step.key name).hop value ≠ .missingKey name := by
  intro missing
  have present := free.present rfl
  unfold Unobstructed at free
  rw [outcomesFrom_typed chain rfl, if_neg (ne_true_of_eq_false present), missing] at free
  obtain ⟨found, reached⟩ := free _ List.mem_cons_self
  cases reached

theorem outcomesFrom_found {step : Step} {rest : List Step} {value found : Value}
    (typed : step.isDynamic = false) (present : value.isNull = false)
    (hop : step.hop value = .found found) :
    chain.outcomesFrom (step :: rest) value = chain.outcomesFrom rest found := by
  rw [outcomesFrom_typed chain typed, if_neg (ne_true_of_eq_false present), hop]

section Simulation

variable {quantifier : Quantifier} {test : Value → Bool} {step : Step} {rest : List Step}
  {name : String} {next : FieldType} {value : Value} {document : Json}

/-- A named step, given that the rest of the chain agrees from the value it finds. -/
theorem scan_untypedSteps_found (typed : step.isDynamic = false) (named : step.name? = some name)
    (free : chain.Unobstructed (step :: rest) value)
    (parts : ∃ found fields part, step.hop value = .found found ∧
      Conforms schema untyped next found ∧ document = .object fields ∧
        fields.lookup name = some part ∧ Mirrors found part)
    (further : ∀ found part, Conforms schema untyped next found → Mirrors found part →
      chain.Unobstructed rest found →
        Outcome.scan quantifier test (plain.outcomesFrom (untypedSteps rest) (.ofJson part)) =
          Outcome.scan quantifier test (chain.outcomesFrom rest found)) :
    Outcome.scan quantifier test
        (plain.outcomesFrom (untypedSteps (step :: rest)) (.ofJson document)) =
      Outcome.scan quantifier test (chain.outcomesFrom (step :: rest) value) := by
  obtain ⟨found, fields, part, hop, conforms, rfl, partFound, mirrors⟩ := parts
  have outcomes : chain.outcomesFrom (step :: rest) value = chain.outcomesFrom rest found :=
    outcomesFrom_found typed (free.present typed) hop
  have steps : untypedSteps (step :: rest) = .dynamic name :: untypedSteps rest := by
    unfold untypedSteps
    rw [List.filterMap_cons_some named, List.map_cons]
  unfold Unobstructed at free
  rw [outcomes] at free ⊢
  rw [steps, outcomesFrom_dynamic_object partFound]
  exact further found part conforms mirrors free

/-- A list hop, given that the rest of the chain agrees from each item. Where no named step
follows, the untyped side tests the list itself. -/
theorem scan_untypedSteps_each {items : List Value}
    (distributes : untypedSteps rest = [] → ∀ values,
      Outcome.scan quantifier test (values.map .reached) = .ok (test (.list values)))
    (mirrors : Mirrors (.list items) document)
    (further : ∀ item ∈ items, ∀ part, Mirrors item part →
      Outcome.scan quantifier test (plain.outcomesFrom (untypedSteps rest) (.ofJson part)) =
        Outcome.scan quantifier test (chain.outcomesFrom rest item)) :
    Outcome.scan quantifier test
        (plain.outcomesFrom (untypedSteps (.each :: rest)) (.ofJson document)) =
      Outcome.scan quantifier test (chain.outcomesFrom (.each :: rest) (.list items)) := by
  obtain ⟨documents, rfl, each⟩ := mirrors.of_list
  have hop : chain.outcomesFrom (.each :: rest) (.list items) =
      items.flatMap (chain.outcomesFrom rest) := outcomesFrom_typed chain rfl
  have steps : untypedSteps (.each :: rest) = untypedSteps rest := rfl
  rw [hop, steps, ← Outcome.scan_flatMap_congr further each, Value.ofJson,
    Value.ofJsonItems_eq_map]
  cases names : rest.filterMap Step.name? with
  | nil =>
      -- Nothing but list hops follows, and the untyped side meets the array as one value.
      have untypedEmpty : untypedSteps rest = [] := by
        rw [untypedSteps, names]
        rfl
      have reached : documents.flatMap (fun part => plain.outcomesFrom [] (.ofJson part)) =
          (documents.map Value.ofJson).map .reached := by
        rw [List.map_map]
        exact (List.map_eq_flatMap ..).symm
      rw [untypedEmpty, reached, distributes untypedEmpty, outcomesFrom, Outcome.scan_reached]
  | cons name others =>
      -- The next dynamic step goes through the array by itself.
      have untypedCons : untypedSteps rest = .dynamic name :: others.map .dynamic := by
        rw [untypedSteps, names]
        rfl
      rw [untypedCons, outcomesFrom_dynamic_list, List.flatMap_map]

/-- Reading mirrored data without types gives the answer of the typed chain. The induction is
on the typing of the steps. A test has to agree on what mirrors values of the target type,
and where the chain ends in a list hop it has to take a list for all of its items. -/
theorem scan_untypedSteps {type : FieldType} {steps : List Step}
    (leads : Leads schema type steps chain.target) (target : chain.target ≠ .any)
    (plainRecords : ∀ key, .index key ∉ steps)
    (agrees : ∀ value document, Conforms schema untyped chain.target value →
      Mirrors value document → test (.ofJson document) = test value)
    (distributes : steps.getLast? = some .each → ∀ values,
      Outcome.scan quantifier test (values.map .reached) = .ok (test (.list values)))
    (conforms : Conforms schema untyped type value) (mirrors : Mirrors value document)
    (free : chain.Unobstructed steps value) :
    Outcome.scan quantifier test
        (plain.outcomesFrom (untypedSteps steps) (.ofJson document)) =
      Outcome.scan quantifier test (chain.outcomesFrom steps value) := by
  generalize reached : chain.target = target' at leads
  induction leads generalizing value document with
  | stop type =>
      subst reached
      have same := agrees value document conforms mirrors
      rw [outcomesFrom, untypedSteps, List.filterMap_nil, List.map_nil, outcomesFrom,
        Outcome.scan_reached, Outcome.scan_reached, same]
  | @step type next target' step rest hops leads inductionHypothesis =>
      have restRecords : ∀ key, .index key ∉ rest :=
        fun key member => plainRecords key (List.mem_cons_of_mem step member)
      have restDistributes : rest.getLast? = some .each → ∀ values,
          Outcome.scan quantifier test (values.map .reached) = .ok (test (.list values)) := by
        intro last
        refine distributes ?_
        rw [List.getLast?_cons, last]
        rfl
      have further : ∀ found part, Conforms schema untyped next found → Mirrors found part →
          chain.Unobstructed rest found →
            Outcome.scan quantifier test (plain.outcomesFrom (untypedSteps rest) (.ofJson part)) =
              Outcome.scan quantifier test (chain.outcomesFrom rest found) :=
        fun found part foundConforms partMirrors restFree =>
          inductionHypothesis restRecords restDistributes foundConforms partMirrors restFree reached
      cases hops with
      | member record declared =>
          have unwrapped := conforms.nonNull (free.present rfl)
          rw [record] at unwrapped
          exact scan_untypedSteps_found rfl rfl free
            (exists_part_of_member unwrapped declared mirrors) further
      | key name map =>
          have unwrapped := conforms.nonNull (free.present rfl)
          rw [map] at unwrapped
          exact scan_untypedSteps_found rfl rfl free
            (exists_part_of_key unwrapped free.hop_ne_missingKey mirrors) further
      | each list =>
          have unwrapped := conforms.nonNull (free.present rfl)
          rw [list] at unwrapped
          cases unwrapped with
          | @list _ items each =>
              refine scan_untypedSteps_each ?_ mirrors ?_
              · exact fun empty => distributes (getLast?_of_untypedSteps_eq_nil empty)
              · intro item member part partMirrors
                refine further item part (each item member) partMirrors ?_
                intro outcome met
                exact free outcome (List.mem_flatMap_of_mem member met)
      | index key _ _ => exact absurd List.mem_cons_self (plainRecords key)
      | dynamic name _ => exact absurd (reached.trans (leads.target_of_any rfl)) target

end Simulation

end Chain

/-! ## Resolving -/

section Names

variable {resolver : Resolver} {schema : Schema} {type target : FieldType}
  {segments : List String} {steps : List Step}

theorem Leads.index_not_mem (plain : ∀ shape, (schema.shape shape).indexer = none)
    (leads : Leads schema type steps target) (key : String) : .index key ∉ steps := by
  induction leads with
  | stop type => exact List.not_mem_nil
  | step hop _ inductionHypothesis =>
      intro member
      rcases List.mem_cons.mp member with rfl | inRest
      · cases hop with
        | index _ _ indexer =>
            rw [plain] at indexer
            cases indexer
      · exact inductionHypothesis inRest

theorem filterMap_name?_each (depth : Nat) :
    (List.replicate depth Step.each).filterMap Step.name? = [] := by
  induction depth with
  | zero => rfl
  | succ count inductionHypothesis => exact inductionHypothesis

/-- The named steps of a resolved path are its segments, and one of them is the last step. -/
theorem Follows.names (plain : ∀ shape, (resolver.schema.shape shape).indexer = none)
    (follows : Follows resolver type segments steps target) :
    steps.filterMap Step.name? = segments ∧ steps.getLast? ≠ some .each := by
  induction follows with
  | stop type => exact ⟨rfl, by simp⟩
  | @enter type next target segment rest step steps hop named further inductionHypothesis =>
      constructor
      · rw [List.filterMap_append, filterMap_name?_each, List.filterMap_cons_some named,
          inductionHypothesis.1]
        rfl
      · rw [List.getLast?_append, List.getLast?_cons]
        cases last : steps.getLast? with
        | none =>
            rintro ⟨⟩
            cases named
        | some other =>
            have notEach := inductionHypothesis.2
            rw [last] at notEach
            exact notEach
  | @sentinel type next target segment key rest steps marked hop further inductionHypothesis =>
      cases hop with
      | index _ _ indexer =>
          rw [plain] at indexer
          cases indexer

end Names

namespace Resolver

variable {resolver : Resolver} {path : String}

theorem follow_any (segments : List String) :
    resolver.follow path .any segments = .ok (segments.map .dynamic, .any) := by
  induction segments with
  | nil => rfl
  | cons segment rest inductionHypothesis =>
      rw [follow]
      change (after _ (resolver.follow path .any rest)) = _
      rw [inductionHypothesis]
      rfl

theorem follow_of_any {type : FieldType} (any : type.nonNull = .any) (segment : String)
    (rest : List String) :
    resolver.follow path type (segment :: rest) =
      .ok (.dynamic segment :: rest.map .dynamic, .any) := by
  have opened : type.openLists = (0, type) :=
    FieldType.openLists_of_not_list fun element list => by
      rw [any] at list
      cases list
  rw [follow, opened]
  simp only [any, enterOther, Except.bind, follow_any]
  rfl

theorem segmentsOf_trim (path : String) : segmentsOf (Text.trim path) = segmentsOf path := by
  have visible : Text.isBlank '.' = false := by decide
  have pieces := Text.map_trimChars_splitAt_trimChars path.toList visible
  have mapped (text : List Char) :
      (Text.splitAt '.' text).map (fun segment => String.ofList (Text.trimChars segment)) =
        ((Text.splitAt '.' text).map Text.trimChars).map String.ofList := by
    rw [List.map_map]
    rfl
  unfold segmentsOf
  rw [Text.toList_trim, mapped, mapped, pieces]

theorem segmentsOf_member {member : String} (trimmed : Text.trim member = member)
    (whole : '.' ∉ member.toList) :
    segmentsOf (member ++ "." ++ path) = member :: segmentsOf path := by
  have free : ∀ c ∈ member.toList, c ≠ '.' := by
    rintro c inMember rfl
    exact whole inMember
  have joined : (member ++ "." ++ path).toList = member.toList ++ '.' :: path.toList := by
    simp
  unfold segmentsOf
  rw [joined, Text.splitAt_append_separator free, List.map_cons]
  unfold Text.trim at trimmed
  rw [trimmed]

theorem exists_segmentsOf_eq_cons (path : String) :
    ∃ segment rest, segmentsOf path = segment :: rest := by
  obtain ⟨piece, pieces, split⟩ := Text.exists_splitAt_eq_cons '.' path.toList
  unfold segmentsOf
  rw [split]
  exact ⟨_, _, rfl⟩

end Resolver

end RecordFilter
