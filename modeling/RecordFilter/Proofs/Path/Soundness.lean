import RecordFilter.Proofs.Path.Scan
import RecordFilter.Proofs.Path.Typing
import RecordFilter.Proofs.Record.Conforms

/-!
# Type soundness of chains

The resolver sees static types without their nullable wrappers, a walk sees values. The link
between the two is that a hop from a conforming value reaches conforming values. So a walk
through a conforming record never answers because a member is missing or a step does not
apply: it tests values of the target type, meets a null or misses a key.
-/

namespace RecordFilter

/-- What a chain may meet in a conforming record. -/
inductive Chain.Admits (chain : Chain) (schema : Schema) (untyped : Value → Prop) :
    Outcome → Prop where
  | reached {value : Value} (conforms : Conforms schema untyped chain.target value) :
      Admits chain schema untyped (.reached value)
  | guardedNull (guarded : chain.nullGuard = true) :
      Admits chain schema untyped (.dropped .guardedNull)
  | nullReference {step : Step} (unguarded : chain.nullGuard = false)
      (member : step ∈ chain.steps) :
      Admits chain schema untyped (.failed (.nullReference chain.path step.text))
  | keyNotFound {key : String} (member : .key key ∈ chain.steps ∨ .index key ∈ chain.steps) :
      Admits chain schema untyped (.failed (.keyNotFound chain.path key))

namespace Outcome

variable {name : String} {visit : Option Value → List Outcome}

/-! ## Looking into untyped data -/

mutual

/-- Whatever a visit of a part or of nothing meets, a lookup in untyped data meets no more. -/
theorem spread_forall {untyped : Value → Prop} {property : Outcome → Prop}
    (data : IsUntypedData untyped)
    (visits : ∀ value, untyped value → ∀ outcome ∈ visit (value.part? name), property outcome) :
    ∀ value : Value, untyped value → ∀ outcome ∈ spread name visit value, property outcome
  | .list items, untypedValue => by
      rw [spread]
      exact spreadItems_forall data visits items fun item => data.item items item untypedValue
  | .null, untypedValue | .bool _, untypedValue | .int _, untypedValue
  | .double _, untypedValue | .text _, untypedValue | .dateTime _, untypedValue
  | .guid _, untypedValue | .enum _ _, untypedValue | .map _, untypedValue
  | .intMap _, untypedValue | .object _ _, untypedValue => visits _ untypedValue

theorem spreadItems_forall {untyped : Value → Prop} {property : Outcome → Prop}
    (data : IsUntypedData untyped)
    (visits : ∀ value, untyped value → ∀ outcome ∈ visit (value.part? name), property outcome) :
    ∀ items : List Value, (∀ item ∈ items, untyped item) →
      ∀ outcome ∈ spreadItems name visit items, property outcome
  | [], _ => fun _ member => absurd member List.not_mem_nil
  | item :: rest, untypedItems => by
      intro outcome member
      rw [spreadItems, List.mem_append] at member
      rcases member with headMember | restMember
      · exact spread_forall data visits item (untypedItems item List.mem_cons_self) outcome
          headMember
      · exact spreadItems_forall data visits rest
          (fun other inRest => untypedItems other (List.mem_cons_of_mem item inRest)) outcome
          restMember

end

end Outcome

namespace Chain

variable {chain : Chain} {schema : Schema} {untyped : Value → Prop}

theorem nullOutcome_admitted {step : Step} (member : step ∈ chain.steps) :
    chain.Admits schema untyped (chain.nullOutcome step) := by
  unfold nullOutcome
  by_cases guarded : chain.nullGuard = true
  · rw [if_pos guarded]
    exact .guardedNull guarded
  · rw [if_neg guarded]
    exact .nullReference (eq_false_of_ne_true guarded) member

/-! ## One step -/

/-- What a typed hop finds in a conforming value that is not null: values of the next type,
or a missing key. -/
inductive Lands (schema : Schema) (untyped : Value → Prop) (step : Step) (next : FieldType) :
    Hop → Prop where
  | found {value : Value} (conforms : Conforms schema untyped next value) :
      Lands schema untyped step next (.found value)
  | items {items : List Value} (each : ∀ item ∈ items, Conforms schema untyped next item) :
      Lands schema untyped step next (.items items)
  | missingKey {key : String} (asked : step = .key key ∨ step = .index key) :
      Lands schema untyped step next (.missingKey key)

theorem lands_of_hops {type next : FieldType} {step : Step} {value : Value}
    (hops : Hops schema type step next) (typed : step.isDynamic = false)
    (conforms : Conforms schema untyped type value) (present : value.isNull = false) :
    Lands schema untyped step next (step.hop value) := by
  have unwrapped := conforms.nonNull present
  cases hops with
  | member record declared =>
      rw [record] at unwrapped
      obtain ⟨found, hop, foundConforms⟩ := unwrapped.member declared
      rw [hop]
      exact .found foundConforms
  | index key record indexer =>
      rw [record] at unwrapped
      rcases unwrapped.index key indexer with hop | ⟨found, hop, foundConforms⟩
      · rw [hop]
        exact .missingKey (Or.inr rfl)
      · rw [hop]
        exact .found foundConforms
  | key key map =>
      rw [map] at unwrapped
      rcases unwrapped.key key with hop | ⟨found, hop, foundConforms⟩
      · rw [hop]
        exact .missingKey (Or.inl rfl)
      · rw [hop]
        exact .found foundConforms
  | each list =>
      rw [list] at unwrapped
      obtain ⟨items, hop, each⟩ := unwrapped.items
      rw [hop]
      exact .items each
  | dynamic name any => cases typed

/-! ## All steps -/

/-- Typed steps from a conforming value meet nothing but what the chain admits. The induction
is on the typing; a step is admitted because it is one of the chain's. -/
theorem outcomesFrom_admitted (data : IsUntypedData untyped) {type : FieldType}
    {steps : List Step} (leads : Leads schema type steps chain.target)
    (included : ∀ step ∈ steps, step ∈ chain.steps) {value : Value}
    (conforms : Conforms schema untyped type value) :
    ∀ outcome ∈ chain.outcomesFrom steps value, chain.Admits schema untyped outcome := by
  generalize reached : chain.target = target at leads
  induction leads generalizing value with
  | stop type =>
      intro outcome member
      rw [outcomesFrom, List.mem_singleton] at member
      rw [member]
      exact .reached (reached ▸ conforms)
  | @step type next target step rest hops further inductionHypothesis =>
      have restIncluded : ∀ other ∈ rest, other ∈ chain.steps :=
        fun other inRest => included other (List.mem_cons_of_mem step inRest)
      have stepIncluded : step ∈ chain.steps := included step List.mem_cons_self
      by_cases typed : step.isDynamic = false
      · rw [outcomesFrom_typed chain typed]
        by_cases null : value.isNull = true
        · rw [if_pos null]
          intro outcome member
          rw [List.mem_singleton.mp member]
          exact nullOutcome_admitted stepIncluded
        · rw [if_neg null]
          have lands := lands_of_hops hops typed conforms (eq_false_of_ne_true null)
          generalize step.hop value = hop at lands
          cases lands with
          | found foundConforms =>
              exact inductionHypothesis restIncluded foundConforms reached
          | items each =>
              intro outcome member
              obtain ⟨item, inItems, member⟩ := List.mem_flatMap.mp member
              exact inductionHypothesis restIncluded (each item inItems) reached outcome member
          | @missingKey key asked =>
              intro outcome member
              rw [List.mem_singleton.mp member]
              refine .keyNotFound ?_
              rcases asked with rfl | rfl
              · exact Or.inl stepIncluded
              · exact Or.inr stepIncluded
      · cases hops with
        | dynamic name any =>
            refine Outcome.spread_forall data ?_ value (conforms.untyped_of_nonNull data any)
            intro value untypedValue
            cases found : value.part? name with
            | some part =>
                exact inductionHypothesis restIncluded
                  (.any (data.part value name part untypedValue found)) reached
            | none =>
                -- Untyped values lead to untyped values only, so the null that stands for a
                -- missing part is of the target type.
                intro outcome member
                rw [List.mem_singleton.mp member]
                have untypedTarget : chain.target = .any :=
                  reached.trans (further.target_of_any rfl)
                exact .reached (untypedTarget ▸ .any data.null)
        | member _ _ | key _ _ | index _ _ _ | each _ => exact absurd rfl typed

theorem outcomes_admitted (data : IsUntypedData untyped) {type : FieldType}
    (leads : Leads schema type chain.steps chain.target) {record : Value}
    (conforms : Conforms schema untyped type record) :
    ∀ outcome ∈ chain.outcomes record, chain.Admits schema untyped outcome :=
  outcomesFrom_admitted data leads (fun _ member => member) conforms

end Chain

/-- Every path that resolves is type sound, also when it is extended through the elements of
lists: a visit is the scan of outcomes that are values of the target type, nulls on the way
or missing keys, and never a missing member or a step of the wrong kind. -/
theorem visit_type_sound (resolver : Resolver) {type : FieldType} {path : String}
    {chain : Chain} (resolved : resolver.resolve type path = .ok chain) (layers : Nat)
    {record : Value} (conforms : Conforms resolver.schema Value.IsJson type record) :
    (∀ quantifier test,
      (Chain.throughElements^[layers] chain).visit record quantifier test =
        Outcome.scan quantifier test ((Chain.throughElements^[layers] chain).outcomes record)) ∧
    ∀ outcome ∈ (Chain.throughElements^[layers] chain).outcomes record,
      (Chain.throughElements^[layers] chain).Admits resolver.schema Value.IsJson outcome := by
  have leads : Leads resolver.schema type chain.steps chain.target :=
    (Resolver.resolve_eq_ok resolved).1.leads
  constructor
  · exact fun quantifier test => Chain.visit_eq_scan _ record quantifier test
  · exact Chain.outcomes_admitted .json
      (Chain.leads_throughElements_iterate layers leads) conforms

/-- A recursive shape with optional records and optional rows of numbers. -/
def nodeSchema : Schema :=
  ⟨[⟨"Node", [("Next", .nullable (.object "Node")), ("Rows", .list (.nullable (.list .long)))],
    none⟩]⟩

theorem node_conforms {next : Value} {rows : List Value}
    (nextConforms : Conforms nodeSchema Value.IsJson (.nullable (.object "Node")) next)
    (each : ∀ row ∈ rows, Conforms nodeSchema Value.IsJson (.nullable (.list .long)) row) :
    Conforms nodeSchema Value.IsJson (.object "Node")
      (.object [("Next", next), ("Rows", .list rows)] []) := by
  refine .object ?_ ?_ ?_
  · intro member type declared
    rcases (by simpa [Schema.shape, nodeSchema] using declared :
      (member = "Next" ∧ _) ∨ (member = "Rows" ∧ _)) with ⟨rfl, _⟩ | ⟨rfl, _⟩
    · rfl
    · rfl
  · intro member type value declared found
    rcases (by simpa [Schema.shape, nodeSchema] using declared :
      (member = "Next" ∧ type = _) ∨ (member = "Rows" ∧ type = _)) with
      ⟨rfl, rfl⟩ | ⟨rfl, rfl⟩
    · cases found
      exact nextConforms
    · cases found
      exact .list each
  · intro type key value indexer
    cases indexer

/-- A node whose next node has two rows, of which one is null. -/
def twoNodes : Value :=
  .object
    [("Next", .object [("Next", .null), ("Rows", .list [.null, .list [.int 7]])] []),
      ("Rows", .list [])]
    []

theorem twoNodes_conform :
    Conforms nodeSchema Value.IsJson (.object "Node") twoNodes := by
  have seven : Conforms nodeSchema Value.IsJson (.list .long) (.list [.int 7]) := by
    refine .list fun item member => ?_
    rw [List.mem_singleton.mp member]
    exact .long (by decide)
  have rows : ∀ row ∈ [Value.null, .list [.int 7]],
      Conforms nodeSchema Value.IsJson (.nullable (.list .long)) row := by
    intro row member
    rcases List.mem_pair.mp member with rfl | rfl
    · exact .null _
    · exact .nullable seven
  exact node_conforms (.nullable (node_conforms (.null _) rows))
    (fun row member => absurd member List.not_mem_nil)

/-- The numbers in the rows of the next node, where a null row is met on the way. -/
theorem visit_type_sound_rows :
    let chain : Chain :=
      ⟨"Next .Rows", [.member "Next", .member "Rows"], .list (.nullable (.list .long)), false⟩
    Resolver.resolve ⟨nodeSchema, none, false⟩ (.object "Node") " Next .Rows" = .ok chain ∧
      Conforms nodeSchema Value.IsJson (.object "Node") twoNodes ∧
      (∀ quantifier test,
        (Chain.throughElements^[2] chain).visit twoNodes quantifier test =
          Outcome.scan quantifier test ((Chain.throughElements^[2] chain).outcomes twoNodes)) ∧
      ∀ outcome ∈ (Chain.throughElements^[2] chain).outcomes twoNodes,
        (Chain.throughElements^[2] chain).Admits nodeSchema Value.IsJson outcome := by
  have split : Resolver.segmentsOf (Text.trim " Next .Rows") = ["Next", "Rows"] := by
    decide +kernel
  have followed :
      Resolver.follow ⟨nodeSchema, none, false⟩ (Text.trim " Next .Rows") (.object "Node")
          ["Next", "Rows"] =
        .ok ([.member "Next", .member "Rows"], .list (.nullable (.list .long))) :=
    Resolver.follow_member rfl rfl (Resolver.follow_member rfl rfl rfl)
  have resolved := Resolver.resolve_of_follow split (by decide) followed
  exact ⟨resolved, twoNodes_conform,
    visit_type_sound ⟨nodeSchema, none, false⟩ resolved 2 twoNodes_conform⟩

end RecordFilter
