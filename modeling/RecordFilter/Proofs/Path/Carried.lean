import RecordFilter.Proofs.Path.Alike
import RecordFilter.Proofs.Path.Untyped

/-!
# Relations that a walk carries along

Two related records may be walked side by side. If related values are looked up and gone through
alike, a chain meets related values in the same places, whatever the values hold that no step
sees.
-/

namespace RecordFilter

theorem forall₂_flatMap {α β γ δ : Type} {related : α → β → Prop} {met : γ → δ → Prop}
    {left : α → List γ} {right : β → List δ} {items : List α} {others : List β}
    (each : List.Forall₂ related items others)
    (alike : ∀ item ∈ items, ∀ other, related item other →
      List.Forall₂ met (left item) (right other)) :
    List.Forall₂ met (items.flatMap left) (others.flatMap right) := by
  induction each with
  | nil => exact .nil
  | @cons item other rest restOthers head _ inductionHypothesis =>
      rw [List.flatMap_cons, List.flatMap_cons]
      exact List.rel_append (alike item List.mem_cons_self other head)
        (inductionHypothesis fun item member => alike item (List.mem_cons_of_mem _ member))

/-- What holds of a list once it holds of its items, and of whatever is no list, holds of every
value. -/
@[elab_as_elim]
theorem Value.items_induction {motive : Value → Prop}
    (list : ∀ items : List Value, (∀ item ∈ items, motive item) → motive (.list items))
    (single : ∀ value : Value, (∀ items, value ≠ .list items) → motive value)
    (value : Value) : motive value := by
  cases value with
  | list items => exact list items fun item _member => items_induction list single item
  | null | bool _ | int _ | double _ | text _ | dateTime _ | guid _ | enum _ _ | map _ | intMap _
  | object _ _ => exact single _ fun _ impossible => by cases impossible
termination_by sizeOf value
decreasing_by
  have smaller : sizeOf item < sizeOf items := List.sizeOf_lt_of_mem _member
  simp only [Value.list.sizeOf_spec]
  omega

/-- A step finds related values, or it ends in the same way. -/
inductive Hop.Alike (related : Value → Value → Prop) : Hop → Hop → Prop where
  | found {first second : Value} (values : related first second) :
      Alike related (.found first) (.found second)
  | items {firsts seconds : List Value} (each : List.Forall₂ related firsts seconds) :
      Alike related (.items firsts) (.items seconds)
  | missingMember : Alike related .missingMember .missingMember
  | missingKey (key : String) : Alike related (.missingKey key) (.missingKey key)
  | wrongKind : Alike related .wrongKind .wrongKind

/-- Related values have related values under the same names and keys and at the same places of
lists. -/
structure Value.Carried (related : Value → Value → Prop) : Prop where
  null : related .null .null
  isNull : ∀ {first second}, related first second → first.isNull = second.isNull
  hop : ∀ {first second}, related first second → ∀ step : Step,
    Hop.Alike related (step.hop first) (step.hop second)
  part : ∀ {first second}, related first second → (∀ items, first ≠ .list items) → ∀ name,
    Option.Rel related (first.part? name) (second.part? name)

variable {related : Value → Value → Prop} {first second : Value}

namespace Value.Carried

theorem of_list (carried : Carried related) {items : List Value}
    (values : related (.list items) second) :
    ∃ others, second = .list others ∧ List.Forall₂ related items others := by
  have hops := carried.hop values .each
  cases second with
  | list others =>
      cases hops with
      | items each => exact ⟨others, rfl, each⟩
  | null | bool _ | int _ | double _ | text _ | dateTime _ | guid _ | enum _ _ | map _ | intMap _
  | object _ _ => cases hops

theorem not_list (carried : Carried related) (values : related first second)
    (single : ∀ items, first ≠ .list items) : ∀ items, second ≠ .list items := by
  rintro items rfl
  have hops := carried.hop values .each
  cases first with
  | list others => exact single others rfl
  | null | bool _ | int _ | double _ | text _ | dateTime _ | guid _ | enum _ _ | map _ | intMap _
  | object _ _ => cases hops

end Value.Carried

namespace Chain

variable {chain : Chain}

theorem alike_nullOutcome (step : Step) :
    Outcome.Alike related (chain.nullOutcome step) (chain.nullOutcome step) := by
  unfold nullOutcome
  split
  · exact .dropped _
  · exact .failed _

theorem outcomesFrom_dynamic_single {name : String} {rest : List Step} {value : Value}
    (single : ∀ items, value ≠ .list items) :
    chain.outcomesFrom (.dynamic name :: rest) value =
      match value.part? name with
      | some part => chain.outcomesFrom rest part
      | none => [.reached .null] := by
  cases value with
  | list items => exact absurd rfl (single items)
  | null | bool _ | int _ | double _ | text _ | dateTime _ | guid _ | enum _ _ | map _ | intMap _
  | object _ _ => rfl

/-- Related values are walked alike. The induction is on the steps, and for a dynamic step on the
lists that it goes through. -/
theorem alike_outcomesFrom (carried : Value.Carried related) (steps : List Step) :
    ∀ first second, related first second →
      List.Forall₂ (Outcome.Alike related) (chain.outcomesFrom steps first)
        (chain.outcomesFrom steps second) := by
  induction steps with
  | nil => exact fun first second values => .cons (.reached values) .nil
  | cons step rest inductionHypothesis =>
      by_cases typed : step.isDynamic = false
      · intro first second values
        rw [outcomesFrom_typed chain typed, outcomesFrom_typed chain typed,
          ← carried.isNull values]
        by_cases null : first.isNull = true
        · rw [if_pos null, if_pos null]
          exact .cons (alike_nullOutcome step) .nil
        · rw [if_neg null, if_neg null]
          have hops := carried.hop values step
          generalize step.hop first = hop at hops
          generalize step.hop second = other at hops
          cases hops with
          | found foundValues => exact inductionHypothesis _ _ foundValues
          | items each =>
              exact forall₂_flatMap each fun item _ other => inductionHypothesis item other
          | missingMember => exact .cons (.dropped _) .nil
          | missingKey key => exact .cons (.failed _) .nil
          | wrongKind => exact .cons (.dropped _) .nil
      · cases step with
        | member _ | key _ | index _ | each => exact absurd rfl typed
        | dynamic name =>
            intro first
            induction first using Value.items_induction with
            | list items itemsHypothesis =>
                intro second values
                obtain ⟨others, rfl, each⟩ := carried.of_list values
                rw [outcomesFrom_dynamic_list, outcomesFrom_dynamic_list]
                exact forall₂_flatMap each itemsHypothesis
            | single first single =>
                intro second values
                rw [outcomesFrom_dynamic_single single,
                  outcomesFrom_dynamic_single (carried.not_list values single)]
                have parts := carried.part values single name
                generalize first.part? name = part at parts
                generalize second.part? name = otherPart at parts
                cases parts with
                | some partValues => exact inductionHypothesis _ _ partValues
                | none => exact .cons (.reached carried.null) .nil

/-- A visit of two related records has one result when the test tells no two related values
apart that are reached. -/
theorem visit_eq_of_carried (carried : Value.Carried related) {record other : Value}
    {quantifier : Quantifier} {test : Value → Bool} (records : related record other)
    (blind : ∀ first second, .reached first ∈ chain.outcomes record → related first second →
      test first = test second) :
    chain.visit record quantifier test = chain.visit other quantifier test := by
  rw [visit_eq_scan, visit_eq_scan]
  exact Outcome.scan_eq_of_alike (alike_outcomesFrom carried chain.steps record other records)
    fun first second member _ => blind first second member

end Chain

end RecordFilter
