import RecordFilter.Proofs.Path.Carried
import RecordFilter.Proofs.Text.LetterCase

/-!
# Records in other letters

A record may have texts that differ from those of another record in the case of ASCII letters
only. Names and keys stay as they are, so a chain goes the same way through both.
-/

namespace RecordFilter

variable {related : Value → Value → Prop}

/-- The same keys in the same order, with related values. -/
inductive Value.RelatedEntries {κ : Type} (related : Value → Value → Prop) :
    List (κ × Value) → List (κ × Value) → Prop where
  | nil : RelatedEntries related [] []
  | cons {key : κ} {value other : Value} {rest others : List (κ × Value)}
      (values : related value other) (further : RelatedEntries related rest others) :
      RelatedEntries related ((key, value) :: rest) ((key, other) :: others)

/-- The second value is the first one with some ASCII letters of its texts in the other case. -/
inductive Value.Recased : Value → Value → Prop where
  | same (value : Value) : Recased value value
  | text {text other : String} (letters : Text.equalIgnoringCase text other = true) :
      Recased (.text text) (.text other)
  | list {items others : List Value} (each : List.Forall₂ Recased items others) :
      Recased (.list items) (.list others)
  | map {entries others : List (String × Value)} (each : RelatedEntries Recased entries others) :
      Recased (.map entries) (.map others)
  | intMap {entries others : List (Int × Value)} (each : RelatedEntries Recased entries others) :
      Recased (.intMap entries) (.intMap others)
  | object {members others indexed otherIndexed : List (String × Value)}
      (each : RelatedEntries Recased members others)
      (eachIndexed : RelatedEntries Recased indexed otherIndexed) :
      Recased (.object members indexed) (.object others otherIndexed)

/-! ## Looking up -/

theorem optionRel_refl {α : Type} {same : α → α → Prop} (reflexive : ∀ value, same value value)
    (found : Option α) : Option.Rel same found found := by
  cases found with
  | none => exact .none
  | some value => exact .some (reflexive value)

theorem Value.RelatedEntries.lookup {κ : Type} [BEq κ] {entries others : List (κ × Value)}
    (each : RelatedEntries related entries others) (key : κ) :
    Option.Rel related (entries.lookup key) (others.lookup key) := by
  induction each with
  | nil => exact .none
  | cons values _ inductionHypothesis =>
      rw [List.lookup_cons, List.lookup_cons]
      split
      · exact .some values
      · exact inductionHypothesis

theorem Value.RelatedEntries.lookupInt {entries others : List (Int × Value)}
    (each : RelatedEntries related entries others) (key : String) :
    Option.Rel related (Value.lookupInt entries key) (Value.lookupInt others key) := by
  unfold Value.lookupInt
  split
  · exact each.lookup _
  · exact .none

namespace Hop.Alike

theorem refl (reflexive : ∀ value, related value value) (hop : Hop) : Alike related hop hop := by
  cases hop with
  | found value => exact .found (reflexive value)
  | items values => exact .items (List.forall₂_same.mpr fun value _ => reflexive value)
  | missingMember => exact .missingMember
  | missingKey key => exact .missingKey key
  | wrongKind => exact .wrongKind

theorem ofEntry {found other : Option Value} (entries : Option.Rel related found other)
    (key : String) : Alike related (.ofEntry key found) (.ofEntry key other) := by
  cases entries with
  | some values => exact .found values
  | none => exact .missingKey key

end Hop.Alike

namespace Value.Recased

variable {first second : Value}

theorem hop (recased : Recased first second) (step : Step) :
    Hop.Alike Recased (step.hop first) (step.hop second) := by
  cases recased with
  | same value => exact .refl .same _
  | text _ => cases step <;> exact .wrongKind
  | list each =>
      cases step with
      | each => exact .items each
      | member _ | key _ | index _ | dynamic _ => exact .wrongKind
  | map each =>
      cases step with
      | key name => exact .ofEntry (each.lookup name) name
      | member _ | index _ | each | dynamic _ => exact .wrongKind
  | intMap each =>
      cases step with
      | key name => exact .ofEntry (each.lookupInt name) name
      | member _ | index _ | each | dynamic _ => exact .wrongKind
  | @object members others indexed otherIndexed each eachIndexed =>
      cases step with
      | index name => exact .ofEntry (eachIndexed.lookup name) name
      | key _ | each | dynamic _ => exact .wrongKind
      | member name =>
          have found := each.lookup name
          rw [Step.hop, Step.hop]
          generalize members.lookup name = value at found
          generalize others.lookup name = other at found
          cases found with
          | some values => exact .found values
          | none => exact .missingMember

theorem part (recased : Recased first second) (single : ∀ items, first ≠ .list items)
    (name : String) : Option.Rel Recased (first.part? name) (second.part? name) := by
  cases recased with
  | same value => exact optionRel_refl .same _
  | text _ => exact .none
  | list _ => exact absurd rfl (single _)
  | map each => exact each.lookup name
  | intMap each => exact each.lookupInt name
  | @object members others indexed otherIndexed each eachIndexed =>
      have member := each.lookup name
      rw [part?, part?]
      generalize members.lookup name = value at member
      generalize others.lookup name = other at member
      cases member with
      | some values => exact .some values
      | none => exact eachIndexed.lookup name

theorem carried : Carried Recased where
  null := .same .null
  isNull recased := by cases recased <;> rfl
  hop := hop
  part := part

theorem containsKey (recased : Recased first second) (key : String) :
    first.containsKey key = second.containsKey key := by
  have found : Option.Rel Recased (first.entry? key) (second.entry? key) := by
    cases recased with
    | same value => exact optionRel_refl .same _
    | text _ | list _ | object _ _ => exact .none
    | map each => exact each.lookup key
    | intMap each => exact each.lookupInt key
  rw [Value.containsKey, Value.containsKey]
  generalize first.entry? key = value at found
  generalize second.entry? key = other at found
  cases found <;> rfl

end Value.Recased

end RecordFilter
