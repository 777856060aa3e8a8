import RecordFilter.Path.Resolve
import RecordFilter.Proofs.Except
import RecordFilter.Proofs.Path.Scan
import RecordFilter.Proofs.Record.Wrappers

/-!
# Paths without nullable wrappers

A path takes the same steps with and without nullable wrappers in the shapes, or fails with the
same error. Only the type it reaches has lost its wrappers, and walking a record does not read it.
-/

namespace RecordFilter

def Chain.unwrapped (chain : Chain) : Chain :=
  { chain with target := chain.target.unwrapped }

theorem Chain.throughLists_unwrapped (chain : Chain) :
    chain.unwrapped.throughLists = chain.throughLists.unwrapped := by
  have opened := chain.target.openLists_unwrapped
  unfold throughLists
  simp only [unwrapped, opened]

namespace Resolver

def unwrapped (resolver : Resolver) : Resolver :=
  { resolver with schema := resolver.schema.unwrapped }

/-- What is reached, with its type unwrapped. -/
def unwrapReached {α : Type} (reached : α × FieldType) : α × FieldType :=
  (reached.1, reached.2.unwrapped)

variable (resolver : Resolver) (path segment : String)

theorem isSentinel_unwrapped (shape : Shape) :
    resolver.unwrapped.isSentinel shape.unwrapped segment =
      resolver.isSentinel shape segment := by
  unfold isSentinel
  rw [Shape.find?_unwrapped, Option.isNone_map]
  rfl

theorem enterRecord_unwrapped (shape : Shape) :
    enterRecord path shape.unwrapped segment =
      (enterRecord path shape segment).map unwrapReached := by
  have indexer : shape.unwrapped.indexer = shape.indexer.map FieldType.unwrapped := rfl
  unfold enterRecord
  rw [Shape.find?_unwrapped, indexer]
  cases shape.find? segment with
  | some type => rfl
  | none =>
      cases shape.indexer with
      | some entry => rfl
      | none => rfl

/-- A segment enters a type whose outer wrappers are gone, so the inner ones do not matter. -/
theorem enterOther_unwrapped (type : FieldType) :
    enterOther path type.nonNull.unwrapped segment =
      (enterOther path type.nonNull segment).map unwrapReached := by
  cases bare : type.nonNull with
  | nullable inner => exact absurd bare (type.nonNull_ne_nullable inner)
  | map key value =>
      cases key with
      | text | integer | other _ => rfl
  | _ => rfl

theorem after_unwrapReached (steps : List Step)
    (resolved : Except CompileError (List Step × FieldType)) :
    after steps (resolved.map unwrapReached) = (after steps resolved).map unwrapReached := by
  cases resolved with
  | ok reached => rfl
  | error error => rfl

theorem follow_unwrapped :
    ∀ (segments : List String) (type : FieldType),
      resolver.unwrapped.follow path type.unwrapped segments =
        (resolver.follow path type segments).map unwrapReached
  | [], type => rfl
  | segment :: rest, type => by
      have proceeds (steps : List Step) (entered : Except CompileError (Step × FieldType)) :
          ((entered.map unwrapReached).bind fun hop =>
            after (steps ++ [hop.1]) (resolver.unwrapped.follow path hop.2 rest)) =
          (entered.bind fun hop =>
            after (steps ++ [hop.1]) (resolver.follow path hop.2 rest)).map unwrapReached := by
        cases entered with
        | error error => rfl
        | ok entered =>
            have further := follow_unwrapped rest entered.2
            simp only [Except.map, Except.bind, unwrapReached, further]
            exact after_unwrapReached _ _
      have enters := enterOther_unwrapped path segment type.openLists.2
      have notNullable := type.openLists.2.nonNull_ne_nullable
      rw [follow, follow, type.openLists_unwrapped]
      simp only [FieldType.nonNull_unwrapped]
      generalize type.openLists.2.nonNull = base at enters notNullable
      cases base with
      | nullable inner => exact absurd rfl (notNullable inner)
      | object name =>
          have shape : resolver.unwrapped.schema.shape name =
              (resolver.schema.shape name).unwrapped := resolver.schema.shape_unwrapped name
          have indexer : (resolver.schema.shape name).unwrapped.indexer =
              (resolver.schema.shape name).indexer.map FieldType.unwrapped := rfl
          simp only [FieldType.unwrapped, shape, indexer, enterRecord_unwrapped,
            isSentinel_unwrapped]
          cases (resolver.schema.shape name).indexer with
          | none => exact proceeds _ _
          | some entry =>
              cases rest with
              | nil => exact proceeds _ _
              -- A sentinel uses up two segments, so this case goes on with what follows them.
              | cons key more =>
                  simp only [Option.map_some]
                  split
                  · rw [follow_unwrapped more entry, after_unwrapReached]
                  · exact proceeds _ _
      | _ =>
          simp only [FieldType.unwrapped] at enters ⊢
          rw [enters]
          exact proceeds _ _

/-- The same path leads to a field, or the same error says why it does not. -/
theorem resolve_unwrapped (root : FieldType) :
    resolver.unwrapped.resolve root.unwrapped path =
      (resolver.resolve root path).map Chain.unwrapped := by
  unfold resolve
  simp only [follow_unwrapped]
  split
  · rfl
  · cases resolver.follow (Text.trim path) root (segmentsOf (Text.trim path)) with
    | ok reached => rfl
    | error error => rfl

end Resolver

namespace Chain

variable (chain : Chain) (quantifier : Quantifier) (test : Value → Bool)

theorem visit_unwrapped (record : Value) :
    chain.unwrapped.visit record quantifier test = chain.visit record quantifier test := by
  have outcomes : chain.unwrapped.outcomes record = chain.outcomes record :=
    chain.outcomesFrom_congr (rfl : chain.unwrapped.path = chain.path) rfl chain.steps record
  rw [visit_eq_scan, visit_eq_scan, outcomes]

end Chain

end RecordFilter
