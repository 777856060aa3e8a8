import RecordFilter.Proofs.Record.Mirrors

/-!
# Documents without null members

A document may lose members that are null, at any depth. What is left of it has the same items
and the same other members, and a lost member is looked up in vain where null was found before.
-/

namespace RecordFilter

namespace Json

/-- Members without some that are null, and with their values replaced. A member is lost with
its name: no later member of that name takes its place. -/
inductive PrunesMembers (prunes : Json → Json → Prop) :
    List (String × Json) → List (String × Json) → Prop where
  | nil : PrunesMembers prunes [] []
  | keep {name : String} {member pruned : Json} {rest prunedRest : List (String × Json)}
      (value : prunes member pruned) (further : PrunesMembers prunes rest prunedRest) :
      PrunesMembers prunes ((name, member) :: rest) ((name, pruned) :: prunedRest)
  | lose {name : String} {rest prunedRest : List (String × Json)}
      (once : name ∉ rest.map Prod.fst) (further : PrunesMembers prunes rest prunedRest) :
      PrunesMembers prunes ((name, .null) :: rest) prunedRest

/-- The second document is the first one without some members that are null. -/
inductive Prunes : Json → Json → Prop where
  | scalar {document : Json} (scalar : document.isScalar = true) : Prunes document document
  | array {items pruned : List Json} (each : List.Forall₂ Prunes items pruned) :
      Prunes (.array items) (.array pruned)
  | object {members pruned : List (String × Json)}
      (each : PrunesMembers Prunes members pruned) : Prunes (.object members) (.object pruned)

/-- What holds of an array once it holds of its items, and of whatever is no array, holds of every
document. -/
@[elab_as_elim]
theorem items_induction {motive : Json → Prop}
    (array : ∀ items : List Json, (∀ item ∈ items, motive item) → motive (.array items))
    (single : ∀ document : Json, (∀ items, document ≠ .array items) → motive document)
    (document : Json) : motive document :=
  match document with
  | .array items => array items fun item _member => items_induction array single item
  | .null | .bool _ | .number _ | .string _ | .object _ =>
      single _ fun _ impossible => by cases impossible
termination_by sizeOf document
decreasing_by
  have smaller : sizeOf item < sizeOf items := List.sizeOf_lt_of_mem _member
  simp only [Json.array.sizeOf_spec]
  omega

/-- With null for what is absent, what a name finds in the members that are left is what is left
of what it found before. -/
theorem PrunesMembers.lookup {members pruned : List (String × Json)}
    (each : PrunesMembers Prunes members pruned) (name : String) :
    ((members.lookup name).getD .null).Prunes ((pruned.lookup name).getD .null) := by
  induction each with
  | nil => exact .scalar rfl
  | keep value _ inductionHypothesis =>
      rw [List.lookup_cons, List.lookup_cons]
      split
      · exact value
      · exact inductionHypothesis
  | @lose other rest prunedRest once _ inductionHypothesis =>
      rw [List.lookup_cons]
      cases same : name == other with
      | false => exact inductionHypothesis
      | true =>
          -- The name is not found behind the lost member, so it is null there too.
          rw [← eq_of_beq same] at once
          have missing : rest.lookup name = none := by
            refine List.lookup_eq_none_iff.mpr fun entry member => bne_iff_ne.mpr ?_
            rintro rfl
            exact once (List.mem_map_of_mem member)
          rw [missing] at inductionHypothesis
          exact inductionHypothesis

end Json

namespace Value

/-- The values of a document and of what is left of it. -/
def Pruned (first second : Value) : Prop :=
  ∃ document pruned : Json, document.Prunes pruned ∧ first = .ofJson document ∧
    second = .ofJson pruned

theorem isNull_ofJson_prunes {document pruned : Json} (prunes : document.Prunes pruned) :
    (ofJson document).isNull = (ofJson pruned).isNull := by
  cases prunes with
  | scalar _ => rfl
  | array _ | object _ => rfl

theorem part?_ofJson_scalar {document : Json} (scalar : document.isScalar = true) (name : String) :
    (ofJson document).part? name = none := by
  cases document with
  | number number =>
      cases number with
      | integer value =>
          rw [ofJson]
          split <;> rfl
      | double value => rfl
  | null | bool _ | string _ => rfl
  | array _ | object _ => cases scalar

theorem ofJson_ne_list {document : Json} (single : ∀ items, document ≠ .array items) :
    ∀ items, ofJson document ≠ .list items := by
  cases document with
  | array items => exact absurd rfl (single items)
  | object members => exact fun items impossible => by cases impossible
  | null | bool _ | number _ | string _ => exact (Mirrors.ofJson_ne_composite rfl).1

/-- With null for what is absent, a part of what is left of a document that is no array is what
is left of the part. -/
theorem pruned_part {document pruned : Json} (prunes : document.Prunes pruned)
    (single : ∀ items, document ≠ .array items) (name : String) :
    Pruned (((ofJson document).part? name).getD .null)
      (((ofJson pruned).part? name).getD .null) := by
  have found (fields : List (String × Json)) :
      ((ofJson (.object fields)).part? name).getD .null =
        ofJson ((fields.lookup name).getD .null) := by
    rw [part?_ofJson_object]
    cases fields.lookup name <;> rfl
  cases prunes with
  | scalar scalar =>
      rw [part?_ofJson_scalar scalar]
      exact ⟨.null, .null, .scalar rfl, rfl, rfl⟩
  | array _ => exact absurd rfl (single _)
  | object each =>
      rw [found, found]
      exact ⟨_, _, each.lookup name, rfl, rfl⟩

end Value

end RecordFilter
