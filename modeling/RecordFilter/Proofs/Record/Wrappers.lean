import RecordFilter.Record.FieldType

/-!
# Types without nullable wrappers

A nullable wrapper says that a value may be null and nothing about how the value is read. Two
families of shapes describe the same paths when they agree once the wrappers are taken away at
every depth: around members, items of lists, values of maps and entries of indexers.
-/

namespace RecordFilter

namespace FieldType

/-- The type without nullable wrappers, around it and inside. -/
def unwrapped : FieldType → FieldType
  | nullable inner => inner.unwrapped
  | list element => list element.unwrapped
  | map key value => map key value.unwrapped
  | int => int
  | long => long
  | double => double
  | bool => bool
  | text => text
  | date => date
  | dateTime => dateTime
  | guid => guid
  | enum members => enum members
  | object shape => object shape
  | any => any

/-- Taking the outer wrappers away first, or all of them, comes to the same. -/
theorem nonNull_unwrapped (type : FieldType) :
    type.unwrapped.nonNull = type.nonNull.unwrapped := by
  induction type with
  | nullable inner inductionHypothesis => exact inductionHypothesis
  | _ => rfl

theorem nonNull_ne_nullable (type inner : FieldType) : type.nonNull ≠ nullable inner := by
  induction type with
  | nullable other inductionHypothesis => exact inductionHypothesis
  | _ => exact fun impossible => FieldType.noConfusion impossible

theorem isOrderable_unwrapped (type : FieldType) :
    type.unwrapped.isOrderable = type.isOrderable := by
  induction type with
  | nullable inner inductionHypothesis => exact inductionHypothesis
  | _ => rfl

/-- The same list layers are opened, and what is inside has lost its wrappers. -/
theorem openListsFrom_unwrapped (type : FieldType) :
    ∀ whole : FieldType,
      type.unwrapped.openListsFrom whole.unwrapped =
        ((type.openListsFrom whole).1, (type.openListsFrom whole).2.unwrapped) := by
  induction type with
  | nullable inner inductionHypothesis => exact inductionHypothesis
  | list element inductionHypothesis =>
      intro whole
      rw [unwrapped, openListsFrom, openListsFrom, inductionHypothesis element]
  | _ => exact fun whole => rfl

theorem openLists_unwrapped (type : FieldType) :
    type.unwrapped.openLists = (type.openLists.1, type.openLists.2.unwrapped) :=
  openListsFrom_unwrapped type type

end FieldType

/-! ## Shapes -/

def Shape.unwrapped (shape : Shape) : Shape :=
  { shape with
    members := shape.members.map (Prod.map id FieldType.unwrapped)
    indexer := shape.indexer.map FieldType.unwrapped }

def Schema.unwrapped (schema : Schema) : Schema :=
  ⟨schema.shapes.map Shape.unwrapped⟩

theorem Shape.find?_unwrapped (shape : Shape) (name : String) :
    shape.unwrapped.find? name = (shape.find? name).map FieldType.unwrapped := by
  show (shape.members.map (Prod.map id FieldType.unwrapped)).lookup name =
    (shape.members.lookup name).map FieldType.unwrapped
  induction shape.members with
  | nil => rfl
  | cons member rest inductionHypothesis =>
      obtain ⟨other, type⟩ := member
      rw [List.map_cons, Prod.map_apply, id_eq, List.lookup_cons, List.lookup_cons,
        inductionHypothesis]
      cases name == other with
      | true => rfl
      | false => rfl

theorem Schema.shape_unwrapped (schema : Schema) (name : String) :
    schema.unwrapped.shape name = (schema.shape name).unwrapped := by
  unfold shape unwrapped
  rw [List.find?_map]
  have sameName : (fun shape : Shape => shape.name == name) ∘ Shape.unwrapped =
      fun shape => shape.name == name := rfl
  rw [sameName]
  cases schema.shapes.find? fun shape => shape.name == name with
  | none => rfl
  | some shape => rfl

end RecordFilter
