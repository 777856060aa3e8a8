import RecordFilter.Path.Walk
import RecordFilter.Record.FieldType

/-!
# Values of a field type

A value conforms to a field type when it is what data of the type is viewed as: a record has
every declared member, items and entries are of the declared type, and null stands only
where the type has it. What untyped data may be is a parameter; JSON data is one choice.
-/

namespace RecordFilter

/-- What JSON data is viewed as. -/
inductive Value.IsJson : Value → Prop where
  | null : IsJson .null
  | bool (value : Bool) : IsJson (.bool value)
  | int (value : Int) : IsJson (.int value)
  | double (value : Number.Double) : IsJson (.double value)
  | text (value : String) : IsJson (.text value)
  | list {items : List Value} (each : ∀ item ∈ items, IsJson item) : IsJson (.list items)
  | map {entries : List (String × Value)}
      (each : ∀ key value, (key, value) ∈ entries → IsJson value) : IsJson (.map entries)

/-- Values of a field type. The shapes of records are taken from the schema, and `untyped`
says what may stand where the type is untyped. -/
inductive Conforms (schema : Schema) (untyped : Value → Prop) : FieldType → Value → Prop where
  | int {value : Int} (range : Number.isInt32 value = true) :
      Conforms schema untyped .int (.int value)
  | long {value : Int} (range : Number.isInt64 value = true) :
      Conforms schema untyped .long (.int value)
  | double (value : Number.Double) : Conforms schema untyped .double (.double value)
  | bool (value : Bool) : Conforms schema untyped .bool (.bool value)
  | text (value : String) : Conforms schema untyped .text (.text value)
  | date (day : Int) : Conforms schema untyped .date (.dateTime (.ofDay day))
  | dateTime (time : Calendar.Timestamp) : Conforms schema untyped .dateTime (.dateTime time)
  | guid (value : Guid) : Conforms schema untyped .guid (.guid value)
  | enum {members : List (String × Int)} {name : String} {number : Int}
      (declared : (name, number) ∈ members) :
      Conforms schema untyped (.enum members) (.enum name number)
  | object {name : String} {members indexed : List (String × Value)}
      (present : ∀ member type, (member, type) ∈ (schema.shape name).members →
        (members.lookup member).isSome = true)
      (typed : ∀ member type value, (member, type) ∈ (schema.shape name).members →
        members.lookup member = some value → Conforms schema untyped type value)
      (entries : ∀ type key value, (schema.shape name).indexer = some type →
        (key, value) ∈ indexed → Conforms schema untyped type value) :
      Conforms schema untyped (.object name) (.object members indexed)
  | list {element : FieldType} {items : List Value}
      (each : ∀ item ∈ items, Conforms schema untyped element item) :
      Conforms schema untyped (.list element) (.list items)
  | map {kind : KeyKind} {type : FieldType} {entries : List (String × Value)}
      (textual : kind ≠ .integer)
      (each : ∀ key value, (key, value) ∈ entries → Conforms schema untyped type value) :
      Conforms schema untyped (.map kind type) (.map entries)
  | intMap {type : FieldType} {entries : List (Int × Value)}
      (each : ∀ key value, (key, value) ∈ entries → Conforms schema untyped type value) :
      Conforms schema untyped (.map .integer type) (.intMap entries)
  | null (inner : FieldType) : Conforms schema untyped (.nullable inner) .null
  | nullable {inner : FieldType} {value : Value} (conforms : Conforms schema untyped inner value) :
      Conforms schema untyped (.nullable inner) value
  | any {value : Value} (data : untyped value) : Conforms schema untyped .any value

/-- What untyped data has to satisfy for a walk through it to stay in it: what is found under
a name or in a list is untyped data again, and so is the null that stands for nothing. -/
structure IsUntypedData (untyped : Value → Prop) : Prop where
  null : untyped .null
  item : ∀ items item, untyped (.list items) → item ∈ items → untyped item
  part : ∀ value name part, untyped value → value.part? name = some part → untyped part

/-- Any values at all may be taken for untyped data. -/
theorem IsUntypedData.all : IsUntypedData fun _ => True where
  null := trivial
  item _ _ _ _ := trivial
  part _ _ _ _ _ := trivial

theorem mem_of_lookup {α : Type} {entries : List (String × α)} {key : String} {value : α}
    (found : entries.lookup key = some value) : (key, value) ∈ entries := by
  obtain ⟨before, after, equality, _⟩ := List.lookup_eq_some_iff.mp found
  rw [equality]
  exact List.mem_append_right before List.mem_cons_self

theorem IsUntypedData.json : IsUntypedData Value.IsJson where
  null := .null
  item items item data member := by
    cases data with
    | list each => exact each item member
  part value name part data found := by
    cases data with
    | map each => exact each name part (mem_of_lookup found)
    | null | bool _ | int _ | double _ | text _ | list _ => cases found

namespace Conforms

variable {schema : Schema} {untyped : Value → Prop} {type : FieldType} {value : Value}

/-- The more may stand where the type is untyped, the more values conform. -/
theorem imp {other : Value → Prop} (more : ∀ value, untyped value → other value)
    (conforms : Conforms schema untyped type value) : Conforms schema other type value := by
  induction conforms with
  | int range => exact .int range
  | long range => exact .long range
  | double value => exact .double value
  | bool value => exact .bool value
  | text value => exact .text value
  | date day => exact .date day
  | dateTime time => exact .dateTime time
  | guid value => exact .guid value
  | enum declared => exact .enum declared
  | object present _ _ typed entries => exact .object present typed entries
  | list _ each => exact .list each
  | map textual _ each => exact .map textual each
  | intMap _ each => exact .intMap each
  | null inner => exact .null inner
  | nullable _ conforms => exact .nullable conforms
  | any data => exact .any (more _ data)

/-- A value that is not null conforms to a type without its nullable wrappers. -/
theorem nonNull (conforms : Conforms schema untyped type value)
    (present : value.isNull = false) : Conforms schema untyped type.nonNull value := by
  induction type with
  | nullable inner inductionHypothesis =>
      cases conforms with
      | null => cases present
      | nullable conforms => exact inductionHypothesis conforms
  | int | long | double | bool | text | date | dateTime | guid | enum _ | object _ | any =>
      exact conforms
  | list _ _ | map _ _ _ => exact conforms

theorem null_or_nonNull (conforms : Conforms schema untyped type value) :
    value = .null ∨ Conforms schema untyped type.nonNull value := by
  cases value with
  | null => exact Or.inl rfl
  | _ => exact Or.inr (conforms.nonNull rfl)

/-- Under the wrappers of an untyped field any untyped data may stand. -/
theorem untyped_of_nonNull (data : IsUntypedData untyped)
    (conforms : Conforms schema untyped type value) (any : type.nonNull = .any) :
    untyped value := by
  rcases conforms.null_or_nonNull with rfl | unwrapped
  · exact data.null
  · rw [any] at unwrapped
    cases unwrapped with
    | any data => exact data

theorem member {shape name : String} {memberType : FieldType}
    (conforms : Conforms schema untyped (.object shape) value)
    (declared : (schema.shape shape).find? name = some memberType) :
    ∃ next, (Step.member name).hop value = .found next ∧
      Conforms schema untyped memberType next := by
  cases conforms with
  | object present typed entries =>
      have declaredMember := mem_of_lookup declared
      obtain ⟨next, found⟩ := Option.isSome_iff_exists.mp (present _ _ declaredMember)
      exact ⟨next, by simp [Step.hop, found], typed _ _ _ declaredMember found⟩

/-- An indexer entry is of the indexer's type, or it is missing. -/
theorem index {shape : String} {entryType : FieldType} (key : String)
    (conforms : Conforms schema untyped (.object shape) value)
    (indexer : (schema.shape shape).indexer = some entryType) :
    (Step.index key).hop value = .missingKey key ∨
      ∃ next, (Step.index key).hop value = .found next ∧
        Conforms schema untyped entryType next := by
  cases conforms with
  | @object _ members indexed present typed entries =>
      cases found : indexed.lookup key with
      | none => exact Or.inl (by simp [Step.hop, Hop.ofEntry, found])
      | some next =>
          refine Or.inr ⟨next, by simp [Step.hop, Hop.ofEntry, found], ?_⟩
          exact entries _ _ _ indexer (mem_of_lookup found)

/-- A map entry is of the map's value type, or it is missing. -/
theorem key {entryType : FieldType} (key : String)
    (conforms : Conforms schema untyped (.map .text entryType) value) :
    (Step.key key).hop value = .missingKey key ∨
      ∃ next, (Step.key key).hop value = .found next ∧
        Conforms schema untyped entryType next := by
  cases conforms with
  | @map _ _ entries _ each =>
      cases found : entries.lookup key with
      | none => exact Or.inl (by simp [Step.hop, Hop.ofEntry, found])
      | some next =>
          refine Or.inr ⟨next, by simp [Step.hop, Hop.ofEntry, found], ?_⟩
          exact each _ _ (mem_of_lookup found)

theorem items {element : FieldType}
    (conforms : Conforms schema untyped (.list element) value) :
    ∃ items, Step.each.hop value = .items items ∧
      ∀ item ∈ items, Conforms schema untyped element item := by
  cases conforms with
  | list each => exact ⟨_, rfl, each⟩

end Conforms

end RecordFilter
