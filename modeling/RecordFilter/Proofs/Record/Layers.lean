import RecordFilter.Record.FieldType

/-!
# List layers of types

Opening the list layers of a type takes one layer away after the other, each with the nullable
wrappers around it, and ends at a type that is no list.
-/

namespace RecordFilter.FieldType

variable {type : FieldType}

theorem openLists_of_not_list (noList : ∀ element, type.nonNull ≠ .list element) :
    type.openLists = (0, type) := by
  have opened : ∀ inner whole : FieldType, (∀ element, inner.nonNull ≠ .list element) →
      inner.openListsFrom whole = (0, whole) := by
    intro inner whole
    induction inner with
    | nullable inner inductionHypothesis => exact inductionHypothesis
    | list element _ => exact fun noList => absurd rfl (noList element)
    | int | long | double | bool | text | date | dateTime | guid | enum _ | object _ | any =>
        exact fun _ => rfl
    | map _ _ _ => exact fun _ => rfl
  exact opened type type noList

theorem openLists_of_list {element : FieldType} (list : type.nonNull = .list element) :
    type.openLists = (element.openLists.1 + 1, element.openLists.2) := by
  have opened : ∀ inner whole : FieldType, inner.nonNull = .list element →
      inner.openListsFrom whole = (element.openLists.1 + 1, element.openLists.2) := by
    intro inner whole list
    induction inner with
    | nullable inner inductionHypothesis => exact inductionHypothesis list
    | list other _ =>
        cases list
        rfl
    | _ => cases list
  exact opened type type list

/-- Opening list layers ends at a type that is no list. -/
theorem nonNull_openListsFrom (type : FieldType) :
    ∀ whole : FieldType, whole.nonNull = type.nonNull →
      ∀ element, (type.openListsFrom whole).2.nonNull ≠ .list element := by
  induction type with
  | nullable inner inductionHypothesis => exact inductionHypothesis
  | list element inductionHypothesis => exact fun _ _ => inductionHypothesis element rfl
  | int | long | double | bool | text | date | dateTime | guid | enum _ | object _ | any =>
      intro whole same element list
      cases same.symm.trans list
  | map _ _ _ =>
      intro whole same element list
      cases same.symm.trans list

theorem nonNull_openLists_ne_list (type element : FieldType) :
    type.openLists.2.nonNull ≠ .list element :=
  nonNull_openListsFrom type type rfl element

/-- The elements of a list have a smaller type. -/
theorem sizeOf_lt_of_list {element : FieldType} (list : type.nonNull = .list element) :
    sizeOf element < sizeOf type := by
  induction type with
  | nullable inner inductionHypothesis =>
      have smaller := inductionHypothesis list
      simp only [nullable.sizeOf_spec]
      omega
  | list other _ =>
      cases list
      simp
  | _ => cases list

end RecordFilter.FieldType
