import Mathlib.Data.List.Forall2
import RecordFilter.Proofs.Record.Conforms

/-!
# Documents that mirror values

A JSON document mirrors a value when it has an object for each record and map, an array for
each list, and for everything else a scalar that reads as the same value. Data that is
mirrored can be read from the document without its types.
-/

namespace RecordFilter

/-- Whether a JSON value is null, a boolean, a number or a text. -/
def Json.isScalar : Json → Bool
  | array _ | object _ => false
  | _ => true

/-- Documents of the same content as a value. -/
inductive Mirrors : Value → Json → Prop where
  | scalar {value : Value} {json : Json} (scalar : json.isScalar = true)
      (same : .ofJson json = value) : Mirrors value json
  | list {items : List Value} {documents : List Json}
      (each : List.Forall₂ Mirrors items documents) : Mirrors (.list items) (.array documents)
  | map {entries : List (String × Value)} {fields : List (String × Json)}
      (present : ∀ name, (entries.lookup name).isSome = true →
        (fields.lookup name).isSome = true)
      (each : ∀ name value document, entries.lookup name = some value →
        fields.lookup name = some document → Mirrors value document) :
      Mirrors (.map entries) (.object fields)
  | object {members indexed : List (String × Value)} {fields : List (String × Json)}
      (present : ∀ name, (members.lookup name).isSome = true →
        (fields.lookup name).isSome = true)
      (each : ∀ name value document, members.lookup name = some value →
        fields.lookup name = some document → Mirrors value document) :
      Mirrors (.object members indexed) (.object fields)

namespace Value

/-! ## Reading untyped data -/

theorem ofJsonItems_eq_map (documents : List Json) :
    ofJsonItems documents = documents.map ofJson := by
  induction documents with
  | nil => rfl
  | cons document rest inductionHypothesis =>
      rw [ofJsonItems, inductionHypothesis, List.map_cons]

theorem lookup_ofJsonMembers (name : String) (fields : List (String × Json)) :
    (ofJsonMembers fields).lookup name = (fields.lookup name).map ofJson := by
  induction fields with
  | nil => rfl
  | cons field rest inductionHypothesis =>
      obtain ⟨other, document⟩ := field
      rw [ofJsonMembers, List.lookup_cons, List.lookup_cons, inductionHypothesis]
      cases name == other <;> rfl

theorem part?_ofJson_object (name : String) (fields : List (String × Json)) :
    (ofJson (.object fields)).part? name = (fields.lookup name).map ofJson := by
  rw [ofJson]
  exact lookup_ofJsonMembers name fields

end Value

namespace Mirrors

variable {value : Value} {document : Json} {name : String}

/-- A scalar document reads as none of the composite values. -/
theorem ofJson_ne_composite (scalar : document.isScalar = true) :
    (∀ items, .ofJson document ≠ Value.list items) ∧
      (∀ entries, .ofJson document ≠ Value.map entries) ∧
        ∀ members indexed, .ofJson document ≠ Value.object members indexed := by
  cases document with
  | null => simp [Value.ofJson]
  | bool value => simp [Value.ofJson]
  | string value => simp [Value.ofJson]
  | number number =>
      cases number with
      | double value => simp [Value.ofJson]
      | integer value =>
          rw [Value.ofJson]
          split <;> simp
  | array _ | object _ => cases scalar

/-- What stands for a list is an array of what stands for its items. -/
theorem of_list {items : List Value} (mirrors : Mirrors (.list items) document) :
    ∃ documents, document = .array documents ∧ List.Forall₂ Mirrors items documents := by
  cases mirrors with
  | scalar scalar same => exact absurd same ((ofJson_ne_composite scalar).1 items)
  | list each => exact ⟨_, rfl, each⟩

/-- What stands for a record has what stands for its members. -/
theorem of_object {members indexed : List (String × Value)}
    (mirrors : Mirrors (.object members indexed) document)
    (found : members.lookup name = some value) :
    ∃ fields part, document = .object fields ∧ fields.lookup name = some part ∧
      Mirrors value part := by
  cases mirrors with
  | scalar scalar same => exact absurd same ((ofJson_ne_composite scalar).2.2 members indexed)
  | object present each =>
      obtain ⟨part, partFound⟩ := Option.isSome_iff_exists.mp (present name (by rw [found]; rfl))
      exact ⟨_, part, rfl, partFound, each name value part found partFound⟩

theorem of_map {entries : List (String × Value)} (mirrors : Mirrors (.map entries) document)
    (found : entries.lookup name = some value) :
    ∃ fields part, document = .object fields ∧ fields.lookup name = some part ∧
      Mirrors value part := by
  cases mirrors with
  | scalar scalar same => exact absurd same ((ofJson_ne_composite scalar).2.1 entries)
  | map present each =>
      obtain ⟨part, partFound⟩ := Option.isSome_iff_exists.mp (present name (by rw [found]; rfl))
      exact ⟨_, part, rfl, partFound, each name value part found partFound⟩

/-- What stands for a value that is no list, map or record reads as that value. -/
theorem ofJson_eq (mirrors : Mirrors value document) (noList : ∀ items, value ≠ .list items)
    (noMap : ∀ entries, value ≠ .map entries)
    (noRecord : ∀ members indexed, value ≠ .object members indexed) :
    .ofJson document = value := by
  cases mirrors with
  | scalar _ same => exact same
  | list _ => exact absurd rfl (noList _)
  | map _ _ => exact absurd rfl (noMap _)
  | object _ _ => exact absurd rfl (noRecord _ _)

theorem lookup_of_fields {members : List (String × Value)} {fields : List (String × Json)}
    (each : List.Forall₂ (fun (member : String × Value) (field : String × Json) =>
      member.1 = field.1 ∧ Mirrors member.2 field.2) members fields)
    (found : members.lookup name = some value) :
    ∃ part, fields.lookup name = some part ∧ Mirrors value part := by
  induction each with
  | nil => cases found
  | @cons member field rest others head _ inductionHypothesis =>
      obtain ⟨other, otherValue⟩ := member
      obtain ⟨same, document⟩ := field
      obtain ⟨rfl, mirrors⟩ := head
      rw [List.lookup_cons] at found ⊢
      cases named : name == other with
      | true =>
          rw [named] at found
          cases found
          exact ⟨document, rfl, mirrors⟩
      | false =>
          rw [named] at found
          exact inductionHypothesis found

/-- A record is mirrored field by field when the fields have the names of its members. -/
theorem of_fields {members indexed : List (String × Value)} {fields : List (String × Json)}
    (each : List.Forall₂ (fun (member : String × Value) (field : String × Json) =>
      member.1 = field.1 ∧ Mirrors member.2 field.2) members fields) :
    Mirrors (.object members indexed) (.object fields) := by
  refine .object ?_ ?_
  · intro name present
    obtain ⟨value, found⟩ := Option.isSome_iff_exists.mp present
    obtain ⟨part, partFound, _⟩ := lookup_of_fields each found
    rw [partFound]
    rfl
  · intro name value document found partFound
    obtain ⟨part, same, mirrors⟩ := lookup_of_fields each found
    rw [partFound] at same
    cases same
    exact mirrors

/-- The sizes of mirrored lists agree, and so do scalars. -/
theorem size?_ofJson (mirrors : Mirrors value document)
    (noMap : ∀ entries, value ≠ .map entries)
    (noRecord : ∀ members indexed, value ≠ .object members indexed) :
    (Value.ofJson document).size? = value.size? ∧
      (Value.ofJson document).isNull = value.isNull := by
  by_cases list : ∃ items, value = .list items
  · obtain ⟨items, rfl⟩ := list
    obtain ⟨documents, rfl, each⟩ := mirrors.of_list
    rw [Value.ofJson, Value.ofJsonItems_eq_map]
    refine ⟨?_, rfl⟩
    rw [Value.size?, Value.size?, List.length_map, each.length_eq]
  · have noList : ∀ items, value ≠ .list items := fun items same => list ⟨items, same⟩
    rw [mirrors.ofJson_eq noList noMap noRecord]
    exact ⟨rfl, rfl⟩

end Mirrors

end RecordFilter
