import RecordFilter.Literal.Coercion
import RecordFilter.Proofs.Except

/-!
# Literals that can be read

Reading the literals of a leaf succeeds or not by the declared type, the number of literals
and the value alone. What the leaf is called stands only in the errors.
-/

namespace RecordFilter.Coercer

variable {coercer : Coercer} {context other : LeafContext} {arity : Arity}
  {raw : Option Json} {value : Json} {literals : List Literal}

/-- A literal is read from a value that is no array, object or null. -/
theorem exists_readPlain {declared : DeclaredType} {literal : Literal}
    (read : coercer.readLiteral declared value = .ok literal) :
    ∃ plain, coercer.readPlain declared plain = .ok literal := by
  cases value with
  | null | array _ => cases read
  | object members => exact ⟨_, mapError_eq_ok_iff.mp read⟩
  | bool _ | number _ | string _ => exact ⟨_, read⟩

theorem coerceScalar_eq_ok_iff {literal : Literal} :
    coercer.coerceScalar context value = .ok literal ↔
      coercer.readLiteral context.declared value = .ok literal :=
  mapError_eq_ok_iff

/-- Several literals are read one by one from the items of a value of the right size. -/
theorem coerce_eq_ok_iff :
    coercer.coerce context arity raw = .ok literals ↔
      (arity = .none ∧ literals = []) ∨
        (arity ≠ .none ∧ ∃ value, raw = some value ∧ value ≠ .null ∧
          wantedBy arity (itemsOf arity value).length = none ∧
          List.Forall₂
            (fun item literal => coercer.readLiteral context.declared item = .ok literal)
            (itemsOf arity value) literals) := by
  unfold coerce
  by_cases presence : arity = .none
  · simp [presence, eq_comm]
  · rw [if_neg presence]
    cases raw with
    | none => simp [presence]
    | some value =>
        cases value with
        | null => simp [presence]
        | bool _ | number _ | string _ | array _ | object _ =>
            simp only [presence, false_and, ne_eq, not_false_eq_true, true_and, false_or,
              Option.some.injEq, exists_eq_left', reduceCtorEq]
            split
            · simp_all
            · rw [mapM_eq_ok_iff]
              simp_all [coerceScalar_eq_ok_iff]

theorem coerce_congr (same : other.declared = context.declared) :
    coercer.coerce other arity raw = .ok literals ↔
      coercer.coerce context arity raw = .ok literals := by
  rw [coerce_eq_ok_iff, coerce_eq_ok_iff, same]

theorem exists_text_of_readLiteral {literal : Literal}
    (read : coercer.readLiteral .string value = .ok literal) : ∃ text, literal = .text text := by
  cases value with
  | null | array _ => cases read
  | bool _ | number _ | string _ | object _ =>
      cases read
      exact ⟨_, rfl⟩

/-- What holds of every literal that can be read holds of all literals of a leaf. -/
theorem forall_of_coerce {property : Literal → Prop}
    (each : ∀ value literal, coercer.readLiteral context.declared value = .ok literal →
      property literal)
    (read : coercer.coerce context arity raw = .ok literals) :
    ∀ literal ∈ literals, property literal := by
  rcases coerce_eq_ok_iff.mp read with ⟨_, rfl⟩ | ⟨_, value, _, _, _, items⟩
  · exact fun literal member => absurd member List.not_mem_nil
  · intro literal member
    obtain ⟨item, _, itemRead⟩ := exists_of_forall₂_right items member
    exact each item literal itemRead

theorem exists_text_of_coerce (declared : context.declared = .string)
    (read : coercer.coerce context arity raw = .ok literals) :
    ∀ literal ∈ literals, ∃ text, literal = .text text :=
  forall_of_coerce (fun _ _ literalRead => exists_text_of_readLiteral (declared ▸ literalRead)) read

theorem exists_singleton_of_coerce
    (read : coercer.coerce context .single raw = .ok literals) :
    ∃ literal, literals = [literal] := by
  rcases coerce_eq_ok_iff.mp read with ⟨impossible, _⟩ | ⟨_, value, _, _, enough, each⟩
  · cases impossible
  · have one : (itemsOf .single value).length = 1 := by
      by_contra other
      rw [wantedBy, if_neg other] at enough
      cases enough
    exact List.length_eq_one_iff.mp (each.length_eq.symm.trans one)

/-- Literals that are read are as many as the operator takes. -/
theorem wantedBy_of_coerce (takes : arity ≠ .none)
    (read : coercer.coerce context arity raw = .ok literals) :
    wantedBy arity literals.length = none := by
  rcases coerce_eq_ok_iff.mp read with ⟨none, _⟩ | ⟨_, value, _, _, enough, each⟩
  · exact absurd none takes
  · rw [← each.length_eq, enough]

/-- Values that hold texts are read as these texts, and an operator that takes one finds one. -/
theorem texts_of_coerce {texts : List String} (takes : arity ≠ .none)
    (items : itemsOf arity value = texts.map .string) (string : context.declared = .string)
    (read : coercer.coerce context arity (some value) = .ok literals) :
    literals = texts.map .text ∧ (arity = .single → ∃ text, texts = [text]) := by
  have same : literals = texts.map .text := by
    rcases coerce_eq_ok_iff.mp read with ⟨none, _⟩ | ⟨_, other, equality, _, _, each⟩
    · exact absurd none takes
    · cases equality
      rw [items, string, List.forall₂_map_left_iff] at each
      have texts : List.Forall₂ (fun text literal => Literal.text text = literal) texts literals :=
        each.imp fun _ _ read => Except.ok.inj read
      rw [← List.forall₂_map_left_iff, List.forall₂_eq_eq_eq] at texts
      exact texts.symm
  refine ⟨same, ?_⟩
  rintro rfl
  obtain ⟨literal, one⟩ := exists_singleton_of_coerce read
  rw [same] at one
  obtain ⟨text, rfl, _⟩ := List.map_eq_singleton_iff.mp one
  exact ⟨text, rfl⟩

theorem ne_null_of_items {texts : List String}
    (items : itemsOf arity value = texts.map .string) : value ≠ .null := by
  rintro rfl
  cases texts with
  | nil => cases items
  | cons text rest => cases items

/-- A value that is there is read item by item, if it has as many items as the operator takes. -/
theorem coerce_some (takes : arity ≠ .none) (present : value ≠ .null) :
    coercer.coerce context arity (some value) =
      match wantedBy arity (itemsOf arity value).length with
      | some expected =>
          .error (.wrongArity context.field context.operator expected (itemsOf arity value).length)
      | none => (itemsOf arity value).mapM (coercer.coerceScalar context) := by
  unfold coerce
  rw [if_neg takes]
  cases value with
  | null => exact absurd rfl present
  | bool _ | number _ | string _ | array _ | object _ => rfl

/-- Values whose items are read alike are read alike. -/
theorem coerce_eq_of_forall₂ {otherValue : Json} (present : value ≠ .null)
    (otherPresent : otherValue ≠ .null)
    (same : List.Forall₂
      (fun item other => coercer.coerceScalar context item = coercer.coerceScalar context other)
      (itemsOf arity value) (itemsOf arity otherValue)) :
    coercer.coerce context arity (some value) = coercer.coerce context arity (some otherValue) := by
  by_cases presence : arity = .none
  · unfold coerce
    rw [if_pos presence, if_pos presence]
  · rw [coerce_some presence present, coerce_some presence otherPresent, same.length_eq,
      mapM_eq_of_forall₂ same]

/-- Texts are read as they are, and an operator that lacks some says how many it has found. -/
theorem coerce_texts {texts : List String} (takes : arity ≠ .none)
    (string : context.declared = .string)
    (items : itemsOf arity value = texts.map .string) :
    coercer.coerce context arity (some value) =
      match wantedBy arity texts.length with
      | some expected =>
          .error (.wrongArity context.field context.operator expected texts.length)
      | none => .ok (texts.map .text) := by
  have read : (texts.map Json.string).mapM (coercer.coerceScalar context) =
      .ok (texts.map .text) := by
    rw [mapM_eq_ok_iff, List.forall₂_map_left_iff, List.forall₂_map_right_iff, List.forall₂_same]
    intro text _
    rw [coerceScalar_eq_ok_iff, string]
    rfl
  rw [coerce_some takes (ne_null_of_items items), items, List.length_map, read]

/-- A value that is no array is the only literal of an operator that takes one. -/
theorem coerce_single_eq_ok_iff (scalar : ∀ items, value ≠ .array items) :
    coercer.coerce context .single (some value) = .ok literals ↔
      ∃ literal, coercer.readLiteral context.declared value = .ok literal ∧
        literals = [literal] := by
  have items : itemsOf .single value = [value] := by
    cases value with
    | array items => exact absurd rfl (scalar items)
    | null | bool _ | number _ | string _ | object _ => rfl
  rw [coerce_eq_ok_iff]
  constructor
  · rintro (⟨impossible, _⟩ | ⟨_, other, same, _, _, read⟩)
    · cases impossible
    · cases same
      rw [items] at read
      cases read with
      | cons head tail =>
          cases tail
          exact ⟨_, head, rfl⟩
  · rintro ⟨literal, read, rfl⟩
    refine Or.inr ⟨by decide, value, rfl, ?_, by rw [items]; rfl, ?_⟩
    · rintro rfl
      cases read
    · rw [items]
      exact .cons read .nil

/-- The items of an array are the literals of an operator that takes a list. -/
theorem coerce_list_eq_ok_iff {items : List Json} (nonempty : items ≠ []) :
    coercer.coerce context .list (some (.array items)) = .ok literals ↔
      List.Forall₂
        (fun item literal => coercer.readLiteral context.declared item = .ok literal) items
        literals := by
  rw [coerce_eq_ok_iff]
  constructor
  · rintro (⟨impossible, _⟩ | ⟨_, value, same, _, _, read⟩)
    · cases impossible
    · cases same
      exact read
  · intro read
    have enough : wantedBy .list items.length = none :=
      if_neg (List.length_eq_zero_iff.not.mpr nonempty)
    exact Or.inr ⟨by decide, _, rfl, by simp, enough, read⟩

/-- The items of an array of two are the literals of an operator that takes a pair. -/
theorem coerce_pair {first second : Json} {low high : Literal}
    (readLow : coercer.readLiteral context.declared first = .ok low)
    (readHigh : coercer.readLiteral context.declared second = .ok high) :
    coercer.coerce context .pair (some (.array [first, second])) = .ok [low, high] := by
  refine coerce_eq_ok_iff.mpr (Or.inr ⟨by decide, _, rfl, by simp, rfl, ?_⟩)
  exact .cons readLow (.cons readHigh .nil)

end RecordFilter.Coercer
