import RecordFilter.Proofs.Literal.Coercion

/-!
# Literals with an order

A literal of a numeric type is a number, and one of a date type is a timestamp. No rule can
write NaN: the numbers of JSON are finite, and a number in a text has to be.
-/

namespace RecordFilter

namespace Number

namespace Double

theorem ofUnits_ne_nan (negative : Bool) (units : Nat) : ofUnits negative units ≠ nan := by
  unfold ofUnits
  cases Finite.ofUnits? negative units with
  | some value => exact fun impossible => by cases impossible
  | none => exact fun impossible => by cases impossible

theorem ofInt_ne_nan (value : Int) : ofInt value ≠ nan :=
  ofUnits_ne_nan _ _

theorem isSome_position?_iff {value : Double} : value.position?.isSome = true ↔ value ≠ nan := by
  cases value <;> simp [position?]

theorem isSome_compare?_iff {left right : Double} :
    (left.compare? right).isSome = true ↔ left ≠ nan ∧ right ≠ nan := by
  rw [← isSome_position?_iff, ← isSome_position?_iff]
  unfold compare?
  cases left.position? <;> cases right.position? <;> simp

end Double

theorem ne_nan_of_readDouble {text : List Char} {value : Double}
    (read : readDouble text = some value) : value ≠ .nan := by
  rintro rfl
  unfold readDouble at read
  simp only [Option.bind_eq_bind, Option.bind_eq_some_iff] at read
  obtain ⟨number, _, finite⟩ := read
  split at finite
  next isFinite =>
      rw [Option.some.inj finite] at isFinite
      cases isFinite
  next => cases finite

end Number

theorem JsonNumber.toDouble_ne_nan (number : JsonNumber) : number.toDouble ≠ .nan := by
  cases number with
  | integer value => exact Number.Double.ofInt_ne_nan value
  | double value => exact fun impossible => by cases impossible

namespace DeclaredType

def isDated : DeclaredType → Bool
  | date | dateTime => true
  | _ => false

theorem isOrderable_eq (declared : DeclaredType) :
    declared.isOrderable = (declared.isNumeric || declared.isDated) := by
  cases declared <;> rfl

theorem isDated_eq_false {declared : DeclaredType} (numeric : declared.isNumeric = true) :
    declared.isDated = false := by
  cases declared with
  | integer | long | double => rfl
  | boolean | string | date | dateTime | guid => cases numeric

end DeclaredType

/-- The literals of an ordered declared type: numbers but NaN, and timestamps. -/
inductive Literal.Measures (declared : DeclaredType) : Literal → Prop where
  | number {literal : Literal} {value : Number.Double} (numeric : declared.isNumeric = true)
      (number : literal.toDouble? = some value) (proper : value ≠ .nan) :
      Measures declared literal
  | time (time : Calendar.Timestamp) (dated : declared.isDated = true) :
      Measures declared (.dateTime time)

namespace Coercer

variable {coercer : Coercer} {declared : DeclaredType} {raw : Json} {literal : Literal}

theorem ne_nan_of_readDouble {value : Number.Double} (read : coercer.readDouble raw = .ok value) :
    value ≠ .nan := by
  cases raw with
  | number number =>
      cases read
      exact number.toDouble_ne_nan
  | string text =>
      unfold readDouble at read
      simp only at read
      split at read
      next found =>
          cases read
          exact Number.ne_nan_of_readDouble found
      next => cases read
  | null | bool _ | array _ | object _ => cases read

theorem measures_of_readPlain (ordered : declared.isOrderable = true)
    (read : coercer.readPlain declared raw = .ok literal) : literal.Measures declared := by
  unfold readPlain at read
  cases declared with
  | integer | long =>
      obtain ⟨value, _, rfl⟩ := map_eq_ok_iff.mp read
      exact .number rfl rfl (Number.Double.ofInt_ne_nan value)
  | double =>
      obtain ⟨value, found, rfl⟩ := map_eq_ok_iff.mp read
      exact .number rfl rfl (ne_nan_of_readDouble found)
  | date =>
      obtain ⟨time, _, rfl⟩ := map_eq_ok_iff.mp read
      exact .time time.midnight rfl
  | dateTime =>
      obtain ⟨time, _, rfl⟩ := map_eq_ok_iff.mp read
      exact .time time rfl
  | boolean | string | guid => cases ordered

theorem measures_of_readLiteral (ordered : declared.isOrderable = true)
    (read : coercer.readLiteral declared raw = .ok literal) : literal.Measures declared := by
  obtain ⟨plain, readPlain⟩ := exists_readPlain read
  exact measures_of_readPlain ordered readPlain

end Coercer

end RecordFilter
