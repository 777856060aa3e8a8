import Mathlib.Data.List.Basic
import Mathlib.Data.List.TakeWhile
import RecordFilter.Json.Token
import RecordFilter.Proofs.Number.Whole

/-!
# Integers as JSON numbers

The digits of an integer make a JSON number. When the integer has 64 bits, with a sign or without,
its digits are collected without loss, and the number is read as that integer.
-/

namespace RecordFilter

namespace JsonNumber

open Number

/-! ## Digits -/

/-- No natural but zero is written with a zero in front. -/
theorem head?_toDigits {n : Nat} (positive : 0 < n) : (Nat.toDigits 10 n).head? ≠ some '0' := by
  have single : ∀ digit < 10, 0 < digit → [Nat.digitChar digit].head? ≠ some '0' := by decide
  induction n using Nat.base_induction 10 (by decide) with
  | single digit small =>
      rw [Nat.toDigits_of_lt_base small]
      exact single digit small positive
  | digit leading last small leadingPositive inductionHypothesis =>
      rw [← Nat.toDigits_append_toDigits (by decide) leadingPositive small,
        List.head?_append_of_ne_nil _ Nat.toDigits_ne_nil]
      exact inductionHypothesis leadingPositive

theorem le_ofDigitChars (digits : List Char) (value : Nat) :
    value ≤ Nat.ofDigitChars 10 digits value := by
  induction digits generalizing value with
  | nil => simp
  | cons c rest inductionHypothesis =>
      have further := inductionHypothesis (10 * value + (c.toNat - 48))
      rw [Nat.ofDigitChars_cons]
      exact le_trans (by omega) further

/-- The digits of a number of 64 bits are all collected. -/
theorem accumulate_eq {digits : List Char} {value : Nat}
    (fits : Nat.ofDigitChars 10 digits value < 2 ^ 64) :
    accumulate value digits = (Nat.ofDigitChars 10 digits value, []) := by
  induction digits generalizing value with
  | nil => simp [accumulate]
  | cons c rest inductionHypothesis =>
      have next : value * 10 + (c.toNat - 48) = 10 * value + (c.toNat - 48) := by omega
      rw [Nat.ofDigitChars_cons] at fits ⊢
      have small : ¬ 1 <<< 64 ≤ 10 * value + (c.toNat - 48) :=
        not_le.mpr (lt_of_le_of_lt (le_ofDigitChars rest _) fits)
      rw [accumulate, next, if_neg small]
      exact inductionHypothesis fits

theorem accumulate_toDigits {n : Nat} (fits : n < 2 ^ 64) :
    accumulate 0 (Nat.toDigits 10 n) = (n, []) := by
  have value : Nat.ofDigitChars 10 (Nat.toDigits 10 n) 0 = n := Nat.ofDigitChars_ten_toDigits
  rw [accumulate_eq (value.trans_lt fits), value]

/-! ## Numbers -/

theorem isDigit_of_mem_toDigits {n : Nat} {c : Char} (member : c ∈ Nat.toDigits 10 n) :
    c.isDigit = true :=
  Nat.isDigit_of_mem_toDigits (by decide) (by decide) member

namespace Written

theorem ofUnsigned_toDigits (negative : Bool) (n : Nat) :
    ofUnsigned negative (Nat.toDigits 10 n) =
      some ⟨negative, Nat.toDigits 10 n, none, none⟩ := by
  have digits : ∀ c ∈ Nat.toDigits 10 n, c.isDigit = true := fun c => isDigit_of_mem_toDigits
  have whole : (Nat.toDigits 10 n).takeWhile Char.isDigit = Nat.toDigits 10 n :=
    List.takeWhile_eq_self_iff.mpr digits
  have rest : (Nat.toDigits 10 n).dropWhile Char.isDigit = [] :=
    List.dropWhile_eq_nil_iff.mpr digits
  have proper : (!(Nat.toDigits 10 n).isEmpty &&
      ((Nat.toDigits 10 n).length = 1 || (Nat.toDigits 10 n).head? ≠ some '0')) = true := by
    by_cases zero : n = 0
    · rw [zero]
      decide
    · have leading := head?_toDigits (Nat.pos_of_ne_zero zero)
      simp [leading]
  unfold ofUnsigned
  dsimp only
  rw [whole, rest, proper]
  rfl

theorem ofChars_integerChars (i : Int) :
    ofChars (integerChars i) =
      some ⟨decide (i < 0), Nat.toDigits 10 i.natAbs, none, none⟩ := by
  by_cases negative : i < 0
  · rw [integerChars, if_pos negative, decide_eq_true negative]
    exact ofUnsigned_toDigits true i.natAbs
  · rw [integerChars, if_neg negative, decide_eq_false negative, ofChars]
    · exact ofUnsigned_toDigits false i.natAbs
    · intro rest minus
      have member : '-' ∈ Nat.toDigits 10 i.natAbs := by simp [minus]
      exact absurd (isDigit_of_mem_toDigits member) (by decide)

/-- An integer of 64 bits is read from its own digits. -/
theorem value?_integer {i : Int} (stored : (JsonNumber.integer i).IsStored) :
    value? ⟨decide (i < 0), Nat.toDigits 10 i.natAbs, none, none⟩ = some (.integer i) := by
  obtain ⟨least, greatest⟩ := stored
  have fits : i.natAbs < 2 ^ 64 := by omega
  by_cases negative : i < 0
  · have inRange : ¬ (i = 0 ∨ int64Max + 1 < i.natAbs) := by
      unfold int64Max
      omega
    have value : -|i| = i := by
      rw [abs_of_neg negative, neg_neg]
    simp [value?, accumulate_toDigits fits, negative, inRange, value]
  · have value : (i.natAbs : Int) = i := by omega
    simp [value?, accumulate_toDigits fits, negative, value]

end Written

end JsonNumber

theorem JsonToken.numberToken?_integerChars {i : Int} (stored : (JsonNumber.integer i).IsStored) :
    JsonToken.numberToken? (Number.integerChars i) = some (.number (some (.integer i))) := by
  rw [JsonToken.numberToken?, JsonNumber.Written.ofChars_integerChars, Option.map_some,
    JsonNumber.Written.value?_integer stored]

end RecordFilter
