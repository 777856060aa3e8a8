import RecordFilter.Proofs.Text.Blank
import RecordFilter.Proofs.Text.Lower
import RecordFilter.Text.Folding

/-!
# The case of ASCII letters

Lower-casing does not see the case of the letters A to Z: neither in the letters themselves nor
in the forms of the capital sigmas beside them, since a letter is cased in both cases and never
skipped. Trimming does not see it either, since no letter is a blank.
-/

namespace RecordFilter.Text

/-- The letters A to Z. -/
def capitals : List Char :=
  (List.range 26).map fun index => Char.ofNat (65 + index)

theorem mem_capitals_of_toLower_ne {c : Char} (changes : c.toLower ≠ c) : c ∈ capitals := by
  have range : 65 ≤ c.toNat ∧ c.toNat ≤ 90 := by
    by_contra outside
    exact changes (dif_neg outside)
  refine List.mem_map.mpr ⟨c.toNat - 65, List.mem_range.mpr (by omega), ?_⟩
  rw [Nat.add_sub_cancel' range.1, Char.ofNat_toNat]

theorem toLower_of_mem_capitals (c : Char) (member : c ∈ capitals) :
    isCased c.toLower = isCased c ∧ isCaseIgnorable c.toLower = isCaseIgnorable c ∧
      lowerChar c.toLower = lowerChar c ∧ c ≠ capitalSigma ∧ c.toLower ≠ capitalSigma := by
  have each : capitals.all (fun c => decide (isCased c.toLower = isCased c ∧
      isCaseIgnorable c.toLower = isCaseIgnorable c ∧ lowerChar c.toLower = lowerChar c ∧
        c ≠ capitalSigma ∧ c.toLower ≠ capitalSigma)) = true := by
    decide +kernel
  exact of_decide_eq_true (List.all_eq_true.mp each c member)

/-- What does not tell a capital letter from its small form does not see the case of any
character. -/
theorem toLower_eq_of_capitals {α : Type} (view : Char → α)
    (blind : ∀ c ∈ capitals, view c.toLower = view c) (c : Char) : view c.toLower = view c := by
  by_cases same : c.toLower = c
  · rw [same]
  · exact blind c (mem_capitals_of_toLower_ne same)

theorem isCased_toLower : ∀ c : Char, isCased c.toLower = isCased c :=
  toLower_eq_of_capitals isCased fun c member => (toLower_of_mem_capitals c member).1

theorem isCaseIgnorable_toLower : ∀ c : Char, isCaseIgnorable c.toLower = isCaseIgnorable c :=
  toLower_eq_of_capitals isCaseIgnorable fun c member => (toLower_of_mem_capitals c member).2.1

theorem lowerChar_toLower : ∀ c : Char, lowerChar c.toLower = lowerChar c :=
  toLower_eq_of_capitals lowerChar fun c member => (toLower_of_mem_capitals c member).2.2.1

theorem toLower_eq_capitalSigma_iff (c : Char) : c.toLower = capitalSigma ↔ c = capitalSigma := by
  have blind : ∀ c ∈ capitals,
      decide (c.toLower = capitalSigma) = decide (c = capitalSigma) := by
    intro c member
    obtain ⟨_, _, _, capital, small⟩ := toLower_of_mem_capitals c member
    rw [decide_eq_false capital, decide_eq_false small]
  exact decide_eq_decide.mp (toLower_eq_of_capitals (fun d => decide (d = capitalSigma)) blind c)

theorem startsCased_cons (c : Char) (rest : List Char) :
    startsCased (c :: rest) = if isCaseIgnorable c then startsCased rest else isCased c := by
  unfold startsCased
  by_cases ignorable : isCaseIgnorable c = true
  · rw [List.dropWhile_cons_of_pos ignorable, if_pos ignorable]
  · rw [List.dropWhile_cons_of_neg ignorable, if_neg ignorable]

theorem startsCased_map_toLower (text : List Char) :
    startsCased (text.map Char.toLower) = startsCased text := by
  induction text with
  | nil => rfl
  | cons c rest inductionHypothesis =>
      rw [List.map_cons, startsCased_cons, startsCased_cons, inductionHypothesis, isCased_toLower,
        isCaseIgnorable_toLower]

theorem lowerSigma_map_toLower (before after : List Char) :
    lowerSigma (before.map Char.toLower) (after.map Char.toLower) = lowerSigma before after := by
  rw [lowerSigma, lowerSigma, startsCased_map_toLower, startsCased_map_toLower]

/-- The induction is on the text; the text before it is general, since each character becomes
part of it. -/
theorem lowerAfter_map_toLower (before text : List Char) :
    lowerAfter (before.map Char.toLower) (text.map Char.toLower) = lowerAfter before text := by
  induction text generalizing before with
  | nil => rfl
  | cons c rest inductionHypothesis =>
      have others := inductionHypothesis (c :: before)
      rw [List.map_cons] at others
      rw [List.map_cons, lowerAfter, lowerAfter, others, lowerSigma_map_toLower,
        lowerChar_toLower]
      simp only [toLower_eq_capitalSigma_iff]

/-- Texts that differ in the case of ASCII letters only are lower-cased to one text. -/
theorem lower_eq_of_equalIgnoringCase {text other : String}
    (same : equalIgnoringCase text other = true) : lower text = lower other := by
  rw [equalIgnoringCase_iff] at same
  rw [lower, lower, ← lowerAfter_map_toLower [] text.toList, same, lowerAfter_map_toLower]

/-! ## Trimming -/

theorem isBlank_toLower : ∀ c : Char, isBlank c.toLower = isBlank c := by
  have each : capitals.all (fun c => isBlank c.toLower == isBlank c) = true := by decide
  exact toLower_eq_of_capitals isBlank fun c member =>
    beq_iff_eq.mp (List.all_eq_true.mp each c member)

theorem trimStart_map_toLower (text : List Char) :
    trimStart (text.map Char.toLower) = (trimStart text).map Char.toLower := by
  have blind : isBlank ∘ Char.toLower = isBlank := funext isBlank_toLower
  rw [trimStart, List.dropWhile_map, blind, trimStart]

theorem trimChars_map_toLower (text : List Char) :
    trimChars (text.map Char.toLower) = (trimChars text).map Char.toLower := by
  rw [trimChars, trimEnd_eq_reverse, trimStart_map_toLower, ← List.map_reverse,
    trimStart_map_toLower, ← List.map_reverse, ← trimEnd_eq_reverse, trimChars]

theorem trimChars_eq_self_iff_map_toLower (text : List Char) :
    trimChars (text.map Char.toLower) = text.map Char.toLower ↔ trimChars text = text := by
  rw [trimChars_map_toLower]
  constructor
  · intro same
    have lengths := congrArg List.length same
    rw [List.length_map, List.length_map] at lengths
    exact (trimChars_sublist text).eq_of_length lengths
  · intro same
    rw [same]

theorem trim_eq_self_iff {text : String} :
    trim text = text ↔ trimChars text.toList = text.toList := by
  rw [← toList_trim, String.toList_inj]

/-- Whether a text has blanks around it does not depend on the case of its letters. -/
theorem trim_eq_self_iff_of_equalIgnoringCase {text other : String}
    (same : equalIgnoringCase text other = true) : trim text = text ↔ trim other = other := by
  rw [equalIgnoringCase_iff] at same
  rw [trim_eq_self_iff, trim_eq_self_iff, ← trimChars_eq_self_iff_map_toLower, same,
    trimChars_eq_self_iff_map_toLower]

end RecordFilter.Text
