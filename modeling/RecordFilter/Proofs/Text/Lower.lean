import Mathlib.Data.List.TakeWhile
import RecordFilter.Text.Lower
import RecordFilter.Text.Split

/-!
# Lower-casing a part of a text

A part of a text is lower-cased as it is alone, but for its capital sigmas. The form of a sigma
is decided by the next characters on both sides that are not case-ignorable, and only where the
part has no such character on one side can the form depend on what stands around the part.
-/

namespace RecordFilter.Text

/-! ## Sigmas at the ends -/

theorem startsCased_of_ignorable {text : List Char} (ignorable : text.all isCaseIgnorable = true) :
    startsCased text = false := by
  unfold startsCased
  rw [List.dropWhile_eq_nil_iff.mpr (List.all_eq_true.mp ignorable)]

theorem startsCased_append (first second : List Char) :
    startsCased (first ++ second) =
      if first.all isCaseIgnorable then startsCased second else startsCased first := by
  unfold startsCased
  rw [List.dropWhile_append]
  by_cases ignorable : first.all isCaseIgnorable = true
  · rw [if_pos ignorable, List.dropWhile_eq_nil_iff.mpr (List.all_eq_true.mp ignorable)]
    rfl
  · rw [if_neg ignorable]
    cases dropped : first.dropWhile isCaseIgnorable with
    | nil => exact absurd (List.all_eq_true.mpr (List.dropWhile_eq_nil_iff.mp dropped)) ignorable
    | cons c rest => rfl

theorem dropWhile_eq_cons_iff {α : Type} {skip : α → Bool} {text rest : List α} {c : α}
    (stops : skip c = false) :
    text.dropWhile skip = c :: rest ↔
      ∃ earlier, text = earlier ++ c :: rest ∧ earlier.all skip = true := by
  constructor
  · intro dropped
    refine ⟨text.takeWhile skip, ?_, List.all_takeWhile⟩
    rw [← dropped, List.takeWhile_append_dropWhile]
  · rintro ⟨earlier, rfl, skipped⟩
    rw [List.dropWhile_append_of_pos (List.all_eq_true.mp skipped),
      List.dropWhile_cons_of_neg (ne_true_of_eq_false stops)]

theorem isCaseIgnorable_capitalSigma : isCaseIgnorable capitalSigma = false := by
  decide +kernel

/-- Whether the first character that is not case-ignorable is a capital sigma, and no cased
character follows it. -/
def opensWithSigma (text : List Char) : Bool :=
  match text.dropWhile isCaseIgnorable with
  | [] => false
  | c :: rest => decide (c = capitalSigma) && !startsCased rest

/-- Whether the last character that is not case-ignorable is a capital sigma, and a cased
character stands before it. -/
def closesWithSigma (text : List Char) : Bool :=
  match text.reverse.dropWhile isCaseIgnorable with
  | [] => false
  | c :: before => decide (c = capitalSigma) && startsCased before

theorem opensWithSigma_iff {text : List Char} :
    opensWithSigma text = true ↔
      ∃ earlier later, text = earlier ++ capitalSigma :: later ∧
        earlier.all isCaseIgnorable = true ∧ startsCased later = false := by
  unfold opensWithSigma
  constructor
  · intro opens
    split at opens
    next => cases opens
    next c later dropped =>
        rw [Bool.and_eq_true, decide_eq_true_iff, Bool.not_eq_true'] at opens
        obtain ⟨rfl, uncased⟩ := opens
        obtain ⟨earlier, equality, ignorable⟩ :=
          (dropWhile_eq_cons_iff isCaseIgnorable_capitalSigma).mp dropped
        exact ⟨earlier, later, equality, ignorable, uncased⟩
  · rintro ⟨earlier, later, equality, ignorable, uncased⟩
    rw [(dropWhile_eq_cons_iff isCaseIgnorable_capitalSigma).mpr ⟨earlier, equality, ignorable⟩]
    simp [uncased]

theorem closesWithSigma_iff {text : List Char} :
    closesWithSigma text = true ↔
      ∃ earlier later, text = earlier ++ capitalSigma :: later ∧
        startsCased earlier.reverse = true ∧ later.all isCaseIgnorable = true := by
  unfold closesWithSigma
  constructor
  · intro closes
    split at closes
    next => cases closes
    next c before dropped =>
        rw [Bool.and_eq_true, decide_eq_true_iff] at closes
        obtain ⟨rfl, cased⟩ := closes
        obtain ⟨after, equality, ignorable⟩ :=
          (dropWhile_eq_cons_iff isCaseIgnorable_capitalSigma).mp dropped
        refine ⟨before.reverse, after.reverse, ?_, ?_, ?_⟩
        · rw [← text.reverse_reverse, equality]
          simp
        · rw [List.reverse_reverse, cased]
        · rw [List.all_reverse, ignorable]
  · rintro ⟨earlier, later, rfl, cased, ignorable⟩
    have reversed : (earlier ++ capitalSigma :: later).reverse =
        later.reverse ++ capitalSigma :: earlier.reverse := by simp
    rw [← List.all_reverse] at ignorable
    rw [(dropWhile_eq_cons_iff isCaseIgnorable_capitalSigma).mpr ⟨_, reversed, ignorable⟩]
    simp [cased]

/-! ## Lower-casing between two texts -/

/-- The lower-case form of a text between the reversed text before it and the text after. -/
def lowerBetween (before after : List Char) : List Char → List Char
  | [] => []
  | c :: rest =>
      (if c = capitalSigma then [lowerSigma before (rest ++ after)] else lowerChar c) ++
        lowerBetween (c :: before) after rest

theorem lowerBetween_nil (before text : List Char) :
    lowerBetween before [] text = lowerAfter before text := by
  induction text generalizing before with
  | nil => rfl
  | cons c rest inductionHypothesis =>
      rw [lowerBetween, lowerAfter, List.append_nil, inductionHypothesis]

theorem lowerBetween_append (before after first second : List Char) :
    lowerBetween before after (first ++ second) =
      lowerBetween before (second ++ after) first ++
        lowerBetween (first.reverse ++ before) after second := by
  induction first generalizing before with
  | nil => rfl
  | cons c rest inductionHypothesis =>
      rw [List.cons_append, lowerBetween, lowerBetween, inductionHypothesis, List.append_assoc,
        List.append_assoc, List.reverse_cons, List.append_assoc, List.singleton_append]

/-- The texts around a text do not decide how long its lower-case form is. -/
theorem length_lowerBetween (before after otherBefore otherAfter text : List Char) :
    (lowerBetween before after text).length =
      (lowerBetween otherBefore otherAfter text).length := by
  induction text generalizing before otherBefore with
  | nil => rfl
  | cons c rest inductionHypothesis =>
      rw [lowerBetween, lowerBetween, List.length_append, List.length_append,
        inductionHypothesis (c :: before) (c :: otherBefore)]
      by_cases sigma : c = capitalSigma
      · rw [if_pos sigma, if_pos sigma]
        rfl
      · rw [if_neg sigma, if_neg sigma]

theorem lowerBetween_sigma (before after earlier later : List Char) :
    lowerBetween before after (earlier ++ capitalSigma :: later) =
      lowerBetween before (capitalSigma :: later ++ after) earlier ++
        lowerSigma (earlier.reverse ++ before) (later ++ after) ::
          lowerBetween (capitalSigma :: (earlier.reverse ++ before)) after later := by
  rw [lowerBetween_append, lowerBetween, if_pos rfl]
  rfl

/-- The lower-case forms of the parts of a text, one after the other. -/
theorem lowerAfter_parts (before text after : List Char) :
    lowerAfter [] (before ++ text ++ after) =
      lowerBetween [] (text ++ after) before ++ lowerBetween before.reverse after text ++
        lowerAfter (text.reverse ++ before.reverse) after := by
  rw [← lowerBetween_nil, lowerBetween_append, lowerBetween_append, lowerBetween_nil]
  simp

/-! ## Sigmas in two contexts -/

/-- The forms of each capital sigma of a text are related: one between a reversed text before it
and a text after it, the other one between two other texts. -/
def SigmasRelated (related : Char → Char → Prop)
    (before after otherBefore otherAfter text : List Char) : Prop :=
  ∀ earlier later, text = earlier ++ capitalSigma :: later →
    related (lowerSigma (earlier.reverse ++ before) (later ++ after))
      (lowerSigma (earlier.reverse ++ otherBefore) (later ++ otherAfter))

section Contexts

variable {related : Char → Char → Prop}
  {before after otherBefore otherAfter text first second rest : List Char} {c form : Char}

namespace SigmasRelated

theorem head
    (sigmas : SigmasRelated related before after otherBefore otherAfter (capitalSigma :: rest)) :
    related (lowerSigma before (rest ++ after)) (lowerSigma otherBefore (rest ++ otherAfter)) :=
  sigmas [] rest rfl

theorem left
    (sigmas : SigmasRelated related before after otherBefore otherAfter (first ++ second)) :
    SigmasRelated related before (second ++ after) otherBefore (second ++ otherAfter) first := by
  intro earlier later split
  have whole := sigmas earlier (later ++ second) (by rw [split, List.append_assoc]; rfl)
  rwa [List.append_assoc, List.append_assoc] at whole

theorem right
    (sigmas : SigmasRelated related before after otherBefore otherAfter (first ++ second)) :
    SigmasRelated related (first.reverse ++ before) after (first.reverse ++ otherBefore) otherAfter
      second := by
  intro earlier later split
  have whole := sigmas (first ++ earlier) later (by rw [split, List.append_assoc])
  rwa [List.reverse_append, List.append_assoc, List.append_assoc] at whole

theorem tail (sigmas : SigmasRelated related before after otherBefore otherAfter (c :: rest)) :
    SigmasRelated related (c :: before) after (c :: otherBefore) otherAfter rest := by
  rw [← List.singleton_append] at sigmas
  exact sigmas.right

end SigmasRelated

/-- Only the forms of the sigmas depend on the texts around. -/
theorem lowerBetween_congr (same : SigmasRelated Eq before after otherBefore otherAfter text) :
    lowerBetween before after text = lowerBetween otherBefore otherAfter text := by
  induction text generalizing before otherBefore with
  | nil => rfl
  | cons c rest inductionHypothesis =>
      rw [lowerBetween, lowerBetween, inductionHypothesis same.tail]
      by_cases sigma : c = capitalSigma
      · subst sigma
        rw [if_pos rfl, if_pos rfl, same.head]
      · rw [if_neg sigma, if_neg sigma]

/-- Each sigma that takes the form in the first context takes it in the other one. -/
def KeepsForm (form : Char) (before after otherBefore otherAfter text : List Char) : Prop :=
  SigmasRelated (fun taken other => taken = form → other = form) before after otherBefore
    otherAfter text

/-- A form that is kept is at least as frequent in the other context. -/
theorem count_lowerBetween_le
    (keeps : KeepsForm form before after otherBefore otherAfter text) :
    (lowerBetween before after text).count form ≤
      (lowerBetween otherBefore otherAfter text).count form := by
  induction text generalizing before otherBefore with
  | nil => exact le_refl _
  | cons c rest inductionHypothesis =>
      rw [lowerBetween, lowerBetween, List.count_append, List.count_append]
      refine Nat.add_le_add ?_ (inductionHypothesis keeps.tail)
      by_cases sigma : c = capitalSigma
      · subst sigma
        rw [if_pos rfl, if_pos rfl, List.count_singleton, List.count_singleton]
        by_cases takes : lowerSigma before (rest ++ after) = form
        · rw [takes, keeps.head takes]
        · rw [if_neg fun same => takes (beq_iff_eq.mp same)]
          exact Nat.zero_le _
      · rw [if_neg sigma, if_neg sigma]

/-- With a sigma that takes the form only in the other context, the form is more frequent
there. -/
theorem count_lowerBetween_lt {earlier later : List Char}
    (keeps : KeepsForm form before after otherBefore otherAfter text)
    (split : text = earlier ++ capitalSigma :: later)
    (lacks : lowerSigma (earlier.reverse ++ before) (later ++ after) ≠ form)
    (has : lowerSigma (earlier.reverse ++ otherBefore) (later ++ otherAfter) = form) :
    (lowerBetween before after text).count form <
      (lowerBetween otherBefore otherAfter text).count form := by
  subst split
  have front := count_lowerBetween_le keeps.left
  have back := count_lowerBetween_le keeps.right.tail
  rw [lowerBetween_sigma, lowerBetween_sigma, List.count_append, List.count_append,
    List.count_cons_of_ne lacks, has, List.count_cons_self]
  omega

end Contexts

/-! ## Parts that keep their form -/

section Parts

variable {before after part earlier later : List Char}

theorem cased_of_not_opens (opens : opensWithSigma part = false)
    (split : part = earlier ++ capitalSigma :: later)
    (front : earlier.all isCaseIgnorable = true) : startsCased later = true := by
  rw [← Bool.not_eq_false]
  intro uncased
  have impossible := opensWithSigma_iff.mpr ⟨earlier, later, split, front, uncased⟩
  rw [opens] at impossible
  cases impossible

theorem uncased_of_not_closes (closes : closesWithSigma part = false)
    (split : part = earlier ++ capitalSigma :: later)
    (back : later.all isCaseIgnorable = true) : startsCased earlier.reverse = false := by
  rw [← Bool.not_eq_true]
  intro cased
  have impossible := closesWithSigma_iff.mpr ⟨earlier, later, split, cased, back⟩
  rw [closes] at impossible
  cases impossible

/-- A sigma has the form that it has in the part alone, unless it stands at an end of the part
to which something is added. -/
theorem lowerSigma_between (opens : before = [] ∨ opensWithSigma part = false)
    (closes : after = [] ∨ closesWithSigma part = false)
    (split : part = earlier ++ capitalSigma :: later) :
    lowerSigma (earlier.reverse ++ before) (later ++ after) =
      lowerSigma earlier.reverse later := by
  unfold lowerSigma
  rw [startsCased_append, startsCased_append, List.all_reverse]
  by_cases front : earlier.all isCaseIgnorable = true
  · have uncased : startsCased earlier.reverse = false :=
      startsCased_of_ignorable (by rw [List.all_reverse, front])
    rw [if_pos front, uncased]
    rcases opens with rfl | opens
    · rfl
    · have cased := cased_of_not_opens opens split front
      have back : ¬ later.all isCaseIgnorable = true := by
        intro ignorable
        rw [startsCased_of_ignorable ignorable] at cased
        cases cased
      rw [if_neg back, cased, Bool.not_true, Bool.and_false, Bool.and_false]
  · rw [if_neg front]
    by_cases back : later.all isCaseIgnorable = true
    · rw [if_pos back, startsCased_of_ignorable back]
      rcases closes with rfl | closes
      · rfl
      · rw [uncased_of_not_closes closes split back]
        rfl
    · rw [if_neg back]

theorem lowerBetween_eq_lowerAfter (opens : before = [] ∨ opensWithSigma part = false)
    (closes : after = [] ∨ closesWithSigma part = false) :
    lowerBetween before after part = lowerAfter [] part := by
  rw [← lowerBetween_nil]
  refine lowerBetween_congr fun earlier later split => ?_
  rw [List.append_nil, List.append_nil]
  exact lowerSigma_between opens closes split

end Parts

/-! ## Parts that lose their form -/

theorem lowerSigma_eq_final_iff {before after : List Char} :
    lowerSigma before after = '\u03C2' ↔ startsCased before = true ∧ startsCased after = false := by
  unfold lowerSigma
  cases startsCased before <;> cases startsCased after <;> decide

theorem lowerSigma_eq_medial_iff {before after : List Char} :
    lowerSigma before after = '\u03C3' ↔ startsCased before = false ∨ startsCased after = true := by
  unfold lowerSigma
  cases startsCased before <;> cases startsCased after <;> decide

theorem startsCased_letter : startsCased ['A'] = true := by
  decide +kernel

section Letters

variable {part : List Char}

/-- A letter at the end takes a final sigma from a part that closes with it. -/
theorem count_final_lt (closes : closesWithSigma part = true) :
    (lowerBetween [] ['A'] part).count '\u03C2' < (lowerAfter [] part).count '\u03C2' := by
  obtain ⟨earlier, later, split, cased, ignorable⟩ := closesWithSigma_iff.mp closes
  rw [← lowerBetween_nil]
  refine count_lowerBetween_lt ?_ split ?_ ?_
  · intro front back _ final
    rw [lowerSigma_eq_final_iff, startsCased_append back, List.append_nil] at final
    rw [lowerSigma_eq_final_iff, List.append_nil, List.append_nil]
    refine ⟨final.1, ?_⟩
    by_cases backIgnorable : back.all isCaseIgnorable = true
    · exact startsCased_of_ignorable backIgnorable
    · rw [if_neg backIgnorable] at final
      exact final.2
  · rw [Ne, lowerSigma_eq_final_iff, startsCased_append later, if_pos ignorable,
      startsCased_letter]
    simp
  · rw [lowerSigma_eq_final_iff, List.append_nil, List.append_nil]
    exact ⟨cased, startsCased_of_ignorable ignorable⟩

/-- A letter at the start takes a medial sigma from a part that opens with it. -/
theorem count_medial_lt (opens : opensWithSigma part = true) :
    (lowerAfter ['A'] part).count '\u03C3' < (lowerAfter [] part).count '\u03C3' := by
  obtain ⟨earlier, later, split, ignorable, uncased⟩ := opensWithSigma_iff.mp opens
  rw [← List.all_reverse] at ignorable
  rw [← lowerBetween_nil, ← lowerBetween_nil]
  refine count_lowerBetween_lt ?_ split ?_ ?_
  · intro front back _ medial
    rw [lowerSigma_eq_medial_iff, startsCased_append, List.append_nil] at medial
    rw [lowerSigma_eq_medial_iff, List.append_nil, List.append_nil]
    by_cases frontIgnorable : front.reverse.all isCaseIgnorable = true
    · exact Or.inl (startsCased_of_ignorable frontIgnorable)
    · rwa [if_neg frontIgnorable] at medial
  · rw [Ne, lowerSigma_eq_medial_iff, startsCased_append, if_pos ignorable, startsCased_letter,
      List.append_nil, uncased]
    simp
  · rw [lowerSigma_eq_medial_iff, List.append_nil]
    exact Or.inl (startsCased_of_ignorable ignorable)

/-- Before a letter, a part that closes with a sigma is lower-cased to another text, in which
the lower-cased part does not occur. -/
theorem not_infix_of_closes (closes : closesWithSigma part = true) :
    ¬ lowerAfter [] part <:+: lowerAfter [] (part ++ ['A']) := by
  have letter : lowerBetween (part.reverse ++ []) [] ['A'] = ['a'] := rfl
  rw [← lowerBetween_nil [] (part ++ ['A']), lowerBetween_append, letter]
  intro occurs
  have fewer := occurs.sublist.count_le '\u03C2'
  have more := count_final_lt closes
  rw [List.count_append, List.append_nil, List.count_singleton] at fewer
  exact Nat.not_le_of_lt more fewer

/-- After a letter, a part that opens with a sigma is lower-cased to another text, in which the
lower-cased part does not occur. -/
theorem not_infix_of_opens (opens : opensWithSigma part = true) :
    ¬ lowerAfter [] part <:+: lowerAfter [] ('A' :: part) := by
  have letter : lowerAfter [] ('A' :: part) = 'a' :: lowerAfter ['A'] part := rfl
  rw [letter]
  intro occurs
  have fewer := occurs.sublist.count_le '\u03C3'
  have more := count_medial_lt opens
  rw [List.count_cons_of_ne (by decide)] at fewer
  exact Nat.not_le_of_lt more fewer

end Letters

/-! ## Searching -/

theorem occursIn_iff {part text : List Char} : occursIn part text = true ↔ part <:+: text := by
  induction text with
  | nil => rw [occursIn, List.isEmpty_iff, List.infix_nil]
  | cons c rest inductionHypothesis =>
      rw [occursIn, Bool.or_eq_true, List.isPrefixOf_iff_prefix, inductionHypothesis,
        List.infix_cons_iff]

section Searching

variable (part : List Char)

/-- A part that starts a text is found at its start when both are lower-cased, unless it closes
with a sigma. -/
theorem lowerAfter_prefix_iff :
    (∀ text, part <+: text → lowerAfter [] part <+: lowerAfter [] text) ↔
      closesWithSigma part = false := by
  constructor
  · intro keeps
    rw [← Bool.not_eq_true]
    intro closes
    exact not_infix_of_closes closes (keeps _ (List.prefix_append part ['A'])).isInfix
  · rintro closes text ⟨after, rfl⟩
    have parts := lowerAfter_parts [] part after
    rw [List.nil_append, List.reverse_nil, lowerBetween, List.nil_append,
      lowerBetween_eq_lowerAfter (Or.inl rfl) (Or.inr closes)] at parts
    rw [parts]
    exact List.prefix_append _ _

theorem lowerAfter_suffix_iff :
    (∀ text, part <:+ text → lowerAfter [] part <:+ lowerAfter [] text) ↔
      opensWithSigma part = false := by
  constructor
  · intro keeps
    rw [← Bool.not_eq_true]
    intro opens
    exact not_infix_of_opens opens (keeps _ (List.suffix_cons 'A' part)).isInfix
  · rintro opens text ⟨before, rfl⟩
    have parts := lowerAfter_parts before part []
    rw [List.append_nil, lowerAfter, List.append_nil,
      lowerBetween_eq_lowerAfter (Or.inr opens) (Or.inl rfl)] at parts
    rw [parts]
    exact List.suffix_append _ _

theorem lowerAfter_infix_iff :
    (∀ text, part <:+: text → lowerAfter [] part <:+: lowerAfter [] text) ↔
      opensWithSigma part = false ∧ closesWithSigma part = false := by
  constructor
  · intro keeps
    rw [← Bool.not_eq_true, ← Bool.not_eq_true]
    constructor
    · intro opens
      exact not_infix_of_opens opens (keeps _ (List.suffix_cons 'A' part).isInfix)
    · intro closes
      exact not_infix_of_closes closes (keeps _ (List.prefix_append part ['A']).isInfix)
  · rintro ⟨opens, closes⟩ text ⟨before, after, rfl⟩
    rw [lowerAfter_parts, lowerBetween_eq_lowerAfter (Or.inr opens) (Or.inr closes)]
    exact List.infix_append _ _ _

end Searching

end RecordFilter.Text
