import RecordFilter.Literal.Basic
import RecordFilter.Proofs.Number.Nearest

/-!
# The order of literals

Literals of one kind are in a linear order, but integers are rounded when they meet a double. This
keeps their order up to equality, so the order of all literals is transitive unless a double stands
between two integers that are both rounded to it.
-/

namespace RecordFilter

/-- Timestamps are ordered by their day, then by the second, then by the nanosecond. -/
instance Calendar.Timestamp.transCmp_order : Std.TransCmp Calendar.Timestamp.order :=
  inferInstanceAs <| Std.TransCmp <|
    compareLex (compareOn day) (compareLex (compareOn second) (compareOn nano))

namespace Literal

def isInt : Literal → Bool
  | int _ => true
  | _ => false

theorem exists_ints {left right : Literal} (ints : ¬(left.isInt = false ∨ right.isInt = false)) :
    ∃ i j, left = .int i ∧ right = .int j := by
  rw [not_or, Bool.not_eq_false, Bool.not_eq_false] at ints
  cases left with
  | int i =>
      cases right with
      | int j => exact ⟨i, j, rfl, rfl⟩
      | _ => cases ints.2
  | _ => cases ints.1

/-- The place of a number on the line of doubles. -/
def place? (literal : Literal) : Option Int :=
  literal.toDouble?.bind Number.Double.position?

/-- The order of two literals by what they are. -/
inductive Ranked : Literal → Literal → Ordering → Prop where
  | ints (left right : Int) : Ranked (.int left) (.int right) (compare left right)
  | times (left right : Calendar.Timestamp) :
      Ranked (.dateTime left) (.dateTime right) (left.order right)
  | texts (left right : String) : Ranked (.text left) (.text right) (compare left right)
  | doubles {left right : Literal} {first second : Int}
      (mixed : left.isInt = false ∨ right.isInt = false) (leftPlaced : left.place? = some first)
      (rightPlaced : right.place? = some second) : Ranked left right (compare first second)

theorem order?_eq_of_places {left right : Literal} {first second : Int}
    (mixed : left.isInt = false ∨ right.isInt = false) (leftPlaced : left.place? = some first)
    (rightPlaced : right.place? = some second) :
    left.order? right = some (compare first second) := by
  obtain ⟨l, leftNumber, leftPosition⟩ := Option.bind_eq_some_iff.mp leftPlaced
  obtain ⟨r, rightNumber, rightPosition⟩ := Option.bind_eq_some_iff.mp rightPlaced
  have compared : left.order? right = l.compare? r := by
    unfold order?
    split
    next => simp [isInt] at mixed
    next => cases leftNumber
    next => cases leftNumber
    next => rw [leftNumber, rightNumber]
  rw [compared, Number.Double.compare?_of_position? leftPosition rightPosition]

theorem order?_eq_some_iff {left right : Literal} {ordering : Ordering} :
    left.order? right = some ordering ↔ Ranked left right ordering := by
  constructor
  · intro order
    unfold order? at order
    split at order
    next i j =>
        cases order
        exact .ints i j
    next time other =>
        cases order
        exact .times time other
    next text other =>
        cases order
        exact .texts text other
    next notInts _ _ =>
        split at order
        next l r leftNumber rightNumber =>
            unfold Number.Double.compare? at order
            split at order
            next leftPosition rightPosition =>
                cases order
                refine .doubles ?_ (Option.bind_eq_some_iff.mpr ⟨l, leftNumber, leftPosition⟩)
                  (Option.bind_eq_some_iff.mpr ⟨r, rightNumber, rightPosition⟩)
                by_contra ints
                obtain ⟨i, j, leftInt, rightInt⟩ := exists_ints ints
                exact notInts i j leftInt rightInt
            next => cases order
        next => cases order
  · intro ranked
    cases ranked with
    | ints => rfl
    | times => rfl
    | texts => rfl
    | doubles mixed leftPlaced rightPlaced =>
        exact order?_eq_of_places mixed leftPlaced rightPlaced

/-! ## Reversal -/

section Order

variable {left middle right : Literal} {ordering : Ordering}

theorem Ranked.swap (ranked : Ranked left right ordering) :
    Ranked right left ordering.swap := by
  cases ranked with
  | ints i j =>
      rw [← Std.OrientedCmp.eq_swap]
      exact .ints j i
  | times time other =>
      rw [← Std.OrientedCmp.eq_swap]
      exact .times other time
  | texts text other =>
      rw [← Std.OrientedCmp.eq_swap]
      exact .texts other text
  | doubles mixed leftPlaced rightPlaced =>
      rw [← Std.OrientedCmp.eq_swap]
      exact .doubles mixed.symm rightPlaced leftPlaced

theorem order?_swap (left right : Literal) :
    right.order? left = (left.order? right).map Ordering.swap := by
  refine Option.ext fun ordering => ?_
  rw [Option.map_eq_some_iff]
  constructor
  · intro order
    have reversed := (order?_eq_some_iff.mp order).swap
    exact ⟨ordering.swap, order?_eq_some_iff.mpr reversed, Ordering.swap_swap⟩
  · rintro ⟨reversed, order, rfl⟩
    exact order?_eq_some_iff.mpr (order?_eq_some_iff.mp order).swap

/-! ## Transitivity -/

/-- A double between two integers that are both rounded to it, with the greater integer first. -/
inductive Blurs : Literal → Literal → Literal → Prop where
  | intro {greater less : Int} {double : Number.Double} (descends : less < greater)
      (greaterRounded : (Number.Double.ofInt greater).equals double = true)
      (lessRounded : (Number.Double.ofInt less).equals double = true) :
      Blurs (.int greater) (.double double) (.int less)

theorem place?_int (i : Int) : (int i).place? = some (Number.Double.place i) := by
  rw [place?, toDouble?, Option.bind_some, Number.Double.position?_ofInt_eq]

/-- Numbers that are in order have places in order: rounding may make two of them equal only. -/
theorem Ranked.place_le {first second : Int} (ranked : Ranked left right ordering)
    (below : ordering ≠ .gt) (leftPlaced : left.place? = some first)
    (rightPlaced : right.place? = some second) : first ≤ second := by
  cases ranked with
  | ints i j =>
      rw [place?_int] at leftPlaced rightPlaced
      cases leftPlaced
      cases rightPlaced
      exact Number.Double.place_mono (Int.compare_ne_gt.mp below)
  | times => cases leftPlaced
  | texts => cases leftPlaced
  | doubles mixed leftFound rightFound =>
      rw [leftPlaced] at leftFound
      rw [rightPlaced] at rightFound
      cases leftFound
      cases rightFound
      exact Int.compare_ne_gt.mp below

/-- What is in order by its places is in order, but two integers in one place need not be. -/
theorem exists_order?_of_place_le {first second : Int} (leftPlaced : left.place? = some first)
    (rightPlaced : right.place? = some second) (le : first ≤ second) :
    ∃ third, left.order? right = some third ∧
      (third = .gt → ∃ i j, left = .int i ∧ right = .int j ∧ j < i ∧ second = first) := by
  by_cases mixed : left.isInt = false ∨ right.isInt = false
  · refine ⟨_, order?_eq_of_places mixed leftPlaced rightPlaced, fun greater => ?_⟩
    exact absurd (Int.compare_eq_gt.mp greater) (Int.not_lt.mpr le)
  · obtain ⟨i, j, rfl, rfl⟩ := exists_ints mixed
    refine ⟨compare i j, rfl, fun greater => ?_⟩
    have descends : j < i := Int.compare_eq_gt.mp greater
    have ge := Number.Double.place_mono (Int.le_of_lt descends)
    rw [place?_int] at leftPlaced rightPlaced
    cases leftPlaced
    cases rightPlaced
    exact ⟨i, j, rfl, rfl, descends, Int.le_antisymm ge le⟩

/-- Numbers in order, one of which is no integer. The three places are in order, so the outer two
are, unless all places are one: then the outer two may be integers, and the middle one is not. -/
theorem exists_order?_of_places {first second : Ordering} {low between high : Int}
    (below : Ranked left middle first) (above : Ranked middle right second)
    (firstBelow : first ≠ .gt) (secondBelow : second ≠ .gt) (leftPlaced : left.place? = some low)
    (middlePlaced : middle.place? = some between) (rightPlaced : right.place? = some high)
    (mixed : left.isInt = true → right.isInt = true → middle.isInt = false) :
    ∃ third, left.order? right = some third ∧ (third = .gt → Blurs left middle right) := by
  have le := below.place_le firstBelow leftPlaced middlePlaced
  have otherLe := above.place_le secondBelow middlePlaced rightPlaced
  obtain ⟨third, order, exceptional⟩ :=
    exists_order?_of_place_le leftPlaced rightPlaced (Int.le_trans le otherLe)
  refine ⟨third, order, fun greater => ?_⟩
  -- The outer places are in both orders, so the place between them is the same.
  obtain ⟨i, j, rfl, rfl, descends, same⟩ := exceptional greater
  obtain rfl : between = low := Int.le_antisymm (same ▸ otherLe) le
  cases middle with
  | double double =>
      have doublePlaced : double.position? = some between := middlePlaced
      refine .intro descends ((Number.Double.equals_iff_of_position? ?_).mpr doublePlaced)
        ((Number.Double.equals_iff_of_position? ?_).mpr doublePlaced)
      · rw [Number.Double.position?_ofInt_eq, ← place?_int, leftPlaced]
      · rw [Number.Double.position?_ofInt_eq, ← place?_int, rightPlaced, same]
  | int k => cases mixed rfl rfl
  | bool _ | text _ | dateTime _ | guid _ => cases middlePlaced

/-- In an order, two steps that do not lead down make a step that does not. -/
theorem ne_gt_trans {α : Type} {order : α → α → Ordering} [Std.TransCmp order]
    {first second third : α} (below : order first second ≠ .gt)
    (above : order second third ≠ .gt) : order first third ≠ .gt := by
  rw [ne_eq, Ordering.ne_gt_iff_isLE] at below above ⊢
  exact Std.TransCmp.isLE_trans below above

/-- Two steps up make a step up, unless a double blurs two integers. The cases are those of the
first step: within one kind the order is linear, and numbers of two kinds go by their places. -/
theorem Ranked.trans {first second : Ordering} (below : Ranked left middle first)
    (above : Ranked middle right second) (firstBelow : first ≠ .gt) (secondBelow : second ≠ .gt) :
    ∃ third, left.order? right = some third ∧ (third = .gt → Blurs left middle right) := by
  cases below with
  | times time other =>
      cases above with
      | times _ last =>
          have below := ne_gt_trans firstBelow secondBelow
          exact ⟨time.order last, rfl, fun greater => absurd greater below⟩
      | doubles _ middlePlaced => cases middlePlaced
  | texts text other =>
      cases above with
      | texts _ last =>
          have below := ne_gt_trans firstBelow secondBelow
          exact ⟨compare text last, rfl, fun greater => absurd greater below⟩
      | doubles _ middlePlaced => cases middlePlaced
  | ints i j =>
      cases above with
      | ints _ k =>
          have below := ne_gt_trans firstBelow secondBelow
          exact ⟨compare i k, rfl, fun greater => absurd greater below⟩
      | doubles mixed middlePlaced rightPlaced =>
          refine exists_order?_of_places (.ints i j) (.doubles mixed middlePlaced rightPlaced)
            firstBelow secondBelow (place?_int i) middlePlaced rightPlaced fun _ rightInt => ?_
          rw [rightInt] at mixed
          exact mixed.resolve_right Bool.noConfusion
  | doubles mixed leftPlaced middlePlaced =>
      have below := Ranked.doubles mixed leftPlaced middlePlaced
      have noInts : left.isInt = true → middle.isInt = false := fun leftInt => by
        rw [leftInt] at mixed
        exact mixed.resolve_left Bool.noConfusion
      cases above with
      | times | texts => cases middlePlaced
      | ints j k =>
          exact exists_order?_of_places below (.ints j k) firstBelow secondBelow leftPlaced
            middlePlaced (place?_int k) fun leftInt _ => noInts leftInt
      | doubles otherMixed middleFound rightPlaced =>
          exact exists_order?_of_places below (.doubles otherMixed middleFound rightPlaced)
            firstBelow secondBelow leftPlaced middlePlaced rightPlaced fun leftInt _ =>
              noInts leftInt

/-- Integers of at most 53 binary digits are doubles, so one of two blurred ones has more. -/
theorem Blurs.large {greater less : Int} (blurs : Blurs (.int greater) middle (.int less)) :
    2 ^ 53 < greater.natAbs ∨ 2 ^ 53 < less.natAbs := by
  have exact {i : Int} (small : i.natAbs ≤ 2 ^ 53) :
      Number.Double.place i = i * (Number.Double.one : Int) := by
    have placed := Number.Double.position?_ofInt_of_natAbs_le (i := i) (by omega)
    rw [Number.Double.position?_ofInt_eq, Number.nearest_of_natAbs_le small] at placed
    exact Option.some.inj placed
  cases blurs with
  | intro descends greaterRounded lessRounded =>
      by_contra small
      rw [not_or, Nat.not_lt, Nat.not_lt] at small
      rw [Number.Double.equals_iff_of_position? (Number.Double.position?_ofInt_eq _)]
        at greaterRounded lessRounded
      rw [greaterRounded, Option.some.injEq] at lessRounded
      rw [exact small.1, exact small.2] at lessRounded
      have one : (0 : Int) < Number.Double.one := Int.natCast_pos.mpr Number.Double.one_pos
      have same := Int.eq_of_mul_eq_mul_right (Int.ne_of_gt one) lessRounded
      exact absurd same (Int.ne_of_gt descends)

end Order

end Literal

/-- The order of literals is reversed when its arguments are exchanged. Two steps up always give an
order, and they make a step up unless the first literal and the last are integers that are both
rounded to the double between them. One of two such integers has more than 53 binary digits. -/
theorem literals_ordered_up_to_rounding :
    (∀ left right : Literal, right.order? left = (left.order? right).map Ordering.swap) ∧
    (∀ (left middle right : Literal) (first second : Ordering),
      left.order? middle = some first → middle.order? right = some second →
      first ≠ .gt → second ≠ .gt →
        ∃ third, left.order? right = some third ∧
          (third = .gt ↔ Literal.Blurs left middle right)) ∧
    ∀ (greater less : Int) (middle : Literal), Literal.Blurs (.int greater) middle (.int less) →
      2 ^ 53 < greater.natAbs ∨ 2 ^ 53 < less.natAbs := by
  refine ⟨Literal.order?_swap, fun left middle right first second below above firstBelow
    secondBelow => ?_, fun greater less middle blurs => blurs.large⟩
  obtain ⟨third, order, exceptional⟩ := (Literal.order?_eq_some_iff.mp below).trans
    (Literal.order?_eq_some_iff.mp above) firstBelow secondBelow
  refine ⟨third, order, exceptional, fun blurs => ?_⟩
  cases blurs with
  | intro descends =>
      cases order
      exact Int.compare_eq_gt.mpr descends

/-- The integer after `2 ^ 53` is rounded to it as well, so the double between the two blurs
them. -/
theorem literals_ordered_up_to_rounding_blurred :
    let after := Literal.int 9007199254740993
    let double := Literal.double (.ofInt 9007199254740992)
    let whole := Literal.int 9007199254740992
    after.Blurs double whole ∧ after.order? whole = some .gt ∧
      (2 ^ 53 < (9007199254740993 : Int).natAbs ∨ 2 ^ 53 < (9007199254740992 : Int).natAbs) := by
  intro after double whole
  obtain ⟨_, upward, large⟩ := literals_ordered_up_to_rounding
  have rounded : after.order? double = some .eq := by decide +kernel
  have same : double.order? whole = some .eq := by decide +kernel
  have blurs : after.Blurs double whole :=
    .intro (by decide) (by decide +kernel) (by decide +kernel)
  obtain ⟨third, order, exceptional⟩ := upward after double whole .eq .eq rounded same
    (by decide) (by decide)
  refine ⟨blurs, ?_, large _ _ _ blurs⟩
  rw [order, exceptional.mpr blurs]

/-- Not every two steps up make a step up, even without NaN. -/
theorem order?_not_transitive :
    ¬ ∀ (left middle right : Literal) (first second : Ordering),
      left ≠ .double .nan → middle ≠ .double .nan → right ≠ .double .nan →
      left.order? middle = some first → middle.order? right = some second →
      first ≠ .gt → second ≠ .gt → ∃ third, left.order? right = some third ∧ third ≠ .gt := by
  intro transitive
  obtain ⟨third, order, notGreater⟩ := transitive (.int 9007199254740993)
    (.double (.ofInt 9007199254740992)) (.int 9007199254740992) .eq .eq (by decide)
    (by decide +kernel) (by decide) (by decide +kernel) (by decide +kernel) (by decide) (by decide)
  cases order
  exact notGreater rfl

end RecordFilter
