import Mathlib.Data.List.Forall2

/-!
# Results that may be errors

A composed computation succeeds exactly when each of its parts succeeds. The lemmas here take
a success apart in that way; what an error is does not matter to them. Two computations can
also be compared: both fail, or both succeed with values that are related.
-/

namespace RecordFilter

variable {ε φ α β : Type}

@[simp]
theorem bind_eq_ok_iff {result : Except ε α} {next : α → Except ε β} {value : β} :
    (result >>= next) = .ok value ↔
      ∃ middle, result = .ok middle ∧ next middle = .ok value := by
  cases result <;> simp [bind, Except.bind]

@[simp]
theorem pure_eq_ok_iff {given value : α} :
    (pure given : Except ε α) = .ok value ↔ given = value := by
  simp [pure, Except.pure]

@[simp]
theorem map_eq_ok_iff {result : Except ε α} {change : α → β} {value : β} :
    result.map change = .ok value ↔ ∃ given, result = .ok given ∧ change given = value := by
  cases result <;> simp [Except.map]

@[simp]
theorem fmap_eq_ok_iff {result : Except ε α} {change : α → β} {value : β} :
    change <$> result = .ok value ↔ ∃ given, result = .ok given ∧ change given = value :=
  map_eq_ok_iff

@[simp]
theorem map_eq_error_iff {result : Except ε α} {change : α → β} {error : ε} :
    result.map change = .error error ↔ result = .error error := by
  cases result <;> simp [Except.map]

@[simp]
theorem mapError_eq_ok_iff {result : Except ε α} {change : ε → φ} {value : α} :
    result.mapError change = .ok value ↔ result = .ok value := by
  cases result <;> simp [Except.mapError]

theorem map_bind {γ : Type} (result : Except ε α) (next : α → Except ε β) (change : β → γ) :
    (result >>= next).map change = result >>= fun value => (next value).map change := by
  cases result with
  | ok value => rfl
  | error error => rfl

theorem bind_of_map {γ : Type} (result : Except ε α) (change : α → β)
    (next : β → Except ε γ) :
    result.map change >>= next = result >>= fun value => next (change value) := by
  cases result with
  | ok value => rfl
  | error error => rfl

theorem mapError_map (result : Except ε α) (change : α → β) (exchange : ε → φ) :
    (result.map change).mapError exchange = (result.mapError exchange).map change := by
  cases result with
  | ok value => rfl
  | error error => rfl

theorem mapError_bind (result : Except ε α) (next : α → Except ε β) (exchange : ε → φ) :
    (result >>= next).mapError exchange =
      result.mapError exchange >>= fun value => (next value).mapError exchange := by
  cases result with
  | ok value => rfl
  | error error => rfl

/-- Results that are the same up to changes of their errors and values both fail or both
succeed. -/
theorem error_or_ok_of_map_mapError {left right : Except ε α} {exchange : ε → φ} {change : α → β}
    (same : (left.mapError exchange).map change = (right.mapError exchange).map change) :
    (∃ error other, left = .error error ∧ right = .error other ∧
      exchange error = exchange other) ∨
    ∃ value other, left = .ok value ∧ right = .ok other ∧ change value = change other := by
  cases left with
  | error error =>
      cases right with
      | error other => exact Or.inl ⟨error, other, rfl, rfl, Except.error.inj same⟩
      | ok other => cases same
  | ok value =>
      cases right with
      | error other => cases same
      | ok other => exact Or.inr ⟨value, other, rfl, rfl, Except.ok.inj same⟩

theorem mapError_mapM (read : α → Except ε β) (exchange : ε → φ) (items : List α) :
    (items.mapM read).mapError exchange =
      items.mapM fun item => (read item).mapError exchange := by
  induction items with
  | nil => rfl
  | cons item rest inductionHypothesis =>
      rw [List.mapM_cons, List.mapM_cons, mapError_bind]
      simp only [mapError_bind, inductionHypothesis]
      rfl

/-- Reading a list succeeds when each item does, and gives the results in order. -/
theorem mapM_eq_ok_iff {read : α → Except ε β} {items : List α} {results : List β} :
    items.mapM read = .ok results ↔
      List.Forall₂ (fun item result => read item = .ok result) items results := by
  induction items generalizing results with
  | nil => cases results <;> simp
  | cons item rest inductionHypothesis =>
      rw [List.mapM_cons, bind_eq_ok_iff]
      cases results with
      | nil => simp
      | cons result others =>
          rw [List.forall₂_cons, ← inductionHypothesis]
          simp

theorem bind_eq_error_iff {result : Except ε α} {next : α → Except ε β} {error : ε} :
    (result >>= next) = .error error ↔
      result = .error error ∨ ∃ middle, result = .ok middle ∧ next middle = .error error := by
  cases result <;> simp [bind, Except.bind]

theorem mapM_cons_eq_error_iff {read : α → Except ε β} {item : α} {rest : List α} {error : ε} :
    (item :: rest).mapM read = .error error ↔
      read item = .error error ∨
        ∃ result, read item = .ok result ∧ rest.mapM read = .error error := by
  rw [List.mapM_cons, bind_eq_error_iff]
  simp [bind_eq_error_iff, pure, Except.pure]

/-- Reading a list fails at the first item that fails, with the error of that item. -/
theorem mapM_eq_error_iff {read : α → Except ε β} {items : List α} {error : ε} :
    items.mapM read = .error error ↔
      ∃ earlier item later, items = earlier ++ item :: later ∧
        (∀ other ∈ earlier, ∃ result, read other = .ok result) ∧ read item = .error error := by
  constructor
  · intro failed
    induction items with
    | nil => cases failed
    | cons head tail inductionHypothesis =>
        rcases mapM_cons_eq_error_iff.mp failed with headFailed | ⟨result, headRead, tailFailed⟩
        · exact ⟨[], head, tail, rfl, by simp, headFailed⟩
        · obtain ⟨earlier, item, later, rfl, succeed, itemFailed⟩ :=
            inductionHypothesis tailFailed
          have headSucceeds : ∀ other ∈ head :: earlier, ∃ result, read other = .ok result :=
            List.forall_mem_cons.mpr ⟨⟨result, headRead⟩, succeed⟩
          exact ⟨head :: earlier, item, later, rfl, headSucceeds, itemFailed⟩
  · rintro ⟨earlier, item, later, rfl, succeed, failed⟩
    induction earlier with
    | nil => exact mapM_cons_eq_error_iff.mpr (Or.inl failed)
    | cons first others inductionHypothesis =>
        obtain ⟨⟨result, firstRead⟩, othersSucceed⟩ := List.forall_mem_cons.mp succeed
        have othersFailed := inductionHypothesis othersSucceed
        exact mapM_cons_eq_error_iff.mpr (Or.inr ⟨result, firstRead, othersFailed⟩)

/-- Reading items and spreading the results is reading what the items spread to. -/
theorem map_flatMap_mapM {γ δ : Type} {read : α → Except ε β} {spread : β → List γ}
    {parts : α → List δ} {readPart : δ → Except ε γ} {items : List α}
    (each : ∀ item ∈ items, (read item).map spread = (parts item).mapM readPart) :
    (items.mapM read).map (List.flatMap spread) = (items.flatMap parts).mapM readPart := by
  induction items with
  | nil => rfl
  | cons item rest inductionHypothesis =>
      have others := inductionHypothesis fun other member =>
        each other (List.mem_cons_of_mem item member)
      rw [List.flatMap_cons, List.mapM_append, List.mapM_cons, ← each item List.mem_cons_self,
        ← others]
      cases read item with
      | error error => rfl
      | ok value =>
          cases rest.mapM read with
          | error error => rfl
          | ok values => rfl

theorem mapM_congr {read reread : α → Except ε β} {items : List α}
    (same : ∀ item ∈ items, read item = reread item) : items.mapM read = items.mapM reread := by
  induction items with
  | nil => rfl
  | cons item rest inductionHypothesis =>
      have others := inductionHypothesis fun other member =>
        same other (List.mem_cons_of_mem item member)
      rw [List.mapM_cons, List.mapM_cons, same item List.mem_cons_self, others]

/-- Lists whose items are read alike are read alike. -/
theorem mapM_eq_of_forall₂ {read : α → Except ε β} {items others : List α}
    (same : List.Forall₂ (fun item other => read item = read other) items others) :
    items.mapM read = others.mapM read := by
  induction same with
  | nil => rfl
  | cons head _ inductionHypothesis =>
      rw [List.mapM_cons, List.mapM_cons, head, inductionHypothesis]

/-- Results that differ by a change of each value differ so as lists. -/
theorem mapM_eq_map_mapM {read reread : α → Except ε β} {change : β → β} {items : List α}
    (each : ∀ item ∈ items, reread item = (read item).map change) :
    items.mapM reread = (items.mapM read).map (List.map change) := by
  induction items with
  | nil => rfl
  | cons item rest inductionHypothesis =>
      have others := inductionHypothesis fun other member =>
        each other (List.mem_cons_of_mem item member)
      rw [List.mapM_cons, List.mapM_cons, each item List.mem_cons_self, others, map_bind,
        bind_of_map]
      simp only [map_bind, bind_of_map]
      rfl

/-- Items are related to results when each item is related to one. -/
theorem exists_forall₂_iff {related : α → β → Prop} {items : List α} :
    (∃ results, List.Forall₂ related items results) ↔
      ∀ item ∈ items, ∃ result, related item result := by
  induction items with
  | nil => simp
  | cons item rest inductionHypothesis =>
      rw [List.forall_mem_cons, ← inductionHypothesis]
      constructor
      · rintro ⟨results, both⟩
        cases both with
        | cons head tail => exact ⟨⟨_, head⟩, _, tail⟩
      · rintro ⟨⟨result, head⟩, results, tail⟩
        exact ⟨result :: results, .cons head tail⟩

theorem exists_of_forall₂ {related : α → β → Prop} {items : List α} {results : List β}
    (each : List.Forall₂ related items results) {item : α} (member : item ∈ items) :
    ∃ result ∈ results, related item result := by
  induction each with
  | nil => cases member
  | cons head _ inductionHypothesis =>
      rcases List.mem_cons.mp member with rfl | inRest
      · exact ⟨_, List.mem_cons_self, head⟩
      · obtain ⟨result, resultMember, tail⟩ := inductionHypothesis inRest
        exact ⟨result, List.mem_cons_of_mem _ resultMember, tail⟩

theorem exists_of_forall₂_right {related : α → β → Prop} {items : List α} {results : List β}
    (each : List.Forall₂ related items results) {result : β} (member : result ∈ results) :
    ∃ item ∈ items, related item result :=
  exists_of_forall₂ (List.Forall₂.flip (R := flip related) each) member

/-- Two relations that hold item by item, one after the other. -/
theorem exists_forall₂_and_iff {γ : Type} {first : α → β → Prop} {second : β → γ → Prop}
    {items : List α} {results : List γ} :
    (∃ middle, List.Forall₂ first items middle ∧ List.Forall₂ second middle results) ↔
      List.Forall₂ (fun item result => ∃ between, first item between ∧ second between result)
        items results := by
  constructor
  · rintro ⟨middle, firstHolds, secondHolds⟩
    induction firstHolds generalizing results with
    | nil =>
        cases secondHolds
        exact .nil
    | cons head _ inductionHypothesis =>
        cases secondHolds with
        | cons secondHead secondTail =>
            exact .cons ⟨_, head, secondHead⟩ (inductionHypothesis secondTail)
  · intro both
    induction both with
    | nil => exact ⟨[], .nil, .nil⟩
    | cons head _ inductionHypothesis =>
        obtain ⟨between, firstHead, secondHead⟩ := head
        obtain ⟨middle, firstTail, secondTail⟩ := inductionHypothesis
        exact ⟨between :: middle, .cons firstHead firstTail, .cons secondHead secondTail⟩

/-- Two results that are both values, related ones, or both errors. -/
inductive Counterparts (related : α → β → Prop) : Except ε α → Except φ β → Prop where
  | ok {left : α} {right : β} (values : related left right) :
      Counterparts related (.ok left) (.ok right)
  | error (left : ε) (right : φ) : Counterparts related (.error left) (.error right)

namespace Counterparts

variable {γ δ : Type} {related : α → β → Prop} {left : Except ε α} {right : Except φ β}

/-- Results are counterparts when each value on one side has its value on the other. -/
theorem of_ok (forward : ∀ value, left = .ok value → ∃ other, right = .ok other ∧
      related value other)
    (backward : ∀ other, right = .ok other → ∃ value, left = .ok value) :
    Counterparts related left right := by
  cases left with
  | ok value =>
      obtain ⟨other, rfl, values⟩ := forward value rfl
      exact .ok values
  | error error =>
      cases right with
      | ok other =>
          obtain ⟨value, impossible⟩ := backward other rfl
          cases impossible
      | error other => exact .error error other

theorem refl {related : α → α → Prop} {result : Except ε α}
    (reflexive : ∀ value, related value value) : Counterparts related result result := by
  cases result with
  | ok value => exact .ok (reflexive value)
  | error error => exact .error error error

theorem exists_ok_iff (counterparts : Counterparts related left right) :
    (∃ value, left = .ok value) ↔ ∃ value, right = .ok value := by
  cases counterparts with
  | ok values => simp
  | error => simp

theorem values {value : α} {other : β} (counterparts : Counterparts related left right)
    (leftOk : left = .ok value) (rightOk : right = .ok other) : related value other := by
  subst leftOk rightOk
  cases counterparts with
  | ok values => exact values

theorem map {change : α → γ} {exchange : β → δ} {changed : γ → δ → Prop}
    (counterparts : Counterparts related left right)
    (keeps : ∀ value other, related value other → changed (change value) (exchange other)) :
    Counterparts changed (left.map change) (right.map exchange) := by
  cases counterparts with
  | ok values => exact .ok (keeps _ _ values)
  | error error other => exact .error error other

/-- Lists of results are counterparts when the results are, item by item. -/
theorem mapM {ι : Type} {read : ι → Except ε α} {reread : ι → Except φ β} {items : List ι}
    (each : ∀ item ∈ items, Counterparts related (read item) (reread item)) :
    Counterparts (List.Forall₂ related) (items.mapM read) (items.mapM reread) := by
  induction items with
  | nil => exact .ok .nil
  | cons item rest inductionHypothesis =>
      have first := each item List.mem_cons_self
      have others := inductionHypothesis fun other member =>
        each other (List.mem_cons_of_mem item member)
      rw [List.mapM_cons, List.mapM_cons]
      generalize read item = head at first
      generalize reread item = rehead at first
      generalize rest.mapM read = tail at others
      generalize rest.mapM reread = retail at others
      cases first with
      | error error other => exact .error error other
      | ok values =>
          cases others with
          | error error other => exact .error error other
          | ok otherValues => exact .ok (.cons values otherValues)

end Counterparts

end RecordFilter
