import RecordFilter.Proofs.Path.Exchange
import RecordFilter.Proofs.Path.Untyped

/-!
# Paths that go one segment further

A path that is one segment longer than another ends with that segment. As long as its chain
goes the way of the shorter one it meets what that one meets: what stops the one before its
end stops the other at the same place.
-/

namespace RecordFilter

/-! ## Types -/

section Types

variable {schema : Schema} {type next other middle target : FieldType} {step : Step}
  {steps : List Step}

theorem Hops.target_unique (hops : Hops schema type step next)
    (otherHops : Hops schema type step other) : next = other := by
  cases hops with
  | member record declared =>
      cases otherHops with
      | member otherRecord otherDeclared =>
          cases record.symm.trans otherRecord
          exact Option.some.inj (declared.symm.trans otherDeclared)
  | index key record indexer =>
      cases otherHops with
      | index _ otherRecord otherIndexer =>
          cases record.symm.trans otherRecord
          exact Option.some.inj (indexer.symm.trans otherIndexer)
  | key key map =>
      cases otherHops with
      | key _ otherMap =>
          cases map.symm.trans otherMap
          rfl
  | each list =>
      cases otherHops with
      | each otherList =>
          cases list.symm.trans otherList
          rfl
  | dynamic name any =>
      cases otherHops with
      | dynamic _ _ => rfl

theorem Hops.exists_key {keys : KeyKind} (hops : Hops schema type step next)
    (map : type.nonNull = .map keys other) : ∃ name, step = .key name := by
  cases hops with
  | key name _ => exact ⟨name, rfl⟩
  | member record _ | index _ record _ =>
      rw [map] at record
      cases record
  | each list =>
      rw [map] at list
      cases list
  | dynamic _ any =>
      rw [map] at any
      cases any

/-- A step after others starts at the type they lead to. -/
theorem Leads.hops_last (leads : Leads schema type steps middle)
    (longer : Leads schema type (steps ++ [step]) target) :
    Hops schema middle step target := by
  induction leads with
  | stop type =>
      cases longer with
      | step hop further =>
          cases further
          exact hop
  | step hop _ inductionHypothesis =>
      cases longer with
      | step otherHop further =>
          cases hop.target_unique otherHop
          exact inductionHypothesis further

theorem Leads.typed (leads : Leads schema type steps target) (typed : target ≠ .any) :
    ∀ step ∈ steps, step.isDynamic = false := by
  induction leads with
  | stop type => exact fun step member => absurd member List.not_mem_nil
  | step hop further inductionHypothesis =>
      refine List.forall_mem_cons.mpr ⟨?_, inductionHypothesis typed⟩
      cases hop with
      | dynamic name any => exact absurd (further.target_of_any rfl) typed
      | member _ _ | index _ _ _ | key _ _ | each _ => rfl

end Types

/-! ## Segments -/

namespace Follows

variable {resolver : Resolver} {type target : FieldType} {segments : List String}
  {steps : List Step}

theorem segments_of_nil (follows : Follows resolver type segments [] target) :
    segments = [] := by
  generalize none : ([] : List Step) = steps at follows
  cases follows with
  | stop type => rfl
  | enter _ _ _ | sentinel _ _ _ => simp at none

/-- When the last step is named, it is named by the last segment. -/
theorem getLast?_segments (follows : Follows resolver type segments steps target) {step : Step}
    {name : String} (last : steps.getLast? = some step) (named : step.name? = some name) :
    segments.getLast? = some name := by
  induction follows with
  | stop type => cases last
  | @enter type next target segment rest entered steps hop enteredNamed further
      inductionHypothesis =>
      rw [List.getLast?_append, List.getLast?_cons] at last
      cases lastOfRest : steps.getLast? with
      | none =>
          rw [lastOfRest] at last
          cases last
          rw [List.getLast?_eq_none_iff] at lastOfRest
          subst lastOfRest
          rw [further.segments_of_nil]
          exact enteredNamed.symm.trans named
      | some other =>
          rw [lastOfRest] at last
          rw [List.getLast?_cons, inductionHypothesis (lastOfRest.trans last)]
          rfl
  | @sentinel type next target segment key rest steps marked hop further inductionHypothesis =>
      rw [List.getLast?_append, List.getLast?_cons] at last
      cases lastOfRest : steps.getLast? with
      | none =>
          rw [lastOfRest] at last
          cases last
          rw [List.getLast?_eq_none_iff] at lastOfRest
          subst lastOfRest
          rw [further.segments_of_nil]
          exact named
      | some other =>
          rw [lastOfRest] at last
          rw [List.getLast?_cons, List.getLast?_cons, inductionHypothesis (lastOfRest.trans last)]
          rfl

end Follows

namespace Resolver

variable {path key : String}

theorem resolve_trim (resolver : Resolver) (root : FieldType) (path : String) :
    resolver.resolve root (Text.trim path) = resolver.resolve root path := by
  unfold resolve
  rw [Text.trim_trim]

/-- A text without points and without blanks around it is a segment of its own. -/
theorem segmentsOf_append (trimmed : Text.trim key = key) (whole : '.' ∉ key.toList) :
    segmentsOf (path ++ "." ++ key) = segmentsOf path ++ [key] := by
  have free : ∀ c ∈ key.toList, c ≠ '.' := by
    rintro c member rfl
    exact whole member
  have joined : (path ++ "." ++ key).toList = path.toList ++ '.' :: key.toList := by
    simp
  have alone : Text.splitAt '.' key.toList = [key.toList] := by
    have split : Text.splitAt '.' (key.toList ++ []) = [key.toList ++ []] :=
      Text.splitAt_append_left free rfl
    simpa using split
  unfold segmentsOf
  rw [joined, Text.splitAt_append, alone, List.map_append]
  unfold Text.trim at trimmed
  rw [List.map_singleton, trimmed]

theorem trim_append_ne (trimmed : Text.trim key = key) (whole : '.' ∉ key.toList) :
    Text.trim (path ++ "." ++ key) ≠ Text.trim path := by
  intro same
  have segments := congrArg segmentsOf same
  rw [segmentsOf_trim, segmentsOf_trim, segmentsOf_append trimmed whole] at segments
  simp at segments

end Resolver

/-! ## Outcomes -/

namespace Chain

variable {chain longer : Chain} {more : List Step}

/-- The outcomes of a chain without branches, and those of a chain that takes more steps. -/
inductive Prolongs (chain longer : Chain) (more : List Step) :
    List Outcome → List Outcome → Prop where
  | reached (value : Value) :
      Prolongs chain longer more [.reached value] (longer.outcomesFrom more value)
  | dropped (cause : Drop) : Prolongs chain longer more [.dropped cause] [.dropped cause]
  | failed (error : EvalError) (further : List Outcome) (own : error.path = chain.path) :
      Prolongs chain longer more [.failed error] further

theorem prolongs_null (sameGuard : longer.nullGuard = chain.nullGuard) (step : Step) :
    Prolongs chain longer more [chain.nullOutcome step] [longer.nullOutcome step] := by
  unfold nullOutcome
  rw [sameGuard]
  by_cases guarded : chain.nullGuard = true
  · rw [if_pos guarded, if_pos guarded]
    exact .dropped _
  · rw [if_neg guarded, if_neg guarded]
    exact .failed _ _ rfl

/-- The induction is on the common steps; each hop either ends both ways or takes both on. -/
theorem prolongs_outcomesFrom (sameGuard : longer.nullGuard = chain.nullGuard)
    {steps : List Step} (typed : ∀ step ∈ steps, step.isDynamic = false)
    (noEach : .each ∉ steps) (value : Value) :
    Prolongs chain longer more (chain.outcomesFrom steps value)
      (longer.outcomesFrom (steps ++ more) value) := by
  induction steps generalizing value with
  | nil => exact .reached value
  | cons step rest inductionHypothesis =>
      obtain ⟨stepTyped, restTyped⟩ := List.forall_mem_cons.mp typed
      rw [List.mem_cons, not_or] at noEach
      rw [List.cons_append, outcomesFrom_typed chain stepTyped,
        outcomesFrom_typed longer stepTyped]
      by_cases null : value.isNull = true
      · rw [if_pos null, if_pos null]
        exact prolongs_null sameGuard step
      · rw [if_neg null, if_neg null]
        cases hop : step.hop value with
        | found next => exact inductionHypothesis restTyped noEach.2 next
        | items items => exact absurd hop (step.hop_ne_items (Ne.symm noEach.1) value items)
        | missingKey key => exact .failed _ _ rfl
        | missingMember => exact .dropped _
        | wrongKind => exact .dropped _

theorem exists_reached_of_containsKey {key : String} {value : Value}
    (contains : value.containsKey key = true) :
    ∃ found, chain.outcomesFrom [.key key] value = [.reached found] := by
  obtain ⟨found, entry⟩ := Option.isSome_iff_exists.mp contains
  have met : value.isNull = false ∧ (Step.key key).hop value = .found found := by
    cases value with
    | map entries =>
        have entered : (Step.key key).hop (.map entries) =
            .ofEntry key (Value.entry? (.map entries) key) := rfl
        exact ⟨rfl, by rw [entered, entry]; rfl⟩
    | intMap entries =>
        have entered : (Step.key key).hop (.intMap entries) =
            .ofEntry key (Value.entry? (.intMap entries) key) := rfl
        exact ⟨rfl, by rw [entered, entry]; rfl⟩
    | null | bool _ | int _ | double _ | text _ | dateTime _ | guid _ | enum _ _ | list _
    | object _ _ => cases entry
  rw [outcomesFrom_typed chain rfl, if_neg (ne_true_of_eq_false met.1), met.2]
  exact ⟨found, rfl⟩

end Chain

end RecordFilter
