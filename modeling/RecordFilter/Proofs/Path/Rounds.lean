import RecordFilter.Proofs.Path.Typing
import RecordFilter.Proofs.Path.Untyped
import RecordFilter.Proofs.Record.Layers

/-!
# Resolving round by round

A path may be resolved in rounds. A round looks at the first segment that is left and takes one
step: it opens a list and keeps the segment, it uses the segment up, or it uses up a sentinel and
the key behind it. Every round leaves fewer segments or a smaller type, so the rounds come to an
end, and they come to what the path is resolved to. What holds of one round holds of all of them:
the steps read the segments in order, none of them twice.
-/

namespace RecordFilter

namespace Resolver

variable {resolver : Resolver} {path : String}

/-! ## One round -/

/-- What a round comes to: a step, the type it reaches and the segments that are left. -/
structure Round where
  step : Step
  next : FieldType
  left : List String

/-- One round, for a segment and those behind it. -/
def round (resolver : Resolver) (path : String) (type : FieldType) (segment : String)
    (rest : List String) : Except CompileError Round :=
  let enter := fun (entered : Except CompileError (Step × FieldType)) =>
    entered.map fun (step, next) => Round.mk step next rest
  match type.nonNull with
  | .list element => .ok ⟨.each, element, segment :: rest⟩
  | .object name =>
      let shape := resolver.schema.shape name
      match shape.indexer, rest with
      | some entry, key :: more =>
          if resolver.isSentinel shape segment then .ok ⟨.index key, entry, more⟩
          else enter (enterRecord path shape segment)
      | _, _ => enter (enterRecord path shape segment)
  | other => enter (enterOther path other segment)

/-- How the step of a round reads segments, and which it leaves. -/
inductive Round.Uses (sentinel : Option String) (type : FieldType) (segment : String)
    (rest : List String) : Round → Prop where
  | opens {element : FieldType} (list : type.nonNull = .list element) :
      Uses sentinel type segment rest ⟨.each, element, segment :: rest⟩
  | names {step : Step} (next : FieldType) (named : step.name? = some segment) :
      Uses sentinel type segment rest ⟨step, next, rest⟩
  | skips {key : String} {more : List String} (next : FieldType)
      (marked : sentinel = some segment) (behind : rest = key :: more) :
      Uses sentinel type segment rest ⟨.index key, next, more⟩

theorem uses_of_round {type : FieldType} {segment : String} {rest : List String} {round : Round}
    (taken : resolver.round path type segment rest = .ok round) :
    round.Uses resolver.sentinel type segment rest := by
  have enters : ∀ {entered : Except CompileError (Step × FieldType)},
      (∀ step next, entered = .ok (step, next) → step.name? = some segment) →
      (entered.map fun (step, next) => Round.mk step next rest) = .ok round →
        round.Uses resolver.sentinel type segment rest := by
    intro entered named taken
    obtain ⟨⟨step, next⟩, enteredOk, rfl⟩ := map_eq_ok_iff.mp taken
    exact .names next (named step next enteredOk)
  unfold Resolver.round at taken
  simp only at taken
  split at taken
  next element list =>
      cases taken
      exact .opens list
  next shape record =>
      have named : ∀ step next,
          enterRecord path (resolver.schema.shape shape) segment = .ok (step, next) →
            step.name? = some segment :=
        fun _ _ entered => (hops_of_enterRecord record entered).2
      split at taken
      next entry key more indexer =>
          split at taken
          next sentinel =>
              cases taken
              have marked : resolver.sentinel = some segment := by
                unfold isSentinel at sentinel
                simp only [Bool.and_eq_true, decide_eq_true_eq] at sentinel
                exact sentinel.1
              exact .skips entry marked rfl
          next => exact enters named taken
      next => exact enters named taken
  next =>
      refine enters (fun step next entered => ?_) taken
      have hops : Hops resolver.schema type step next ∧ step.name? = some segment :=
        hops_of_enterOther entered
      exact hops.2

/-- A round leaves fewer segments, or as many and a smaller type. -/
theorem Round.Uses.smaller {sentinel : Option String} {type : FieldType} {segment : String}
    {rest : List String} {round : Round} (uses : round.Uses sentinel type segment rest) :
    Prod.Lex (· < ·) (· < ·) (round.left.length, sizeOf round.next)
      ((segment :: rest).length, sizeOf type) := by
  cases uses with
  | opens list => exact .right _ (FieldType.sizeOf_lt_of_list list)
  | names next named => exact .left _ _ (by simp)
  | @skips key more next marked behind =>
      have fewer : more.length < rest.length := by
        rw [behind, List.length_cons]
        exact Nat.lt_succ_self _
      exact .left _ _ (fewer.trans (Nat.lt_succ_self _))

theorem Round.Uses.left_subset {sentinel : Option String} {type : FieldType} {segment : String}
    {rest : List String} {round : Round} (uses : round.Uses sentinel type segment rest) :
    round.left ⊆ segment :: rest := by
  cases uses with
  | opens list => exact List.Subset.refl _
  | names next named => exact List.subset_cons_self segment rest
  | skips next marked behind =>
      rw [behind]
      exact List.subset_cons_of_subset _ (List.subset_cons_self _ _)

/-! ## All rounds -/

/-- Rounds until no segment is left or one of them fails, and what they come to. -/
inductive Rounds (resolver : Resolver) (path : String) :
    FieldType → List String → Except CompileError (List Step × FieldType) → Prop where
  | stop (type : FieldType) : Rounds resolver path type [] (.ok ([], type))
  | fail {type : FieldType} {segment : String} {rest : List String} {error : CompileError}
      (failed : resolver.round path type segment rest = .error error) :
      Rounds resolver path type (segment :: rest) (.error error)
  | go {type : FieldType} {segment : String} {rest : List String} {round : Round}
      {outcome : Except CompileError (List Step × FieldType)}
      (taken : resolver.round path type segment rest = .ok round)
      (further : Rounds resolver path round.next round.left outcome) :
      Rounds resolver path type (segment :: rest) (after [round.step] outcome)

/-- The rounds come to an end, whatever the types and the segments are. -/
theorem exists_rounds (resolver : Resolver) (path : String) :
    ∀ (type : FieldType) (segments : List String),
      ∃ outcome, resolver.Rounds path type segments outcome
  | type, [] => ⟨_, .stop type⟩
  | type, segment :: rest => by
      cases taken : resolver.round path type segment rest with
      | error error => exact ⟨_, .fail taken⟩
      | ok round =>
          have _smaller := (uses_of_round taken).smaller
          obtain ⟨outcome, further⟩ := exists_rounds resolver path round.next round.left
          exact ⟨_, .go taken further⟩
termination_by type segments => (segments.length, sizeOf type)
decreasing_by exact _smaller

theorem after_after (steps more : List Step)
    (resolved : Except CompileError (List Step × FieldType)) :
    after steps (after more resolved) = after (steps ++ more) resolved := by
  cases resolved with
  | error error => rfl
  | ok reached => simp [after, Except.map]

theorem after_nil (resolved : Except CompileError (List Step × FieldType)) :
    after [] resolved = resolved := by
  cases resolved with
  | error error => rfl
  | ok reached => rfl

/-- Below all list layers, a segment is resolved by one round. -/
theorem follow_eq_after_openLists (type : FieldType) (segment : String) (rest : List String) :
    resolver.follow path type (segment :: rest) =
      after (List.replicate type.openLists.1 .each)
        ((resolver.round path type.openLists.2 segment rest).bind fun round =>
          after [round.step] (resolver.follow path round.next round.left)) := by
  have noList := type.nonNull_openLists_ne_list
  have enters : ∀ entered : Except CompileError (Step × FieldType),
      (entered.bind fun (step, reached) =>
          after (List.replicate type.openLists.1 .each ++ [step])
            (resolver.follow path reached rest)) =
        after (List.replicate type.openLists.1 .each)
          ((entered.map fun (step, next) => Round.mk step next rest).bind fun round =>
            after [round.step] (resolver.follow path round.next round.left)) := by
    intro entered
    cases entered with
    | error error => rfl
    | ok hop => exact (after_after _ _ _).symm
  rw [follow, round]
  simp only
  generalize type.openLists.2.nonNull = base at noList
  cases base with
  | list element => exact absurd rfl (noList element)
  | object name =>
      simp only
      cases (resolver.schema.shape name).indexer with
      | none => exact enters _
      | some entry =>
          cases rest with
          | nil => exact enters _
          | cons key more =>
              simp only
              split
              · exact (after_after _ _ _).symm
              · exact enters _
  | _ => exact enters _

/-- Following segments begins with one round. -/
theorem follow_cons (type : FieldType) (segment : String) (rest : List String) :
    resolver.follow path type (segment :: rest) =
      (resolver.round path type segment rest).bind fun round =>
        after [round.step] (resolver.follow path round.next round.left) := by
  by_cases layered : ∃ element, type.nonNull = .list element
  · obtain ⟨element, list⟩ := layered
    have opened : resolver.round path type segment rest =
        .ok ⟨.each, element, segment :: rest⟩ := by
      simp only [round, list]
    rw [opened, Except.bind, follow_eq_after_openLists, follow_eq_after_openLists element,
      FieldType.openLists_of_list list, after_after]
    rfl
  · have opened := FieldType.openLists_of_not_list fun element list => layered ⟨element, list⟩
    rw [follow_eq_after_openLists, opened, List.replicate_zero, after_nil]

theorem eq_follow_of_rounds {type : FieldType} {segments : List String}
    {outcome : Except CompileError (List Step × FieldType)}
    (rounds : resolver.Rounds path type segments outcome) :
    outcome = resolver.follow path type segments := by
  induction rounds with
  | stop type => rfl
  | fail failed =>
      rw [follow_cons, failed]
      rfl
  | go taken _ inductionHypothesis =>
      rw [follow_cons, taken, inductionHypothesis]
      rfl

/-- Following segments is what the rounds come to. -/
theorem rounds_follow (resolver : Resolver) (path : String) (type : FieldType)
    (segments : List String) :
    resolver.Rounds path type segments (resolver.follow path type segments) := by
  obtain ⟨outcome, rounds⟩ := exists_rounds resolver path type segments
  exact eq_follow_of_rounds rounds ▸ rounds

/-! ## What the steps read -/

/-- Steps read segments in order: each of them its own segment, and an indexer step possibly the
sentinel before its key. -/
inductive Reads (sentinel : Option String) : List Step → List String → Prop where
  | nil : Reads sentinel [] []
  | named {step : Step} {segment : String} {steps : List Step} {segments : List String}
      (named : step.name? = some segment) (further : Reads sentinel steps segments) :
      Reads sentinel (step :: steps) (segment :: segments)
  | marked {mark key : String} {steps : List Step} {segments : List String}
      (marked : sentinel = some mark) (further : Reads sentinel steps segments) :
      Reads sentinel (.index key :: steps) (mark :: key :: segments)

theorem Reads.steps_ne_nil {sentinel : Option String} {steps : List Step}
    {segments : List String} (reads : Reads sentinel steps segments) (some : segments ≠ []) :
    steps ≠ [] := by
  cases reads with
  | nil => exact absurd rfl some
  | named _ _ | marked _ _ => exact List.cons_ne_nil _ _

/-- The steps of all rounds read all segments. -/
theorem reads_of_rounds {type : FieldType} {segments : List String}
    {outcome : Except CompileError (List Step × FieldType)}
    (rounds : resolver.Rounds path type segments outcome) {steps : List Step}
    {target : FieldType} (reached : outcome = .ok (steps, target)) :
    Reads resolver.sentinel (steps.filter (· ≠ .each)) segments := by
  induction rounds generalizing steps with
  | stop type =>
      cases reached
      exact .nil
  | fail failed => cases reached
  | go taken _ inductionHypothesis =>
      obtain ⟨more, further, rfl⟩ := after_eq_ok_iff.mp reached
      have reads := inductionHypothesis further
      cases uses_of_round taken with
      | opens list => exact reads
      | @names step next named =>
          have noEach : step ≠ .each := by
            rintro rfl
            cases named
          rw [List.singleton_append, List.filter_cons_of_pos (by simpa using noEach)]
          exact .named named reads
      | skips next marked behind =>
          subst behind
          exact .marked marked reads

/-- A round that opens a list leaves its segment to the steps behind it. -/
theorem each_followed_of_rounds {type : FieldType} {segments : List String}
    {outcome : Except CompileError (List Step × FieldType)}
    (rounds : resolver.Rounds path type segments outcome) {steps : List Step}
    {target : FieldType} (reached : outcome = .ok (steps, target)) :
    ∀ before behind, steps = before ++ .each :: behind → behind ≠ [] := by
  induction rounds generalizing steps with
  | stop type =>
      cases reached
      intro before behind empty
      simp at empty
  | fail failed => cases reached
  | go taken further inductionHypothesis =>
      obtain ⟨more, moreReached, rfl⟩ := after_eq_ok_iff.mp reached
      intro before behind split
      cases before with
      | cons step before =>
          exact inductionHypothesis moreReached before behind (List.cons.inj split).2
      | nil =>
          obtain ⟨isEach, rfl⟩ := List.cons.inj split
          cases uses_of_round taken with
          | opens list =>
              have reads := reads_of_rounds further moreReached
              rintro rfl
              exact reads.steps_ne_nil (List.cons_ne_nil _ _) rfl
          | @names step next named =>
              obtain rfl : step = .each := isEach
              cases named
          | skips next marked behind => cases isEach

/-! ## The sentinel -/

/-- The resolver for which no segment names an indexer. -/
def withoutSentinel (resolver : Resolver) : Resolver :=
  { resolver with sentinel := none }

theorem round_withoutSentinel {segment : String} (unmarked : resolver.sentinel ≠ some segment)
    (type : FieldType) (rest : List String) :
    resolver.withoutSentinel.round path type segment rest =
      resolver.round path type segment rest := by
  have noSentinel : ∀ shape, resolver.isSentinel shape segment = false := by
    intro shape
    rw [isSentinel, decide_eq_false unmarked, Bool.false_and]
  have neverSentinel : ∀ shape, resolver.withoutSentinel.isSentinel shape segment = false :=
    fun _ => rfl
  unfold round
  simp only [noSentinel, neverSentinel]
  rfl

/-- Rounds over segments that are not the sentinel are rounds without it. -/
theorem Rounds.withoutSentinel {type : FieldType} {segments : List String}
    {outcome : Except CompileError (List Step × FieldType)}
    (rounds : resolver.Rounds path type segments outcome)
    (unmarked : ∀ segment ∈ segments, resolver.sentinel ≠ some segment) :
    resolver.withoutSentinel.Rounds path type segments outcome := by
  induction rounds with
  | stop type => exact .stop type
  | fail failed =>
      have head := unmarked _ List.mem_cons_self
      exact .fail ((round_withoutSentinel head _ _).trans failed)
  | go taken _ inductionHypothesis =>
      have head := unmarked _ List.mem_cons_self
      have left := (uses_of_round taken).left_subset
      exact .go ((round_withoutSentinel head _ _).trans taken)
        (inductionHypothesis fun segment member => unmarked segment (left member))

theorem follow_withoutSentinel {segments : List String}
    (unmarked : ∀ segment ∈ segments, resolver.sentinel ≠ some segment) (type : FieldType) :
    resolver.withoutSentinel.follow path type segments = resolver.follow path type segments :=
  (eq_follow_of_rounds ((rounds_follow resolver path type segments).withoutSentinel unmarked)).symm

/-! ## Paths -/

/-- A path is resolved in finitely many rounds, whatever the shapes and the sentinel are. The steps
of its chain but the list hops read its segments in order, each of them once, and leave out only
sentinels before the key of an indexer; a list hop is never the last step. A sentinel that is none
of the segments makes no difference. -/
theorem resolve_reads_each_segment_once (resolver : Resolver) (root : FieldType) (path : String) :
    (∃ outcome, resolver.Rounds (Text.trim path) root (segmentsOf path) outcome ∧
      resolver.resolve root path =
        if (segmentsOf path).any String.isEmpty then
          .error (.unresolvableField (Text.trim path) "")
        else
          outcome.map fun (steps, target) =>
            ⟨Text.trim path, steps, target, resolver.nullGuard⟩) ∧
    (∀ chain, resolver.resolve root path = .ok chain →
      Reads resolver.sentinel (chain.steps.filter (· ≠ .each)) (segmentsOf path) ∧
      ∀ before behind, chain.steps = before ++ .each :: behind → behind ≠ []) ∧
    ((∀ segment ∈ segmentsOf path, resolver.sentinel ≠ some segment) →
      resolver.resolve root path = resolver.withoutSentinel.resolve root path) := by
  have rounds := rounds_follow resolver (Text.trim path) root (segmentsOf path)
  refine ⟨⟨_, rounds, ?_⟩, ?_, ?_⟩
  · rw [resolve_eq_follow, segmentsOf_trim]
  · intro chain resolved
    obtain ⟨_, steps, target, reached, rfl⟩ := resolve_eq_ok_iff.mp resolved
    rw [segmentsOf_trim] at reached
    exact ⟨reads_of_rounds rounds reached, each_followed_of_rounds rounds reached⟩
  · intro unmarked
    rw [resolve_eq_follow, resolve_eq_follow, segmentsOf_trim, follow_withoutSentinel unmarked]
    rfl

/-- Records whose indexer leads to lists of such records. -/
def treeSchema : Schema :=
  ⟨[⟨"Tree", [], some (.list (.nullable (.object "Tree")))⟩]⟩

theorem tree_rounds (path : String) :
    Rounds ⟨treeSchema, some "Item", true⟩ path (.object "Tree")
      ["Item", "a", "Item", "Item", "Item"]
      (.ok ([.index "a", .each, .index "Item", .each, .index "Item"],
        .list (.nullable (.object "Tree")))) := by
  have shape : treeSchema.shape "Tree" =
      ⟨"Tree", [], some (.list (.nullable (.object "Tree")))⟩ := rfl
  have marked : Resolver.round ⟨treeSchema, some "Item", true⟩ path
      (.object "Tree") "Item" ["a", "Item", "Item", "Item"] = .ok
        ⟨.index "a", .list (.nullable (.object "Tree")), ["Item", "Item", "Item"]⟩ := by
    simp [round, FieldType.nonNull, shape, isSentinel, Shape.find?]
  have markedAgain : Resolver.round ⟨treeSchema, some "Item", true⟩ path
      (.nullable (.object "Tree")) "Item" ["Item", "Item"] = .ok
        ⟨.index "Item", .list (.nullable (.object "Tree")), ["Item"]⟩ := by
    simp [round, FieldType.nonNull, shape, isSentinel, Shape.find?]
  -- The sentinel at the end has no key behind it and is an entry of the indexer itself.
  exact .go marked (.go rfl (.go markedAgain (.go rfl (.go rfl (.stop _)))))

/-- A path that names the indexer three times: as the prefix of a key, as the key behind another
prefix, and at its end. -/
theorem resolve_reads_each_segment_once_tree :
    let resolver : Resolver := ⟨treeSchema, some "Item", true⟩
    let steps : List Step := [.index "a", .each, .index "Item", .each, .index "Item"]
    resolver.resolve (.object "Tree") "Item. a .Item.Item. Item " =
        .ok ⟨"Item. a .Item.Item. Item", steps, .list (.nullable (.object "Tree")), true⟩ ∧
      Reads (some "Item") (steps.filter (· ≠ .each)) ["Item", "a", "Item", "Item", "Item"] ∧
      (∀ before behind, steps = before ++ .each :: behind → behind ≠ []) ∧
      resolver.resolve (.object "Tree") "a.b" =
        resolver.withoutSentinel.resolve (.object "Tree") "a.b" := by
  have trimmed : Text.trim "Item. a .Item.Item. Item " = "Item. a .Item.Item. Item" := by
    decide +kernel
  have split : segmentsOf "Item. a .Item.Item. Item " =
      ["Item", "a", "Item", "Item", "Item"] := by
    decide +kernel
  have apart : segmentsOf "a.b" = ["a", "b"] := by decide +kernel
  have resolved : Resolver.resolve ⟨treeSchema, some "Item", true⟩ (.object "Tree")
      "Item. a .Item.Item. Item " =
        .ok ⟨"Item. a .Item.Item. Item",
          [.index "a", .each, .index "Item", .each, .index "Item"],
          .list (.nullable (.object "Tree")), true⟩ := by
    rw [resolve_eq_follow, segmentsOf_trim, trimmed, split, ← eq_follow_of_rounds (tree_rounds _)]
    rfl
  have reads := (resolve_reads_each_segment_once ⟨treeSchema, some "Item", true⟩
    (.object "Tree") "Item. a .Item.Item. Item ").2.1 _ resolved
  rw [split] at reads
  refine ⟨resolved, reads.1, reads.2, ?_⟩
  refine (resolve_reads_each_segment_once ⟨treeSchema, some "Item", true⟩
    (.object "Tree") "a.b").2.2 ?_
  rw [apart]
  decide

end Resolver

end RecordFilter
