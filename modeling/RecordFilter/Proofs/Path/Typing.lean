import Mathlib.Logic.Function.Iterate
import RecordFilter.Path.Resolve
import RecordFilter.Proofs.Except

/-!
# The static types of chains

Every step of a chain leads from one field type to another, whatever nullable wrappers stand
around the first. The chain of a resolved path is typed in this way from the type it was
resolved against to its target.
-/

namespace RecordFilter

namespace Step

/-- The segment that a step was made for; list hops have none. -/
def name? : Step → Option String
  | member name | key name | index name | dynamic name => some name
  | each => none

end Step

/-- The type that one step leads to. -/
inductive Hops (schema : Schema) : FieldType → Step → FieldType → Prop where
  | member {type next : FieldType} {shape name : String} (record : type.nonNull = .object shape)
      (declared : (schema.shape shape).find? name = some next) :
      Hops schema type (.member name) next
  | index {type next : FieldType} {shape : String} (key : String)
      (record : type.nonNull = .object shape)
      (indexer : (schema.shape shape).indexer = some next) :
      Hops schema type (.index key) next
  | key {type next : FieldType} (key : String) (map : type.nonNull = .map .text next) :
      Hops schema type (.key key) next
  | each {type next : FieldType} (list : type.nonNull = .list next) :
      Hops schema type .each next
  | dynamic {type : FieldType} (name : String) (any : type.nonNull = .any) :
      Hops schema type (.dynamic name) .any

/-- The type that steps lead to, one after the other. -/
inductive Leads (schema : Schema) : FieldType → List Step → FieldType → Prop where
  | stop (type : FieldType) : Leads schema type [] type
  | step {type next target : FieldType} {step : Step} {rest : List Step}
      (hop : Hops schema type step next) (further : Leads schema next rest target) :
      Leads schema type (step :: rest) target

namespace Leads

variable {schema : Schema} {type middle target : FieldType} {steps more : List Step}

theorem append (first : Leads schema type steps middle)
    (second : Leads schema middle more target) :
    Leads schema type (steps ++ more) target := by
  induction first with
  | stop type => exact second
  | step hop _ inductionHypothesis => exact .step hop (inductionHypothesis second)

theorem single {step : Step} (hop : Hops schema type step target) :
    Leads schema type [step] target :=
  .step hop (.stop target)

/-- Untyped values lead to untyped values only. -/
theorem target_of_any (leads : Leads schema type steps target) (untyped : type = .any) :
    target = .any := by
  induction leads with
  | stop type => exact untyped
  | step hop _ inductionHypothesis =>
      subst untyped
      cases hop with
      | dynamic name any => exact inductionHypothesis rfl
      | member record _ | index _ record _ => cases record
      | key _ map => cases map
      | each list => cases list

/-- Opening list layers from a type on; `whole` is the type with its nullable wrappers. -/
theorem openListsFrom (type : FieldType) :
    ∀ whole : FieldType, whole.nonNull = type.nonNull →
      Leads schema whole (List.replicate (type.openListsFrom whole).1 .each)
        (type.openListsFrom whole).2 := by
  induction type with
  | nullable inner inductionHypothesis =>
      intro whole same
      exact inductionHypothesis whole same
  | list element inductionHypothesis =>
      intro whole same
      exact .step (.each same) (inductionHypothesis element rfl)
  | int | long | double | bool | text | date | dateTime | guid | enum _ | object _ | any =>
      exact fun whole _ => .stop whole
  | map _ _ _ => exact fun whole _ => .stop whole

/-- List hops lead through the list layers of a type to its innermost elements. -/
theorem openLists (type : FieldType) :
    Leads schema type (List.replicate type.openLists.1 .each) type.openLists.2 :=
  openListsFrom type type rfl

end Leads

/-- How segments are resolved one after the other: list layers are opened, then a segment is
entered, or a sentinel and the key after it are. -/
inductive Follows (resolver : Resolver) :
    FieldType → List String → List Step → FieldType → Prop where
  | stop (type : FieldType) : Follows resolver type [] [] type
  | enter {type next target : FieldType} {segment : String} {rest : List String} {step : Step}
      {steps : List Step} (hop : Hops resolver.schema type.openLists.2 step next)
      (named : step.name? = some segment) (further : Follows resolver next rest steps target) :
      Follows resolver type (segment :: rest)
        (List.replicate type.openLists.1 .each ++ step :: steps) target
  | sentinel {type next target : FieldType} {segment key : String} {rest : List String}
      {steps : List Step} (marked : resolver.sentinel = some segment)
      (hop : Hops resolver.schema type.openLists.2 (.index key) next)
      (further : Follows resolver next rest steps target) :
      Follows resolver type (segment :: key :: rest)
        (List.replicate type.openLists.1 .each ++ .index key :: steps) target

theorem Follows.leads {resolver : Resolver} {type target : FieldType}
    {segments : List String} {steps : List Step}
    (follows : Follows resolver type segments steps target) :
    Leads resolver.schema type steps target := by
  induction follows with
  | stop type => exact .stop type
  | enter hop _ _ inductionHypothesis =>
      exact (Leads.openLists _).append (.step hop inductionHypothesis)
  | sentinel _ hop _ inductionHypothesis =>
      exact (Leads.openLists _).append (.step hop inductionHypothesis)

namespace Resolver

variable {resolver : Resolver} {path : String}

theorem hops_of_enterRecord {type next : FieldType} {shape segment : String} {step : Step}
    (record : type.nonNull = .object shape)
    (entered : enterRecord path (resolver.schema.shape shape) segment = .ok (step, next)) :
    Hops resolver.schema type step next ∧ step.name? = some segment := by
  unfold enterRecord at entered
  split at entered
  next declared =>
      cases entered
      exact ⟨.member record declared, rfl⟩
  next indexer =>
      cases entered
      exact ⟨.index segment record indexer, rfl⟩
  next => cases entered

theorem hops_of_enterOther {schema : Schema} {type next : FieldType} {segment : String}
    {step : Step} (entered : enterOther path type.nonNull segment = .ok (step, next)) :
    Hops schema type step next ∧ step.name? = some segment := by
  unfold enterOther at entered
  split at entered
  next map =>
      cases entered
      exact ⟨.key segment map, rfl⟩
  next => cases entered
  next any =>
      cases entered
      exact ⟨.dynamic segment any, rfl⟩
  next => cases entered

theorem after_eq_ok_iff {steps joined : List Step} {target : FieldType}
    {resolved : Except CompileError (List Step × FieldType)} :
    after steps resolved = .ok (joined, target) ↔
      ∃ more, resolved = .ok (more, target) ∧ joined = steps ++ more := by
  unfold after
  rw [map_eq_ok_iff]
  constructor
  · rintro ⟨⟨more, reached⟩, resolved, equality⟩
    cases equality
    exact ⟨more, resolved, rfl⟩
  · rintro ⟨more, resolved, rfl⟩
    exact ⟨(more, target), resolved, rfl⟩

/-- Every way to resolve a segment but the sentinel enters it and goes on from there. -/
private theorem follows_of_entered {type target : FieldType} {segment : String}
    {rest : List String} {steps : List Step}
    {entered : Except CompileError (Step × FieldType)}
    (hops : ∀ step next, entered = .ok (step, next) →
      Hops resolver.schema type.openLists.2 step next ∧ step.name? = some segment)
    (further : ∀ {next : FieldType} {more : List Step},
      resolver.follow path next rest = .ok (more, target) →
        Follows resolver next rest more target)
    (followed :
      (entered.bind fun (step, reached) =>
        after (List.replicate type.openLists.1 .each ++ [step])
          (follow resolver path reached rest)) = .ok (steps, target)) :
    Follows resolver type (segment :: rest) steps target := by
  obtain ⟨⟨step, next⟩, enteredOk, equality⟩ := bind_eq_ok_iff.mp followed
  obtain ⟨more, restOk, rfl⟩ := after_eq_ok_iff.mp equality
  obtain ⟨hop, named⟩ := hops step next enteredOk
  rw [List.append_assoc]
  exact .enter hop named (further restOk)

theorem follows_of_follow {target : FieldType} :
    ∀ {segments : List String} {type : FieldType} {steps : List Step},
      resolver.follow path type segments = .ok (steps, target) →
        Follows resolver type segments steps target
  | [], type, steps, followed => by
      cases followed
      exact .stop target
  | segment :: rest, type, steps, followed => by
      unfold follow at followed
      simp only at followed
      split at followed
      next shape record =>
          have hops : ∀ step next,
              enterRecord path (resolver.schema.shape shape) segment = .ok (step, next) →
                Hops resolver.schema type.openLists.2 step next ∧ step.name? = some segment :=
            fun _ _ => hops_of_enterRecord record
          split at followed
          next entry key more indexer =>
              split at followed
              next marked =>
                  obtain ⟨tail, restOk, rfl⟩ := after_eq_ok_iff.mp followed
                  -- The sentinel uses up two segments, so this case calls itself on `more`.
                  rw [List.append_assoc]
                  have sentinel : resolver.sentinel = some segment := by
                    unfold isSentinel at marked
                    simp only [Bool.and_eq_true, decide_eq_true_eq] at marked
                    exact marked.1
                  exact .sentinel sentinel (.index key record indexer)
                    (follows_of_follow restOk)
              next => exact follows_of_entered hops follows_of_follow followed
          next => exact follows_of_entered hops follows_of_follow followed
      next =>
          exact follows_of_entered (fun _ _ => hops_of_enterOther) follows_of_follow followed

/-- A declared member is entered, also when the record has an indexer. -/
theorem follow_member {type next target : FieldType} {shape segment : String}
    {rest : List String} {steps : List Step}
    (record : type.openLists.2.nonNull = .object shape)
    (declared : (resolver.schema.shape shape).find? segment = some next)
    (further : resolver.follow path next rest = .ok (steps, target)) :
    resolver.follow path type (segment :: rest) =
      .ok (List.replicate type.openLists.1 .each ++ .member segment :: steps, target) := by
  have entered : enterRecord path (resolver.schema.shape shape) segment =
      .ok (.member segment, next) := by
    unfold enterRecord
    rw [declared]
  have noSentinel : resolver.isSentinel (resolver.schema.shape shape) segment = false := by
    simp [isSentinel, declared]
  have proceeds : after (List.replicate type.openLists.1 .each ++ [.member segment])
      (resolver.follow path next rest) =
        .ok (List.replicate type.openLists.1 .each ++ .member segment :: steps, target) :=
    after_eq_ok_iff.mpr ⟨steps, further, by simp⟩
  rw [follow]
  simp only [record, entered, noSentinel, Except.bind, proceeds]
  split
  · rfl
  · rfl

/-- Resolving a path follows its segments, unless one of them is empty. -/
theorem resolve_eq_follow (resolver : Resolver) (root : FieldType) (path : String) :
    resolver.resolve root path =
      if (segmentsOf (Text.trim path)).any String.isEmpty then
        .error (.unresolvableField (Text.trim path) "")
      else
        (resolver.follow (Text.trim path) root (segmentsOf (Text.trim path))).map
          fun (steps, target) => ⟨Text.trim path, steps, target, resolver.nullGuard⟩ := by
  unfold resolve
  simp only
  split
  · rfl
  · cases resolver.follow (Text.trim path) root (segmentsOf (Text.trim path)) with
    | error error => rfl
    | ok reached => rfl

theorem resolve_eq_ok_iff {root : FieldType} {chain : Chain} :
    resolver.resolve root path = .ok chain ↔
      (segmentsOf (Text.trim path)).any String.isEmpty = false ∧
        ∃ steps target,
          resolver.follow (Text.trim path) root (segmentsOf (Text.trim path)) =
              .ok (steps, target) ∧
            chain = ⟨Text.trim path, steps, target, resolver.nullGuard⟩ := by
  rw [resolve_eq_follow]
  split
  next empty => simp [empty]
  next named =>
      rw [map_eq_ok_iff, Prod.exists]
      simp only [eq_comm, eq_false_of_ne_true named, true_and]

theorem resolve_eq_ok {root : FieldType} {chain : Chain}
    (resolved : resolver.resolve root path = .ok chain) :
    Follows resolver root (segmentsOf (Text.trim path)) chain.steps chain.target ∧
      chain.path = Text.trim path ∧ chain.nullGuard = resolver.nullGuard := by
  obtain ⟨_, steps, target, followed, rfl⟩ := resolve_eq_ok_iff.mp resolved
  exact ⟨follows_of_follow followed, rfl, rfl⟩

/-- Only paths without empty segments resolve. -/
theorem segments_of_resolve {root : FieldType} {chain : Chain}
    (resolved : resolver.resolve root path = .ok chain) :
    (segmentsOf (Text.trim path)).any String.isEmpty = false :=
  (resolve_eq_ok_iff.mp resolved).1

theorem trim_ne_of_resolve {root : FieldType} {chain : Chain}
    (resolved : resolver.resolve root path = .ok chain) : Text.trim path ≠ "" := by
  intro blank
  have segments := segments_of_resolve resolved
  rw [blank] at segments
  exact absurd segments (by decide +kernel)

theorem resolve_of_follow {root target : FieldType} {segments : List String}
    {steps : List Step} (split : segmentsOf (Text.trim path) = segments)
    (named : segments.any String.isEmpty = false)
    (followed : resolver.follow (Text.trim path) root segments = .ok (steps, target)) :
    resolver.resolve root path =
      .ok ⟨Text.trim path, steps, target, resolver.nullGuard⟩ := by
  subst split
  exact resolve_eq_ok_iff.mpr ⟨named, steps, target, followed, rfl⟩

/-- A path without blanks around it is resolved as it is written. -/
theorem resolve_of_trimmed {root target : FieldType} {segments : List String}
    {steps : List Step} (trimmed : Text.trim path = path) (split : segmentsOf path = segments)
    (named : segments.any String.isEmpty = false)
    (followed : resolver.follow path root segments = .ok (steps, target)) :
    resolver.resolve root path = .ok ⟨path, steps, target, resolver.nullGuard⟩ := by
  rw [← trimmed] at split followed
  have resolved := resolve_of_follow split named followed
  rw [trimmed] at resolved
  exact resolved

end Resolver

namespace Chain

variable {chain : Chain} {schema : Schema} {type : FieldType}

theorem leads_throughElements (leads : Leads schema type chain.steps chain.target) :
    Leads schema type chain.throughElements.steps chain.throughElements.target := by
  unfold throughElements
  split
  next element list => exact leads.append (.single (.each list))
  next => exact leads

theorem leads_throughElements_iterate (layers : Nat)
    (leads : Leads schema type chain.steps chain.target) :
    Leads schema type (throughElements^[layers] chain).steps
      (throughElements^[layers] chain).target := by
  induction layers with
  | zero => exact leads
  | succ count inductionHypothesis =>
      rw [Function.iterate_succ_apply']
      exact leads_throughElements inductionHypothesis

theorem leads_throughLists (leads : Leads schema type chain.steps chain.target) :
    Leads schema type chain.throughLists.steps chain.throughLists.target :=
  leads.append (.openLists chain.target)

end Chain

end RecordFilter
