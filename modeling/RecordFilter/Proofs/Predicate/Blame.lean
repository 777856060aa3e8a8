import RecordFilter.Proofs.Predicate.Leaves

/-!
# Errors of leaves

Whatever stage of a leaf fails, the operator, the declared type, the path, the literals or
their reconciliation with the field, its error is about the field that the leaf names. So the
error of a tree tells which of its leaves is the first to fail.
-/

namespace RecordFilter

variable {α β : Type}

/-- The result is a value or an error about the field. -/
def Blames (field : String) (result : Except CompileError α) : Prop :=
  ∀ error, result = .error error → error.field = field

namespace Blames

variable {field : String} {result : Except CompileError α}

theorem ok (value : α) : Blames field (.ok value) :=
  fun _ impossible => by cases impossible

theorem error {error : CompileError} (about : error.field = field) :
    Blames field (.error error : Except CompileError α) := by
  rintro _ ⟨⟩
  exact about

theorem bind {next : α → Except CompileError β} (first : Blames field result)
    (further : ∀ value, result = .ok value → Blames field (next value)) :
    Blames field (result >>= next) := by
  intro error failed
  rcases bind_eq_error_iff.mp failed with firstFailed | ⟨value, firstOk, nextFailed⟩
  · exact first error firstFailed
  · exact further value firstOk error nextFailed

theorem map {change : α → β} (blames : Blames field result) :
    Blames field (result.map change) := by
  intro error failed
  cases result with
  | error other =>
      cases failed
      exact blames error rfl
  | ok value => cases failed

theorem mapM {read : α → Except CompileError β} {items : List α}
    (each : ∀ item ∈ items, Blames field (read item)) : Blames field (items.mapM read) := by
  intro error failed
  obtain ⟨earlier, item, later, rfl, _, itemFailed⟩ := mapM_eq_error_iff.mp failed
  exact each item (by simp) error itemFailed

theorem ite {condition : Prop} [Decidable condition] {first second : Except CompileError α}
    (firstBlames : Blames field first) (secondBlames : Blames field second) :
    Blames field (if condition then first else second) := by
  split
  · exact firstBlames
  · exact secondBlames

end Blames

/-! ## Literals -/

theorem Coercer.blames_coerceScalar (coercer : Coercer) (context : LeafContext) (raw : Json) :
    Blames context.field (coercer.coerceScalar context raw) := by
  intro error failed
  unfold coerceScalar at failed
  cases read : coercer.readLiteral context.declared raw with
  | ok literal =>
      rw [read] at failed
      cases failed
  | error fault =>
      rw [read] at failed
      cases failed
      rfl

theorem Coercer.blames_coerce (coercer : Coercer) (context : LeafContext) (arity : Arity)
    (raw : Option Json) : Blames context.field (coercer.coerce context arity raw) := by
  unfold coerce
  refine .ite (.ok []) ?_
  split
  next => exact .error rfl
  next => exact .error rfl
  next value _ =>
      simp only
      split
      next => exact .error rfl
      next => exact .mapM fun item _ => coercer.blames_coerceScalar context item

/-! ## Paths -/

namespace Resolver

variable {path : String}

theorem blames_enterRecord (shape : Shape) (segment : String) :
    Blames path (enterRecord path shape segment) := by
  unfold enterRecord
  split
  · exact .ok _
  · exact .ok _
  · exact .error rfl

theorem blames_enterOther (type : FieldType) (segment : String) :
    Blames path (enterOther path type segment) := by
  unfold enterOther
  split
  · exact .ok _
  · exact .error rfl
  · exact .ok _
  · exact .error rfl

theorem blames_after {steps : List Step} {resolved : Except CompileError (List Step × FieldType)}
    (blames : Blames path resolved) : Blames path (after steps resolved) :=
  blames.map

theorem blames_follow (resolver : Resolver) :
    ∀ (segments : List String) (type : FieldType),
      Blames path (resolver.follow path type segments)
  | [], type => .ok _
  | segment :: rest, type => by
      have proceeds {entered : Except CompileError (Step × FieldType)}
          (blames : Blames path entered) :
          Blames path (entered.bind fun hop =>
            after (List.replicate type.openLists.1 .each ++ [hop.1])
              (resolver.follow path hop.2 rest)) :=
        blames.bind fun hop _ => blames_after (blames_follow resolver rest hop.2)
      unfold follow
      simp only
      split
      next shape _ =>
          split
          next entry key more _ =>
              -- A sentinel uses up two segments, so this case goes on with what follows them.
              exact .ite (blames_after (blames_follow resolver more entry))
                (proceeds (blames_enterRecord _ segment))
          next => exact proceeds (blames_enterRecord _ segment)
      next => exact proceeds (blames_enterOther _ segment)

theorem blames_resolve (resolver : Resolver) (root : FieldType) (path : String) :
    Blames (Text.trim path) (resolver.resolve root path) := by
  unfold resolve
  refine .ite (.error rfl) (Blames.bind (resolver.blames_follow _ root) ?_)
  exact fun _ _ => .ok _

end Resolver

/-! ## Leaves -/

theorem Rule.trim_fieldPath (rule : Rule) : Text.trim rule.fieldPath = rule.fieldPath := by
  unfold fieldPath
  cases rule.field with
  | none => decide +kernel
  | some field => exact Text.trim_trim field

namespace Compiler

variable {options : Options} {operator : Operator} {context : LeafContext}

theorem blames_declaredType (rule : Rule) : Blames rule.fieldPath (declaredType rule) := by
  unfold declaredType
  split
  next => exact .ok _
  next tag _ =>
      refine .ite (.ok _) ?_
      split
      next => exact .ok _
      next => exact .error rfl

theorem blames_checkOrderable (operator : ResolvedOperator) :
    Blames context.field (checkOrderable context operator) := by
  cases operator with
  | builtin operator => exact .ite (.error rfl) (.ok ())
  | custom operator => exact .ok ()

theorem blames_enumMember (caseSensitive : Bool) (members : List (String × Int))
    (literal : Literal) :
    Blames context.field (enumMember caseSensitive context members literal) := by
  unfold enumMember
  simp only
  split
  · exact .ok _
  · exact .error rfl

theorem blames_adapt {semantics : Semantics} {literals : List Literal} {base : FieldType}
    {mismatch : MismatchReason → CompileError}
    (about : ∀ reason, (mismatch reason).field = context.field) :
    Blames context.field
      (adapt options operator context semantics literals base mismatch) := by
  have asText : Blames context.field
      (if options.explicitText then .error (mismatch .implicitText)
        else .ok ({ semantics with renderText := true }, renderAll literals)) :=
    .ite (.error (about _)) (.ok _)
  cases base with
  | any | text => exact .ok _
  | object _ | list _ | nullable _ | map _ _ => exact .error (about _)
  | enum members =>
      have named : Blames context.field (do
          let named ← literals.mapM (enumMember options.caseSensitive context members)
          return ({ semantics with caseSensitive := true, renderText := true }, named)) :=
        Blames.bind (.mapM fun literal _ => blames_enumMember _ _ literal) fun _ _ => .ok _
      exact .ite named (.ite (.ok _) (.ite asText (.error (about _))))
  | int | long | double | bool | date | dateTime | guid =>
      exact .ite asText (.ite (.ok _) (.error (about _)))

theorem blames_builtinCheck (plan : LeafPlan) :
    Blames plan.field (builtinCheck options operator plan) := by
  unfold builtinCheck
  refine .ite (.ok _) (.ite (.error rfl) ?_)
  split
  next => exact .ok _
  next => exact Blames.bind (blames_adapt fun _ => rfl) fun _ _ => .ok _

theorem blames_check (compiler : Compiler) (plan : LeafPlan) :
    Blames plan.field (compiler.check plan) := by
  unfold check
  split
  · exact .ok _
  · exact blames_builtinCheck plan

theorem blames_plan (compiler : Compiler) (rule : Rule) :
    Blames rule.fieldPath (compiler.plan rule) := by
  have resolves := compiler.resolver.blames_resolve (.object compiler.root) rule.fieldPath
  rw [rule.trim_fieldPath] at resolves
  unfold plan
  simp only
  split
  next operator _ =>
      refine Blames.bind (.ok operator) fun operator _ => ?_
      refine Blames.bind (blames_declaredType rule) fun declared _ => ?_
      refine Blames.bind (blames_checkOrderable operator) fun _ _ => ?_
      refine Blames.bind resolves fun resolved _ => ?_
      exact Blames.bind (Coercer.blames_coerce _ _ _ _) fun _ _ => .ok _
  next => exact Blames.error rfl

/-- Every error of a leaf is about the field that the leaf names. -/
theorem blames_leaf (compiler : Compiler) (rule : Rule) :
    Blames rule.fieldPath (compiler.leaf rule) := by
  refine Blames.bind (compiler.blames_plan rule) fun plan planned => ?_
  rw [← (plan_eq_ok_iff.mp planned).field]
  exact Blames.bind (compiler.blames_check plan) fun _ _ => .ok _

end Compiler

/-- A tree compiles exactly when each of its leaves compiles alone; its leaves then evaluate as
they do alone. Otherwise its error is that of the first leaf that fails alone, and is about the
field of that leaf. What groups say about themselves does not matter. -/
theorem first_failing_leaf_decides (compiler : Compiler) (rule : Rule) :
    ((∃ predicate, compiler.predicate rule = .ok predicate) ↔
      ∀ source ∈ rule.leaves, ∃ alone, compiler.predicate source = .ok alone) ∧
    (∀ error, compiler.predicate rule = .error error ↔
      ∃ earlier source later, rule.leaves = earlier ++ source :: later ∧
        (∀ other ∈ earlier, ∃ alone, compiler.predicate other = .ok alone) ∧
        compiler.predicate source = .error error) ∧
    (∀ source ∈ rule.leaves, ∀ error, compiler.predicate source = .error error →
      error.field = source.fieldPath) ∧
    (∀ other : Rule, other.bare = rule.bare →
      compiler.predicate other = compiler.predicate rule) ∧
    ∀ predicate, compiler.predicate rule = .ok predicate →
      List.Forall₂
        (fun source leaf => ∃ alone, compiler.predicate source = .ok alone ∧
          ∀ record, leaf.evaluate record = alone.evaluate record)
        rule.leaves predicate.leaves := by
  refine ⟨Compiler.exists_predicate_iff, fun error => Compiler.predicate_eq_error_iff, ?_, ?_, ?_⟩
  · intro source member error failed
    obtain ⟨childless, named⟩ := Rule.of_mem_leaves member
    rw [Compiler.predicate_named childless named, map_eq_error_iff] at failed
    exact compiler.blames_leaf source error failed
  · intro other same
    rw [← compiler.predicate_bare other, same, compiler.predicate_bare]
  · intro predicate compiled
    exact (Compiler.forall₂_leaves compiled).imp fun source leaf alone => ⟨_, alone, fun _ => rfl⟩

end RecordFilter
