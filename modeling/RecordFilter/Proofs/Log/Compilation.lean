import RecordFilter.Proofs.Predicate.Leaves

/-!
# What a compilation logs

A compilation goes through the leaves of a rule from left to right and logs one entry for each,
up to the first leaf that fails. The entries of its scope stand around these, one for the
beginning and one for the outcome. A scope that has ended leaves no warning, and what is logged
has no part in the outcome.
-/

namespace RecordFilter

namespace Compiler

variable {compiler : Compiler} {rule : Rule}

/-! ## Rules one after the other -/

/-- The entries of a rule that is compiled alone. -/
def entries (compiler : Compiler) (rule : Rule) : List LogEntry :=
  (compiler.compileTree rule).log

/-- The entries of rules that are compiled one after the other, up to the first that fails. -/
def entriesThrough (compiler : Compiler) : List Rule → List LogEntry
  | [] => []
  | rule :: rest =>
      compiler.entries rule ++
        match compiler.predicate rule with
        | .ok _ => entriesThrough compiler rest
        | .error _ => []

theorem log_compileTrees (rules : List Rule) :
    (compiler.compileTrees rules).log = compiler.entriesThrough rules := by
  induction rules with
  | nil => rfl
  | cons first rest inductionHypothesis =>
      rw [entriesThrough, compileTrees, ← inductionHypothesis]
      unfold entries predicate
      generalize compiler.compileTree first = head
      obtain ⟨head, headLog⟩ := head
      cases head with
      | error error => simp
      | ok child => rfl

/-- What follows a list of rules is compiled when all of them compile. -/
theorem entriesThrough_append (rules more : List Rule) :
    compiler.entriesThrough (rules ++ more) =
      compiler.entriesThrough rules ++
        match rules.mapM compiler.predicate with
        | .ok _ => compiler.entriesThrough more
        | .error _ => [] := by
  induction rules with
  | nil => rfl
  | cons rule rest inductionHypothesis =>
      rw [List.cons_append, entriesThrough, entriesThrough, inductionHypothesis, List.mapM_cons]
      cases compiler.predicate rule with
      | error error => simp [bind, Except.bind]
      | ok child =>
          cases rest.mapM compiler.predicate with
          | error error => simp [bind, Except.bind]
          | ok children => simp [bind, Except.bind, pure, Except.pure]

/-! ## Trees -/

theorem entries_group (children : rule.rules ≠ []) :
    compiler.entries rule = compiler.entriesThrough rule.rules := by
  obtain ⟨condition, field, typeTag, operator, value, rules⟩ := rule
  cases rules with
  | nil => exact absurd rfl children
  | cons first rest =>
      rw [← log_compileTrees, entries, compileTree, compileTrees]
      generalize compiler.compileTree first = head
      obtain ⟨head, headLog⟩ := head
      cases head with
      | error error => rfl
      | ok child => rfl

theorem entries_leaf (childless : rule.rules = []) :
    compiler.entries rule = (compiler.compileLeaf rule).log := by
  cases rule
  subst childless
  rw [entries, compileTree]

theorem entries_vacuous (childless : rule.rules = []) (unnamed : rule.fieldPath = "") :
    compiler.entries rule = [] := by
  have vacuous : rule.isVacuous = true := by
    simp [Rule.isVacuous, childless, unnamed]
  rw [entries_leaf childless]
  unfold compileLeaf
  rw [if_pos vacuous]

/-- Rules one after the other log what their leaves log one after the other, if each of them
does so alone. -/
theorem entriesThrough_flatMap_leaves {rules : List Rule}
    (each : ∀ rule ∈ rules, compiler.entries rule = compiler.entriesThrough rule.leaves) :
    compiler.entriesThrough rules = compiler.entriesThrough (rules.flatMap Rule.leaves) := by
  induction rules with
  | nil => rfl
  | cons rule rest inductionHypothesis =>
      have others := inductionHypothesis fun other member =>
        each other (List.mem_cons_of_mem rule member)
      rw [List.flatMap_cons, entriesThrough_append, mapM_leaves, entriesThrough,
        each rule List.mem_cons_self, others]
      cases compiler.predicate rule with
      | error error => rfl
      | ok predicate => rfl

/-- A tree logs what its leaves log one after the other. -/
theorem entries_eq_entriesThrough_leaves (rule : Rule) :
    compiler.entries rule = compiler.entriesThrough rule.leaves := by
  induction rule using Rule.tree_induction with
  | node rule inductionHypothesis =>
      by_cases childless : rule.rules = []
      · by_cases unnamed : rule.fieldPath = ""
        · rw [entries_vacuous childless unnamed, Rule.leaves_vacuous childless unnamed]
          rfl
        · rw [Rule.leaves_named childless unnamed, entriesThrough]
          cases compiler.predicate rule with
          | error error => simp
          | ok predicate => simp [entriesThrough]
      · rw [entries_group childless, Rule.leaves_group childless]
        exact entriesThrough_flatMap_leaves inductionHypothesis

/-! ## Leaves -/

/-- The entry of a leaf that compiles: the field it names, and what its operator, its declared
type and its path stand for. -/
structure Announces (compiler : Compiler) (leaf : Rule) (entry : LogEntry) : Prop where
  compiles : ∃ predicate, compiler.predicate leaf = .ok predicate
  carries : ∃ operator declared chain,
    resolveOperator? compiler.options.operators leaf.operatorName = some operator ∧
      declaredType leaf = .ok declared ∧
      compiler.resolver.resolve (.object compiler.root) leaf.fieldPath = .ok chain ∧
      entry = ⟨.trace, "RULE_LEAF_COMPILED",
        [("field", leaf.fieldPath), ("operator", operator.name), ("type", declared.name),
          ("target", (extendChain operator.arity chain).target.name)]⟩

theorem Announces.event {entry : LogEntry} (announces : compiler.Announces rule entry) :
    entry.event = "RULE_LEAF_COMPILED" := by
  obtain ⟨_, _, _, _, _, _, rfl⟩ := announces.carries
  rfl

/-- A leaf that compiles logs one entry, any other none. -/
theorem announces_or_fails (childless : rule.rules = []) (named : rule.fieldPath ≠ "") :
    (∃ entry, compiler.entries rule = [entry] ∧ compiler.Announces rule entry) ∨
      ∃ error, compiler.predicate rule = .error error ∧ compiler.entries rule = [] := by
  have tests : rule.isVacuous = false := by
    simp [Rule.isVacuous, childless, named]
  have compiled : compiler.predicate rule = _ := predicate_named childless named
  rw [entries_leaf childless]
  unfold compileLeaf
  rw [if_neg (ne_true_of_eq_false tests)]
  cases found : compiler.leaf rule with
  | error error =>
      rw [found] at compiled
      exact Or.inr ⟨error, compiled, rfl⟩
  | ok both =>
      obtain ⟨plan, leaf⟩ := both
      rw [found] at compiled
      have plans := (leaf_eq_ok_iff.mp found).1
      obtain ⟨chain, resolved, extended⟩ := plans.chain
      refine Or.inl ⟨plan.entry, rfl, ⟨_, compiled⟩, plan.operator, plan.declared, chain,
        plans.operator, plans.declared, resolved, ?_⟩
      rw [LeafPlan.entry, plans.field, extended]
      rfl

/-- Leaves log the entries of those before the first that fails. -/
theorem exists_entriesThrough_eq (compiler : Compiler) {leaves : List Rule}
    (tests : ∀ leaf ∈ leaves, leaf.rules = [] ∧ leaf.fieldPath ≠ "") :
    ∃ compiled rest, leaves = compiled ++ rest ∧
      List.Forall₂ compiler.Announces compiled (compiler.entriesThrough leaves) ∧
      ∀ leaf ∈ rest.head?, ∃ error, compiler.predicate leaf = .error error := by
  induction leaves with
  | nil => exact ⟨[], [], rfl, .nil, by simp⟩
  | cons leaf others inductionHypothesis =>
      obtain ⟨⟨childless, named⟩, othersTest⟩ := List.forall_mem_cons.mp tests
      rw [entriesThrough]
      rcases announces_or_fails childless named with
        ⟨entry, only, announces⟩ | ⟨error, failed, none⟩
      · obtain ⟨compiled, rest, split, each, stops⟩ := inductionHypothesis othersTest
        obtain ⟨predicate, alone⟩ := announces.compiles
        have through : compiler.entries leaf ++ compiler.entriesThrough others =
            entry :: compiler.entriesThrough others := by
          rw [only]
          rfl
        simp only [alone, through]
        exact ⟨leaf :: compiled, rest, congrArg (leaf :: ·) split, .cons announces each, stops⟩
      · simp only [failed, none]
        refine ⟨[], leaf :: others, rfl, .nil, fun first head => ?_⟩
        cases head
        exact ⟨error, failed⟩

/-! ## The outcome -/

/-- How the leaves that are left decide the outcome: with none left there is a predicate,
otherwise the first of them fails and its error is the outcome. -/
inductive Concludes (compiler : Compiler) : List Rule → Except CompileError Predicate → Prop where
  | complete (predicate : Predicate) : Concludes compiler [] (.ok predicate)
  | failed {leaf : Rule} {later : List Rule} {error : CompileError}
      (fails : compiler.predicate leaf = .error error) :
      Concludes compiler (leaf :: later) (.error error)

theorem concludes_of_split {compiled rest : List Rule} (split : rule.leaves = compiled ++ rest)
    (compile : ∀ leaf ∈ compiled, ∃ predicate, compiler.predicate leaf = .ok predicate)
    (stops : ∀ leaf ∈ rest.head?, ∃ error, compiler.predicate leaf = .error error) :
    compiler.Concludes rest (compiler.predicate rule) := by
  cases rest with
  | nil =>
      have all : ∀ leaf ∈ rule.leaves, ∃ predicate, compiler.predicate leaf = .ok predicate := by
        rw [split, List.append_nil]
        exact compile
      obtain ⟨predicate, compiledOk⟩ := exists_predicate_iff.mpr all
      rw [compiledOk]
      exact .complete predicate
  | cons leaf later =>
      obtain ⟨error, fails⟩ := stops leaf rfl
      have failed : compiler.predicate rule = .error error :=
        predicate_eq_error_iff.mpr ⟨compiled, leaf, later, split, compile, fails⟩
      rw [failed]
      exact .failed fails

/-- The entries of a rule are those of its leaves up to the first that fails, and the leaves that
are left decide its outcome. -/
theorem compileRule_announces (compiler : Compiler) (rule : Option Rule) :
    ∃ compiled rest, (rule.map Rule.leaves).getD [] = compiled ++ rest ∧
      List.Forall₂ compiler.Announces compiled (compiler.compileRule rule).log ∧
      compiler.Concludes rest (compiler.compileRule rule).result := by
  cases rule with
  | none => exact ⟨[], [], rfl, .nil, .complete .always⟩
  | some rule =>
      have tests : ∀ leaf ∈ rule.leaves, leaf.rules = [] ∧ leaf.fieldPath ≠ "" :=
        fun leaf member => Rule.of_mem_leaves member
      obtain ⟨compiled, rest, split, each, stops⟩ := compiler.exists_entriesThrough_eq tests
      have compile : ∀ leaf ∈ compiled, ∃ predicate, compiler.predicate leaf = .ok predicate := by
        intro leaf member
        obtain ⟨entry, _, announces⟩ := exists_of_forall₂ each member
        exact announces.compiles
      have logged : (compiler.compileRule (some rule)).log = compiler.entriesThrough rule.leaves :=
        entries_eq_entriesThrough_leaves rule
      rw [← logged] at each
      exact ⟨compiled, rest, split, each, concludes_of_split split compile stops⟩

/-- The field of every entry about a whole compilation: the record type. -/
def recordField (compiler : Compiler) : String × String :=
  ("record", (compiler.schema.shape compiler.root).name)

def beginning (compiler : Compiler) : LogEntry :=
  ⟨.trace, "RULE_COMPILE_BEGIN", [compiler.recordField]⟩

/-- The last entry of a compilation, by its outcome. -/
def ending (compiler : Compiler) (elapsed : String) : Except CompileError Predicate → LogEntry
  | .ok _ => ⟨.trace, "RULE_COMPILE_COMPLETE", [compiler.recordField, ("elapsed_us", elapsed)]⟩
  | .error error =>
      ⟨.info, "RULE_COMPILE_FAILED",
        [compiler.recordField, ("reason", error.code ++ ": " ++ error.message)]⟩

theorem ending_event (compiler : Compiler) (elapsed : String)
    (outcome : Except CompileError Predicate) :
    (compiler.ending elapsed outcome).event = "RULE_COMPILE_COMPLETE" ∨
      (compiler.ending elapsed outcome).event = "RULE_COMPILE_FAILED" := by
  cases outcome with
  | ok predicate => exact Or.inl rfl
  | error error => exact Or.inr rfl

/-- The beginning, the entries of leaves and the ending all have events of their own, so none is
that of a scope left open. -/
theorem event_ne_incomplete {compiled : List Rule} {entries : List LogEntry} {entry : LogEntry}
    {elapsed : String} {outcome : Except CompileError Predicate}
    (each : List.Forall₂ compiler.Announces compiled entries)
    (member : entry ∈ compiler.beginning :: (entries ++ [compiler.ending elapsed outcome])) :
    entry.event ≠ "OBSERVATION_SCOPE_INCOMPLETE" := by
  rcases List.mem_cons.mp member with rfl | further
  · change "RULE_COMPILE_BEGIN" ≠ "OBSERVATION_SCOPE_INCOMPLETE"
    decide
  · rcases List.mem_append.mp further with ofLeaf | last
    · obtain ⟨leaf, _, announces⟩ := exists_of_forall₂_right each ofLeaf
      rw [announces.event]
      decide
    · rw [List.mem_singleton.mp last]
      rcases compiler.ending_event elapsed outcome with complete | failed
      · rw [complete]
        decide
      · rw [failed]
        decide

/-- The scope is closed when it ends, so it adds nothing after its last entry. -/
theorem log_compile (compiler : Compiler) (rule : Option Rule) (elapsed : String) :
    (compiler.compile rule elapsed).log =
      compiler.beginning :: ((compiler.compileRule rule).log ++
        [compiler.ending elapsed (compiler.compileRule rule).result]) := by
  unfold compile
  generalize compiler.compileRule rule = compilation
  obtain ⟨result, log⟩ := compilation
  cases result with
  | ok predicate => rfl
  | error error => rfl

end Compiler

/-- What is seen of a compilation whose entries are written from a minimum severity on: the
outcome, and each written entry with its line. -/
def Compilation.seen {α : Type} (minimum : Severity) (compilation : Compilation α) :
    Except CompileError α × List (LogEntry × String) :=
  (compilation.result,
    (writtenEntries minimum compilation.log).map fun entry => (entry, entry.line))

/-- A compilation logs its beginning, one entry for each leaf before the first that fails, and
its outcome. Of these the entries of at least the minimum severity are written, and the outcome
does not depend on the minimum. No scope is left incomplete. -/
theorem compilation_logged_exactly (compiler : Compiler) (rule : Option Rule)
    (elapsed : String) :
    ∃ compiled rest entries outcome,
      (rule.map Rule.leaves).getD [] = compiled ++ rest ∧
        List.Forall₂ compiler.Announces compiled entries ∧
        compiler.Concludes rest outcome ∧
        let sequence := compiler.beginning :: (entries ++ [compiler.ending elapsed outcome])
        (∀ entry ∈ sequence, entry.event ≠ "OBSERVATION_SCOPE_INCOMPLETE") ∧
          ∀ minimum, (compiler.compile rule elapsed).seen minimum =
            (outcome,
              (sequence.filter fun entry => minimum.rank ≤ entry.severity.rank).map
                fun entry => (entry, entry.line)) := by
  obtain ⟨compiled, rest, split, each, concludes⟩ := compiler.compileRule_announces rule
  refine ⟨compiled, rest, _, _, split, each, concludes,
    fun _ => Compiler.event_ne_incomplete each, fun minimum => ?_⟩
  rw [Compilation.seen, Compiler.log_compile]
  rfl

end RecordFilter
