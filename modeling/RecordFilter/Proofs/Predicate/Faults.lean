import RecordFilter.Proofs.Path.Exchange
import RecordFilter.Proofs.Predicate.KeyPresence

/-!
# Errors of a leaf

A leaf errs where its chain does, at a null or at a missing key, and never because of its test.
Without list hops the chain errs before it comes to any value that is tested, so all leaves with
the same path err alike.
-/

namespace RecordFilter

/-! ## Errors on a chain -/

theorem Hop.eq_of_ofEntry_missing {key missing : String} {entry : Option Value}
    (lost : ofEntry key entry = .missingKey missing) : missing = key := by
  cases entry with
  | some value => cases lost
  | none =>
      cases lost
      rfl

/-- Only a step that looks up a key misses one. -/
theorem Step.eq_of_hop_missing {step : Step} {value : Value} {key : String}
    (lost : step.hop value = .missingKey key) : step = .key key ∨ step = .index key := by
  cases step with
  | each | dynamic _ => cases value <;> cases lost
  | member name =>
      cases value with
      | object members indexed =>
          rw [hop] at lost
          split at lost <;> cases lost
      | _ => cases lost
  | key name =>
      cases value with
      | map entries => exact Or.inl (congrArg Step.key (Hop.eq_of_ofEntry_missing lost).symm)
      | intMap entries => exact Or.inl (congrArg Step.key (Hop.eq_of_ofEntry_missing lost).symm)
      | _ => cases lost
  | index name =>
      cases value with
      | object members indexed =>
          exact Or.inr (congrArg Step.index (Hop.eq_of_ofEntry_missing lost).symm)
      | _ => cases lost

namespace Chain

variable {chain : Chain} {step : Step} {steps rest : List Step} {error : EvalError}

/-- The errors of following steps: a null at one of them that is not guarded, or a missing key
that one of them looks up. -/
inductive Faults (chain : Chain) (steps : List Step) : EvalError → Prop where
  | nullReference {step : Step} (unguarded : chain.nullGuard = false) (member : step ∈ steps) :
      Faults chain steps (.nullReference chain.path step.text)
  | keyNotFound {key : String} (member : .key key ∈ steps ∨ .index key ∈ steps) :
      Faults chain steps (.keyNotFound chain.path key)

theorem Faults.cons (faults : chain.Faults rest error) : chain.Faults (step :: rest) error := by
  cases faults with
  | nullReference unguarded member =>
      exact .nullReference unguarded (List.mem_cons_of_mem step member)
  | keyNotFound member =>
      exact .keyNotFound (member.imp (List.mem_cons_of_mem step) (List.mem_cons_of_mem step))

/-- The errors that are met are those of the steps, whatever the value is. The induction is on
the steps; into untyped data and into lists the error is handed on from the steps behind. -/
theorem faults_of_mem (value : Value) (member : .failed error ∈ chain.outcomesFrom steps value) :
    chain.Faults steps error := by
  induction steps generalizing value error with
  | nil => cases List.mem_singleton.mp member
  | cons step rest inductionHypothesis =>
      by_cases typed : step.isDynamic = false
      · rw [outcomesFrom_typed chain typed] at member
        by_cases null : value.isNull = true
        · rw [if_pos null, List.mem_singleton] at member
          unfold nullOutcome at member
          split at member
          next => cases member
          next unguarded =>
              cases member
              exact .nullReference (eq_false_of_ne_true unguarded) List.mem_cons_self
        · rw [if_neg null] at member
          cases hop : step.hop value with
          | found next =>
              rw [hop] at member
              exact (inductionHypothesis next member).cons
          | items items =>
              rw [hop] at member
              obtain ⟨item, _, met⟩ := List.mem_flatMap.mp member
              exact (inductionHypothesis item met).cons
          | missingKey key =>
              rw [hop] at member
              cases List.mem_singleton.mp member
              refine .keyNotFound ?_
              rcases Step.eq_of_hop_missing hop with rfl | rfl
              · exact Or.inl List.mem_cons_self
              · exact Or.inr List.mem_cons_self
          | missingMember | wrongKind =>
              rw [hop] at member
              cases List.mem_singleton.mp member
      · cases step with
        | dynamic name =>
            have handed : ∀ outcome ∈ chain.outcomesFrom (.dynamic name :: rest) value,
                ∀ fault, outcome = .failed fault → chain.Faults rest fault := by
              refine Outcome.spread_forall .all ?_ value trivial
              intro value _ outcome met fault failed
              subst failed
              cases found : value.part? name with
              | some part =>
                  rw [found] at met
                  exact inductionHypothesis part met
              | none =>
                  rw [found] at met
                  cases List.mem_singleton.mp met
            exact (handed _ member error rfl).cons
        | member _ | key _ | index _ | each => exact absurd rfl typed

end Chain

namespace Leaf

variable {leaf : Leaf} {record : Value} {error : EvalError}

theorem faults_of_evaluate (failed : leaf.evaluate record = .error error) :
    leaf.chain.Faults leaf.chain.steps error := by
  rw [evaluate, Chain.visit_eq_scan] at failed
  exact Chain.faults_of_mem record (Outcome.failed_mem_of_scan failed)

/-- Without list hops a leaf errs exactly when the error is all that its chain meets. -/
theorem evaluate_eq_error_iff {schema : Schema} {type : FieldType}
    (leads : Leads schema type leaf.chain.steps leaf.chain.target)
    (noEach : .each ∉ leaf.chain.steps) :
    leaf.evaluate record = .error error ↔ leaf.chain.outcomes record = [.failed error] := by
  rw [evaluate, Chain.visit_eq_scan]
  constructor
  · intro failed
    have member := Outcome.failed_mem_of_scan failed
    rcases leaf.chain.outcomesFrom_flat leads noEach record with ⟨outcome, only⟩ | reached
    · change leaf.chain.outcomes record = [outcome] at only
      rw [only, List.mem_singleton] at member
      rw [only, member]
    · obtain ⟨value, impossible⟩ := reached _ member
      cases impossible
  · intro only
    rw [only, Outcome.scan_failed]

end Leaf

/-! ## Leaves with one path -/

namespace Compiler

variable {compiler : Compiler} {rule other : Rule} {leaf otherLeaf : Leaf}

theorem steps_extendChain {arity : Arity} {chain : Chain}
    (flat : (extendChain arity chain).hasEach = false) :
    (extendChain arity chain).steps = chain.steps := by
  unfold extendChain at flat ⊢
  split at flat
  next presence => rw [if_pos presence]
  next takes =>
      rw [if_neg takes]
      unfold Chain.throughLists at flat ⊢
      cases depth : chain.target.openLists.1 with
      | zero => simp [depth]
      | succ more => simp [Chain.hasEach, depth, List.replicate_succ] at flat

/-- Leaves with the same path and without list hops meet the same on every record. -/
theorem outcomes_congr (compiled : compiler.predicate rule = .ok (.leaf leaf))
    (otherCompiled : compiler.predicate other = .ok (.leaf otherLeaf))
    (same : other.fieldPath = rule.fieldPath) (flat : leaf.chain.hasEach = false)
    (otherFlat : otherLeaf.chain.hasEach = false) (record : Value) :
    otherLeaf.chain.outcomes record = leaf.chain.outcomes record := by
  obtain ⟨plan, plans, chain⟩ := plans_of_predicate compiled
  obtain ⟨otherPlan, otherPlans, otherChain⟩ := plans_of_predicate otherCompiled
  obtain ⟨resolved, found, extended⟩ := plans.chain
  obtain ⟨otherResolved, otherFound, otherExtended⟩ := otherPlans.chain
  rw [same, found] at otherFound
  cases otherFound
  rw [chain] at flat ⊢
  rw [otherChain] at otherFlat ⊢
  have path : otherPlan.chain.path = plan.chain.path := by
    rw [extended, otherExtended, path_extendChain, path_extendChain]
  have steps : otherPlan.chain.steps = plan.chain.steps := by
    rw [extended] at flat ⊢
    rw [otherExtended] at otherFlat ⊢
    rw [steps_extendChain flat, steps_extendChain otherFlat]
  rw [Chain.outcomes, Chain.outcomes, steps]
  exact plan.chain.outcomesFrom_congr path (otherPlans.nullGuard.trans plans.nullGuard.symm)
    plan.chain.steps record

end Compiler

/-- The error of a leaf depends on its path and not on its test: two leaves on one path without
list hops err alike on every record. A missing key is one that the chain looks up, and a guarded
chain that looks up no key never errs. -/
theorem errors_depend_on_path (compiler : Compiler) {rule : Rule} {leaf : Leaf}
    (compiled : compiler.predicate rule = .ok (.leaf leaf)) :
    (leaf.chain.hasEach = false → ∀ other otherLeaf, other.fieldPath = rule.fieldPath →
      compiler.predicate other = .ok (.leaf otherLeaf) → otherLeaf.chain.hasEach = false →
      ∀ record error, leaf.evaluate record = .error error ↔
        otherLeaf.evaluate record = .error error) ∧
    (∀ record path key, leaf.evaluate record = .error (.keyNotFound path key) →
      path = leaf.chain.path ∧ (.key key ∈ leaf.chain.steps ∨ .index key ∈ leaf.chain.steps)) ∧
    (compiler.options.nullChecks = true →
      (∀ key, .key key ∉ leaf.chain.steps ∧ .index key ∉ leaf.chain.steps) →
      ∀ record, ∃ answer, leaf.evaluate record = .ok answer) := by
  have leads := Compiler.leads_of_predicate compiled
  refine ⟨?_, ?_, ?_⟩
  · intro flat other otherLeaf same otherCompiled otherFlat record error
    have otherLeads := Compiler.leads_of_predicate otherCompiled
    have noEach {chain : Chain} (hopless : chain.hasEach = false) : .each ∉ chain.steps := by
      simpa [Chain.hasEach] using hopless
    rw [Leaf.evaluate_eq_error_iff leads (noEach flat),
      Leaf.evaluate_eq_error_iff otherLeads (noEach otherFlat),
      Compiler.outcomes_congr compiled otherCompiled same flat otherFlat]
  · intro record path key failed
    cases Leaf.faults_of_evaluate failed with
    | keyNotFound asked => exact ⟨rfl, asked⟩
  · intro guarded keyless record
    cases evaluated : leaf.evaluate record with
    | ok answer => exact ⟨answer, rfl⟩
    | error error =>
        obtain ⟨plan, plans, chain⟩ := Compiler.plans_of_predicate compiled
        have guard : leaf.chain.nullGuard = true := by rw [chain, plans.nullGuard, guarded]
        cases Leaf.faults_of_evaluate evaluated with
        | nullReference unguarded _ =>
            rw [guard] at unguarded
            cases unguarded
        | @keyNotFound key asked =>
            rcases asked with key | index
            · exact absurd key (keyless _).1
            · exact absurd index (keyless _).2

/-- Vaults with codes under names, under the default options. -/
def vaultCompiler : Compiler :=
  ⟨.default, ⟨[⟨"Vault", [("Codes", .map .text .long)], none⟩]⟩, "Vault"⟩

def mainCodeRule : Rule :=
  .asking (some "Codes.main") (some "long") .equal (.integer 7)

/-- A rule on the same code, as a text. -/
def mainCodeTextRule : Rule :=
  .asking (some "Codes.main") none .notEqual (.string "7")

def mainCodeChain : Chain :=
  ⟨"Codes.main", [.member "Codes", .key "main"], .long, false⟩

theorem mainCode_resolves :
    vaultCompiler.resolver.resolve (.object vaultCompiler.root) "Codes.main" =
      .ok mainCodeChain := by
  have split : Resolver.segmentsOf "Codes.main" = ["Codes", "main"] := by decide +kernel
  exact Resolver.resolve_of_trimmed (by decide +kernel) split (by decide)
    (Resolver.follow_member rfl rfl rfl :
      vaultCompiler.resolver.follow "Codes.main" (.object "Vault") ["Codes", "main"] = _)

theorem mainCode_fields :
    mainCodeRule.fieldPath = "Codes.main" ∧ mainCodeTextRule.fieldPath = "Codes.main" := by
  constructor <;> decide +kernel

theorem mainCodeRule_compiles :
    vaultCompiler.predicate mainCodeRule = .ok (.leaf (Compiler.membershipLeaf mainCodeChain
      ⟨false, false, false⟩ .equal [.int 7])) := by
  have field := mainCode_fields.1
  have named : mainCodeRule.fieldPath ≠ "" := by rw [field]; decide
  have tagged : Compiler.declaredType mainCodeRule = .ok .long :=
    Compiler.declaredType_of_tag rfl (by decide +kernel) (by decide +kernel)
  exact (Compiler.predicate_asking_eq_ok_iff rfl rfl named).mpr
    ⟨.long, mainCodeChain, [.int 7], _, _, tagged, field ▸ mainCode_resolves, rfl,
      .own rfl (by decide) rfl, rfl⟩

theorem mainCodeTextRule_compiles :
    vaultCompiler.predicate mainCodeTextRule = .ok (.leaf (Compiler.membershipLeaf mainCodeChain
      ⟨false, true, false⟩ .notEqual [.text "7"])) := by
  have field := mainCode_fields.2
  have named : mainCodeTextRule.fieldPath ≠ "" := by rw [field]; decide
  exact (Compiler.predicate_asking_eq_ok_iff rfl rfl named).mpr
    ⟨.string, mainCodeChain, [.text "7"], _, _, rfl, field ▸ mainCode_resolves, rfl,
      .rendered rfl (Or.inr rfl) rfl, rfl⟩

/-- Without the code both rules miss the same key. -/
theorem errors_depend_on_path_code :
    ∃ leaf textLeaf, vaultCompiler.predicate mainCodeRule = .ok (.leaf leaf) ∧
      vaultCompiler.predicate mainCodeTextRule = .ok (.leaf textLeaf) ∧
      leaf.evaluate (.object [("Codes", .map [])] []) =
        .error (.keyNotFound "Codes.main" "main") ∧
      textLeaf.evaluate (.object [("Codes", .map [])] []) =
        .error (.keyNotFound "Codes.main" "main") := by
  obtain ⟨same, _, _⟩ := errors_depend_on_path vaultCompiler mainCodeRule_compiles
  have sameField := mainCode_fields.2.trans mainCode_fields.1.symm
  have missed : (Compiler.membershipLeaf mainCodeChain ⟨false, false, false⟩ .equal
      [.int 7]).evaluate (.object [("Codes", .map [])] []) =
        .error (.keyNotFound "Codes.main" "main") := rfl
  exact ⟨_, _, mainCodeRule_compiles, mainCodeTextRule_compiles, missed,
    (same rfl _ _ sameField mainCodeTextRule_compiles rfl _ _).mp missed⟩

end RecordFilter
