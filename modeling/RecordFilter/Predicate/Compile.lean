import RecordFilter.Log.Scope
import RecordFilter.Options
import RecordFilter.Path.Resolve
import RecordFilter.Predicate.Basic
import RecordFilter.Rule.Basic

/-!
# Compiling rules

A rule is compiled against the shape of a record type. A leaf is planned first: its operator
and its type are looked up, its path is resolved and its literals are read. Then the
literals are reconciled with the type of the field. The first error stops the compilation.
-/

namespace RecordFilter

/-- The options and the record type that rules are compiled against. -/
structure Compiler where
  options : Options
  schema : Schema
  root : String

/-- A leaf whose parts are all known but not yet reconciled. -/
structure LeafPlan where
  field : String
  operator : ResolvedOperator
  declared : DeclaredType
  chain : Chain
  literals : List Literal

namespace LeafPlan

def context (plan : LeafPlan) : LeafContext :=
  ⟨plan.field, plan.operator.name, plan.declared⟩

/-- Negated operators have to hold for every item, others for at least one. -/
def quantifier (plan : LeafPlan) : Quantifier :=
  if plan.operator.isNegated then .all else .any

def entry (plan : LeafPlan) : LogEntry :=
  .ofEvent .leafCompiled
    [("field", plan.field), ("operator", plan.operator.name),
      ("type", plan.declared.name), ("target", plan.chain.target.name)]

end LeafPlan

namespace Compiler

def resolver (compiler : Compiler) : Resolver :=
  ⟨compiler.schema, compiler.options.sentinel?, compiler.options.nullChecks⟩

/-! ## Planning -/

/-- The declared type of a leaf; without a tag it is `string`. -/
def declaredType (rule : Rule) : Except CompileError DeclaredType :=
  match rule.typeTag.map Text.trim with
  | none => .ok .string
  | some tag =>
      if tag.isEmpty then .ok .string
      else
        match DeclaredType.ofTag? tag with
        | some declared => .ok declared
        | none => .error (.unknownType rule.fieldPath tag)

/-- Refuses a built-in operator that needs an order for a type that has none. -/
def checkOrderable (context : LeafContext) : ResolvedOperator → Except CompileError Unit
  | .builtin operator =>
      if operator.needsOrder && !context.declared.isOrderable then
        .error (.operatorTypeMismatch context)
      else .ok ()
  | .custom _ => .ok ()

/-- Operators that take literals apply to the items of a list. -/
def extendChain (arity : Arity) (chain : Chain) : Chain :=
  if arity = .none then chain else chain.throughLists

/-- Looks up and reads the parts of a leaf. -/
def plan (compiler : Compiler) (rule : Rule) : Except CompileError LeafPlan := do
  let field := rule.fieldPath
  let operator ←
    match resolveOperator? compiler.options.operators rule.operatorName with
    | some operator => .ok operator
    | none => .error (.unknownOperator field rule.operatorName)
  let declared ← declaredType rule
  let context : LeafContext := ⟨field, operator.name, declared⟩
  checkOrderable context operator
  let resolved ← compiler.resolver.resolve (.object compiler.root) field
  let chain := extendChain operator.arity resolved
  let literals ← compiler.options.coercer.coerce context operator.arity rule.value
  return ⟨field, operator, declared, chain, literals⟩

/-! ## Reconciling -/

/-- Whether values of a scalar type are compared as a declared type without conversion. -/
def isCompatible (declared : DeclaredType) : FieldType → Bool
  | .int | .long | .double => declared.isNumeric
  | .bool => declared = .boolean
  | .date | .dateTime => declared = .date || declared = .dateTime
  | .guid => declared = .guid
  | _ => false

def renderAll (literals : List Literal) : List Literal :=
  literals.map fun literal => .text literal.render

/-- The enum member that a text literal names. -/
def enumMember (caseSensitive : Bool) (context : LeafContext)
    (members : List (String × Int)) (literal : Literal) : Except CompileError Literal :=
  let name := literal.render
  let found := members.find? fun (member, _) =>
    if caseSensitive then member == name else Text.equalIgnoringCase member name
  match found with
  | some (member, _) => .ok (.text member)
  | none => .error (.coercion context (.string name) (.unknownEnumMember (members.map Prod.fst)))

/-- Lower-cases text literals unless texts are compared exactly. -/
def foldLiteral (semantics : Semantics) : Literal → Literal
  | .text text => .text (semantics.fold text)
  | literal => literal

/-- How a field of a type is compared with literals, and the literals adapted to it. Maps
are not among the types. -/
def adapt (options : Options) (operator : Operator) (context : LeafContext)
    (semantics : Semantics) (literals : List Literal) (base : FieldType)
    (mismatch : MismatchReason → CompileError) :
    Except CompileError (Semantics × List Literal) :=
  let declared := context.declared
  let asText : Except CompileError (Semantics × List Literal) :=
    if options.explicitText then .error (mismatch .implicitText)
    else .ok ({ semantics with renderText := true }, renderAll literals)
  match base with
  | .any => .ok (semantics, if operator.isTextMatch then renderAll literals else literals)
  | .object _ | .list _ | .nullable _ => .error (mismatch .composite)
  | .map _ _ => .error (mismatch .mapWithoutKeyTest)
  | .text => .ok (semantics, renderAll literals)
  | .enum members =>
      if !operator.isTextMatch && declared = .string then do
        let named ← literals.mapM (enumMember options.caseSensitive context members)
        return ({ semantics with caseSensitive := true, renderText := true }, named)
      else if !operator.isTextMatch && declared.isNumeric then .ok (semantics, literals)
      else if operator.isTextMatch || declared = .string then asText
      else .error (mismatch .differentType)
  | scalar =>
      if operator.isTextMatch || declared = .string then asText
      else if isCompatible declared scalar then .ok (semantics, literals)
      else .error (mismatch .differentType)

/-- The check of a leaf with a built-in operator. -/
def builtinCheck (options : Options) (operator : Operator) (plan : LeafPlan) :
    Except CompileError Check :=
  let context := plan.context
  let target := plan.chain.target
  let semantics : Semantics := ⟨options.caseSensitive, false, plan.declared = .date⟩
  let mismatch := fun reason => CompileError.typeMismatch context target.name reason
  if operator.isPresenceTest then
    .ok (.builtin operator.positive operator.isNegated plan.literals semantics)
  else if operator.needsOrder && !target.nonNull.isOrderable then
    .error (mismatch .noOrdering)
  else
    match target.nonNull, operator.positive with
    | .map _ _, .contains =>
        .ok (.mapKey (plan.literals.map Literal.render) operator.isNegated)
    | base, positive => do
        let (semantics, literals) ←
          adapt options operator context semantics plan.literals base mismatch
        return .builtin positive operator.isNegated (literals.map (foldLiteral semantics))
          semantics

def check (compiler : Compiler) (plan : LeafPlan) : Except CompileError Check :=
  match plan.operator with
  | .custom operator => .ok (.custom operator plan.literals)
  | .builtin operator => builtinCheck compiler.options operator plan

/-- Compiles a leaf. The plan tells what is logged about it. -/
def leaf (compiler : Compiler) (rule : Rule) : Except CompileError (LeafPlan × Leaf) := do
  let plan ← compiler.plan rule
  let check ← compiler.check plan
  return (plan, ⟨plan.chain, plan.quantifier, check⟩)

end Compiler

/-! ## Trees -/

structure Compilation (α : Type) where
  result : Except CompileError α
  log : List LogEntry

namespace Compiler

def compileLeaf (compiler : Compiler) (rule : Rule) : Compilation Predicate :=
  if rule.isVacuous then ⟨.ok .always, []⟩
  else
    match compiler.leaf rule with
    | .ok (plan, leaf) => ⟨.ok (.leaf leaf), [plan.entry]⟩
    | .error error => ⟨.error error, []⟩

def join : Condition → List Predicate → Predicate
  | .and, children => .allOf children
  | .or, children => .anyOf children

mutual

/-- Compiles a rule tree from left to right, up to the first error. -/
def compileTree (compiler : Compiler) : Rule → Compilation Predicate
  | ⟨condition, field, typeTag, operator, value, rules⟩ =>
      match rules with
      | [] => compileLeaf compiler ⟨condition, field, typeTag, operator, value, []⟩
      | first :: rest =>
          let ⟨head, headLog⟩ := compileTree compiler first
          match head with
          | .error error => ⟨.error error, headLog⟩
          | .ok child =>
              let ⟨tail, tailLog⟩ := compileTrees compiler rest
              ⟨tail.map fun children => join condition (child :: children),
                headLog ++ tailLog⟩

def compileTrees (compiler : Compiler) : List Rule → Compilation (List Predicate)
  | [] => ⟨.ok [], []⟩
  | first :: rest =>
      let ⟨head, headLog⟩ := compileTree compiler first
      match head with
      | .error error => ⟨.error error, headLog⟩
      | .ok child =>
          let ⟨tail, tailLog⟩ := compileTrees compiler rest
          ⟨tail.map (child :: ·), headLog ++ tailLog⟩

end

/-- Compiles a rule; without a rule every record passes. -/
def compileRule (compiler : Compiler) : Option Rule → Compilation Predicate
  | none => ⟨.ok .always, []⟩
  | some rule => compileTree compiler rule

/-- Compiles a rule and logs the beginning and the end. The elapsed time is only logged. -/
def compile (compiler : Compiler) (rule : Option Rule) (elapsed : String) :
    Compilation Predicate :=
  let (scope, beginning) :=
    Scope.begin .compileStart [("record", (compiler.schema.shape compiler.root).name)]
  let ⟨result, log⟩ := compiler.compileRule rule
  let (closed, ending) :=
    match result with
    | .ok _ => scope.complete .compileComplete elapsed
    | .error error =>
        scope.fail .compileFailed (error.code ++ ": " ++ error.message)
  ⟨result, beginning :: log ++ ending :: closed.close⟩

end Compiler

end RecordFilter
