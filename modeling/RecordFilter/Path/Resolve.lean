import RecordFilter.Error
import RecordFilter.Path.Chain
import RecordFilter.Text.Blank
import RecordFilter.Text.Split

/-!
# Resolving paths

A path is split at its points. Each segment names a member of the record reached so far, an
entry of its indexer, a key of a map or a part of an untyped value; lists are gone through
on the way.
-/

namespace RecordFilter

/-- The shapes and options under which paths are resolved. -/
structure Resolver where
  schema : Schema
  /-- The segment that names an indexer; the key follows it. -/
  sentinel : Option String
  nullGuard : Bool

namespace Resolver

/-- Puts steps before those of a resolved path. -/
def after (steps : List Step) (resolved : Except CompileError (List Step × FieldType)) :
    Except CompileError (List Step × FieldType) :=
  resolved.map fun (more, target) => (steps ++ more, target)

/-- Whether a segment stands for the indexer of a record and not for one of its members. -/
def isSentinel (resolver : Resolver) (shape : Shape) (segment : String) : Bool :=
  resolver.sentinel = some segment && (shape.find? segment).isNone

/-- The step that one segment makes into a record, and the type it reaches. -/
def enterRecord (path : String) (shape : Shape) (segment : String) :
    Except CompileError (Step × FieldType) :=
  match shape.find? segment, shape.indexer with
  | some type, _ => .ok (.member segment, type)
  | none, some entry => .ok (.index segment, entry)
  | none, none => .error (.unresolvableField path segment)

/-- The step that one segment makes into a value that is no record or list. -/
def enterOther (path : String) (type : FieldType) (segment : String) :
    Except CompileError (Step × FieldType) :=
  match type with
  | .map .text value => .ok (.key segment, value)
  | .map key _ => .error (.unsupportedKeyType path key.name)
  | .any => .ok (.dynamic segment, .any)
  | _ => .error (.unresolvableField path segment)

/-- The steps of the segments from a type on, and the type they reach. -/
def follow (resolver : Resolver) (path : String) :
    FieldType → List String → Except CompileError (List Step × FieldType)
  | type, [] => .ok ([], type)
  | type, segment :: rest =>
      let (depth, element) := type.openLists
      let opened := List.replicate depth Step.each
      let proceed (entered : Except CompileError (Step × FieldType)) :=
        entered.bind fun (step, reached) =>
          after (opened ++ [step]) (follow resolver path reached rest)
      match element.nonNull with
      | .object name =>
          let shape := resolver.schema.shape name
          match shape.indexer, rest with
          | some entry, key :: more =>
              if resolver.isSentinel shape segment then
                after (opened ++ [.index key]) (follow resolver path entry more)
              else proceed (enterRecord path shape segment)
          | _, _ => proceed (enterRecord path shape segment)
      | other => proceed (enterOther path other segment)

/-- The trimmed segments of a path. -/
def segmentsOf (path : String) : List String :=
  (Text.splitAt '.' path.toList).map fun segment =>
    String.ofList (Text.trimChars segment)

/-- The chain of a path from a type on. -/
def resolve (resolver : Resolver) (root : FieldType) (path : String) :
    Except CompileError Chain := do
  let trimmed := Text.trim path
  let segments := segmentsOf trimmed
  if segments.any String.isEmpty then
    .error (.unresolvableField trimmed "")
  else
    let (steps, target) ← resolver.follow trimmed root segments
    return ⟨trimmed, steps, target, resolver.nullGuard⟩

end Resolver

end RecordFilter
