import RecordFilter.Json.Writer
import RecordFilter.Record.FieldType
import RecordFilter.Rule.DeclaredType
import RecordFilter.Text.Split

/-!
# Errors

Compile errors stop the compilation of a rule; evaluation errors belong to the record that
caused them. Each error is the cause; its code and its message are functions of it.
-/

namespace RecordFilter

/-- Why a JSON value is no literal of the declared type. -/
inductive CoercionFault where
  | valueRequired
  | nestedArray
  | nullValue
  | objectWithoutText
  | beyondInt32
  | notWhole
  | integerText (fault : Number.IntegerFault)
  /-- A value of this kind is never read as what is wanted. -/
  | wrongKind (kind wanted : String)
  | notNumber (culture : String)
  | noDateFormat (culture : String)
  | notBoolean
  /-- The text is no guid. What is wrong with it is not kept, so all such texts have one message. -/
  | notGuid
  | unknownEnumMember (known : List String)
deriving DecidableEq

def CoercionFault.message : CoercionFault → String
  | valueRequired => "a value is required"
  | nestedArray => "nested arrays are not supported"
  | nullValue => "null is not a value"
  | objectWithoutText => "object has no usable text form"
  | beyondInt32 => "out of range for a 32-bit integer"
  | notWhole => "not a whole number in range"
  | integerText fault => fault.message
  | wrongKind kind wanted => "cannot read a " ++ kind ++ " as " ++ wanted
  | notNumber culture => "not a number in culture '" ++ culture ++ "'"
  | noDateFormat culture => "no date format of culture '" ++ culture ++ "' matches"
  | notBoolean => "expected true or false"
  | notGuid => "invalid guid"
  | unknownEnumMember known =>
      "no enum member with that name (expected one of " ++ Text.joinWith ", " known ++ ")"

/-- Why a field cannot be compared as the declared type. -/
inductive MismatchReason where
  | noOrdering
  | mapWithoutKeyTest
  | composite
  | implicitText
  | differentType
deriving DecidableEq

def MismatchReason.message : MismatchReason → String
  | noOrdering => "field type has no ordering"
  | mapWithoutKeyTest => "maps only support key presence tests"
  | composite => "composite values cannot be compared to a literal"
  | implicitText => "field is not text and implicit conversion is disabled"
  | differentType => "declared type does not match the field"

/-- The leaf that an error is about. -/
structure LeafContext where
  field : String
  operator : String
  declared : DeclaredType
deriving DecidableEq

/-- Why a rule has no predicate. -/
inductive CompileError where
  /-- A segment of the path is no member, key or indexer entry. -/
  | unresolvableField (path segment : String)
  /-- The path goes into a map whose keys are not text. -/
  | unsupportedKeyType (path keyType : String)
  | coercion (context : LeafContext) (literal : Json) (fault : CoercionFault)
  | unknownOperator (field operator : String)
  | unknownType (field tag : String)
  /-- The declared type has no order. -/
  | operatorTypeMismatch (context : LeafContext)
  /-- The declared type does not fit the field. -/
  | typeMismatch (context : LeafContext) (fieldType : String) (reason : MismatchReason)
  | wrongArity (field operator : String) (expected found : Nat)

namespace CompileError

def code : CompileError → String
  | unresolvableField _ _ => "QUERY_FIELD_UNRESOLVABLE"
  | unsupportedKeyType _ _ => "QUERY_KEY_TYPE_UNSUPPORTED"
  | coercion _ _ _ => "QUERY_COERCION_FAILED"
  | unknownOperator _ _ => "QUERY_UNKNOWN_OPERATOR"
  | unknownType _ _ => "QUERY_UNKNOWN_TYPE"
  | operatorTypeMismatch _ => "QUERY_OPERATOR_TYPE_MISMATCH"
  | typeMismatch _ _ _ => "QUERY_TYPE_MISMATCH"
  | wrongArity _ _ _ _ => "QUERY_WRONG_ARITY"

def field : CompileError → String
  | unresolvableField path _ => path
  | unsupportedKeyType path _ => path
  | coercion context _ _ => context.field
  | unknownOperator field _ => field
  | unknownType field _ => field
  | operatorTypeMismatch context => context.field
  | typeMismatch context _ _ => context.field
  | wrongArity field _ _ _ => field

def message : CompileError → String
  | unresolvableField path segment =>
      "field '" ++ path ++ "' cannot be resolved: nothing named '" ++ segment ++ "'"
  | unsupportedKeyType path keyType =>
      "field '" ++ path ++ "' addresses a map keyed by " ++ keyType ++
        "; only string keys can be used in a path"
  | coercion context literal fault =>
      "value " ++ literal.write ++ " for field '" ++ context.field ++ "' (operator '" ++
        context.operator ++ "') is not a valid " ++ context.declared.name ++ ": " ++
        fault.message
  | unknownOperator field operator =>
      "unknown operator '" ++ operator ++ "' in rule for field '" ++ field ++ "'"
  | unknownType field tag =>
      "unknown type '" ++ tag ++ "' in rule for field '" ++ field ++ "'"
  | operatorTypeMismatch context =>
      "operator '" ++ context.operator ++ "' cannot be applied to " ++
        context.declared.name ++ " values (field '" ++ context.field ++ "')"
  | typeMismatch context fieldType reason =>
      "field '" ++ context.field ++ "' of type " ++ fieldType ++ " cannot be compared as " ++
        context.declared.name ++ " with '" ++ context.operator ++ "': " ++ reason.message
  | wrongArity field operator expected found =>
      "operator '" ++ operator ++ "' on field '" ++ field ++ "' expects " ++
        Number.integerText expected ++ " value(s), got " ++ Number.integerText found

end CompileError

/-- Why a predicate has no answer for a record. -/
inductive EvalError where
  /-- A map or an indexer has no entry under the key. -/
  | keyNotFound (path key : String)
  /-- A field on the way is null, and nulls are not guarded. -/
  | nullReference (path segment : String)
deriving DecidableEq

namespace EvalError

def code : EvalError → String
  | keyNotFound _ _ => "QUERY_KEY_NOT_FOUND"
  | nullReference _ _ => "QUERY_NULL_REFERENCE"

def path : EvalError → String
  | keyNotFound path _ => path
  | nullReference path _ => path

def message : EvalError → String
  | keyNotFound path key =>
      "key '" ++ key ++ "' not found while reading field '" ++ path ++ "'"
  | nullReference path segment =>
      "null reference at '" ++ segment ++ "' while reading field '" ++ path ++ "'"

end EvalError

end RecordFilter
