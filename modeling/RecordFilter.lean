import RecordFilter.Json.Reader
import RecordFilter.Json.Writer
import RecordFilter.Log.Scope
import RecordFilter.Options
import RecordFilter.Path.Outcome
import RecordFilter.Path.Resolve
import RecordFilter.Predicate.Compile
import RecordFilter.Predicate.Filter
import RecordFilter.Record.Storage
import RecordFilter.Rule.Form
import RecordFilter.Proofs.Except
import RecordFilter.Proofs.Path.Scan
import RecordFilter.Proofs.Path.Typing
import RecordFilter.Proofs.Record.Conforms
import RecordFilter.Proofs.Path.Soundness
import RecordFilter.Proofs.Literal.Coercion
import RecordFilter.Proofs.Predicate.Plan
import RecordFilter.Proofs.Rule.Tree
import RecordFilter.Proofs.Predicate.Tree
import RecordFilter.Proofs.Predicate.Leaves
import RecordFilter.Proofs.Predicate.Blame
import RecordFilter.Proofs.Predicate.Fitness
import RecordFilter.Proofs.Rule.Dual
import RecordFilter.Proofs.Predicate.Duality
import RecordFilter.Proofs.Literal.Measure
import RecordFilter.Proofs.Predicate.Order
import RecordFilter.Proofs.Predicate.Trichotomy
import RecordFilter.Proofs.Path.Untyped
import RecordFilter.Proofs.Predicate.Agreement
import RecordFilter.Proofs.Path.Guard
import RecordFilter.Proofs.Predicate.Guard
import RecordFilter.Proofs.Path.Exchange
import RecordFilter.Proofs.Predicate.Membership
import RecordFilter.Proofs.Predicate.Splitting
import RecordFilter.Proofs.Predicate.Reordering
import RecordFilter.Proofs.Path.Extension
import RecordFilter.Proofs.Predicate.KeyPresence
import RecordFilter.Proofs.Record.Wrappers
import RecordFilter.Proofs.Path.Wrappers
import RecordFilter.Proofs.Predicate.Wrappers
import RecordFilter.Proofs.Log.Compilation
import RecordFilter.Proofs.Predicate.UntypedKeys
import RecordFilter.Proofs.Predicate.EnumNames
import RecordFilter.Proofs.Text.Lower
import RecordFilter.Proofs.Predicate.Folding
import RecordFilter.Proofs.Number.Nearest
import RecordFilter.Proofs.Literal.Integer
import RecordFilter.Proofs.Predicate.Orderings
import RecordFilter.Proofs.Predicate.Integers
import RecordFilter.Proofs.Path.Alike
import RecordFilter.Proofs.Path.Carried
import RecordFilter.Proofs.Predicate.Days
import RecordFilter.Proofs.Record.Prunes
import RecordFilter.Proofs.Predicate.AbsentMembers
import RecordFilter.Proofs.Predicate.Faults
import RecordFilter.Proofs.Predicate.NormalForm
import RecordFilter.Proofs.Text.LetterCase
import RecordFilter.Proofs.Record.Recased
import RecordFilter.Proofs.Predicate.LetterCase
import RecordFilter.Proofs.Literal.Rendering
import RecordFilter.Proofs.Predicate.Reconciling
import RecordFilter.Proofs.Calendar.Instant
import RecordFilter.Proofs.Predicate.Instants
import RecordFilter.Proofs.Predicate.Filter
import RecordFilter.Proofs.Number.Whole
import RecordFilter.Proofs.Json.Ordered
import RecordFilter.Proofs.Rule.Form
import RecordFilter.Proofs.Predicate.NullLiterals
import RecordFilter.Proofs.Json.Number
import RecordFilter.Proofs.Json.Lexing
import RecordFilter.Proofs.Json.RoundTrip
import RecordFilter.Proofs.Literal.Delimited
import RecordFilter.Proofs.Literal.Pieces
import RecordFilter.Proofs.Log.Lines
import RecordFilter.Proofs.Path.Rounds
import RecordFilter.Proofs.Predicate.Presence
import RecordFilter.Proofs.Literal.Separators
import RecordFilter.Proofs.Literal.Order
import RecordFilter.Proofs.Predicate.Registering
import RecordFilter.Proofs.Predicate.ExplicitText
