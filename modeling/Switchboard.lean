import Switchboard.Catalog.Document
import Switchboard.Definitions.Document
import Switchboard.Definitions.Loader
import Switchboard.Error
import Switchboard.Expression.Basic
import Switchboard.Expression.Builtin
import Switchboard.Expression.Coercion
import Switchboard.Expression.Evaluation
import Switchboard.Json.Basic
import Switchboard.Json.Fault
import Switchboard.Json.Path
import Switchboard.Json.Reader
import Switchboard.Json.Record
import Switchboard.Json.Text
import Switchboard.Main
import Switchboard.Number.Basic
import Switchboard.Number.Binary64
import Switchboard.Number.Decimal
import Switchboard.Operation.Arguments
import Switchboard.Operation.Basic
import Switchboard.Operation.Parameter
import Switchboard.Pattern.Basic
import Switchboard.Pattern.Bracket
import Switchboard.Pattern.Core
import Switchboard.Pattern.Escape
import Switchboard.Pattern.Fault
import Switchboard.Pattern.Input
import Switchboard.Pattern.Meaning
import Switchboard.Pattern.Program
import Switchboard.Pattern.Reader
import Switchboard.Pattern.Search
import Switchboard.Pattern.Span
import Switchboard.Pattern.Syntax
import Switchboard.Pattern.Weight
import Switchboard.Proofs.Catalog.Reading
import Switchboard.Proofs.Catalog.RoundTrip
import Switchboard.Proofs.Definitions.Independence
import Switchboard.Proofs.Definitions.Interleaving
import Switchboard.Proofs.Definitions.Loading
import Switchboard.Proofs.Definitions.Validity
import Switchboard.Proofs.Definitions.Workspace
import Switchboard.Proofs.Dispatch.Blame
import Switchboard.Proofs.Dispatch.Causes
import Switchboard.Proofs.Dispatch.Chains
import Switchboard.Proofs.Dispatch.Dependence
import Switchboard.Proofs.Dispatch.Depth
import Switchboard.Proofs.Dispatch.Errors
import Switchboard.Proofs.Dispatch.Extension
import Switchboard.Proofs.Dispatch.Failures
import Switchboard.Proofs.Dispatch.Graph
import Switchboard.Proofs.Dispatch.Isolation
import Switchboard.Proofs.Dispatch.Nesting
import Switchboard.Proofs.Dispatch.OwnCode
import Switchboard.Proofs.Dispatch.Resolution
import Switchboard.Proofs.Dispatch.Scope
import Switchboard.Proofs.Dispatch.Unlimited
import Switchboard.Proofs.Dispatch.Vocabulary
import Switchboard.Proofs.Expression.Callees
import Switchboard.Proofs.Expression.Congruence
import Switchboard.Proofs.Expression.Cuts
import Switchboard.Proofs.Expression.Equality
import Switchboard.Proofs.Expression.Errors
import Switchboard.Proofs.Expression.Invocation
import Switchboard.Proofs.Expression.Iteration
import Switchboard.Proofs.Expression.Junction
import Switchboard.Proofs.Expression.Narrowing
import Switchboard.Proofs.Expression.Parts
import Switchboard.Proofs.Expression.Places
import Switchboard.Proofs.Expression.Presence
import Switchboard.Proofs.Expression.Relation
import Switchboard.Proofs.Expression.Sequence
import Switchboard.Proofs.Expression.Substitution
import Switchboard.Proofs.Expression.Sums
import Switchboard.Proofs.Expression.Template
import Switchboard.Proofs.Expression.Vocabulary
import Switchboard.Proofs.Json.Children
import Switchboard.Proofs.Json.Ends
import Switchboard.Proofs.Json.Equality
import Switchboard.Proofs.Json.Layout
import Switchboard.Proofs.Json.Parsed
import Switchboard.Proofs.Json.Paths
import Switchboard.Proofs.Json.Records
import Switchboard.Proofs.Json.Scalars
import Switchboard.Proofs.Json.Shape
import Switchboard.Proofs.Json.Values
import Switchboard.Proofs.Number.Equality
import Switchboard.Proofs.Number.Integral
import Switchboard.Proofs.Number.Narrowing
import Switchboard.Proofs.Number.Rounding
import Switchboard.Proofs.Number.Sums
import Switchboard.Proofs.Number.Whole
import Switchboard.Proofs.Operation.Binding
import Switchboard.Proofs.Operation.Contexts
import Switchboard.Proofs.Operation.Drafts
import Switchboard.Proofs.Operation.Outcomes
import Switchboard.Proofs.Operation.Payloads
import Switchboard.Proofs.Operation.Refusals
import Switchboard.Proofs.Pattern.Advance
import Switchboard.Proofs.Pattern.Anchoring
import Switchboard.Proofs.Pattern.Assembly
import Switchboard.Proofs.Pattern.Brackets
import Switchboard.Proofs.Pattern.Escapes
import Switchboard.Proofs.Pattern.Groups
import Switchboard.Proofs.Pattern.Inputs
import Switchboard.Proofs.Pattern.Language
import Switchboard.Proofs.Pattern.Pieces
import Switchboard.Proofs.Pattern.Repetitions
import Switchboard.Proofs.Pattern.Searching
import Switchboard.Proofs.Pattern.Sizes
import Switchboard.Proofs.Pattern.Spans
import Switchboard.Proofs.Pattern.WholeTexts
import Switchboard.Proofs.Registry.Course
import Switchboard.Proofs.Registry.Laws
import Switchboard.Proofs.Registry.Runs
import Switchboard.Proofs.Registry.Session
import Switchboard.Proofs.Server.Attribution
import Switchboard.Proofs.Server.Batches
import Switchboard.Proofs.Server.Deployment
import Switchboard.Proofs.Server.Draining
import Switchboard.Proofs.Server.Encoding
import Switchboard.Proofs.Server.Formatting
import Switchboard.Proofs.Server.Installation
import Switchboard.Proofs.Server.Isolation
import Switchboard.Proofs.Server.Lifecycle
import Switchboard.Proofs.Server.Matching
import Switchboard.Proofs.Server.Origin
import Switchboard.Proofs.Server.Phases
import Switchboard.Proofs.Server.Posts
import Switchboard.Proofs.Server.Publication
import Switchboard.Proofs.Server.Stopping
import Switchboard.Proofs.Server.Tokens
import Switchboard.Proofs.Server.Unescaping
import Switchboard.Proofs.Server.Wrapping
import Switchboard.Proofs.Task.Deadline
import Switchboard.Proofs.Task.Ends
import Switchboard.Proofs.Task.Failure
import Switchboard.Proofs.Task.Runs
import Switchboard.Proofs.Task.Series
import Switchboard.Proofs.Task.Sight
import Switchboard.Proofs.Task.Success
import Switchboard.Proofs.Text.Base64
import Switchboard.Proofs.Text.Bytes
import Switchboard.Proofs.Text.Characters
import Switchboard.Proofs.Text.Hex
import Switchboard.Proofs.Text.Lines
import Switchboard.Proofs.Toolbox.Calls
import Switchboard.Proofs.Toolbox.Codecs
import Switchboard.Proofs.Toolbox.Refusals
import Switchboard.Proofs.Traffic.Flight
import Switchboard.Proofs.Traffic.Ledger
import Switchboard.Proofs.Traffic.Pending
import Switchboard.Proofs.Traffic.Permits
import Switchboard.Proofs.Traffic.Transparency
import Switchboard.Registry.Basic
import Switchboard.Registry.Dispatch
import Switchboard.Server.Basic
import Switchboard.Server.Health
import Switchboard.Server.Http
import Switchboard.Server.Lifecycle
import Switchboard.Server.Rpc
import Switchboard.Task
import Switchboard.Text.Base64
import Switchboard.Text.Blank
import Switchboard.Text.Digit
import Switchboard.Text.Hex
import Switchboard.Text.Utf8
import Switchboard.Toolbox.Basic
import Switchboard.Toolbox.Encoding
import Switchboard.Toolbox.Formatter
import Switchboard.Toolbox.Generator
import Switchboard.Toolbox.Security
import Switchboard.Toolbox.Standard
import Switchboard.Toolbox.Text
import Switchboard.Traffic.Admission
import Switchboard.Traffic.Flight
import Switchboard.Unicode.Age
import Switchboard.Unicode.AgeTable
import Switchboard.Unicode.Category
import Switchboard.Unicode.CategoryTable
import Switchboard.Unicode.CharSet
import Switchboard.Unicode.Folding
import Switchboard.Unicode.FoldingTable
import Switchboard.Unicode.Naming
import Switchboard.Unicode.Property
import Switchboard.Unicode.PropertyTable
import Switchboard.Unicode.Script
import Switchboard.Unicode.ScriptTable
import Switchboard.Unicode.Segmentation
import Switchboard.Unicode.Table
