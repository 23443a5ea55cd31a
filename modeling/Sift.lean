import Sift.Main
import Sift.Proofs.Evaluation.Calls
import Sift.Proofs.Filter.Partition
import Sift.Proofs.Filter.Negation
import Sift.Proofs.Filter.Rearrangement
import Sift.Proofs.Registry.Naming
import Sift.Proofs.Registry.Table
import Sift.Proofs.Registry.Lasting
import Sift.Proofs.Path.Composition
import Sift.Proofs.Path.Stored
import Sift.Proofs.Path.Derived
import Sift.Proofs.Binary64.Rounding
import Sift.Proofs.Binary64.Integer
import Sift.Proofs.Binary64.Nearest
import Sift.Proofs.Decimal.Digits
import Sift.Proofs.Decimal.Rounding
import Sift.Proofs.Decimal.Written
import Sift.Proofs.Decimal.Shortest
import Sift.Proofs.Decimal.Forms
import Sift.Proofs.Number.Order
import Sift.Proofs.Number.Reading
import Sift.Proofs.Number.Text
import Sift.Proofs.Number.Value
import Sift.Proofs.Number.Grammar
import Sift.Proofs.Number.Exact
import Sift.Proofs.Json.Literal
import Sift.Proofs.Json.Alike
import Sift.Proofs.Builtin.Naming
import Sift.Proofs.Builtin.Ordering
import Sift.Proofs.Builtin.Quoted
import Sift.Proofs.Builtin.Candidates
import Sift.Proofs.Builtin.PatternCache
import Sift.Proofs.Builtin.Failures
import Sift.Proofs.Filter.First
import Sift.Proofs.Json.Equality
import Sift.Proofs.Filter.History
import Sift.Proofs.Filter.Narrowing
import Sift.Proofs.Builtin.Elements
import Sift.Proofs.Builtin.Coercing
import Sift.Proofs.Json.Canonical
import Sift.Proofs.Json.NumberText
import Sift.Proofs.Pipeline.Stages
import Sift.Proofs.Json.ReadBack
import Sift.Proofs.Pipeline.Modes
import Sift.Proofs.Pipeline.Rerun
import Sift.Proofs.Json.Transitivity
import Sift.Proofs.Builtin.Absent
import Sift.Proofs.Builtin.Texts
import Sift.Proofs.Operator.Encoded
import Sift.Proofs.Operator.Reading
import Sift.Proofs.Conditions.Document
import Sift.Proofs.Conditions.Expression
