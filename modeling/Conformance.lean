import Conformance.Schema.Dump
import Conformance.Explanation.Failure
import Conformance.Explanation.Json
import Conformance.Pointer
import Conformance.Check.Validator
import Conformance.Schema.Combinators
import Conformance.Schema.Document
import Conformance.Wire.Basic
import Conformance.Wire.Reader
import Conformance.Schema.Basic
import Conformance.Scalar
import Conformance.Primitive
import Conformance.Value.Json
import Conformance.Json.Reader
import Conformance.Json.Writer
import Conformance.Json.Basic
import Conformance.Entries
import Conformance.Decimal.Layout
import Conformance.Proofs.Check.Denoted
import Conformance.Proofs.Check.Depth
import Conformance.Proofs.Check.Dismissal
import Conformance.Proofs.Check.Equality
import Conformance.Proofs.Check.Fields
import Conformance.Proofs.Check.Parallel
import Conformance.Proofs.Check.Widening
import Conformance.Proofs.Explanation.Address
import Conformance.Proofs.Explanation.Document
import Conformance.Proofs.Explanation.Failures
import Conformance.Proofs.Explanation.Parallel
import Conformance.Proofs.Explanation.Reload
import Conformance.Proofs.Explanation.Report
import Conformance.Proofs.Explanation.Writable
import Conformance.Proofs.Json.Same
import Conformance.Proofs.Schema.Alike
import Conformance.Proofs.Schema.Canonical
import Conformance.Proofs.Schema.Combinators
import Conformance.Proofs.Schema.Defects
import Conformance.Proofs.Schema.Grammar
import Conformance.Proofs.Schema.Written
import Conformance.Proofs.Value.Equality
import Conformance.Proofs.Value.Fields
import Conformance.Proofs.Value.Normal
import Conformance.Proofs.Entries.Repetition
import Conformance.Proofs.Schema.Redeclared
import Conformance.Proofs.Schema.Named
import Conformance.Proofs.Value.Document
import Conformance.Proofs.Value.Numbers
import Conformance.Proofs.Check.Literals
import Conformance.Proofs.Check.Merge
import Conformance.Proofs.Explanation.Places
import Conformance.Proofs.Explanation.Size
import Conformance.Proofs.Wire.Tidy
