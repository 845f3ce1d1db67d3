import LexicalScope.Diagnostic.Basic
import LexicalScope.Diagnostic.Fault
import LexicalScope.Diagnostic.Offsets
import LexicalScope.Diagnostic.Pointer
import LexicalScope.Diagnostic.Refusal
import LexicalScope.Diagnostic.Region
import LexicalScope.Dict.Lemmas
import LexicalScope.Json.Outline
import LexicalScope.Json.Reading.Value
import LexicalScope.Json.Text
import LexicalScope.Numeric.Decimal
import LexicalScope.Numeric.Integer
import LexicalScope.Numeric.Scaled
import LexicalScope.Outline
import LexicalScope.Script.Basic
import LexicalScope.Service.Request
import LexicalScope.Service.Response
import LexicalScope.Store.Basic
import LexicalScope.Table.Basic
import LexicalScope.Table.Lemmas
import LexicalScope.Table.Name
import LexicalScope.Text.Blank
import LexicalScope.Text.Bytes
import LexicalScope.Text.Lines
import LexicalScope.Text.Located
import LexicalScope.Text.Offset
import LexicalScope.Text.Quoted
import LexicalScope.Text.Width.Lemmas
import LexicalScope.Typed.Datum
import LexicalScope.Typed.Parts
import LexicalScope.Typed.ReadError
import LexicalScope.Typed.Reading
import LexicalScope.Typed.Schema
import LexicalScope.Proofs.Script.Effect
import LexicalScope.Proofs.Script.Block
import LexicalScope.Proofs.Script.Nesting
import LexicalScope.Proofs.Ledger.Basic
import LexicalScope.Proofs.Ledger.Simulation
import LexicalScope.Proofs.Script.Root
import LexicalScope.Proofs.Script.Invariant
import LexicalScope.Proofs.Table.Visible
import LexicalScope.Proofs.Script.Queries
import LexicalScope.Proofs.Script.Failure
import LexicalScope.Proofs.Script.Bracket
import LexicalScope.Proofs.Script.Lifetime
import LexicalScope.Proofs.Script.Names
import LexicalScope.Proofs.Script.Snapshot
import LexicalScope.Proofs.Table.Only
import LexicalScope.Proofs.Script.Separation
import LexicalScope.Proofs.Text.Boundary
import LexicalScope.Proofs.Text.Lines
import LexicalScope.Proofs.Text.Seam
import LexicalScope.Proofs.Text.Width
import LexicalScope.Proofs.Diagnostic.Report
import LexicalScope.Proofs.Diagnostic.Located
import LexicalScope.Proofs.Diagnostic.Embedded
import LexicalScope.Proofs.Diagnostic.Underline
import LexicalScope.Proofs.Json.Collected
import LexicalScope.Proofs.Json.Number
import LexicalScope.Proofs.Json.RoundTrip
import LexicalScope.Proofs.Diagnostic.Legible
import LexicalScope.Proofs.Numeric.Exact
import LexicalScope.Proofs.Service.Response
import LexicalScope.Proofs.Typed.RoundTrip
import LexicalScope.Proofs.Json.Normal
import LexicalScope.Proofs.Script.Stored
import LexicalScope.Proofs.Table.Map
import LexicalScope.Proofs.Typed.Agree
import LexicalScope.Proofs.Script.Congruence
import LexicalScope.Proofs.Script.Rebinding
import LexicalScope.Proofs.Json.Printable
import LexicalScope.Proofs.Script.Floor
import LexicalScope.Proofs.Service.Classification
import LexicalScope.Proofs.Service.Request
import LexicalScope.Proofs.Diagnostic.Clamp
import LexicalScope.Proofs.Text.Quoted
import LexicalScope.Proofs.Diagnostic.InvalidName
import LexicalScope.Proofs.Script.Integers
import LexicalScope.Proofs.Typed.Parts
import LexicalScope.Proofs.Script.Transparent
