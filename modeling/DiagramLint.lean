import DiagramLint.Classify
import DiagramLint.Detect
import DiagramLint.Diagnostic
import DiagramLint.Dialect
import DiagramLint.Engine
import DiagramLint.ErrorKind
import DiagramLint.Event
import DiagramLint.Finding
import DiagramLint.Form.Checked
import DiagramLint.Form.Field
import DiagramLint.Form.Integer
import DiagramLint.Form.Problem
import DiagramLint.Form.Record
import DiagramLint.Grammar
import DiagramLint.Http.Request
import DiagramLint.Http.Route
import DiagramLint.Http.Service
import DiagramLint.Json.Basic
import DiagramLint.Json.Double
import DiagramLint.Json.Encoding
import DiagramLint.Json.Printer
import DiagramLint.Json.Reader
import DiagramLint.Json.Reading
import DiagramLint.Json.Showable
import DiagramLint.Logging
import DiagramLint.Meaningful
import DiagramLint.Pattern.Basic
import DiagramLint.Pattern.Matcher
import DiagramLint.Pattern.Printer
import DiagramLint.Pattern.Removal
import DiagramLint.Reference
import DiagramLint.Registry
import DiagramLint.RuleTable
import DiagramLint.Scan
import DiagramLint.Session
import DiagramLint.Text.Blank
import DiagramLint.Text.Fold
import DiagramLint.Text.Lower
import DiagramLint.Text.Printable
import DiagramLint.Text.Quoted
import DiagramLint.Text.Strip
import DiagramLint.Text.Surrogate
import DiagramLint.Validator
import DiagramLint.Wire
import DiagramLint.Proofs.Scanning
import DiagramLint.Proofs.Validation
import DiagramLint.Proofs.Failure
import DiagramLint.Proofs.Entries
import DiagramLint.Proofs.FailFast
import DiagramLint.Proofs.Findings
import DiagramLint.Proofs.Batch
import DiagramLint.Proofs.Bodies
import DiagramLint.Proofs.Casing
import DiagramLint.Proofs.Charts
import DiagramLint.Proofs.Connections
import DiagramLint.Proofs.Consuming
import DiagramLint.Proofs.Containment
import DiagramLint.Proofs.Declaration
import DiagramLint.Proofs.Detection
import DiagramLint.Proofs.Flowcharts
import DiagramLint.Proofs.History
import DiagramLint.Proofs.Independence
import DiagramLint.Proofs.Keywords
import DiagramLint.Proofs.Language
import DiagramLint.Proofs.Layout
import DiagramLint.Proofs.LetterCase
import DiagramLint.Proofs.Lines
import DiagramLint.Proofs.Outcome
import DiagramLint.Proofs.Readings
import DiagramLint.Proofs.Redundancy
import DiagramLint.Proofs.Repair
import DiagramLint.Proofs.RoundTrip
import DiagramLint.Proofs.SameLines
import DiagramLint.Proofs.Serving
import DiagramLint.Proofs.Summary
import DiagramLint.Proofs.Transitions
import DiagramLint.Proofs.Transparency
import DiagramLint.Proofs.Words
import DiagramLint.Proofs.References
import DiagramLint.Proofs.RuleOrder
import DiagramLint.Proofs.Events
import DiagramLint.Proofs.Records
import DiagramLint.Proofs.Sigmas
import DiagramLint.Proofs.Phrases
import DiagramLint.Proofs.Trimming
