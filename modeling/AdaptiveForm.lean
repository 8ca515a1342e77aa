import AdaptiveForm.Byte.CodePage
import AdaptiveForm.Byte.Encoding
import AdaptiveForm.Byte.Utf16
import AdaptiveForm.Byte.Utf8
import AdaptiveForm.Command.Arguments
import AdaptiveForm.Command.Basic
import AdaptiveForm.Command.EnvironmentFile
import AdaptiveForm.Command.Host
import AdaptiveForm.Command.Run
import AdaptiveForm.Decimal.Binary64
import AdaptiveForm.Decimal.Reading
import AdaptiveForm.Decimal.Shortest
import AdaptiveForm.Field.Basic
import AdaptiveForm.Field.Build
import AdaptiveForm.Field.Dotted
import AdaptiveForm.Field.Mapping
import AdaptiveForm.Field.Value
import AdaptiveForm.Form.Definition
import AdaptiveForm.Form.Environment
import AdaptiveForm.Form.Panel
import AdaptiveForm.Form.Property
import AdaptiveForm.Form.Settings
import AdaptiveForm.Form.SettingsJson
import AdaptiveForm.Form.Trace
import AdaptiveForm.Form.Transform
import AdaptiveForm.Form.Tree
import AdaptiveForm.Formula.Cell
import AdaptiveForm.Formula.Error
import AdaptiveForm.Formula.Expr
import AdaptiveForm.Formula.Reader
import AdaptiveForm.Formula.Scan
import AdaptiveForm.Formula.Token
import AdaptiveForm.Json.Basic
import AdaptiveForm.Json.Decode
import AdaptiveForm.Json.Error
import AdaptiveForm.Json.Lexeme
import AdaptiveForm.Json.Number
import AdaptiveForm.Json.Numeral
import AdaptiveForm.Json.Printer
import AdaptiveForm.Json.Reader
import AdaptiveForm.Log
import AdaptiveForm.Main
import AdaptiveForm.Pipeline.Options
import AdaptiveForm.Pipeline.OptionsJson
import AdaptiveForm.Pipeline.Run
import AdaptiveForm.Proofs.Field.Attribute
import AdaptiveForm.Proofs.Form.Compilation
import AdaptiveForm.Proofs.Form.Forest
import AdaptiveForm.Proofs.Form.Listing
import AdaptiveForm.Proofs.Formula.Completeness
import AdaptiveForm.Proofs.Formula.Grammar
import AdaptiveForm.Proofs.Formula.Parsing
import AdaptiveForm.Proofs.Formula.Pins
import AdaptiveForm.Proofs.Formula.Soundness
import AdaptiveForm.Proofs.Formula.Unambiguity
import AdaptiveForm.Proofs.Rule.Acceptance
import AdaptiveForm.Proofs.Rule.Emission
import AdaptiveForm.Proofs.Rule.Grammar
import AdaptiveForm.Proofs.Rule.Grouping
import AdaptiveForm.Proofs.Rule.Lexeme
import AdaptiveForm.Proofs.Rule.Meaning
import AdaptiveForm.Proofs.Rule.Opening
import AdaptiveForm.Proofs.Rule.Piece
import AdaptiveForm.Proofs.Rule.Unambiguity
import AdaptiveForm.Proofs.Rule.Writing
import AdaptiveForm.Rule.Check
import AdaptiveForm.Rule.Compile
import AdaptiveForm.Rule.Function
import AdaptiveForm.Rule.Token
import AdaptiveForm.Schema.Basic
import AdaptiveForm.Schema.Form
import AdaptiveForm.Service.Request
import AdaptiveForm.Service.Response
import AdaptiveForm.Service.Routes
import AdaptiveForm.Sheet.Delimited
import AdaptiveForm.Sheet.Location
import AdaptiveForm.Sheet.Payload
import AdaptiveForm.Sheet.Table
import AdaptiveForm.Text.Alphabetic
import AdaptiveForm.Text.CodePoints
import AdaptiveForm.Text.LetterCase
import AdaptiveForm.Text.Numeric
import AdaptiveForm.Text.Quoted
import AdaptiveForm.Text.Space
import AdaptiveForm.Text.Split
import AdaptiveForm.Proofs.Form.Rows
import AdaptiveForm.Proofs.Form.Document
import AdaptiveForm.Proofs.Field.Finishing
import AdaptiveForm.Proofs.Form.Nesting
import AdaptiveForm.Proofs.Form.Report
import AdaptiveForm.Proofs.Form.Position
import AdaptiveForm.Proofs.Form.Reference
import AdaptiveForm.Proofs.Form.Blank
import AdaptiveForm.Proofs.Sheet.Quoting
import AdaptiveForm.Proofs.Sheet.RoundTrip
import AdaptiveForm.Proofs.Schema.Conformance
import AdaptiveForm.Proofs.Field.Fitting
import AdaptiveForm.Proofs.Form.Validity
import AdaptiveForm.Proofs.Json.Alike
import AdaptiveForm.Proofs.Field.Order
import AdaptiveForm.Proofs.Form.Order
import AdaptiveForm.Proofs.Rule.Literal
import AdaptiveForm.Proofs.Form.Placement
import AdaptiveForm.Proofs.Form.Stray
import AdaptiveForm.Proofs.Form.Paneling
import AdaptiveForm.Proofs.Form.Naming
import AdaptiveForm.Proofs.Text.LetterCase
import AdaptiveForm.Proofs.Formula.Number
import AdaptiveForm.Proofs.Formula.Spelling
import AdaptiveForm.Proofs.Rule.Soundness
import AdaptiveForm.Proofs.Rule.Numeral
import AdaptiveForm.Proofs.Rule.Quotation
import AdaptiveForm.Proofs.Field.Place
import AdaptiveForm.Proofs.Field.Submitting
import AdaptiveForm.Proofs.Formula.Refusal
import AdaptiveForm.Proofs.Rule.Demand
import AdaptiveForm.Proofs.Rule.Refusal
import AdaptiveForm.Proofs.Rule.Splice
import AdaptiveForm.Proofs.Form.Merging
import AdaptiveForm.Proofs.Form.Numbering
import AdaptiveForm.Proofs.Field.Expansion
import AdaptiveForm.Proofs.Field.Loading
import AdaptiveForm.Proofs.Form.Normality
import AdaptiveForm.Proofs.Field.Landing
import AdaptiveForm.Proofs.Field.Renaming
import AdaptiveForm.Proofs.Sheet.Detection
import AdaptiveForm.Proofs.Form.Counting
import AdaptiveForm.Proofs.Rule.Range
