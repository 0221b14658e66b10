import ShippingRules.Blake3
import ShippingRules.Cache.Blob
import ShippingRules.Cache.Bytes
import ShippingRules.Cache.Part
import ShippingRules.Cache.Payload
import ShippingRules.Calendar
import ShippingRules.Catalog
import ShippingRules.Catalog.Builtin
import ShippingRules.Dimension
import ShippingRules.Directory
import ShippingRules.Engine.Basic
import ShippingRules.Engine.Loading
import ShippingRules.Evaluator.Basic
import ShippingRules.Evaluator.Table
import ShippingRules.Fields
import ShippingRules.Fields.Lemmas
import ShippingRules.Gate
import ShippingRules.IdSet
import ShippingRules.Json.Basic
import ShippingRules.Json.Reader
import ShippingRules.Json.Text
import ShippingRules.MatchMode
import ShippingRules.Number.Decimal
import ShippingRules.Number.Double
import ShippingRules.Number.Numeral
import ShippingRules.Number.Scaled
import ShippingRules.Operator
import ShippingRules.Proofs.Assembly
import ShippingRules.Proofs.Cache.Conversion
import ShippingRules.Proofs.Cache.Damage
import ShippingRules.Proofs.Cache.Kept
import ShippingRules.Proofs.Cache.Part
import ShippingRules.Proofs.Cache.RoundTrip
import ShippingRules.Proofs.Cache.Staleness
import ShippingRules.Proofs.Calendar
import ShippingRules.Proofs.Catalog
import ShippingRules.Proofs.Configuration
import ShippingRules.Proofs.Evaluation.Agreement
import ShippingRules.Proofs.Evaluation.Blurred
import ShippingRules.Proofs.Evaluation.CartItems
import ShippingRules.Proofs.Evaluation.Composition
import ShippingRules.Proofs.Evaluation.Defaults
import ShippingRules.Proofs.Evaluation.Mistakes
import ShippingRules.Proofs.Evaluation.Order
import ShippingRules.Proofs.Evaluation.Reordered
import ShippingRules.Proofs.Evaluation.Scope
import ShippingRules.Proofs.Evaluation.Textual
import ShippingRules.Proofs.Evaluator.Builtin
import ShippingRules.Proofs.Evaluator.CartTotal
import ShippingRules.Proofs.Evaluator.City
import ShippingRules.Proofs.Evaluator.Instant
import ShippingRules.Proofs.Evaluator.Lists
import ShippingRules.Proofs.Evaluator.Membership
import ShippingRules.Proofs.Evaluator.Table
import ShippingRules.Proofs.Gate
import ShippingRules.Proofs.Json.Legible
import ShippingRules.Proofs.Json.NumberText
import ShippingRules.Proofs.Json.RoundTrip
import ShippingRules.Proofs.Json.Structure
import ShippingRules.Proofs.Json.TextRoundTrip
import ShippingRules.Proofs.Lifetime
import ShippingRules.Proofs.Listing
import ShippingRules.Proofs.NormalForm
import ShippingRules.Proofs.Normalization
import ShippingRules.Proofs.Number.Comparison
import ShippingRules.Proofs.Number.DoubleText
import ShippingRules.Proofs.Number.NotANumber
import ShippingRules.Proofs.Number.Numeral
import ShippingRules.Proofs.Number.Order
import ShippingRules.Proofs.Number.Overflow
import ShippingRules.Proofs.Number.Rounding
import ShippingRules.Proofs.Number.Scaled
import ShippingRules.Proofs.Number.ShortestDigits
import ShippingRules.Proofs.Registration
import ShippingRules.Proofs.Sameness
import ShippingRules.Proofs.Settings.FormerType
import ShippingRules.Proofs.Settings.Header
import ShippingRules.Proofs.Settings.Record
import ShippingRules.Proofs.Settings.Reload
import ShippingRules.Proofs.Settings.StoredRule
import ShippingRules.Proofs.Settings.WrittenBack
import ShippingRules.Proofs.Snapshot
import ShippingRules.Proofs.Template
import ShippingRules.Proofs.Temporal.Grammar
import ShippingRules.Proofs.Temporal.RoundTrip
import ShippingRules.Proofs.Temporal.Spelling
import ShippingRules.Proofs.Temporal.Text
import ShippingRules.Proofs.Text
import ShippingRules.Proofs.Text.LowerCase
import ShippingRules.Proofs.Verdict
import ShippingRules.Roster
import ShippingRules.Rule
import ShippingRules.RuleSet
import ShippingRules.RuleType
import ShippingRules.Settings.Record
import ShippingRules.Settings.StoredRule
import ShippingRules.Snapshot
import ShippingRules.Template
import ShippingRules.Temporal.Basic
import ShippingRules.Temporal.Literal
import ShippingRules.Text.Blank
import ShippingRules.Text.CaseData
import ShippingRules.Text.LowerCase
import ShippingRules.Text.Pieces
import ShippingRules.Text.Quoted
import ShippingRules.Text.Visibility
import ShippingRules.Value
import ShippingRules.Verdict
