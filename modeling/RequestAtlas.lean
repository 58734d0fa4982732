import RequestAtlas.Analysis.Basic
import RequestAtlas.Analysis.Check
import RequestAtlas.Analysis.Prompt
import RequestAtlas.Analysis.Reply
import RequestAtlas.Check.Basic
import RequestAtlas.Check.Scalar
import RequestAtlas.Collection.Basic
import RequestAtlas.Collection.Json
import RequestAtlas.Collection.Organized
import RequestAtlas.Collection.Requests
import RequestAtlas.Decimal.Binary64
import RequestAtlas.Decimal.Layout
import RequestAtlas.Decimal.Shortest
import RequestAtlas.Fault
import RequestAtlas.Import.Config
import RequestAtlas.Import.Failure
import RequestAtlas.Import.Session
import RequestAtlas.Json.Limits
import RequestAtlas.Json.Printer
import RequestAtlas.Json.Reader
import RequestAtlas.Json.Shown
import RequestAtlas.Json.Value
import RequestAtlas.Net.Address.Authority
import RequestAtlas.Net.Address.Basic
import RequestAtlas.Net.Address.Encoded
import RequestAtlas.Net.Address.Flaw
import RequestAtlas.Net.Chat
import RequestAtlas.Net.Exchange
import RequestAtlas.Net.HostName
import RequestAtlas.Net.Label.Basic
import RequestAtlas.Net.Label.CharTable
import RequestAtlas.Net.Label.Composed
import RequestAtlas.Net.Label.Flaw
import RequestAtlas.Net.Label.MarkTable
import RequestAtlas.Net.Redirect
import RequestAtlas.Net.SchemaSource
import RequestAtlas.Net.Status
import RequestAtlas.Proofs.Analysis.Fences
import RequestAtlas.Proofs.Analysis.Overruns
import RequestAtlas.Proofs.Analysis.RoundTrip
import RequestAtlas.Proofs.Collection.Completeness
import RequestAtlas.Proofs.Collection.Deselection
import RequestAtlas.Proofs.Collection.Groups
import RequestAtlas.Proofs.Collection.KeyConfinement
import RequestAtlas.Proofs.Collection.Outline
import RequestAtlas.Proofs.Collection.Placement
import RequestAtlas.Proofs.Collection.Resources
import RequestAtlas.Proofs.Collection.Sources
import RequestAtlas.Proofs.Collection.Texts
import RequestAtlas.Proofs.Collection.WriteBodies
import RequestAtlas.Proofs.Collection.Written
import RequestAtlas.Proofs.Import.Badges
import RequestAtlas.Proofs.Import.Coherence
import RequestAtlas.Proofs.Import.Failures
import RequestAtlas.Proofs.Import.FallBack
import RequestAtlas.Proofs.Import.Intact
import RequestAtlas.Proofs.Import.Preview
import RequestAtlas.Proofs.Import.Reload
import RequestAtlas.Proofs.Import.Run
import RequestAtlas.Proofs.Import.Stateless
import RequestAtlas.Proofs.Json.Blanks
import RequestAtlas.Proofs.Json.Depth
import RequestAtlas.Proofs.Json.Digits
import RequestAtlas.Proofs.Json.Exact
import RequestAtlas.Proofs.Json.Fields
import RequestAtlas.Proofs.Json.Overrun
import RequestAtlas.Proofs.Json.RoundTrip
import RequestAtlas.Proofs.Json.Spelling
import RequestAtlas.Proofs.Json.Trimmed
import RequestAtlas.Proofs.Net.Attempt
import RequestAtlas.Proofs.Net.ChatFailures
import RequestAtlas.Proofs.Net.Exchange
import RequestAtlas.Proofs.Net.FormQuery
import RequestAtlas.Proofs.Net.Retries
import RequestAtlas.Proofs.Net.SchemaFetch
import RequestAtlas.Proofs.Schema.Body
import RequestAtlas.Proofs.Schema.Comments
import RequestAtlas.Proofs.Schema.Composition
import RequestAtlas.Proofs.Schema.Header
import RequestAtlas.Proofs.Schema.HeaderGrammar
import RequestAtlas.Proofs.Schema.Layout
import RequestAtlas.Proofs.Schema.Reference
import RequestAtlas.Proofs.Schema.ReferenceGrammar
import RequestAtlas.Proofs.Schema.RoundTrip
import RequestAtlas.Proofs.Schema.WellFormed
import RequestAtlas.Proofs.Selection.Filter
import RequestAtlas.Proofs.Selection.Run
import RequestAtlas.Proofs.Service.Faults
import RequestAtlas.Proofs.Service.Independence
import RequestAtlas.Proofs.Service.Lifecycle
import RequestAtlas.Proofs.Service.Routing
import RequestAtlas.Proofs.Service.Run
import RequestAtlas.Proofs.Text.Case
import RequestAtlas.Proofs.Text.Cuts
import RequestAtlas.Proofs.Text.Layout
import RequestAtlas.Proofs.Text.Percent
import RequestAtlas.Proofs.Text.Pieces
import RequestAtlas.Proofs.Url.Form
import RequestAtlas.Proofs.Url.Query
import RequestAtlas.Sample
import RequestAtlas.Schema.Basic
import RequestAtlas.Schema.Json
import RequestAtlas.Schema.Line
import RequestAtlas.Schema.Reader
import RequestAtlas.Schema.Reference
import RequestAtlas.Selection
import RequestAtlas.Service.Answer
import RequestAtlas.Service.Call
import RequestAtlas.Service.Registry
import RequestAtlas.Service.Route
import RequestAtlas.Settings
import RequestAtlas.Text.Ascii
import RequestAtlas.Text.Blank
import RequestAtlas.Text.Case
import RequestAtlas.Text.CaseTable
import RequestAtlas.Text.Encoding
import RequestAtlas.Text.Numeral
import RequestAtlas.Text.Percent
import RequestAtlas.Text.Printable
import RequestAtlas.Text.Punycode
import RequestAtlas.Text.Search
import RequestAtlas.Text.Utf8
import RequestAtlas.Timestamp
import RequestAtlas.Url.Basic
import RequestAtlas.Url.HostLiteral
import RequestAtlas.Url.Split
