import MagnumClient.Text.Units
import MagnumClient.Text.Blank
import MagnumClient.Text.CodeTable
import MagnumClient.Text.Decomposition.Table
import MagnumClient.Text.Decomposition
import MagnumClient.Text.CombiningClass
import MagnumClient.Text.Normalization
import MagnumClient.Text.CaseFolding
import MagnumClient.Text.Mark
import MagnumClient.Text.Capital
import MagnumClient.Text.BidiClass
import MagnumClient.Text.JoiningType
import MagnumClient.Text.Collation.Alphabet
import MagnumClient.Text.Collation.Element
import MagnumClient.Text.Collation
import MagnumClient.Decimal.Shortest
import MagnumClient.Decimal.Number
import MagnumClient.Json.Basic
import MagnumClient.Json.Equality
import MagnumClient.Json.Printer
import MagnumClient.Json.Reader
import MagnumClient.Wildcard.Regex
import MagnumClient.Wildcard.Source
import MagnumClient.Wildcard.Pattern
import MagnumClient.Query.Token
import MagnumClient.Query.Expr
import MagnumClient.Query.Value
import MagnumClient.Query.Order
import MagnumClient.Query.Parser
import MagnumClient.Query.Reified
import MagnumClient.Query.Function
import MagnumClient.Query.Eval
import MagnumClient.Path
import MagnumClient.Log
import MagnumClient.Url.Punycode
import MagnumClient.Url.Disallowed
import MagnumClient.Url.Domain
import MagnumClient.Url.Host
import MagnumClient.Url.Basic
import MagnumClient.Config.Issue
import MagnumClient.Config.Checked
import MagnumClient.Config.Basic
import MagnumClient.Config.Environment
import MagnumClient.Config.RcFile
import MagnumClient.Failure.Basic
import MagnumClient.Failure.Cloud
import MagnumClient.Record.Reader
import MagnumClient.Record.Schema
import MagnumClient.Record.Normalize
import MagnumClient.Record.TemplateBody
import MagnumClient.Update.Patch
import MagnumClient.Update.Address
import MagnumClient.Selection.Filter
import MagnumClient.Selection.Resolver
import MagnumClient.Cache.Memo
import MagnumClient.Cache.Loader
import MagnumClient.Client.Request
import MagnumClient.Client.Service
import MagnumClient.Cloud.Kind
import MagnumClient.Cloud.Call
import MagnumClient.Cloud.State
import MagnumClient.Cloud.ContainerInfra
import MagnumClient.Cloud.Facade
import MagnumClient.Cloud.Run
import MagnumClient.Cloud.Interleaving
import MagnumClient.Session
import MagnumClient.Proofs.Exchange
import MagnumClient.Proofs.Listing
import MagnumClient.Proofs.Naming
import MagnumClient.Proofs.Change
import MagnumClient.Proofs.Forgetting
import MagnumClient.Proofs.ReadAfterUpdate
import MagnumClient.Proofs.Moves
import MagnumClient.Proofs.Histories
import MagnumClient.Proofs.Invalidation
import MagnumClient.Proofs.Chronicle
import MagnumClient.Proofs.Asks
import MagnumClient.Proofs.Reading
import MagnumClient.Proofs.Paging
import MagnumClient.Proofs.Origin
import MagnumClient.Proofs.Equipment
import MagnumClient.Proofs.Traffic
import MagnumClient.Proofs.Numbers
import MagnumClient.Proofs.Slots
import MagnumClient.Proofs.FailedLoads
import MagnumClient.Proofs.Replies
import MagnumClient.Proofs.Orderly
import MagnumClient.Proofs.Refusals
import MagnumClient.Proofs.Alike
import MagnumClient.Proofs.Twins
import MagnumClient.Proofs.Links
import MagnumClient.Proofs.Envelope
import MagnumClient.Proofs.SharedLoads
import MagnumClient.Proofs.Endpoints
import MagnumClient.Proofs.Inheritance
import MagnumClient.Proofs.Lossless
import MagnumClient.Proofs.ExportFiles
import MagnumClient.Proofs.Exports
import MagnumClient.Proofs.Wildcards
import MagnumClient.Proofs.Precedence
import MagnumClient.Proofs.Following
import MagnumClient.Proofs.Paragraphs
import MagnumClient.Proofs.LineEndings
import MagnumClient.Proofs.Malformed
import MagnumClient.Proofs.Legacy
import MagnumClient.Proofs.Selecting
import MagnumClient.Proofs.FieldFilters
import MagnumClient.Proofs.Patching
import MagnumClient.Proofs.Wrapping
import MagnumClient.Proofs.Validation
import MagnumClient.Proofs.Scripts
import MagnumClient.Proofs.Slashes
import MagnumClient.Proofs.Handouts
