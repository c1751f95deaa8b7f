import Storefront.Address.Database
import Storefront.Address.DatabaseFile
import Storefront.Address.DomainName
import Storefront.Address.Fault
import Storefront.Address.FileName
import Storefront.Address.Host
import Storefront.Address.Percent
import Storefront.Address.Place
import Storefront.Address.Punycode
import Storefront.Address.Url
import Storefront.Backoff
import Storefront.Digest
import Storefront.Engine.Answer
import Storefront.Engine.Basic
import Storefront.Engine.Circuit
import Storefront.Engine.Guard
import Storefront.Engine.Health
import Storefront.Engine.Recloser
import Storefront.Engine.Script
import Storefront.Facet
import Storefront.Fault
import Storefront.Filter.Basic
import Storefront.Filter.Normal
import Storefront.Filter.Order
import Storefront.Filter.Record
import Storefront.Index.Schema
import Storefront.Index.Taxonomy
import Storefront.Json.Basic
import Storefront.Json.Numeral
import Storefront.Json.Reader
import Storefront.Json.Writer
import Storefront.Listing.Basic
import Storefront.Listing.Cache
import Storefront.Listing.Key
import Storefront.Listing.Record
import Storefront.Meter
import Storefront.Number.Binary64
import Storefront.Number.Decimal
import Storefront.Number.Whole
import Storefront.Origin.Clause
import Storefront.Origin.Limits
import Storefront.Origin.Posts
import Storefront.Origin.Query
import Storefront.Origin.Stored
import Storefront.Origin.SynonymTable
import Storefront.Page
import Storefront.Placement
import Storefront.Planner
import Storefront.Proofs.Engine.Calls
import Storefront.Proofs.Engine.Checkups
import Storefront.Proofs.Engine.Serving
import Storefront.Proofs.Facet.OwnField
import Storefront.Proofs.Facet.RoundTrips
import Storefront.Proofs.Filter.Canonical
import Storefront.Proofs.Filter.Parts
import Storefront.Proofs.Filter.Presentation
import Storefront.Proofs.Filter.Records
import Storefront.Proofs.Json.Documents
import Storefront.Proofs.Json.Numbers
import Storefront.Proofs.Json.Records
import Storefront.Proofs.Listing.Indexes
import Storefront.Proofs.Listing.InsertionOrder
import Storefront.Proofs.Listing.Kept
import Storefront.Proofs.Listing.Records
import Storefront.Proofs.Listing.Views
import Storefront.Proofs.Map.Entries
import Storefront.Proofs.Meter.Totals
import Storefront.Proofs.Number.Numeral
import Storefront.Proofs.Number.Order
import Storefront.Proofs.Number.Rounding
import Storefront.Proofs.Number.Shortest
import Storefront.Proofs.Number.Spelling
import Storefront.Proofs.Origin.Clauses
import Storefront.Proofs.Origin.Pages
import Storefront.Proofs.Origin.Patterns
import Storefront.Proofs.Page.Dialogue
import Storefront.Proofs.Page.InStockFirst
import Storefront.Proofs.Placement.Pinned
import Storefront.Proofs.Placement.Restored
import Storefront.Proofs.Planner.Expression
import Storefront.Proofs.Planner.Keys
import Storefront.Proofs.Planner.Meaning
import Storefront.Proofs.Planner.Names
import Storefront.Proofs.Planner.Recovery
import Storefront.Proofs.Planner.Sealed
import Storefront.Proofs.Planner.TextPresence
import Storefront.Proofs.Request.Precedence
import Storefront.Proofs.Request.StockFirst
import Storefront.Proofs.Request.Unusable
import Storefront.Proofs.Search.Containment
import Storefront.Proofs.Search.Freshness
import Storefront.Proofs.Search.Pins
import Storefront.Proofs.Search.Reckoning
import Storefront.Proofs.Search.Recorded
import Storefront.Proofs.Search.Steady
import Storefront.Proofs.Search.Steps
import Storefront.Proofs.Search.Transparency
import Storefront.Proofs.Search.Upkeep
import Storefront.Proofs.Search.Wiring
import Storefront.Proofs.Sql.Escape
import Storefront.Proofs.Sql.Pieces
import Storefront.Proofs.Sql.Predicate
import Storefront.Proofs.Sql.Scan
import Storefront.Proofs.Sql.Tokens
import Storefront.Proofs.Wording.FullText
import Storefront.Proofs.Wording.Groups
import Storefront.Proofs.Wording.Letters
import Storefront.Proofs.Wording.Loads
import Storefront.Proofs.Wording.LowerCase
import Storefront.Proofs.Wording.Meaning
import Storefront.Proofs.Wording.Quotes
import Storefront.Proofs.Wording.Synonyms
import Storefront.Request
import Storefront.Search.Deployment
import Storefront.Search.Rehearsal
import Storefront.Search.Run
import Storefront.Search.Shop
import Storefront.Search.Wiring
import Storefront.Settings.Basic
import Storefront.Settings.Record
import Storefront.SortedMap
import Storefront.Span
import Storefront.Sql.Condition
import Storefront.Sql.Identifier
import Storefront.Sql.Literal
import Storefront.Sql.Statement
import Storefront.Text.CaseTable
import Storefront.Text.Category
import Storefront.Text.CategoryTable
import Storefront.Text.Classes
import Storefront.Text.Composition
import Storefront.Text.CompositionTable
import Storefront.Text.Direction
import Storefront.Text.DirectionTable
import Storefront.Text.Joining
import Storefront.Text.JoiningTable
import Storefront.Text.Lowercase
import Storefront.Text.Quoted
import Storefront.Text.Utf8
import Storefront.Text.Variant
import Storefront.Text.VariantTable
import Storefront.Text.Words
import Storefront.Wording.Basic
import Storefront.Wording.Synonyms
import Storefront.Wording.Thesaurus
