import DocQuery.Main
import DocQuery.Proofs.Sql.Template
import DocQuery.Proofs.Sql.Grammar
import DocQuery.Proofs.Sql.GrammarReading
import DocQuery.Proofs.Sql.GrammarExact
import DocQuery.Proofs.Sql.GrammarUnambiguous
import DocQuery.Proofs.Sql.Draft
import DocQuery.Proofs.Sql.RoundTrip
import DocQuery.Proofs.Store.Seed
import DocQuery.Proofs.Store.Session
import DocQuery.Proofs.Decimal.Integers
import DocQuery.Proofs.Store.SerialIds
import DocQuery.Proofs.Execution.Calls
import DocQuery.Proofs.Rest.Query
import DocQuery.Proofs.Store.Unchanged
import DocQuery.Proofs.Sql.BareWord
import DocQuery.Proofs.Sql.KeywordSearch
import DocQuery.Proofs.Sql.KeywordGaps
import DocQuery.Proofs.Sql.TokenSearch
import DocQuery.Proofs.Sql.VerbTokens
import DocQuery.Proofs.Sql.Dispatch
import DocQuery.Proofs.Execution.Policy
import DocQuery.Proofs.Web.Target
import DocQuery.Proofs.Rest.Containment
import DocQuery.Proofs.Rest.References
import DocQuery.Proofs.Json.RoundTrip
import DocQuery.Proofs.Rest.Scalar
import DocQuery.Proofs.Rest.Service
import DocQuery.Proofs.Rest.Agreement
import DocQuery.Proofs.Sql.CountProjection
import DocQuery.Proofs.Sql.Projections
import DocQuery.Proofs.Store.Reads
import DocQuery.Proofs.Store.IdHistory
import DocQuery.Proofs.Store.RowCount
import DocQuery.Proofs.Rest.ErrorBody
import DocQuery.Proofs.Rest.ContentRange
import DocQuery.Proofs.Rest.Outcomes
import DocQuery.Proofs.Store.Commutation
import DocQuery.Proofs.Decimal.Rounding
import DocQuery.Proofs.Store.IntegerFilters
import DocQuery.Proofs.Decimal.RoundingInterval
import DocQuery.Proofs.Decimal.DecimalText
import DocQuery.Proofs.Json.CompactText
import DocQuery.Proofs.Json.LooseChains
import DocQuery.Proofs.Sql.Binding
import DocQuery.Proofs.Sql.PositionalBinding
import DocQuery.Proofs.Sql.Sources
import DocQuery.Proofs.Store.Updates
import DocQuery.Proofs.Store.Deletions
import DocQuery.Proofs.Sql.RevisionBinding
import DocQuery.Proofs.Store.Repetition
import DocQuery.Proofs.Store.SeedReplay
import DocQuery.Proofs.Store.SeedIds
import DocQuery.Proofs.Sql.Prediction
import DocQuery.Proofs.Sql.ViablePrefix
import DocQuery.Proofs.Sql.Cursor
