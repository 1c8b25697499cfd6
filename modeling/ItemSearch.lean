import ItemSearch.Http.App
import ItemSearch.Json.Reader
import ItemSearch.Json.Writer
import ItemSearch.Registry.Profile
import ItemSearch.Registry.Schema
import ItemSearch.Request.Schema
import ItemSearch.ServerState
import ItemSearch.Settings.File
import ItemSearch.Proofs.Text.Operator
import ItemSearch.Proofs.Outcome
import ItemSearch.Proofs.Registry.Lookup
import ItemSearch.Proofs.Text.Numeral
import ItemSearch.Proofs.Validation.Rule
import ItemSearch.Proofs.Validation.Reading
import ItemSearch.Proofs.Query.Resolution
import ItemSearch.Proofs.Validation.RoundTrip
import ItemSearch.Proofs.Validation.Acceptance
import ItemSearch.Proofs.Validation.ClientError
import ItemSearch.Proofs.Text.Joined
import ItemSearch.Proofs.Query.Terms
import ItemSearch.Proofs.Query.Clauses
import ItemSearch.Proofs.Query.Meaning
import ItemSearch.Proofs.Query.ExactMatch
import ItemSearch.Proofs.Query.TermPaths
import ItemSearch.Proofs.Validation.PageBound
import ItemSearch.Proofs.Query.Ranges
import ItemSearch.Proofs.Query.Facets
import ItemSearch.Proofs.Response.Facets
import ItemSearch.Proofs.Backend.Call
import ItemSearch.Proofs.Response.Answer
import ItemSearch.Proofs.Http.Reply
import ItemSearch.Proofs.Service.Replies
import ItemSearch.Proofs.Service.Paging
import ItemSearch.Proofs.Response.Projection
import ItemSearch.Proofs.Query.Order
import ItemSearch.Proofs.Validation.SameValues
import ItemSearch.Proofs.Query.Paths
import ItemSearch.Proofs.Query.Written
import ItemSearch.Proofs.Query.TermList
import ItemSearch.Proofs.Backend.Lifecycle
import ItemSearch.Proofs.Response.Path
import ItemSearch.Proofs.Query.Phrase
import ItemSearch.Proofs.Validation.FilterExpression
import ItemSearch.Proofs.Text.Utf8
import ItemSearch.Proofs.Url.Parts
import ItemSearch.Proofs.Query.UrlTerms
import ItemSearch.Proofs.Text.Lower
import ItemSearch.Proofs.Backend.Address
import ItemSearch.Proofs.Backend.Credentials
import ItemSearch.Proofs.Text.Percent
import ItemSearch.Proofs.Backend.UserInfo
import ItemSearch.Proofs.Query.RangeDates
import ItemSearch.Proofs.Query.PlaceFacets
import ItemSearch.Proofs.Query.Distances
import ItemSearch.Proofs.Validation.Integers
import ItemSearch.Proofs.Query.EmptyTerms
import ItemSearch.Proofs.Query.Fetch
import ItemSearch.Proofs.Response.Envelope
import ItemSearch.Proofs.Registry.Build
import ItemSearch.Proofs.Settings.Limits
