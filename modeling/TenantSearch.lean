import TenantSearch.Main
import TenantSearch.Paging.Keyset
import TenantSearch.Text.Printable
import TenantSearch.Proofs.Index.Clauses
import TenantSearch.Proofs.Compile.Narrowing
import TenantSearch.Proofs.Access.Policy
import TenantSearch.Proofs.Access.Exact
import TenantSearch.Proofs.Access.Soundness
import TenantSearch.Proofs.Index.Answers
import TenantSearch.Proofs.Index.Order
import TenantSearch.Proofs.Index.Rounding
import TenantSearch.Proofs.Paging.Position
import TenantSearch.Proofs.Paging.Ordering
import TenantSearch.Proofs.Search.Pages
import TenantSearch.Proofs.Search.Moves
import TenantSearch.Proofs.Search.Service
import TenantSearch.Proofs.Search.Walk
import TenantSearch.Proofs.Token.Base64
import TenantSearch.Proofs.Json.RoundTrip
import TenantSearch.Proofs.Compile.Windows
import TenantSearch.Proofs.Token.Cursor
import TenantSearch.Proofs.Search.Tokens
import TenantSearch.Proofs.Access.Rules
import TenantSearch.Proofs.Access.AcrossTypes
import TenantSearch.Proofs.Access.Privilege
import TenantSearch.Proofs.Search.Denial
import TenantSearch.Proofs.Search.Isolation
import TenantSearch.Proofs.Search.Closure
import TenantSearch.Proofs.Search.FailSoft
import TenantSearch.Proofs.Search.Offsets
import TenantSearch.Proofs.Json.Weights
import TenantSearch.Proofs.Json.Reading
import TenantSearch.Proofs.Token.Canonical
import TenantSearch.Proofs.Access.Stored
import TenantSearch.Proofs.Index.Exactness
import TenantSearch.Proofs.Index.Integers
import TenantSearch.Proofs.Request.Dates
import TenantSearch.Proofs.Search.Faults
import TenantSearch.Proofs.Config.Valid
import TenantSearch.Proofs.Search.Limits
import TenantSearch.Proofs.Access.Pathless
import TenantSearch.Proofs.Paging.Split
import TenantSearch.Proofs.Compile.Facets
import TenantSearch.Proofs.Access.Ancestry
import TenantSearch.Proofs.Index.Formulas
import TenantSearch.Proofs.Access.Memberships
import TenantSearch.Proofs.Search.Presentation
import TenantSearch.Proofs.Search.Totals
import TenantSearch.Proofs.Search.Preload
import TenantSearch.Proofs.Text.Trim
import TenantSearch.Proofs.Compile.Sorting
import TenantSearch.Proofs.Request.Unread
import TenantSearch.Proofs.Compile.FreeText
import TenantSearch.Proofs.Compile.References
import TenantSearch.Proofs.Embedding.Vectors
import TenantSearch.Proofs.Embedding.Headers
import TenantSearch.Proofs.Query.Written
import TenantSearch.Proofs.Access.Paths
import TenantSearch.Proofs.Paging.Mirror
