/-
Settings of a deployment and what makes them valid: where the cluster is and how it is addressed,
which provider embeds queries, how results are searched for, shown and paged.
-/
import TenantSearch.Decode.Basic
import TenantSearch.Text.Blank

namespace TenantSearch

structure ServiceSettings where
  logLevel : String
deriving DecidableEq

structure ClusterSettings where
  url : String
  index : String
  /-- The name of the vector backend, which decides the shape of vector queries. -/
  backend : String
  timeoutMs : UInt64
  apiKey : Option String := none
deriving DecidableEq

structure EmbeddingSettings where
  providerId : String
  apiBase : String
  apiKey : String
  path : String
  model : String
  dimensions : UInt32
  timeoutMs : UInt64
  defaultHeaders : List (String × Json) := []

structure HybridSettings where
  enabled : Bool := false
  /-- Shorter queries are never embedded. -/
  minQueryChars : UInt32 := 10
  k : UInt32 := 25
  numCandidates : UInt32 := 100
  boost : Extended := .singleOfInt 5
deriving DecidableEq

structure SearchSettings where
  multiMatch : Bool := true
  highlightPreTag : String := "<mark>"
  highlightPostTag : String := "</mark>"
  hybrid : HybridSettings := {}
deriving DecidableEq

structure PagingSettings where
  defaultPageSize : UInt32 := 20
  maxPageSize : UInt32 := 100
  tieBreakerField : String := "id"
deriving DecidableEq

structure Settings where
  service : ServiceSettings
  cluster : ClusterSettings
  embedding : EmbeddingSettings
  search : SearchSettings := {}
  paging : PagingSettings := {}

/-! ## Faults -/

inductive SettingsFault where
  | noUrl
  | noIndex
  | unknownBackend
  | noClusterTimeout
  | noDimensions
  | noEmbeddingKey
  | noNeighbours
  | fewCandidates
  | badBoost
  | noPageSize
  | smallMaxPageSize
  | noTieBreaker
deriving DecidableEq

def SettingsFault.message : SettingsFault → String
  | .noUrl => "cluster.url must be non-empty."
  | .noIndex => "cluster.index must be non-empty."
  | .unknownBackend => "cluster.backend must be one of elasticsearch or opensearch."
  | .noClusterTimeout => "cluster.timeout_ms must be greater than zero."
  | .noDimensions => "providers.embedding.dimensions must be greater than zero."
  | .noEmbeddingKey => "Provider embedding api_key must be non-empty."
  | .noNeighbours => "search.hybrid.k must be greater than zero."
  | .fewCandidates =>
    "search.hybrid.num_candidates must be greater than or equal to search.hybrid.k."
  | .badBoost => "search.hybrid.boost must be a finite number, zero or greater."
  | .noPageSize => "pagination.default_page_size must be greater than zero."
  | .smallMaxPageSize =>
    "pagination.max_page_size must be greater than or equal to pagination.default_page_size."
  | .noTieBreaker => "pagination.tie_breaker_field must be non-empty."

/-! ## Validity -/

def isBlankText (s : String) : Bool := (Text.trimmed? s).isNone

namespace Settings

/-- The first thing wrong with the settings, if any. -/
def validate (s : Settings) : Except SettingsFault Unit :=
  if isBlankText s.cluster.url then .error .noUrl
  else if isBlankText s.cluster.index then .error .noIndex
  else if s.cluster.backend ≠ "elasticsearch" ∧ s.cluster.backend ≠ "opensearch" then
    .error .unknownBackend
  else if s.cluster.timeoutMs = 0 then .error .noClusterTimeout
  else if s.embedding.dimensions = 0 then .error .noDimensions
  else if isBlankText s.embedding.apiKey then .error .noEmbeddingKey
  else if s.search.hybrid.k = 0 then .error .noNeighbours
  else if s.search.hybrid.numCandidates < s.search.hybrid.k then .error .fewCandidates
  else if !s.search.hybrid.boost.isFiniteNonneg then .error .badBoost
  else if s.paging.defaultPageSize = 0 then .error .noPageSize
  else if s.paging.maxPageSize < s.paging.defaultPageSize then .error .smallMaxPageSize
  else if isBlankText s.paging.tieBreakerField then .error .noTieBreaker
  else .ok ()

/-- A text without the slashes at its end. -/
def trimSlashes (s : String) : String :=
  String.ofList (s.toList.reverse.dropWhile (· = '/')).reverse

/-- A blank key counts as none, the address loses the slashes at its end, and the name of the
backend its blanks and capitals. -/
def normalize (s : Settings) : Settings :=
  { s with cluster := { s.cluster with
      apiKey := s.cluster.apiKey.filter fun key => !isBlankText key
      url := trimSlashes s.cluster.url
      backend := Text.lowerAscii (Text.trim s.cluster.backend) } }

end Settings

end TenantSearch
