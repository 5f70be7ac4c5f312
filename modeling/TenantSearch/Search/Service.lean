/-
The search service: from a valid request to a relation, and to its page and total. A vector is
asked for only when the request qualifies and names the backend of the cluster; when none comes,
the search runs on free text and the outcome says why.
-/
import TenantSearch.Compile.Build
import TenantSearch.Search.Relation

namespace TenantSearch

/-- A provider of vectors for texts, given its settings. -/
abbrev Provider := EmbeddingSettings → List String → Except EmbeddingError (List Embedding.Vector)

/-- What became of the vector part. -/
inductive HybridStatus where
  | disabled
  | applied
  | fallback (reason : String)
deriving DecidableEq

/-- The members of the written form. -/
def HybridStatus.members : HybridStatus → List (String × Json)
  | .disabled => [("status", .str "disabled")]
  | .applied => [("status", .str "applied")]
  | .fallback reason => [("status", .str "fallback"), ("reason", .str reason)]

structure SearchOutcome where
  records : List SearchRecord
  total : UInt64
  hybrid : HybridStatus

/-- The written form, in the order of the fields. -/
def SearchOutcome.toJson (o : SearchOutcome) : Json :=
  .obj [("records", .arr (o.records.map SearchRecord.toJson)), ("total", .ofUInt64 o.total),
    ("hybrid", .obj o.hybrid.members)]

structure SearchService where
  settings : Settings
  cluster : Cluster
  provider : Provider

namespace SearchService

def compileSettings (s : SearchService) : CompileSettings :=
  { multiMatch := s.settings.search.multiMatch
    highlightPreTag := s.settings.search.highlightPreTag
    highlightPostTag := s.settings.search.highlightPostTag
    defaultPageSize := s.settings.paging.defaultPageSize
    maxPageSize := s.settings.paging.maxPageSize }

/-! ## Paging -/

/-- The page of a request. A position without a page size takes the size of a numbered page,
counted from the end for a position to end at. -/
def pageOf (o : SearchOptions) (s : CompileSettings) : Page :=
  let p := o.paging
  match p.first, p.last with
  | some n, _ => .first (s.pageSize (some n))
  | none, some n => .last (s.pageSize (some n))
  | none, none =>
    if p.before.isSome then .last (s.pageSize p.perPage)
    else if p.after.isSome then .first (s.pageSize p.perPage)
    else .unpaged

/-- The position that a token of the request stands for. -/
def positionOf (direction : PageDirection) :
    Option String → Except SearchError (Option (PageDirection × Cursor))
  | none => .ok none
  | some token =>
    match Cursor.decode token with
    | .ok c => .ok (some (direction, c))
    | .error e => .error (.cursor e)

/-- Applies page and position of a request. -/
def applyPaging (r : Relation) (o : SearchOptions) (s : CompileSettings) :
    Except SearchError Relation := do
  let after ← positionOf .forward o.paging.after
  let before ← positionOf .backward o.paging.before
  .ok { r with page := pageOf o s, position := before.orElse fun _ => after }

/-! ## The vector part -/

/-- What is asked of the provider, and where its vector is to be searched for. -/
structure VectorPlan where
  backend : VectorBackend
  field : String
  similarity : Extended
  text : String
deriving DecidableEq

/-- The vector that a request wants, if it qualifies. A request for another backend than that of
the cluster runs without. -/
def vectorPlan (s : Settings) (o : SearchOptions) (t : DocType) :
    Except ArgumentError (Option VectorPlan) := do
  let denied ← if t.isScoped then Access.crossProjectDenied o else .ok false
  let hybrid := s.search.hybrid
  if denied || !FullText.hybridEligible o t hybrid.enabled hybrid.minQueryChars.toNat then .ok none
  else match o.vectors.backend, o.vectors.field, o.vectors.similarity with
    | some requested, some field, some similarity => do
      let backend ← (VectorBackend.ofName s.cluster.backend).mapError .unsupported
      if requested = backend then .ok (some ⟨backend, field, similarity, Text.trim o.query⟩)
      else .ok none
    | _, _, _ => .ok none

/-- The vector query of a plan. -/
def VectorPlan.query (p : VectorPlan) (h : HybridSettings) (vector : Embedding.Vector) :
    VectorQuery :=
  ⟨p.backend, p.field, vector, h.k, h.numCandidates, p.similarity, h.boost⟩

/-- What the provider's answer makes of a plan; no answer fails the search. -/
def VectorPlan.resolve (p : VectorPlan) (h : HybridSettings) :
    Except EmbeddingError (List Embedding.Vector) → Option VectorQuery × HybridStatus
  | .ok (vector :: _) => (some (p.query h vector), .applied)
  | .ok [] => (none, .fallback "Embedding provider returned no vectors.")
  | .error e => (none, .fallback e.message)

/-- The vector query of a request and what became of it. -/
def resolveHybrid (s : SearchService) (o : SearchOptions) (t : DocType) :
    Run (Option VectorQuery × HybridStatus) := do
  let plan ← Run.ofExcept ((vectorPlan s.settings o t).mapError .argument)
  match plan with
  | none => return (none, .disabled)
  | some p =>
    let answer := s.provider s.settings.embedding [p.text]
    Run.call (.embed [p.text]) (.ok (p.resolve s.settings.search.hybrid answer))

/-! ## Searches -/

/-- The relation of a compiled request, before any vector part. -/
def textRelation (s : SearchService) (o : SearchOptions) :
    Except SearchError (Relation × DocType) := do
  let document ← (o.build s.compileSettings).mapError .argument
  let t ← o.docType?.mapError .argument
  let r : Relation := { index := s.settings.cluster.index, document := document,
                        tieBreakerField := s.settings.paging.tieBreakerField }
  let r ← applyPaging r o s.compileSettings
  .ok (r, t)

/-- The relation of a request and what became of its vector part; nothing is searched yet. -/
def relation (s : SearchService) (o : SearchOptions) : Run (Relation × HybridStatus) := do
  let (r, t) ← Run.ofExcept (s.textRelation o)
  let (vector, status) ← s.resolveHybrid o t
  return ({ r with vector := vector }, status)

/-- Runs a search: the total, then the records unless only the total is wanted. -/
def search (s : SearchService) (o : SearchOptions) : Run SearchOutcome := do
  let (r, hybrid) ← s.relation o
  let total ← r.totalCount s.cluster
  let records ← if o.countOnly then pure [] else r.records s.cluster
  return ⟨records, total, hybrid⟩

end SearchService

end TenantSearch
