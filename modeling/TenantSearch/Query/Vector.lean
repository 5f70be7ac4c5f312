/-
The vector part of a hybrid query. One backend takes it as a section of its own, which repeats the
filters of the query; the other as a clause beside the free text, of which one must match. It is
attached when all filters are in place.
-/
import TenantSearch.Query.Document
import TenantSearch.Request.Options

namespace TenantSearch

structure VectorQuery where
  backend : VectorBackend
  field : String
  vector : List Extended
  k : UInt32
  numCandidates : UInt32
  similarity : Extended
  boost : Extended
deriving DecidableEq

namespace VectorQuery

def vectorJson (q : VectorQuery) : Json := .arr (q.vector.map Json.ofExtended)

/-- The section of its own. -/
def sectionJson (q : VectorQuery) (filter : Clause) : Json :=
  .obj [("boost", .ofExtended q.boost), ("field", .str q.field), ("filter", filter),
    ("k", .ofUInt32 q.k), ("num_candidates", .ofUInt32 q.numCandidates),
    ("query_vector", q.vectorJson), ("similarity", .ofExtended q.similarity)]

/-- The clause beside the free text. -/
def clause (q : VectorQuery) : Clause :=
  .obj [("knn", .obj [(q.field,
    .obj [("boost", .ofExtended q.boost), ("k", .ofUInt32 q.k), ("vector", q.vectorJson)])])]

end VectorQuery

/-- Attaches a vector query. -/
def QueryDocument.withVector (d : QueryDocument) (q : VectorQuery) : QueryDocument :=
  match q.backend with
  | .elasticsearch =>
    let filter : BoolExpr := { filter := d.query.filter, mustNot := d.query.mustNot }
    { d with knn := some (q.sectionJson filter.clause) }
  | .opensearch =>
    let text : BoolExpr := { must := d.query.must }
    { d with query := { d.query with
        must := []
        should := d.query.should ++ [text.clause, q.clause]
        minimumShouldMatch := some 1 } }

end TenantSearch
