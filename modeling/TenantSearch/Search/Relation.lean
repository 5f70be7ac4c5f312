/-
Relations: one compiled search, its page, its position and its vector part. A relation is a value;
every step gives a new one, and nothing is asked of the cluster before records or a count are
wanted.
-/
import TenantSearch.Paging.Keyset
import TenantSearch.Query.Vector
import TenantSearch.Search.Run

namespace TenantSearch

/-- A record of a page, with its position and what was loaded for it. -/
structure SearchRecord where
  id : String
  score : Option Double
  source : Json
  /-- Absent for a page that is ordered by relevance. -/
  cursor : Option Cursor
  related : Option Json := none

def SearchRecord.ofHit (h : Hit) : SearchRecord :=
  { id := h.id, score := h.score, source := h.source, cursor := Cursor.ofSortValues h.sort }

/-- The written form, in the order of the fields. -/
def SearchRecord.toJson (r : SearchRecord) : Json :=
  .obj ([("id", .str r.id), ("score", .ofOption (r.score.map .float)), ("source", r.source),
      ("cursor", .ofOption (r.cursor.map fun c => .str c.encode))] ++
    match r.related with
    | some v => [("related", v)]
    | none => [])

/-- Loads data for the records of a page, by id. -/
abbrev RecordLoader := List SearchRecord → Except SearchError (List (String × Json))

/-- Gives every record the data under its id; data goes to one record only. -/
def attachRelated : List SearchRecord → List (String × Json) → List SearchRecord
  | [], _ => []
  | r :: rest, related =>
    { r with related := related.lookup r.id } ::
      attachRelated rest (related.filter fun e => e.1 ≠ r.id)

inductive Page where
  | unpaged
  | first (size : UInt32)
  | last (size : UInt32)
deriving DecidableEq

structure Relation where
  index : String
  document : QueryDocument
  tieBreakerField : String
  page : Page := .unpaged
  position : Option (PageDirection × Cursor) := none
  vector : Option VectorQuery := none
  loader : Option RecordLoader := none

namespace Relation

/-! ## Steps -/

def first (r : Relation) (size : UInt32) : Relation := { r with page := .first size }

def last (r : Relation) (size : UInt32) : Relation := { r with page := .last size }

def after (r : Relation) (c : Cursor) : Relation := { r with position := some (.forward, c) }

def before (r : Relation) (c : Cursor) : Relation := { r with position := some (.backward, c) }

def withVector (r : Relation) (q : VectorQuery) : Relation := { r with vector := some q }

def preload (r : Relation) (loader : RecordLoader) : Relation := { r with loader := some loader }

def isHybrid (r : Relation) : Bool := r.vector.isSome

/-! ## The document sent -/

/-- The page and the position of a relation on its document. -/
def pagination (r : Relation) : Pagination :=
  let p := Pagination.ofDocument r.document r.tieBreakerField
  let p := match r.page with
    | .unpaged => p
    | .first size => p.first size
    | .last size => p.last size
  match r.position with
  | some (.forward, c) => p.after c
  | some (.backward, c) => p.before c
  | none => p

/-- The document in its order, with page and position applied if there are any. One that is ordered
by relevance and not paged stays as it is. -/
def paged (r : Relation) : QueryDocument :=
  if r.page ≠ .unpaged ∨ r.position.isSome then r.pagination.paginate
  else if r.document.sort.isEmpty then r.document
  else r.pagination.ordered

/-- The document that is sent for records. -/
def compiled (r : Relation) : QueryDocument :=
  match r.vector with
  | some q => r.paged.withVector q
  | none => r.paged

/-! ## Results -/

/-- The records of the hits, those of a last page in natural order. -/
def recordsOf (r : Relation) (hits : List Hit) : List SearchRecord :=
  let records := hits.map SearchRecord.ofHit
  match r.page with
  | .last _ => records.reverse
  | _ => records

/-- The records with what the loader has for them. -/
def loaded (r : Relation) (records : List SearchRecord) : Except SearchError (List SearchRecord) :=
  match r.loader with
  | none => .ok records
  | some load => (load records).map (attachRelated records)

/-- The records of the page. -/
def records (r : Relation) (c : Cluster) : Run (List SearchRecord) :=
  let body := r.compiled.toJson
  .call (.search r.index body) do
    let answer ← (c.search r.index body).mapError .cluster
    let hits ← (SearchHits.ofJson answer).mapError .cluster
    r.loaded (r.recordsOf hits.hits)

/-- The body that counts all matches, whatever the page and the vector part. -/
def countBody (r : Relation) : Json := .obj [("query", r.document.queryClause)]

/-- The number of all matches. -/
def totalCount (r : Relation) (c : Cluster) : Run UInt64 :=
  .call (.count r.index r.countBody) do
    let answer ← (c.count r.index r.countBody).mapError .cluster
    (countOfJson answer).mapError .cluster

end Relation

end TenantSearch
