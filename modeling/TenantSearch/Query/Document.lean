/-
The document sent to the cluster: the query, the order, the window of results and what is shown of
each. Steps of a compilation add clauses at the end of the lists and leave those before in place.
-/
import TenantSearch.Query.Clause
import TenantSearch.Text.Blank

namespace TenantSearch

/-! ## Order -/

inductive SortOrder where
  | asc
  | desc
deriving DecidableEq

namespace SortOrder

def name : SortOrder → String
  | .asc => "asc"
  | .desc => "desc"

/-- Blanks around the word and the case of its letters do not matter. -/
def ofName? (s : String) : Option SortOrder :=
  let s := Text.lowerAscii (Text.trim s)
  if s = "asc" then some .asc else if s = "desc" then some .desc else none

def reversed : SortOrder → SortOrder
  | .asc => .desc
  | .desc => .asc

end SortOrder

/-- Where documents without a value for the field of an order stand. -/
inductive Missing where
  | first
  | last
deriving DecidableEq

def Missing.name : Missing → String
  | .first => "_first"
  | .last => "_last"

structure SortClause where
  field : String
  order : SortOrder
  /-- Unset, documents without a value come last in both orders. -/
  missing : Option Missing := none
deriving DecidableEq

def SortClause.toJson (s : SortClause) : Json :=
  let missing := match s.missing with
    | some m => [("missing", Json.str m.name)]
    | none => []
  .obj [(s.field, .obj (missing ++ [("order", .str s.order.name)]))]

/-! ## Highlights -/

structure Highlight where
  fields : List String
  numberOfFragments : UInt32
  preTags : List String
  postTags : List String
deriving DecidableEq

def Highlight.toJson (h : Highlight) : Json :=
  .obj [("fields", .object (h.fields.map fun f => (f, .obj []))),
    ("number_of_fragments", .ofUInt32 h.numberOfFragments),
    ("post_tags", .ofStrings h.postTags), ("pre_tags", .ofStrings h.preTags)]

/-! ## Documents -/

structure QueryDocument where
  query : BoolExpr := {}
  /-- The section of nearest neighbours at the top level. -/
  knn : Option Json := none
  sort : List SortClause := []
  offset : Option UInt32 := none
  size : Option UInt32 := none
  trackScores : Bool := false
  highlight : Option Highlight := none
  source : Option (List String) := none

namespace QueryDocument

def empty : QueryDocument := {}

def must (d : QueryDocument) (c : Clause) : QueryDocument := { d with query := d.query.addMust c }

def mustNot (d : QueryDocument) (c : Clause) : QueryDocument :=
  { d with query := d.query.addMustNot c }

def should (d : QueryDocument) (c : Clause) : QueryDocument :=
  { d with query := d.query.addShould c }

def filter (d : QueryDocument) (c : Clause) : QueryDocument :=
  { d with query := d.query.addFilter c }

/-- Adds a filter if there is one. -/
def filter? (d : QueryDocument) : Option Clause → QueryDocument
  | some c => d.filter c
  | none => d

/-- The document that matches nothing, for a search that is denied. -/
def matchNone : QueryDocument := empty.filter .matchNone

/-- The query as a clause. -/
def queryClause (d : QueryDocument) : Clause := d.query.clause

/-- A member for a value that is set. -/
def member (key : String) : Option Json → List (String × Json)
  | some v => [(key, v)]
  | none => []

/-- The written form, in key order; what is unset is left out. -/
def toJson (d : QueryDocument) : Json :=
  .obj (member "_source" (d.source.map Json.ofStrings) ++
    member "from" (d.offset.map Json.ofUInt32) ++
    member "highlight" (d.highlight.map Highlight.toJson) ++
    member "knn" d.knn ++
    [("query", d.queryClause)] ++
    member "size" (d.size.map Json.ofUInt32) ++
    (if d.sort.isEmpty then [] else [("sort", .arr (d.sort.map SortClause.toJson))]) ++
    (if d.trackScores then [("track_scores", .bool true)] else []))

end QueryDocument

end TenantSearch
