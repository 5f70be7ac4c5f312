/-
An index in memory that answers like a cluster. It evaluates the clauses that compilation emits,
orders by sort keys with missing values at one end, and reports a missing sort value by the
greatest or the least integer of 64 bits, whichever lies at that end.
-/
import TenantSearch.Index.Match

namespace TenantSearch

/-- Documents by id, in the order in which they came. -/
structure MemoryIndex where
  documents : List (String × Json) := []

namespace MemoryIndex

open Index

def insert (m : MemoryIndex) (id : String) (source : Json) : MemoryIndex :=
  ⟨m.documents ++ [(id, source)]⟩

def size (m : MemoryIndex) : Nat := m.documents.length

def isEmpty (m : MemoryIndex) : Bool := m.documents.isEmpty

/-- The id of a source: its field `id` as text, else its number in the index. -/
def idOf (m : MemoryIndex) (source : Json) : String :=
  match source.get? "id" with
  | some (.str id) => id
  | some v => v.text
  | none => toString m.size

def ofSources (sources : List Json) : MemoryIndex :=
  sources.foldl (fun m source => m.insert (m.idOf source) source) {}

/-! ## Matching -/

/-- The documents that match, up to the first fault. -/
def matchingFrom (query : Json) : List (String × Json) → Except QueryFault (List (String × Json))
  | [] => .ok []
  | (id, source) :: rest => do
    let holds ← outcome id source query
    let more ← matchingFrom query rest
    .ok (if holds then (id, source) :: more else more)

/-- The query of a request body; without one all documents match. -/
def queryOf (body : Json) : Json :=
  (body.get? "query").getD (.obj [("match_all", .obj [])])

def matching (m : MemoryIndex) (body : Json) : Except QueryFault (List (String × Json)) :=
  matchingFrom (queryOf body) m.documents

/-! ## Order -/

structure SortKey where
  field : String
  descending : Bool
  missingFirst : Bool
deriving DecidableEq

def SortKey.ofJson (item : Json) : Except QueryFault SortKey := do
  let (field, spec) ← singleEntry item "sort"
  .ok ⟨field, hasText spec "order" "desc", hasText spec "missing" "_first"⟩

def sortKeys (body : Json) : Except QueryFault (List SortKey) :=
  match body.get? "sort" with
  | none => .ok []
  | some (.arr items) => items.mapM SortKey.ofJson
  | some _ => .error .sortNotArray

/-- The sort value reported for a hit. -/
def SortKey.hitValue (k : SortKey) (source : Json) : Json :=
  match fieldValue source k.field with
  | some v => v
  | none =>
    if k.descending != k.missingFirst then .ofInt64 Int64.minValue else .ofInt64 Int64.maxValue

/-- The order of two sources by one key. -/
def SortKey.compare (k : SortKey) (a b : Json) : Ordering :=
  match fieldValue a k.field, fieldValue b k.field with
  | none, none => .eq
  | none, some _ => if k.missingFirst then .lt else .gt
  | some _, none => if k.missingFirst then .gt else .lt
  | some x, some y => if k.descending then (compareValues x y).swap else compareValues x y

/-- The order of two sources: the first key that tells them apart decides. -/
def compareSources (a b : Json) : List SortKey → Ordering
  | [] => .eq
  | k :: rest =>
    match k.compare a b with
    | .eq => compareSources a b rest
    | o => o

/-- Puts a document into a list in descending order, before those equal to it. -/
def insertDescending (keys : List SortKey) (x : String × Json) :
    List (String × Json) → List (String × Json)
  | [] => [x]
  | e :: rest =>
    if compareSources x.2 e.2 keys = .lt then e :: insertDescending keys x rest else x :: e :: rest

/-- Sorts documents; equal ones keep their order. -/
def sorted (keys : List SortKey) (documents : List (String × Json)) : List (String × Json) :=
  (documents.foldl (fun acc x => insertDescending keys x acc) []).reverse

/-! ## Answers -/

def defaultSize : Nat := 10

def hitJson (keys : List SortKey) (document : String × Json) : Json :=
  .obj ([("_id", .str document.1), ("_score", .float (.ofDyadic 1)), ("_source", document.2)] ++
    (if keys.isEmpty then []
      else [("sort", .arr (keys.map fun k => k.hitValue document.2))]))

def numberOf (body : Json) (key : String) (default : Nat) : Nat :=
  match (body.get? key).bind Json.asUInt64? with
  | some n => n.toNat
  | none => default

/-- The documents of a window, in order, with the number of all that match. -/
def window (m : MemoryIndex) (body : Json) :
    Except QueryFault (List SortKey × List (String × Json) × Nat) := do
  let found ← m.matching body
  let keys ← sortKeys body
  let inOrder := if keys.isEmpty then found else sorted keys found
  .ok (keys, (inOrder.drop (numberOf body "from" 0)).take (numberOf body "size" defaultSize),
    found.length)

/-- The answer to a search. -/
def search (m : MemoryIndex) (body : Json) : Except QueryFault Json := do
  let (keys, page, total) ← m.window body
  .ok (.obj [("hits", .obj [("hits", .arr (page.map (hitJson keys))),
      ("total", .obj [("relation", .str "eq"), ("value", .ofNat total)])]),
    ("timed_out", .bool false), ("took", .ofNat 0)])

/-- The answer to a count. -/
def count (m : MemoryIndex) (body : Json) : Except QueryFault Json := do
  let found ← m.matching body
  .ok (.obj [("count", .ofNat found.length)])

end MemoryIndex

end TenantSearch
