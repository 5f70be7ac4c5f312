/-
Clauses of the query language: conditions on one field, free text, and the connectives not, all of
and any of, which are boolean expressions in clause position.
-/
import TenantSearch.Query.BoolExpr

namespace TenantSearch

inductive RangeOp where
  | gt
  | gte
  | lt
  | lte
deriving DecidableEq

def RangeOp.name : RangeOp → String
  | .gt => "gt"
  | .gte => "gte"
  | .lt => "lt"
  | .lte => "lte"

namespace Clause

/-! ## Conditions on a field -/

def term (field : String) (value : Json) : Clause :=
  .obj [("term", .obj [(field, value)])]

def terms (field : String) (values : List Json) : Clause :=
  .obj [("terms", .obj [(field, .arr values)])]

def startsWith (field : String) (value : String) : Clause :=
  .obj [("prefix", .obj [(field, .obj [("value", .str value)])])]

def exist (field : String) : Clause :=
  .obj [("exists", .obj [("field", .str field)])]

def range (field : String) (op : RangeOp) (value : Json) : Clause :=
  .obj [("range", .obj [(field, .obj [(op.name, value)])])]

/-- A bound as a member, if there is one. -/
def bound (op : RangeOp) : Option Json → List (String × Json)
  | some v => [(op.name, v)]
  | none => []

/-- A range with inclusive bounds; without a bound there is no clause. -/
def between? (field : String) (gte lte : Option Json) : Option Clause :=
  match bound .gte gte ++ bound .lte lte with
  | [] => none
  | bounds => some (.obj [("range", .obj [(field, .obj bounds)])])

def matchAll : Clause := .obj [("match_all", .obj [])]

def matchNone : Clause := .obj [("match_none", .obj [])]

/-! ## Free text -/

def multiMatch (query : String) (fields : List String) (operator : String) : Clause :=
  .obj [("multi_match", .obj [("fields", .ofStrings fields), ("lenient", .bool true),
    ("operator", .str operator), ("query", .str query), ("type", .str "best_fields")])]

def phrase (query : String) (fields : List String) : Clause :=
  .obj [("multi_match", .obj [("fields", .ofStrings fields), ("lenient", .bool true),
    ("query", .str query), ("type", .str "phrase")])]

def simpleQuery (query : String) (fields : List String) : Clause :=
  .obj [("simple_query_string", .obj [("default_operator", .str "and"),
    ("fields", .ofStrings fields), ("lenient", .bool true), ("query", .str query)])]

/-! ## Connectives -/

def not (c : Clause) : Clause := (BoolExpr.empty.addMustNot c).clause

def allOf (cs : List Clause) : Clause := { filter := cs : BoolExpr }.clause

def anyOf (cs : List Clause) : Clause :=
  { should := cs, minimumShouldMatch := some 1 : BoolExpr }.clause

/-- Any of several clauses; a single one stands for itself. -/
def anyOfFlat : List Clause → Clause
  | [c] => c
  | cs => anyOf cs

/-- A clause together with a gate, if there is one. -/
def gated (c : Clause) : Option Clause → Clause
  | some gate => allOf [c, gate]
  | none => c

end Clause

end TenantSearch
