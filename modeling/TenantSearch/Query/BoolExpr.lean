/-
Boolean queries: clauses that must match with a score (`must`), without one (`filter`), that must
not match, and of which some should match. Empty lists and an unset minimum are not written, and
nothing else is left out, so two expressions are equal exactly when their written forms are.
-/
import TenantSearch.Json.Basic

namespace TenantSearch

/-- A clause of the query language of the cluster. -/
abbrev Clause := Json

structure BoolExpr where
  must : List Clause := []
  mustNot : List Clause := []
  should : List Clause := []
  filter : List Clause := []
  minimumShouldMatch : Option UInt32 := none

namespace BoolExpr

def empty : BoolExpr := {}

def isEmpty (e : BoolExpr) : Bool :=
  e.must.isEmpty && e.mustNot.isEmpty && e.should.isEmpty && e.filter.isEmpty &&
    e.minimumShouldMatch.isNone

def addMust (e : BoolExpr) (c : Clause) : BoolExpr := { e with must := e.must ++ [c] }

def addMustNot (e : BoolExpr) (c : Clause) : BoolExpr := { e with mustNot := e.mustNot ++ [c] }

def addShould (e : BoolExpr) (c : Clause) : BoolExpr := { e with should := e.should ++ [c] }

def addFilter (e : BoolExpr) (c : Clause) : BoolExpr := { e with filter := e.filter ++ [c] }

def withMinimum (e : BoolExpr) (count : UInt32) : BoolExpr :=
  { e with minimumShouldMatch := some count }

/-- A list of clauses as a member, unless it is empty. -/
def listMember (key : String) (clauses : List Clause) : List (String × Json) :=
  if clauses.isEmpty then [] else [(key, .arr clauses)]

/-- The members of the written form, in key order. -/
def toFields (e : BoolExpr) : List (String × Json) :=
  listMember "filter" e.filter ++
  (match e.minimumShouldMatch with
    | some count => [("minimum_should_match", Json.ofUInt32 count)]
    | none => []) ++
  listMember "must" e.must ++ listMember "must_not" e.mustNot ++ listMember "should" e.should

def toJson (e : BoolExpr) : Json := .obj e.toFields

/-- The expression as a clause of another one. -/
def clause (e : BoolExpr) : Clause := .obj [("bool", e.toJson)]

/-- Equality of expressions, clause by clause in order. -/
def same (a b : BoolExpr) : Bool :=
  Json.sameItems a.must b.must && Json.sameItems a.mustNot b.mustNot &&
    Json.sameItems a.should b.should && Json.sameItems a.filter b.filter &&
    a.minimumShouldMatch == b.minimumShouldMatch

end BoolExpr

end TenantSearch
