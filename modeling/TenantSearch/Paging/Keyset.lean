/-
Paging by position. Documents are ordered by a primary field and then by one that breaks ties;
those without the primary value come last in either order. The page after or before a position is
what lies strictly beyond it, so no offset is sent. A page counted from the end is asked for in the
reversed order.
-/
import TenantSearch.Paging.Cursor
import TenantSearch.Query.Document

namespace TenantSearch

inductive PageDirection where
  | forward
  | backward
deriving DecidableEq

def PageDirection.name : PageDirection → String
  | .forward => "forward"
  | .backward => "backward"

/-- A document with its order and the page wanted of it. -/
structure Pagination where
  document : QueryDocument
  primary : SortClause
  tieBreaker : SortClause
  direction : PageDirection := .forward
  cursor : Option Cursor := none
  reversed : Bool := false

namespace Pagination

/-- The order of a document. One ordered by relevance takes the tie-breaker, descending. -/
def ofDocument (d : QueryDocument) (tieBreakerField : String) : Pagination :=
  let primary := (d.sort[0]?).getD ⟨tieBreakerField, .desc, none⟩
  let tieBreaker := (d.sort[1]?).getD ⟨tieBreakerField, primary.order, none⟩
  { document := d, primary := primary, tieBreaker := tieBreaker }

def after (p : Pagination) (c : Cursor) : Pagination :=
  { p with cursor := some c, direction := .forward }

def before (p : Pagination) (c : Cursor) : Pagination :=
  { p with cursor := some c, direction := .backward }

/-- The first records in natural order. -/
def first (p : Pagination) (size : UInt32) : Pagination :=
  { p with document := { p.document with size := some size }, reversed := false }

/-- The last records, which the cluster gives in reversed order. -/
def last (p : Pagination) (size : UInt32) : Pagination :=
  { p with document := { p.document with size := some size }, reversed := true }

/-- Whether the primary field breaks its own ties. -/
def singleKey (p : Pagination) : Bool := p.primary.field = p.tieBreaker.field

/-! ## The order sent -/

/-- An order the other way round, with missing values first. -/
def reversedPrimary (s : SortClause) : SortClause := ⟨s.field, s.order.reversed, some .first⟩

def reversedTieBreaker (s : SortClause) : SortClause := ⟨s.field, s.order.reversed, none⟩

def sortClauses (p : Pagination) : List SortClause :=
  let primary := if p.reversed then reversedPrimary p.primary else p.primary
  let tieBreaker := if p.reversed then reversedTieBreaker p.tieBreaker else p.tieBreaker
  if p.singleKey then [{ tieBreaker with missing := primary.missing }]
  else [primary, tieBreaker]

/-! ## What lies beyond a position -/

/-- The comparison that holds strictly beyond a value. -/
def beyond (order : SortOrder) (direction : PageDirection) : RangeOp :=
  match order, direction with
  | .asc, .forward | .desc, .backward => .gt
  | .desc, .forward | .asc, .backward => .lt

/-- The clause for records strictly beyond a position. Records without the primary value come
after all others: they lie beyond every value going forward, and every value lies beyond them
going backward. -/
def rangeClause (p : Pagination) (c : Cursor) : Clause :=
  let tieRange :=
    Clause.range p.tieBreaker.field (beyond p.tieBreaker.order p.direction) c.tieBreaker
  let field := p.primary.field
  let missing := Clause.not (.exist field)
  if p.singleKey then tieRange
  else match c.sortValue, p.direction with
    | none, .forward => .allOf [missing, tieRange]
    | none, .backward => .anyOf [.allOf [missing, tieRange], .exist field]
    | some v, direction =>
      let beyondValue := [Clause.range field (beyond p.primary.order direction) v,
        .allOf [.term field v, tieRange]]
      .anyOf (if direction = .forward then beyondValue ++ [missing] else beyondValue)

/-! ## Documents -/

/-- The document in its order, its offset left in place. -/
def ordered (p : Pagination) : QueryDocument := { p.document with sort := p.sortClauses }

/-- The document of the page: the order, and what lies beyond the position if there is one. -/
def paginate (p : Pagination) : QueryDocument :=
  { p.document with sort := p.sortClauses, offset := none }.filter? (p.cursor.map p.rangeClause)

end Pagination

end TenantSearch
