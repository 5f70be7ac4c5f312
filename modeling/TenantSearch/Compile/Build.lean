/-
The compilation of a valid request: free text, type, access, facets, highlight, order and window.
A request that may not read across projects compiles to a document that matches nothing.
-/
import TenantSearch.Compile.Access
import TenantSearch.Compile.Sorting

namespace TenantSearch

/-- What a deployment sets for every request. -/
structure CompileSettings where
  multiMatch : Bool := true
  highlightPreTag : String := "<mark>"
  highlightPostTag : String := "</mark>"
  defaultPageSize : UInt32 := 20
  maxPageSize : UInt32 := 100
deriving DecidableEq

/-- The size of a page: what is asked for, or the default, from one up to the greatest allowed. -/
def CompileSettings.pageSize (s : CompileSettings) (requested : Option UInt32) : UInt32 :=
  let size := requested.getD s.defaultPageSize
  let top := if s.maxPageSize = 0 then 1 else s.maxPageSize
  if size = 0 then 1 else if top < size then top else size

/-- The number of results before a page; what exceeds 32 bits is cut down. -/
def pageOffset (page size : UInt32) : UInt32 :=
  let n := (page.toNat - 1) * size.toNat
  if n < 0x100000000 then n.toUInt32 else 0xffffffff

namespace SearchOptions

/-- The query part: free text, type, access and facets. -/
def matching (o : SearchOptions) (s : CompileSettings) (t : DocType) :
    Except ArgumentError QueryDocument := do
  let d := FullText.byFullText .empty o t (s.multiMatch && o.flags.multiMatch)
  let d := Facets.byType d o t
  let d ← Access.apply d o t
  Facets.apply d o.facets t

/-- Adds what is shown, in which order and from where. -/
def present (o : SearchOptions) (s : CompileSettings) (t : DocType) (d : QueryDocument) :
    QueryDocument :=
  if o.countOnly then { d with size := some 0, trackScores := false }
  else
    let d := FullText.byHighlight d o t s.highlightPreTag s.highlightPostTag
    let size := s.pageSize o.paging.perPage
    { d with
      sort := d.sort ++ (Sorting.resolve? o.orderBy o.sort t).toList
      source := if o.sourceFields.isEmpty then d.source else some o.sourceFields
      size := some size
      offset := if o.paging.usesKeyset then d.offset else
        match o.paging.page with
        | some page => some (pageOffset page size)
        | none => d.offset }

/-- The document of a request. -/
def build (o : SearchOptions) (s : CompileSettings) : Except ArgumentError QueryDocument := do
  o.validate
  let t ← o.docType?
  let denied ← if t.isScoped then Access.crossProjectDenied o else .ok false
  if denied then .ok .matchNone
  else do
    let d ← o.matching s t
    .ok (o.present s t d)

end SearchOptions

end TenantSearch
