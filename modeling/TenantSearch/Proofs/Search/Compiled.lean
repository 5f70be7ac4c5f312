/-
The document that a relation sends. A position adds one filter to the query and the page changes
nothing in it; a vector part keeps the filters and what is excluded.
-/
import TenantSearch.Proofs.Compile.Narrowing
import TenantSearch.Proofs.Paging.Position
import TenantSearch.Search.Relation

namespace TenantSearch

open Index

/-! ## A vector part -/

namespace QueryDocument

theorem withVector_filter (d : QueryDocument) (q : VectorQuery) :
    (d.withVector q).query.filter = d.query.filter := by
  unfold withVector
  cases q.backend <;> rfl

theorem withVector_mustNot (d : QueryDocument) (q : VectorQuery) :
    (d.withVector q).query.mustNot = d.query.mustNot := by
  unfold withVector
  cases q.backend <;> rfl

theorem withVector_knn_filter {d : QueryDocument} {q : VectorQuery} (hd : d.knn = none) {k f : Json}
    (hk : (d.withVector q).knn = some k) (hf : k.get? "filter" = some f) :
    f = ({ filter := d.query.filter, mustNot := d.query.mustNot : BoolExpr }).clause := by
  unfold withVector at hk
  cases hb : q.backend with
  | opensearch =>
    rw [hb] at hk
    exact absurd (hd.symm.trans hk) (Option.some_ne_none k).symm
  | elasticsearch =>
    rw [hb] at hk
    cases hk
    exact (Option.some.inj hf).symm

/-- A vector part leaves order and window as they are. -/
theorem withVector_window (d : QueryDocument) (q : VectorQuery) : (d.withVector q).sort = d.sort ∧
    (d.withVector q).offset = d.offset ∧ (d.withVector q).size = d.size := by
  unfold withVector
  cases q.backend <;> exact ⟨rfl, rfl, rfl⟩

theorem decided_vectorClause (q : VectorQuery) : Decided q.clause := fun _ _ => ⟨false, rfl⟩

theorem Plain.decided_withVector {d : QueryDocument} (h : d.Plain) (q : VectorQuery) :
    Decided (d.withVector q).queryClause := by
  unfold withVector
  cases q.backend with
  | elasticsearch => exact h.decided
  | opensearch =>
    have htext : Decided ({ must := d.query.must } : BoolExpr).clause :=
      decided_clause h.must (List.forall_mem_nil _) (List.forall_mem_nil _) (List.forall_mem_nil _)
    refine decided_clause (List.forall_mem_nil _) h.filter h.mustNot ?_
    dsimp only
    rw [h.should, List.nil_append]
    simp only [List.forall_mem_cons]
    exact ⟨htext, decided_vectorClause q, List.forall_mem_nil _⟩

/-- A vector part changes nothing in what the index accepts: the index finds nothing by vectors, so
of the clauses that should match the free text has to. -/
theorem Plain.accepts_withVector {d : QueryDocument} (h : d.Plain) (q : VectorQuery) {id : String}
    {source : Json} : Accepts id source (d.withVector q).queryClause ↔ Accepts id source d.queryClause := by
  unfold withVector
  cases q.backend with
  | elasticsearch => rfl
  | opensearch =>
    have htext : Decided ({ must := d.query.must } : BoolExpr).clause :=
      decided_clause h.must (List.forall_mem_nil _) (List.forall_mem_nil _) (List.forall_mem_nil _)
    -- one of the text and the vector has to match, and the vector never does
    have hknn : outcome id source q.clause = .ok false := rfl
    have hor : (∃ n, countTrue [outcome id source ({ must := d.query.must } : BoolExpr).clause,
        outcome id source q.clause] = .ok n ∧ 1 ≤ n) ↔
          Accepts id source ({ must := d.query.must } : BoolExpr).clause := by
      rw [hknn, htext.outcome_eq]
      by_cases ha : Accepts id source ({ must := d.query.must } : BoolExpr).clause <;>
        simp [countTrue, Except.map, ha]
    have hmust : Accepts id source ({ must := d.query.must } : BoolExpr).clause ↔
        ∀ c ∈ d.query.must, Accepts id source c := by
      rw [accepts_clause_iff rfl rfl]
      simp
    have hone : ∀ must filter should : List Outcome,
        requiredOf (some (1 : UInt32).toUInt64) must filter should = 1 := fun _ _ _ => rfl
    unfold queryClause
    rw [accepts_clause_iff h.should h.minimum, Accepts, outcome_clause, combine_true_iff]
    dsimp only
    rw [Option.map_some, hone, h.should, List.nil_append, List.map_cons, List.map_singleton, hor, hmust]
    simp [Accepts]
    tauto

end QueryDocument

/-! ## Page and position -/

namespace Relation

variable {r : Relation}

theorem pagination_query (r : Relation) : r.pagination.document.query = r.document.query := by
  unfold pagination
  cases r.page <;> rcases r.position with _ | ⟨_ | _, c⟩ <;> rfl

theorem pagination_knn (r : Relation) : r.pagination.document.knn = r.document.knn := by
  unfold pagination
  cases r.page <;> rcases r.position with _ | ⟨_ | _, c⟩ <;> rfl

theorem pagination_cursor (r : Relation) : r.pagination.cursor = r.position.map (·.2) := by
  unfold pagination
  cases r.page <;> rcases r.position with _ | ⟨_ | _, c⟩ <;> rfl

/-- The filter that a position adds, if there is one. -/
def positionFilter (r : Relation) : Option Clause := r.position.map fun p => r.pagination.rangeClause p.2

theorem paged_query (r : Relation) :
    r.paged.query = match r.positionFilter with
      | none => r.document.query
      | some c => r.document.query.addFilter c := by
  unfold paged positionFilter
  cases hp : r.position with
  | none =>
    simp only [Option.isSome_none, Bool.false_eq_true, or_false, Option.map_none]
    split
    · simp only [Pagination.paginate, pagination_cursor, hp, Option.map_none]
      exact pagination_query r
    · split
      · rfl
      · exact pagination_query r
  | some p =>
    simp only [Option.isSome_some, or_true, if_true, Pagination.paginate, pagination_cursor, hp,
      Option.map_some, QueryDocument.filter?, QueryDocument.filter]
    rw [pagination_query]

theorem paged_knn (r : Relation) : r.paged.knn = r.document.knn := by
  unfold paged
  split
  · unfold Pagination.paginate
    cases r.pagination.cursor <;> exact pagination_knn r
  · split
    · rfl
    · exact pagination_knn r

theorem paged_filter_subset (r : Relation) : r.document.query.filter ⊆ r.paged.query.filter := by
  rw [paged_query]
  split
  · exact List.Subset.refl _
  · exact List.subset_append_left _ _

theorem paged_mustNot (r : Relation) : r.paged.query.mustNot = r.document.query.mustNot := by
  rw [paged_query]
  split <;> rfl

theorem compiled_filter (r : Relation) : r.compiled.query.filter = r.paged.query.filter := by
  unfold compiled
  cases r.vector with
  | none => rfl
  | some q => exact r.paged.withVector_filter q

theorem compiled_mustNot (r : Relation) : r.compiled.query.mustNot = r.paged.query.mustNot := by
  unfold compiled
  cases r.vector with
  | none => rfl
  | some q => exact r.paged.withVector_mustNot q

/-- The section of nearest neighbours, where there is one, repeats the filters of the query. -/
theorem compiled_knn_filter (hd : r.document.knn = none) {k f : Json} (hk : r.compiled.knn = some k)
    (hf : k.get? "filter" = some f) :
    f = ({ filter := r.paged.query.filter, mustNot := r.paged.query.mustNot : BoolExpr }).clause := by
  have hnone : r.paged.knn = none := (paged_knn r).trans hd
  unfold compiled at hk
  cases hv : r.vector with
  | none =>
    rw [hv] at hk
    exact absurd (hnone.symm.trans hk) (Option.some_ne_none k).symm
  | some q =>
    rw [hv] at hk
    exact QueryDocument.withVector_knn_filter hnone hk hf

/-! ## A page in an order -/

/-- A search of which nothing but the page, the position and the vector part is still open: its
query is plain, its order is known, and nothing is loaded for its records. -/
structure Browses (r : Relation) (k : KeyOrder) : Prop where
  plain : r.document.Plain
  follows : (Pagination.ofDocument r.document r.tieBreakerField).Follows k
  loader : r.loader = none

variable {k : KeyOrder} {id : String} {source : Json}

theorem Browses.follows_pagination (h : r.Browses k) : r.pagination.Follows k := by
  refine ⟨Eq.trans ?_ h.follows.primary, Eq.trans ?_ h.follows.tieBreaker⟩ <;>
  · unfold pagination
    cases r.page <;> rcases r.position with _ | ⟨_ | _, c⟩ <;> rfl

theorem pagination_direction {dir : PageDirection} {c : Cursor} (h : r.position = some (dir, c)) :
    r.pagination.direction = dir := by
  unfold pagination
  rw [h]
  cases r.page <;> cases dir <;> rfl

/-- The query of a page is that of the document, with a filter for the position if there is one. -/
theorem Browses.plain_paged (h : r.Browses k) : r.paged.Plain := by
  have hknn : r.paged.knn = none := (paged_knn r).trans h.plain.knn
  have hquery := paged_query r
  cases hc : r.positionFilter with
  | none =>
    rw [hc] at hquery
    exact h.plain.of_query hquery hknn
  | some c =>
    rw [hc] at hquery
    obtain ⟨p, -, rfl⟩ := Option.map_eq_some_iff.1 hc
    exact (h.plain.add_filter (r.pagination.decided_rangeClause p.2)).of_query hquery hknn

theorem Browses.decided_compiled (h : r.Browses k) : Decided r.compiled.queryClause := by
  unfold compiled
  cases r.vector with
  | none => exact h.plain_paged.decided
  | some q => exact h.plain_paged.decided_withVector q

/-- A page accepts what the query accepts and what lies beyond its position. -/
theorem Browses.accepts_compiled (h : r.Browses k) :
    Accepts id source r.compiled.queryClause ↔ Accepts id source r.document.queryClause ∧
      ∀ c, r.positionFilter = some c → Accepts id source c := by
  have hvector : Accepts id source r.compiled.queryClause ↔ Accepts id source r.paged.queryClause := by
    unfold compiled
    cases r.vector with
    | none => rfl
    | some q => exact h.plain_paged.accepts_withVector q
  have hquery := paged_query r
  rw [hvector]
  cases hc : r.positionFilter with
  | none =>
    rw [hc] at hquery
    have hclause : r.paged.queryClause = r.document.queryClause := congrArg BoolExpr.clause hquery
    rw [hclause]
    exact ⟨fun ha => ⟨ha, fun _ h => by cases h⟩, And.left⟩
  | some c =>
    rw [hc] at hquery
    have hclause : r.paged.queryClause = (r.document.filter c).queryClause :=
      congrArg BoolExpr.clause hquery
    rw [hclause, h.plain.accepts_filter]
    exact and_congr_right fun _ => ⟨fun ha _ he => by cases he; exact ha, fun ha => ha c rfl⟩

/-- A page asks for the order of its paging and its own size, and for no offset. -/
theorem compiled_window (h : r.page ≠ .unpaged) : r.compiled.sort = r.pagination.sortClauses ∧
    r.compiled.offset = none ∧ r.compiled.size = r.pagination.document.size := by
  have hpaged : r.paged = r.pagination.paginate := by
    unfold paged
    rw [if_pos (.inl h)]
  have hwindow : r.paged.sort = r.pagination.sortClauses ∧ r.paged.offset = none ∧
      r.paged.size = r.pagination.document.size := by
    rw [hpaged]
    unfold Pagination.paginate
    cases r.pagination.cursor <;> exact ⟨rfl, rfl, rfl⟩
  unfold compiled
  cases r.vector with
  | none => exact hwindow
  | some q =>
    obtain ⟨hsort, hoffset, hsize⟩ := r.paged.withVector_window q
    exact ⟨hsort.trans hwindow.1, hoffset.trans hwindow.2.1, hsize.trans hwindow.2.2⟩

/-- Without page and position the document keeps its window, and its order if it has one. -/
theorem unpaged_window (hpage : r.page = .unpaged) (hposition : r.position = none) :
    r.compiled.sort = (if r.document.sort = [] then [] else r.pagination.sortClauses) ∧
      r.compiled.offset = r.document.offset ∧ r.compiled.size = r.document.size := by
  have hdocument : r.pagination.document = r.document := by
    unfold pagination
    rw [hpage, hposition]
    rfl
  have hpaged : r.paged.sort = (if r.document.sort = [] then [] else r.pagination.sortClauses) ∧
      r.paged.offset = r.document.offset ∧ r.paged.size = r.document.size := by
    unfold paged Pagination.ordered
    rw [hpage, hposition, hdocument]
    cases hsort : r.document.sort with
    | nil => simp [hsort]
    | cons c rest => simp
  unfold compiled
  cases r.vector with
  | none => exact hpaged
  | some q =>
    obtain ⟨hsort, hoffset, hsize⟩ := r.paged.withVector_window q
    exact ⟨hsort.trans hpaged.1, hoffset.trans hpaged.2.1, hsize.trans hpaged.2.2⟩

end Relation

end TenantSearch
