/-
Requests for the total alone. What is built for such a request asks for none of the results: its size is
zero, it has no order, no offset and no highlight. Page and position are applied afterwards and look at
nothing but themselves, so the document of a request that also asks for a page by position has the size of
the page and the order of the tie-breaker again. The service itself asks for a count and for no results in
either case.
-/
import TenantSearch.Proofs.Search.Faults
import TenantSearch.Proofs.Search.Limits

namespace TenantSearch

/-- A document that asks for none of the results. -/
structure QueryDocument.AsksForNone (d : QueryDocument) : Prop where
  size : d.size = some 0
  sort : d.sort = []
  offset : d.offset = none
  highlight : d.highlight = none

/-! ## The document built -/

theorem QueryDocument.Narrows.shown_eq {d e : QueryDocument} (h : d.Narrows e) :
    e.offset = d.offset ∧ e.highlight = d.highlight := by
  induction h with
  | refl => exact ⟨rfl, rfl⟩
  | must _ _ ih | mustNot _ _ ih | filter _ _ ih | trackScores _ _ ih => exact ih

/-- A request for the total alone that is not denied is built into a document that asks for no results. -/
theorem SearchOptions.build_countOnly {o : SearchOptions} {cs : CompileSettings} {d : QueryDocument}
    (h : o.build cs = .ok d) (hc : o.countOnly = true) (hd : ¬ o.Denied) : d.AsksForNone := by
  obtain ⟨hv, -⟩ := build_eq_ok.1 h
  obtain ⟨t, ht, ⟨hs, hdenied, -⟩ | ⟨e, he, rfl⟩⟩ := build_cases h
  · obtain ⟨l, hl⟩ := exists_searchLevel hv ht hs
    rw [Access.crossProject_of_not_denied hv ht hs hl hd] at hdenied
    cases hdenied
  · have hnarrows := matching_narrows he
    obtain ⟨hoffset, hhighlight⟩ := hnarrows.shown_eq
    unfold present
    rw [if_pos hc]
    exact ⟨rfl, hnarrows.sort_eq, hoffset, hhighlight⟩

/-! ## The document sent -/

/-- The order by the tie-breaker alone, the other way round for a page counted from the end. -/
def tieBreakerOrder (field : String) : Page → SortClause
  | .last _ => ⟨field, .asc, some .first⟩
  | _ => ⟨field, .desc, none⟩

theorem QueryDocument.withVector_highlight (d : QueryDocument) (q : VectorQuery) :
    (d.withVector q).highlight = d.highlight := by
  unfold withVector
  cases q.backend <;> rfl

namespace Relation

variable {r : Relation}

theorem pagination_highlight (r : Relation) : r.pagination.document.highlight = r.document.highlight := by
  unfold pagination
  cases r.page <;> rcases r.position with _ | ⟨_ | _, c⟩ <;> rfl

/-- Neither page nor vector part changes what is highlighted. -/
theorem compiled_highlight (r : Relation) : r.compiled.highlight = r.document.highlight := by
  have hpaged : r.paged.highlight = r.document.highlight := by
    unfold paged
    split
    · unfold Pagination.paginate
      cases r.pagination.cursor <;> exact r.pagination_highlight
    · split
      · rfl
      · exact r.pagination_highlight
  unfold compiled
  cases r.vector with
  | none => exact hpaged
  | some q => exact (r.paged.withVector_highlight q).trans hpaged

/-- A document without an order is paged in the order of its tie-breaker. -/
theorem sortClauses_of_unordered (h : r.document.sort = []) :
    r.pagination.sortClauses = [tieBreakerOrder r.tieBreakerField r.page] := by
  unfold pagination Pagination.ofDocument
  rw [h]
  cases r.page <;> rcases r.position with _ | ⟨_ | _, c⟩ <;>
    simp [Pagination.sortClauses, Pagination.singleKey, Pagination.after, Pagination.before,
      Pagination.first, Pagination.last, Pagination.reversedPrimary, Pagination.reversedTieBreaker,
      SortOrder.reversed, tieBreakerOrder]

end Relation

/-! ## Requests -/

/-- The size that a page by position is asked for with, if any. -/
def PageRequest.requestedSize (p : PageRequest) : Option UInt32 := p.first.or (p.last.or p.perPage)

namespace SearchService

variable {s : SearchService} {o : SearchOptions} {r : Relation} {status : HybridStatus}

/-- A request for a page by position has a page of the size asked for. -/
theorem pageOf_of_keyset (h : o.paging.usesKeyset = true) (cs : CompileSettings) :
    pageOf o cs = .first (cs.pageSize o.paging.requestedSize) ∨
      pageOf o cs = .last (cs.pageSize o.paging.requestedSize) := by
  unfold PageRequest.requestedSize
  cases hfirst : o.paging.first with
  | some n => exact .inl (pageOf_first hfirst)
  | none =>
    cases hlast : o.paging.last with
    | some n => exact .inr (pageOf_last hfirst hlast)
    | none =>
      rw [pageOf_unsized hfirst hlast, Option.none_or, Option.none_or]
      unfold PageRequest.usesKeyset at h
      rw [hfirst, hlast] at h
      cases hbefore : o.paging.before with
      | some token => exact .inr rfl
      | none =>
        rw [hbefore] at h
        exact .inl (by rw [if_neg (by simp), if_pos (by simpa using h)])

/-- What a relation is looked up with: nothing but the texts that a vector is wanted for. -/
theorem search_not_mem_relation (index : String) (body : Json) :
    .search index body ∉ (s.relation o).calls := by
  intro h
  obtain h | ⟨⟨r, t⟩, -, h⟩ := Run.mem_calls_bind.1 h
  · cases h
  obtain h | ⟨⟨v, status⟩, -, h⟩ := Run.mem_calls_bind.1 h
  · obtain h | ⟨plan, -, h⟩ := Run.mem_calls_bind.1 h
    · cases h
    · cases plan with
      | none => cases h
      | some p => cases List.mem_singleton.1 h
  · cases h

/-- A search for the total alone asks the cluster for no results. -/
theorem search_not_mem_countOnly (hc : o.countOnly = true) (index : String) (body : Json) :
    .search index body ∉ (s.search o).calls := by
  intro h
  obtain h | ⟨⟨r, status⟩, -, h⟩ := Run.mem_calls_bind.1 h
  · exact search_not_mem_relation index body h
  obtain h | ⟨total, -, h⟩ := Run.mem_calls_bind.1 h
  · cases List.mem_singleton.1 h
  · dsimp only at h
    rw [if_pos hc] at h
    cases h

/-- What is sent for the total alone. The search sends a count only. The document of the request's
relation has neither offset nor highlight. It asks for none of the results exactly when the request asks
for no page by position; one that does sets the size of the page and the order of the tie-breaker. -/
theorem countOnly_asksForNone_iff (h : (s.relation o).result = .ok (r, status))
    (hc : o.countOnly = true) (hd : ¬ o.Denied) :
    (∀ index body, .search index body ∉ (s.search o).calls) ∧
    r.compiled.offset = none ∧ r.compiled.highlight = none ∧
    (r.compiled.AsksForNone ↔ o.paging.usesKeyset = false) ∧
    (o.paging.usesKeyset = true →
      r.compiled.size = some (s.compileSettings.pageSize o.paging.requestedSize) ∧
        r.compiled.sort = [tieBreakerOrder s.settings.paging.tieBreakerField r.page]) := by
  have hbuilt := SearchOptions.build_countOnly (relation_document h) hc hd
  have hhighlight : r.compiled.highlight = none := r.compiled_highlight.trans hbuilt.highlight
  refine ⟨search_not_mem_countOnly hc, ?_⟩
  cases hk : o.paging.usesKeyset with
  | false =>
    obtain ⟨hpage, hposition⟩ := relation_unpaged h hk
    obtain ⟨hsort, hoffset, hsize⟩ := r.unpaged_window hpage hposition
    rw [if_pos hbuilt.sort] at hsort
    rw [hbuilt.offset] at hoffset
    rw [hbuilt.size] at hsize
    exact ⟨hoffset, hhighlight, iff_of_true ⟨hsize, hsort, hoffset, hhighlight⟩ rfl, nofun⟩
  | true =>
    have hpage : r.page = pageOf o s.compileSettings ∧
        r.tieBreakerField = s.settings.paging.tieBreakerField := by
      obtain ⟨r₀, t, h₀, v, -, rfl⟩ := relation_eq_ok.1 h
      obtain ⟨d, after, before, -, -, -, -, rfl⟩ := textRelation_eq_ok.1 h₀
      exact ⟨rfl, rfl⟩
    have hsized := pageOf_of_keyset hk s.compileSettings
    rw [← hpage.1] at hsized
    have hne : r.page ≠ .unpaged := by
      rcases hsized with hp | hp <;> simp [hp]
    obtain ⟨hsort, hoffset, -⟩ := r.compiled_window hne
    rw [Relation.sortClauses_of_unordered hbuilt.sort, hpage.2] at hsort
    refine ⟨hoffset, hhighlight, iff_of_false ?_ (by simp), fun _ => ⟨?_, hsort⟩⟩
    · intro hnone
      rw [hnone.sort] at hsort
      cases hsort
    · rw [r.compiled_size]
      rcases hsized with hp | hp <;> rw [hp]

/-- The number of issues, highlighted and the oldest first, on the second of numbered pages. -/
def countedIssues : SearchOptions :=
  { oldestIssues with countOnly := true, highlight := true, paging := { page := some 2, perPage := some 5 } }

theorem countOnly_asksForNone_countedIssues : ∃ r,
    (exampleService.relation countedIssues).result = .ok (r, .disabled) ∧ countedIssues.countOnly = true ∧
      ¬ countedIssues.Denied ∧ r.compiled.AsksForNone := by
  have hopen : ¬ countedIssues.Denied := by
    rintro ⟨-, -, -, u, hu, -⟩
    cases hu
  have hrelation : ∃ r, (exampleService.relation countedIssues).result = .ok (r, .disabled) := ⟨_, rfl⟩
  obtain ⟨r, hr⟩ := hrelation
  obtain ⟨-, -, -, hnone, -⟩ := countOnly_asksForNone_iff hr rfl hopen
  exact ⟨r, hr, rfl, hopen, hnone.2 rfl⟩

/-- The number of issues, together with the first three of them. -/
def firstCounted : SearchOptions := { countedIssues with paging := { first := some 3 } }

/-- A page by position is asked for even where only the total is wanted: its document has a size and an
order. -/
theorem firstCounted_asksForResults : firstCounted.validate = .ok () ∧ firstCounted.countOnly = true ∧
    ¬ firstCounted.Denied ∧ ∃ r, (exampleService.relation firstCounted).result = .ok (r, .disabled) ∧
      r.compiled.size = some 3 ∧ r.compiled.sort = [⟨"id", .desc, none⟩] := by
  refine ⟨rfl, rfl, ?_, _, rfl, rfl, rfl⟩
  rintro ⟨-, -, -, u, hu, -⟩
  cases hu

end SearchService

end TenantSearch
