/-
What valid settings are enough for. Once they are normal they stay so, they name a backend, and a request
without a size gets the default one; and whatever a valid request asks for and the provider answers, the
document sent for it keeps within the limits of the settings: its size is that of a page, unless nothing
but the total is wanted, and a vector part asks for at least one neighbour out of no fewer candidates.
-/
import TenantSearch.Proofs.Search.FailSoft

namespace TenantSearch

/-! ## Documents -/

/-- What a clause asks of the nearest neighbours in a field. -/
def Clause.vectorBodies (c : Clause) : List Json :=
  match c.get? "knn" with
  | some (.obj fields) => fields.map Prod.snd
  | _ => []

/-- The vector parts of a document: its section of nearest neighbours, and the clauses for them among
those of which some should match. -/
def QueryDocument.vectorParts (d : QueryDocument) : List Json :=
  d.knn.toList ++ d.query.should.flatMap Clause.vectorBodies

/-- A part asks for at least one neighbour, and for no more than the candidates it names, if any. -/
def BoundedPart (part : Json) : Prop :=
  ∃ k : UInt32, part.get? "k" = some (.ofUInt32 k) ∧ 1 ≤ k ∧
    ∀ v, part.get? "num_candidates" = some v → ∃ n : UInt32, v = .ofUInt32 n ∧ k ≤ n

/-- The size of a document is that of a page, or none of the results when only the total is wanted, and
its vector parts are bounded. -/
structure QueryDocument.WithinLimits (d : QueryDocument) (settings : Settings) (countOnly : Bool) :
    Prop where
  size : ∀ n, d.size = some n → (1 ≤ n ∧ n ≤ settings.paging.maxPageSize) ∨ (n = 0 ∧ countOnly = true)
  vector : ∀ part ∈ d.vectorParts, BoundedPart part

namespace QueryDocument.Plain

variable {d : QueryDocument}

theorem vectorParts_nil (h : d.Plain) : d.vectorParts = [] := by
  unfold vectorParts
  rw [h.knn, h.should]
  rfl

/-- Attached to a document without one, a vector query is its only vector part. -/
theorem vectorParts_withVector (h : d.Plain) {q : VectorQuery} (hk : 1 ≤ q.k) (hn : q.k ≤ q.numCandidates) :
    ∀ part ∈ (d.withVector q).vectorParts, BoundedPart part := by
  unfold withVector
  cases q.backend with
  | elasticsearch =>
    dsimp only [vectorParts]
    rw [h.should, List.flatMap_nil, List.append_nil, Option.toList_some, List.forall_mem_singleton]
    exact ⟨q.k, rfl, hk, fun v hv => ⟨q.numCandidates, (Option.some.inj hv).symm, hn⟩⟩
  | opensearch =>
    dsimp only [vectorParts]
    rw [h.knn, h.should]
    -- the free text has no such clause, and the clause of the query has one body without candidates
    show ∀ part ∈ [_], BoundedPart part
    rw [List.forall_mem_singleton]
    exact ⟨q.k, rfl, hk, fun v hv => by cases hv⟩

end QueryDocument.Plain

/-! ## Sizes -/

/-- A document built has no size when it matches nothing, none of the results when only the total is
wanted, and otherwise the size of a page. -/
theorem SearchOptions.build_size {o : SearchOptions} {s : CompileSettings} {d : QueryDocument}
    (h : o.build s = .ok d) : d.size = none ∨ (o.countOnly = true ∧ d.size = some 0) ∨
      d.size = some (s.pageSize o.paging.perPage) := by
  obtain ⟨t, -, ⟨-, -, rfl⟩ | ⟨e, -, rfl⟩⟩ := build_cases h
  · exact .inl rfl
  · unfold present
    by_cases hc : o.countOnly = true
    · rw [if_pos hc]
      exact .inr (.inl ⟨hc, rfl⟩)
    · rw [if_neg hc]
      exact .inr (.inr rfl)

namespace Relation

theorem pagination_size (r : Relation) : r.pagination.document.size = match r.page with
    | .unpaged => r.document.size
    | .first n => some n
    | .last n => some n := by
  unfold pagination
  cases r.page <;> rcases r.position with _ | ⟨_ | _, c⟩ <;> rfl

/-- The size of what is sent is that of the page, and that of the document without one. -/
theorem compiled_size (r : Relation) : r.compiled.size = match r.page with
    | .unpaged => r.document.size
    | .first n => some n
    | .last n => some n := by
  by_cases hp : r.page = .unpaged
  · have hpaged : r.paged.size = r.document.size := by
      have hsize := r.pagination_size
      rw [hp] at hsize
      unfold paged
      split
      · unfold Pagination.paginate
        cases r.pagination.cursor <;> exact hsize
      · split
        · rfl
        · exact hsize
    rw [hp]
    unfold compiled
    cases r.vector with
    | none => exact hpaged
    | some q => exact (r.paged.withVector_window q).2.2.trans hpaged
  · exact (r.compiled_window hp).2.2.trans r.pagination_size

end Relation

namespace SearchService

variable {s : SearchService} {o : SearchOptions} {t : DocType} {r : Relation} {status : HybridStatus}

theorem pageOf_cases (o : SearchOptions) (cs : CompileSettings) : pageOf o cs = .unpaged ∨
    ∃ x, pageOf o cs = .first (cs.pageSize x) ∨ pageOf o cs = .last (cs.pageSize x) := by
  unfold pageOf
  dsimp only
  split
  · exact .inr ⟨_, .inl rfl⟩
  · exact .inr ⟨_, .inr rfl⟩
  · split
    · exact .inr ⟨_, .inr rfl⟩
    · split
      · exact .inr ⟨_, .inl rfl⟩
      · exact .inl rfl

/-- The size of what is sent is that of a page, unless only the total is wanted. -/
theorem compiled_size_cases (h : (s.relation o).result = .ok (r, status)) : r.compiled.size = none ∨
    (o.countOnly = true ∧ r.compiled.size = some 0) ∨
      ∃ x, r.compiled.size = some (s.compileSettings.pageSize x) := by
  obtain ⟨r₀, t, h₀, v, -, rfl⟩ := relation_eq_ok.1 h
  obtain ⟨d, after, before, hd, -, -, -, rfl⟩ := textRelation_eq_ok.1 h₀
  rw [Relation.compiled_size]
  rcases pageOf_cases o s.compileSettings with hp | ⟨x, hp | hp⟩
  · dsimp only
    rw [hp]
    rcases SearchOptions.build_size hd with hsize | ⟨hc, hsize⟩ | hsize
    · exact .inl hsize
    · exact .inr (.inl ⟨hc, hsize⟩)
    · exact .inr (.inr ⟨_, hsize⟩)
  · dsimp only
    rw [hp]
    exact .inr (.inr ⟨x, rfl⟩)
  · dsimp only
    rw [hp]
    exact .inr (.inr ⟨x, rfl⟩)

/-! ## Vectors -/

/-- A vector query takes its numbers of neighbours and candidates from the settings. -/
theorem resolveHybrid_counts {q : VectorQuery} (h : (s.resolveHybrid o t).result = .ok (some q, status)) :
    q.k = s.settings.search.hybrid.k ∧ q.numCandidates = s.settings.search.hybrid.numCandidates := by
  rcases resolveHybrid_cases h with ⟨hnone, -⟩ | ⟨-, ⟨hnone, -⟩ | ⟨p, vector, rest, hq, -⟩⟩
  · cases hnone
  · cases hnone
  · cases hq
    exact ⟨rfl, rfl⟩

theorem compiled_vectorParts (hs : s.settings.Valid) (h : (s.relation o).result = .ok (r, status)) :
    ∀ part ∈ r.compiled.vectorParts, BoundedPart part := by
  obtain ⟨k, hbrowses⟩ := exists_browses h
  obtain ⟨r₀, t, -, v, hv, rfl⟩ := relation_eq_ok.1 h
  have hplain := hbrowses.plain_paged
  cases v with
  | none =>
    rw [Relation.compiled_of_no_vector rfl, hplain.vectorParts_nil]
    exact List.forall_mem_nil _
  | some q =>
    obtain ⟨hk, hn⟩ := resolveHybrid_counts hv
    apply hplain.vectorParts_withVector
    · rw [hk]
      exact one_le_iff_ne_zero.2 hs.neighbours
    · rw [hk, hn]
      exact hs.candidates

/-! ## Requests under valid settings -/

theorem withinLimits (hs : s.settings.Valid) (h : (s.relation o).result = .ok (r, status)) :
    r.compiled.WithinLimits s.settings o.countOnly := by
  have hmax : s.compileSettings.maxPageSize ≠ 0 := fun hzero =>
    hs.pageSize (UInt32.le_zero_iff.1 (hzero ▸ hs.maxPageSize))
  refine ⟨fun n hn => ?_, compiled_vectorParts hs h⟩
  rcases compiled_size_cases h with hsize | ⟨hc, hsize⟩ | ⟨x, hsize⟩
  · rw [hsize] at hn
    cases hn
  · rw [hsize] at hn
    cases hn
    exact .inr ⟨rfl, hc⟩
  · rw [hsize] at hn
    cases hn
    exact .inl ⟨one_le_iff_ne_zero.2 (s.compileSettings.pageSize_ne_zero x),
      CompileSettings.pageSize_le hmax x⟩

/-- Settings that are accepted once normalized serve every valid request. Normalized again they are the
same and accepted, their backend is known, so the vector part of no request fails, and a page without a
size has the default one. Whatever cluster and provider they are used with, what a request sends keeps
within their limits. -/
theorem accepted_settings_serve {settings : Settings} (h : settings.normalize.validate = .ok ()) :
    settings.normalize.normalize = settings.normalize ∧
    settings.normalize.normalize.validate = .ok () ∧
    (∃ b, VectorBackend.ofName settings.normalize.cluster.backend = .ok b) ∧
    ∀ s : SearchService, s.settings = settings.normalize →
      s.compileSettings.pageSize none = settings.normalize.paging.defaultPageSize ∧
      ∀ o : SearchOptions, o.validate = .ok () →
        (∀ t, o.docType = some t → ∃ v status, (s.resolveHybrid o t).result = .ok (v, status)) ∧
        ∀ r status, (s.relation o).result = .ok (r, status) →
          r.compiled.WithinLimits settings.normalize o.countOnly := by
  have hvalid : settings.normalize.Valid := Settings.validate_eq_ok.1 h
  have hnormal := Settings.normalize_normalize hvalid
  refine ⟨hnormal, hnormal.symm ▸ h, hvalid.exists_backend, fun s hs => ?_⟩
  rw [← hs] at hvalid h ⊢
  refine ⟨CompileSettings.pageSize_none hvalid.pageSize hvalid.maxPageSize, fun o ho => ⟨?_, ?_⟩⟩
  · exact fun t ht => resolveHybrid_ok h ho ht
  · exact fun r status hr => withinLimits hvalid hr

/-- The settings of the hybrid deployment as somebody may write them. -/
def looseSettings : Settings :=
  { hybridService.settings with
    cluster := ⟨"http://localhost:9200//", "docs", " OpenSearch", 1000, some " "⟩ }

theorem accepted_settings_serve_slowIssues : looseSettings.normalize.validate = .ok () ∧
    looseSettings.normalize.normalize = looseSettings.normalize ∧
    slowIssues.validate = .ok () ∧ ∃ r, (hybridService.relation slowIssues).result = .ok (r, .applied) ∧
      r.compiled.WithinLimits looseSettings.normalize false ∧ r.compiled.vectorParts ≠ [] := by
  have haccepted : looseSettings.normalize.validate = .ok () := rfl
  have hsame : hybridService.settings = looseSettings.normalize := rfl
  obtain ⟨r, hr, hparts⟩ : ∃ r, (hybridService.relation slowIssues).result = .ok (r, .applied) ∧
      r.compiled.vectorParts ≠ [] := ⟨_, rfl, List.cons_ne_nil _ _⟩
  obtain ⟨hnormal, -, -, hserve⟩ := accepted_settings_serve haccepted
  exact ⟨haccepted, hnormal, rfl, r, hr, ((hserve hybridService hsame).2 slowIssues rfl).2 r _ hr, hparts⟩

end SearchService

end TenantSearch
