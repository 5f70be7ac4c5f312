/-
What a request matches and how it is presented. Order, page, position, highlight, the fields that are
shown, a total alone and the vector part are matters of presentation: a request that differs in them only
is built into the same query part or fails with the same fault. So its total is the same, from whichever
page it is read and whatever the provider answers.
-/
import TenantSearch.Proofs.Search.Requests

namespace TenantSearch

open Index MemoryIndex

/-- How the matches of a request are presented: in which order, from where, what is shown of them, whether
they are only counted, and what a vector may add to them. -/
structure Presentation where
  orderBy : Option String := none
  sort : Option String := none
  paging : PageRequest := {}
  highlight : Bool := false
  sourceFields : List String := []
  countOnly : Bool := false
  vectors : VectorRequest := {}
  hybrid : Bool := false
deriving DecidableEq

namespace SearchOptions

/-- The same request, presented in another way. -/
def showing (o : SearchOptions) (p : Presentation) : SearchOptions :=
  { o with
    orderBy := p.orderBy
    sort := p.sort
    paging := p.paging
    highlight := p.highlight
    sourceFields := p.sourceFields
    countOnly := p.countOnly
    vectors := p.vectors
    flags := { o.flags with hybrid := p.hybrid } }

variable {o : SearchOptions} {p : Presentation} {s s' : CompileSettings} {t : DocType}
  {d d' : QueryDocument}

/-! ## The document -/

/-- Of the settings, the query part depends on the strategy for free text only. -/
theorem matching_showing (hs : s'.multiMatch = s.multiMatch) :
    (o.showing p).matching s' t = o.matching s t := by
  unfold matching
  rw [hs]
  rfl

/-- Valid requests that are presented differently fail with the same fault, or match the same. -/
theorem build_showing (h : o.validate = .ok ()) (hp : (o.showing p).validate = .ok ())
    (hs : s'.multiMatch = s.multiMatch) :
    (∃ e, o.build s = .error e ∧ (o.showing p).build s' = .error e) ∨
      ∃ d d', o.build s = .ok d ∧ (o.showing p).build s' = .ok d' ∧ d'.query = d.query := by
  obtain ⟨t, ht, -⟩ := validate_eq_ok.1 h
  have ht' : (o.showing p).docType = some t := ht
  have hdenied : Access.crossProjectDenied (o.showing p) = Access.crossProjectDenied o := rfl
  rw [build_eq h ht, build_eq hp ht', hdenied, matching_showing hs]
  cases (if t.isScoped then Access.crossProjectDenied o else .ok false) with
  | error e => exact .inl ⟨e, rfl, rfl⟩
  | ok denied =>
    cases denied with
    | true => exact .inr ⟨_, _, rfl, rfl, rfl⟩
    | false =>
      cases o.matching s t with
      | error e => exact .inl ⟨e, rfl, rfl⟩
      | ok d => exact .inr ⟨_, _, rfl, rfl, (present_query d).trans (present_query d).symm⟩

theorem query_showing (h : o.validate = .ok ()) (hp : (o.showing p).validate = .ok ())
    (hs : s'.multiMatch = s.multiMatch) (hd : o.build s = .ok d) (hd' : (o.showing p).build s' = .ok d') :
    d'.query = d.query := by
  rcases build_showing h hp hs with ⟨e, he, -⟩ | ⟨e, e', he, he', hquery⟩
  · rw [hd] at he
    cases he
  · rw [hd] at he
    rw [hd'] at he'
    cases he
    cases he'
    exact hquery

end SearchOptions

namespace SearchService

variable {s : SearchService} {o : SearchOptions} {r : Relation} {status : HybridStatus} {out : SearchOutcome}

/-! ## The total -/

/-- Every relation of a service searches the index of its settings. -/
theorem relation_index (h : (s.relation o).result = .ok (r, status)) : r.index = s.settings.cluster.index := by
  obtain ⟨r₀, t, h₀, v, -, rfl⟩ := relation_eq_ok.1 h
  obtain ⟨d, after, before, -, -, -, -, rfl⟩ := textRelation_eq_ok.1 h₀
  rfl

/-- The total of an outcome is that of the relation of its request, with or without records. -/
theorem search_total (h : (s.search o).result = .ok out) : ∃ r status,
    (s.relation o).result = .ok (r, status) ∧ (r.totalCount s.cluster).result = .ok out.total := by
  obtain ⟨⟨r, status⟩, hr, h⟩ := Run.bind_result.1 h
  obtain ⟨total, htotal, h⟩ := Run.bind_result.1 h
  dsimp only at h
  -- the records come after the total, whether they are asked for or not
  split at h
  all_goals
    obtain ⟨records, -, h⟩ := Run.bind_result.1 h
    cases h
    exact ⟨r, status, hr, htotal⟩

/-- What a search gives that asks for the total alone. -/
theorem search_countOnly_ok {total : UInt64} (h : (s.relation o).result = .ok (r, status))
    (hc : o.countOnly = true) (htotal : (r.totalCount s.cluster).result = .ok total) :
    (s.search o).result = .ok ⟨[], total, status⟩ := by
  refine Run.bind_result.2 ⟨(r, status), h, Run.bind_result.2 ⟨total, htotal, ?_⟩⟩
  dsimp only
  rw [if_pos hc]
  exact Run.bind_result.2 ⟨[], rfl, rfl⟩

/-- A request that has a relation is answered by an index in memory. -/
theorem exists_search {m : MemoryIndex} (hm : s.cluster = .ofIndex m)
    (h : (s.relation o).result = .ok (r, status)) : ∃ out, (s.search o).result = .ok out := by
  have htotal := totalCount_ok h m
  obtain ⟨k, hk⟩ := exists_browses h
  rw [← hm] at htotal
  cases hc : o.countOnly with
  | true => exact ⟨_, search_countOnly_ok h hc htotal⟩
  | false => exact ⟨_, search_ok h hc htotal (hm ▸ hk.records_eq m)⟩

/-- On one cluster the matches of a request are counted by the same call with the same answer, however the
request is presented and whatever the provider answers. -/
theorem totalCount_showing {p : Presentation} {provider : Provider} {r' : Relation} {status' : HybridStatus}
    (ho : o.validate = .ok ()) (hp : (o.showing p).validate = .ok ())
    (h : (s.relation o).result = .ok (r, status))
    (h' : ({ s with provider := provider }.relation (o.showing p)).result = .ok (r', status')) :
    r'.totalCount s.cluster = r.totalCount s.cluster := by
  have hindex : r'.index = r.index := (relation_index h').trans (relation_index h).symm
  have hd := relation_document h
  have hd' := relation_document h'
  have hquery : r'.document.query = r.document.query := SearchOptions.query_showing ho hp rfl hd hd'
  exact Relation.totalCount_of_query hindex (congrArg BoolExpr.clause hquery) s.cluster

/-- Presentation never changes what matches. Valid requests that are presented differently, under settings
with the same strategy for free text, are built into the same query part or fail with the same fault. On
the same cluster under the same settings they have the same total, whatever their providers answer. -/
theorem presentation_keeps_matches {p : Presentation} (ho : o.validate = .ok ())
    (hp : (o.showing p).validate = .ok ()) :
    (∀ cs cs' : CompileSettings, cs'.multiMatch = cs.multiMatch →
      (∃ e, o.build cs = .error e ∧ (o.showing p).build cs' = .error e) ∨
        ∃ d d', o.build cs = .ok d ∧ (o.showing p).build cs' = .ok d' ∧ d'.query = d.query) ∧
    ∀ (s : SearchService) (provider : Provider) (out out' : SearchOutcome),
      (s.search o).result = .ok out →
      ({ s with provider := provider }.search (o.showing p)).result = .ok out' →
      out'.total = out.total := by
  constructor
  · intro cs cs' hs
    exact SearchOptions.build_showing ho hp hs
  · intro s provider out out' h h'
    obtain ⟨r, status, hr, htotal⟩ := search_total h
    obtain ⟨r', status', hr', htotal'⟩ := search_total h'
    rw [totalCount_showing ho hp hr hr'] at htotal'
    exact Except.ok.inj (htotal'.symm.trans htotal)

/-- The newest issues first, from the last page, one issue a page, with its id alone, highlighted. -/
def lastNewest : Presentation :=
  { sort := some "created_desc", paging := { last := some 1 }, highlight := true, sourceFields := ["id"] }

/-- The same issues are found from either end and counted alone, also by a service whose provider fails. -/
theorem presentation_keeps_matches_lastNewest :
    oldestIssues.validate = .ok () ∧ (oldestIssues.showing lastNewest).validate = .ok () ∧
      (oldestIssues.showing { countOnly := true }).validate = .ok () ∧
      (∃ d d', oldestIssues.build {} = .ok d ∧
        (oldestIssues.showing lastNewest).build { maxPageSize := 7 } = .ok d' ∧ d'.query = d.query) ∧
      ∃ out out' only, (exampleService.search oldestIssues).result = .ok out ∧
        (exampleService.search (oldestIssues.showing lastNewest)).result = .ok out' ∧
        ({ exampleService with provider := fun _ _ => .error (.rateLimited "p") }.search
          (oldestIssues.showing { countOnly := true })).result = .ok only ∧
        out'.total = out.total ∧ only.total = out.total := by
  have hlast := presentation_keeps_matches (o := oldestIssues) (p := lastNewest) rfl rfl
  have honly := presentation_keeps_matches (o := oldestIssues) (p := { countOnly := true }) rfl rfl
  obtain ⟨out, hout⟩ := exists_search (s := exampleService) (o := oldestIssues) (m := threeIssues) rfl rfl
  obtain ⟨out', hout'⟩ := exists_search (s := exampleService) (o := oldestIssues.showing lastNewest)
    (m := threeIssues) rfl rfl
  obtain ⟨only, hcounted⟩ := exists_search
    (s := { exampleService with provider := fun _ _ => .error (.rateLimited "p") })
    (o := oldestIssues.showing { countOnly := true }) (m := threeIssues) rfl rfl
  refine ⟨rfl, rfl, rfl, ?_, out, out', only, hout, hout', hcounted,
    hlast.2 exampleService exampleService.provider out out' hout hout',
    honly.2 exampleService _ out only hout hcounted⟩
  rcases hlast.1 {} { maxPageSize := 7 } rfl with ⟨e, he, -⟩ | hbuilt
  · cases he
  · exact hbuilt

end SearchService

end TenantSearch
