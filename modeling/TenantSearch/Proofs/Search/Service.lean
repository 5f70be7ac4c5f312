/-
What the service makes of a request: the relation has the document built for it, the page and the
position that the request asks for, and perhaps a vector part. Its pages are windows of the order
that the request names, or of the tie-breaker's order when it names none.
-/
import TenantSearch.Proofs.Search.Pages
import TenantSearch.Search.Service

namespace TenantSearch

open Index MemoryIndex

theorem Run.bind_result {α β : Type} {x : Run α} {f : α → Run β} {b : β} :
    (x >>= f).result = .ok b ↔ ∃ a, x.result = .ok a ∧ (f a).result = .ok b := by
  show (Run.bind x f).result = .ok b ↔ _
  unfold Run.bind
  cases x.result with
  | error e =>
    constructor
    · intro h
      cases h
    · rintro ⟨a, h, -⟩
      cases h
  | ok a =>
    constructor
    · intro h
      exact ⟨a, rfl, h⟩
    · rintro ⟨a', h, hf⟩
      cases h
      exact hf

theorem Run.mem_calls_bind {α β : Type} {x : Run α} {f : α → Run β} {c : Call} :
    c ∈ (x >>= f).calls ↔ c ∈ x.calls ∨ ∃ a, x.result = .ok a ∧ c ∈ (f a).calls := by
  show c ∈ (Run.bind x f).calls ↔ _
  unfold Run.bind
  cases x.result with
  | error e => simp
  | ok a => simp

/-- What follows a step matters only for the result of the step. -/
theorem Run.bind_congr {α β : Type} {x : Run α} {f g : α → Run β}
    (h : ∀ a, x.result = .ok a → f a = g a) : (x >>= f) = (x >>= g) := by
  show Run.bind x f = Run.bind x g
  unfold Run.bind
  cases hx : x.result with
  | error e => rfl
  | ok a =>
    dsimp only
    rw [h a hx]

namespace SearchService

variable {s : SearchService} {o : SearchOptions} {r : Relation} {status : HybridStatus}

/-- The natural order of the results of a request. -/
def keyOrder (s : SearchService) (o : SearchOptions) : KeyOrder :=
  .ofSort s.settings.paging.tieBreakerField o.sortClause

/-- A step of a request's relation: the document built, and the page and position asked for. -/
theorem textRelation_eq_ok {t : DocType} : s.textRelation o = .ok (r, t) ↔
    ∃ d after before, o.build s.compileSettings = .ok d ∧ o.docType = some t ∧
      positionOf .forward o.paging.after = .ok after ∧ positionOf .backward o.paging.before = .ok before ∧
      r = { index := s.settings.cluster.index, document := d
            tieBreakerField := s.settings.paging.tieBreakerField, page := pageOf o s.compileSettings
            position := before.orElse fun _ => after } := by
  unfold textRelation applyPaging
  constructor
  · intro h
    obtain ⟨d, hd, h⟩ := bind_eq_ok.1 h
    obtain ⟨t', ht, h⟩ := bind_eq_ok.1 h
    obtain ⟨r', hr, h⟩ := bind_eq_ok.1 h
    obtain ⟨after, hafter, hr⟩ := bind_eq_ok.1 hr
    obtain ⟨before, hbefore, hr⟩ := bind_eq_ok.1 hr
    cases hr
    cases h
    exact ⟨d, after, before, mapError_eq_ok.1 hd, SearchOptions.docType?_eq_ok.1 (mapError_eq_ok.1 ht),
      hafter, hbefore, rfl⟩
  · rintro ⟨d, after, before, hd, ht, hafter, hbefore, rfl⟩
    rw [mapError_eq_ok.2 hd, ok_bind, mapError_eq_ok.2 (SearchOptions.docType?_eq_ok.2 ht), ok_bind,
      hafter, hbefore]
    rfl

theorem relation_eq_ok : (s.relation o).result = .ok (r, status) ↔
    ∃ r₀ t, s.textRelation o = .ok (r₀, t) ∧
      ∃ v, (s.resolveHybrid o t).result = .ok (v, status) ∧ r = { r₀ with vector := v } := by
  unfold relation
  rw [Run.bind_result]
  constructor
  · rintro ⟨⟨r₀, t⟩, h, hr⟩
    obtain ⟨⟨v, status'⟩, hv, hr⟩ := Run.bind_result.1 hr
    cases hr
    exact ⟨r₀, t, h, v, hv, rfl⟩
  · rintro ⟨r₀, t, h, v, hv, rfl⟩
    exact ⟨(r₀, t), h, Run.bind_result.2 ⟨(v, status), hv, rfl⟩⟩

/-- A request that is denied finds nothing. -/
theorem found_matchNone (m : MemoryIndex) : m.found QueryDocument.matchNone.queryClause = [] := by
  apply List.eq_nil_iff_forall_not_mem.2
  intro e he
  exact QueryDocument.not_accepts_matchNone (mem_found.1 he).2

/-- The document of a request's relation is the one built for the request. -/
theorem relation_document (h : (s.relation o).result = .ok (r, status)) :
    o.build s.compileSettings = .ok r.document := by
  obtain ⟨r₀, t, h₀, v, -, rfl⟩ := relation_eq_ok.1 h
  obtain ⟨d, after, before, hd, -, -, -, rfl⟩ := textRelation_eq_ok.1 h₀
  exact hd

/-- A request's relation searches in the natural order of the request, unless it finds nothing at all
because the request is denied. -/
theorem relation_browses (h : (s.relation o).result = .ok (r, status)) :
    r.Browses (s.keyOrder o) ∨
      (r.document = .matchNone ∧ r.Browses (.ofSort s.settings.paging.tieBreakerField none)) := by
  obtain ⟨r₀, t, h₀, v, -, rfl⟩ := relation_eq_ok.1 h
  obtain ⟨d, after, before, hd, -, -, -, rfl⟩ := textRelation_eq_ok.1 h₀
  have hplain : d.Plain := SearchOptions.build_plain hd
  rcases SearchOptions.build_sort hd with hsort | rfl
  · have hmissing : ∀ c ∈ o.sortClause, c.missing = none := fun c => SearchOptions.sortClause_missing
    exact .inl ⟨hplain, Pagination.follows_ofDocument hsort hmissing, rfl⟩
  · exact .inr ⟨rfl, hplain, ⟨rfl, rfl⟩, rfl⟩

/-- A request's relation can be paged, in the order of the request or in that of the tie-breaker. -/
theorem exists_browses (h : (s.relation o).result = .ok (r, status)) : ∃ k, r.Browses k := by
  rcases relation_browses h with hbrowses | ⟨-, hbrowses⟩
  · exact ⟨_, hbrowses⟩
  · exact ⟨_, hbrowses⟩

/-- The pages of a request's relation are windows of its natural order. -/
theorem relation_windows (h : (s.relation o).result = .ok (r, status)) : r.Windows (s.keyOrder o) := by
  rcases relation_browses h with hbrowses | ⟨hdenied, hbrowses⟩
  · exact hbrowses.windows
  · -- a denied request finds nothing, so the order in which it finds it does not matter
    apply hbrowses.windows_of_empty
    intro m
    rw [hdenied]
    exact found_matchNone m

/-- Without paging fields a relation starts unpaged and without a position. -/
theorem relation_unpaged (h : (s.relation o).result = .ok (r, status)) (hp : o.paging.usesKeyset = false) :
    r.page = .unpaged ∧ r.position = none := by
  obtain ⟨r₀, t, h₀, v, -, rfl⟩ := relation_eq_ok.1 h
  obtain ⟨d, after, before, -, -, hafter, hbefore, rfl⟩ := textRelation_eq_ok.1 h₀
  unfold PageRequest.usesKeyset at hp
  simp only [Bool.or_eq_false_iff, Option.isSome_eq_false_iff, Option.isNone_iff_eq_none] at hp
  obtain ⟨⟨⟨hfirst, hlast⟩, hb⟩, ha⟩ := hp
  rw [ha] at hafter
  rw [hb] at hbefore
  cases hafter
  cases hbefore
  refine ⟨?_, rfl⟩
  unfold pageOf
  dsimp only
  rw [hfirst, hlast, ha, hb]
  rfl

/-- Every page of a request's relation is the right window of one fixed order: the first or the last
records of it, of what follows a record, or of what comes before it. A record carries the cursor of
its position from whichever page it comes. -/
theorem pages_are_windows (h : (s.relation o).result = .ok (r, status))
    (hp : o.paging.usesKeyset = false) (m : MemoryIndex)
    (ho : (s.keyOrder o).Orderly (m.found r.document.queryClause)) :
    ∃ L : List (String × Json), L.Perm (m.found r.document.queryClause) ∧
      L.Pairwise (s.keyOrder o).Precedes ∧
      (∀ n : UInt32,
        ((r.first n).records (.ofIndex m)).result =
          .ok ((L.take n.toNat).map (s.keyOrder o).record) ∧
        ((r.last n).records (.ofIndex m)).result =
          .ok ((L.drop (L.length - n.toNat)).map (s.keyOrder o).record) ∧
        ∀ before d after c, L = before ++ d :: after → ((s.keyOrder o).record d).cursor = some c →
          (((r.first n).after c).records (.ofIndex m)).result =
            .ok ((after.take n.toNat).map (s.keyOrder o).record) ∧
          (((r.last n).after c).records (.ofIndex m)).result =
            .ok ((after.drop (after.length - n.toNat)).map (s.keyOrder o).record) ∧
          (((r.first n).before c).records (.ofIndex m)).result =
            .ok ((before.take n.toNat).map (s.keyOrder o).record) ∧
          (((r.last n).before c).records (.ofIndex m)).result =
            .ok ((before.drop (before.length - n.toNat)).map (s.keyOrder o).record)) ∧
      ∀ d ∈ L, ∃ c, ((s.keyOrder o).record d).cursor = some c ∧ (c.sortValue = none ↔
        (s.keyOrder o).primary ≠ (s.keyOrder o).tieBreaker ∧
          fieldValue d.2 (s.keyOrder o).primary = none) := by
  obtain ⟨-, hposition⟩ := relation_unpaged h hp
  have hwindows := relation_windows h
  generalize s.keyOrder o = k at *
  obtain ⟨p, t, hm⟩ := ho.exists_placed
  obtain ⟨L, hperm, hL⟩ := hm.exists_order
  have hpage := fun dir n position => hwindows m p t L hm hperm hL dir n position
  have hnone : ∀ dir n, r.turnTo dir n none = { r with page := dir.page n } := by
    intro dir n
    unfold Relation.turnTo
    rw [← hposition]
  refine ⟨L, hperm, hL, fun n => ⟨?_, ?_, ?_⟩, ?_⟩
  · have hfirst := hpage .forward n none fun _ _ hc => by cases hc
    rw [hnone, KeyOrder.filter_isBeyond_none] at hfirst
    exact hfirst
  · have hlast := hpage .backward n none fun _ _ hc => by cases hc
    rw [hnone, KeyOrder.filter_isBeyond_none] at hlast
    exact hlast
  · rintro before d after c rfl hc
    cases hc
    obtain ⟨hforward, hbackward⟩ := KeyOrder.filter_isBeyond_split hm hperm hL
    have hfits : k.Fits p t (k.position d.2) :=
      hm.fits d (hperm.mem_iff.1 (List.mem_append_right _ List.mem_cons_self))
    have hat := fun dir side => hpage dir n (some (side, k.position d.2)) fun _ _ hc => by cases hc; exact hfits
    refine ⟨?_, ?_, ?_, ?_⟩
    · have hrecords := hat .forward .forward
      rw [hforward] at hrecords
      exact hrecords
    · have hrecords := hat .backward .forward
      rw [hforward] at hrecords
      exact hrecords
    · have hrecords := hat .forward .backward
      rw [hbackward] at hrecords
      exact hrecords
    · have hrecords := hat .backward .backward
      rw [hbackward] at hrecords
      exact hrecords
  · intro d hd
    refine ⟨_, rfl, ?_⟩
    constructor
    · intro hmissing
      refine ⟨?_, hmissing⟩
      intro hk
      have hsingle := (hm.fits d (hperm.mem_iff.1 hd)).single hk
      rw [hmissing] at hsingle
      cases hsingle
    · exact And.right

/-- Settings of a deployment. -/
def exampleSettings : Settings :=
  { service := ⟨"info"⟩
    cluster := ⟨"http://localhost:9200", "docs", "opensearch", 1000, none⟩
    embedding :=
      ⟨"openai", "http://localhost:8080", "secret", "/v1/embeddings", "small", 2, 1000, []⟩ }

/-- An anonymous search for issues everywhere, the oldest first. -/
def oldestIssues : SearchOptions :=
  { docType := some .issue, searchLevel := some .global, sort := some "created_asc" }

/-- A public issue by its id and its date of creation. -/
def issue (e : String × Option String) : String × Json :=
  (e.1, .obj [("created_at", .ofOption (e.2.map .str)), ("id", .str e.1), ("type", .str "issue"),
    ("visibility_level", .ofUInt32 20), ("confidential", .bool false)])

/-- Three issues, one of them without a date. -/
def threeIssues : MemoryIndex :=
  ⟨[("a", some "2024-02-01"), ("b", none), ("c", some "2024-01-01")].map issue⟩

def exampleService : SearchService := ⟨exampleSettings, .ofIndex threeIssues, fun _ _ => .ok []⟩

def oldestIssuesRelation : Relation :=
  { index := "docs"
    document := (oldestIssues.build exampleService.compileSettings).toOption.getD .empty
    tieBreakerField := "id" }

theorem oneKind_issues (es : List (String × Option String)) :
    (exampleService.keyOrder oldestIssues).OneKind .text .text (es.map issue) := by
  constructor
  · intro d hd v hv
    obtain ⟨⟨id, created⟩, -, rfl⟩ := List.mem_map.1 hd
    cases created <;> cases hv
    rfl
  · intro d hd v hv
    obtain ⟨e, -, rfl⟩ := List.mem_map.1 hd
    cases hv
    rfl

theorem orderly_issues {es : List (String × Option String)} (h : (es.map issue).Pairwise fun a b =>
      compareValues (.str a.1) (.str b.1) ≠ .eq) :
    (exampleService.keyOrder oldestIssues).Orderly (es.map issue) := by
  constructor
  · intro d hd
    obtain ⟨e, -, rfl⟩ := List.mem_map.1 hd
    exact ⟨.str e.1, rfl, rfl⟩
  · rw [List.pairwise_map] at h ⊢
    exact h
  · intro _
    refine ⟨.text, ?_⟩
    intro d hd v hv
    refine ⟨(oneKind_issues es).primary d hd v hv, ?_⟩
    obtain ⟨⟨id, created⟩, -, rfl⟩ := List.mem_map.1 hd
    cases created <;> cases hv
    rintro (h | h) <;> cases h

theorem pages_are_windows_oldestIssues :
    (exampleService.relation oldestIssues).result = .ok (oldestIssuesRelation, .disabled) ∧
      oldestIssues.paging.usesKeyset = false ∧
      (exampleService.keyOrder oldestIssues).Orderly
        (threeIssues.found oldestIssuesRelation.document.queryClause) ∧
      ∃ L : List (String × Json),
        L.Perm (threeIssues.found oldestIssuesRelation.document.queryClause) ∧
        ((oldestIssuesRelation.last 2).records (.ofIndex threeIssues)).result =
          .ok ((L.drop (L.length - 2)).map (exampleService.keyOrder oldestIssues).record) := by
  have hrelation : (exampleService.relation oldestIssues).result =
      .ok (oldestIssuesRelation, .disabled) := rfl
  have hall : (exampleService.keyOrder oldestIssues).Orderly threeIssues.documents :=
    orderly_issues (by decide)
  have horderly := hall.of_sublist
    (threeIssues.found_sublist oldestIssuesRelation.document.queryClause)
  obtain ⟨L, hperm, -, hpages, -⟩ := pages_are_windows hrelation rfl threeIssues horderly
  exact ⟨hrelation, rfl, horderly, L, hperm, (hpages 2).2.1⟩

end SearchService

end TenantSearch
