/-
A request that may not read across projects fails closed. Whatever else it asks for, it is built as the
document that matches nothing, no vector is asked for, and it finds nothing on any page and behind any
position. All that can still go wrong is a token that does not read back.
-/
import TenantSearch.Proofs.Search.Requests

namespace TenantSearch

open Index MemoryIndex

/-- A valid search above projects, for documents that have rules of access, by a user who may not read
across projects. -/
structure SearchOptions.Denied (o : SearchOptions) : Prop where
  valid : o.validate = .ok ()
  docType : ∃ t, o.docType = some t ∧ t.isScoped = true
  level : o.searchLevel = some .group ∨ o.searchLevel = some .global
  user : ∃ u, o.currentUser = some u ∧ u.canReadCrossProject = false

namespace SearchOptions.Denied

variable {o : SearchOptions}

theorem crossProject (h : o.Denied) : Access.crossProjectDenied o = .ok true := by
  obtain ⟨u, hu, hcross⟩ := h.user
  rcases h.level with hl | hl <;>
  · rw [Access.crossProjectDenied_eq hl, hu, Option.any_some, hcross]
    rfl

theorem build (h : o.Denied) (cs : CompileSettings) : o.build cs = .ok .matchNone := by
  obtain ⟨t, ht, hs⟩ := h.docType
  exact build_eq_ok.2 ⟨h.valid, t, ht, .inl ⟨hs, h.crossProject, rfl⟩⟩

end SearchOptions.Denied

namespace SearchService

variable {s : SearchService} {o : SearchOptions} {d : QueryDocument} {m : MemoryIndex} {provider : Provider}

/-- A token of the request does not read back, with a fault. -/
def TokenFault (o : SearchOptions) (c : CursorError) : Prop :=
  ∃ token, (o.paging.after = some token ∨ o.paging.before = some token) ∧ Cursor.decode token = .error c

/-- Every token of the request reads back. -/
def TokensRead (o : SearchOptions) : Prop :=
  ∀ token, o.paging.after = some token ∨ o.paging.before = some token →
    ∃ c, Cursor.decode token = .ok c

theorem positionOf_cases (dir : PageDirection) (token : Option String) :
    (∃ t c, token = some t ∧ Cursor.decode t = .error c ∧ positionOf dir token = .error (.cursor c)) ∨
      ((∀ t, token = some t → ∃ c, Cursor.decode t = .ok c) ∧ ∃ p, positionOf dir token = .ok p) := by
  cases token with
  | none => exact .inr ⟨fun t h => (by cases h), none, rfl⟩
  | some t =>
    unfold positionOf
    dsimp only
    cases hd : Cursor.decode t with
    | error c => exact .inl ⟨t, c, rfl, hd, rfl⟩
    | ok c => exact .inr ⟨fun t' h => (by cases h; exact ⟨c, hd⟩), _, rfl⟩

/-- A request that can be built leads to the fault of a token that does not read back, or to a relation
for its document. -/
theorem textRelation_cases {t : DocType} (hb : o.build s.compileSettings = .ok d)
    (ht : o.docType = some t) :
    (∃ c, TokenFault o c ∧ s.textRelation o = .error (.cursor c)) ∨
      (TokensRead o ∧ ∃ r, s.textRelation o = .ok (r, t) ∧ r.document = d ∧ r.loader = none) := by
  rw [textRelation_of_build hb ht]
  rcases positionOf_cases .forward o.paging.after with ⟨a, c, ha, hd, hp⟩ | ⟨ha, after, hp⟩
  · rw [hp]
    exact .inl ⟨c, ⟨a, .inl ha, hd⟩, rfl⟩
  rcases positionOf_cases .backward o.paging.before with ⟨b, c, hb, hd, hp'⟩ | ⟨hb, before, hp'⟩
  · rw [hp, ok_bind, hp']
    exact .inl ⟨c, ⟨b, .inr hb, hd⟩, rfl⟩
  · rw [hp, ok_bind, hp', ok_bind]
    exact .inr ⟨fun token htoken => htoken.elim (ha token) (hb token), _, rfl, rfl, rfl⟩

/-- What goes wrong before the vector part goes wrong without a call. -/
theorem relation_of_error {e : SearchError} (h : s.textRelation o = .error e) :
    s.relation o = Run.ofExcept (.error e) := by
  unfold relation
  rw [h]
  rfl

theorem vectorPlan_denied {t : DocType} (h : o.Denied) (hs : t.isScoped = true) :
    vectorPlan s.settings o t = .ok none := by
  unfold vectorPlan
  rw [if_pos hs, h.crossProject]
  rfl

/-- The relation of a denied request, found without a call: the fault of a token, or one that matches
nothing and has no vector part. -/
theorem relation_denied (h : o.Denied) :
    (∃ c, TokenFault o c ∧ s.relation o = Run.ofExcept (.error (.cursor c))) ∨
      (TokensRead o ∧ ∃ r, s.relation o = Run.ofExcept (.ok (r, .disabled)) ∧ r.document = .matchNone ∧
        r.vector = none ∧ r.loader = none) := by
  obtain ⟨t, ht, hs⟩ := h.docType
  have hhybrid : s.resolveHybrid o t = Run.ofExcept (.ok (none, .disabled)) := by
    unfold resolveHybrid
    rw [vectorPlan_denied h hs]
    rfl
  rcases textRelation_cases (h.build s.compileSettings) ht with
    ⟨c, hc, htext⟩ | ⟨htokens, r, htext, hd, hl⟩
  · exact .inl ⟨c, hc, relation_of_error htext⟩
  · refine .inr ⟨htokens, { r with vector := none }, ?_, hd, rfl, hl⟩
    unfold relation
    rw [htext]
    show (s.resolveHybrid o t >>= fun _ => _) = _
    rw [hhybrid]
    rfl

/-- A search asks the provider for nothing that its relation does not ask for. -/
theorem embed_of_search {texts : List String} (h : .embed texts ∈ (s.search o).calls) :
    .embed texts ∈ (s.relation o).calls := by
  obtain h | ⟨⟨r, status⟩, -, h⟩ := Run.mem_calls_bind.1 h
  · exact h
  obtain h | ⟨total, -, h⟩ := Run.mem_calls_bind.1 h
  · cases List.mem_singleton.1 h
  dsimp only at h
  split at h
  · exact absurd h List.not_mem_nil
  · obtain h | ⟨records, -, h⟩ := Run.mem_calls_bind.1 h
    · cases List.mem_singleton.1 h
    · exact absurd h List.not_mem_nil

/-- A relation that matches nothing and has no vector part stays without one, and without results, on
every page and behind every position. -/
theorem nothing_found {r : Relation} (hd : r.document = .matchNone) (hv : r.vector = none)
    (hl : r.loader = none) (m : MemoryIndex) : r.compiled.knn = none ∧ r.compiled.query.should = [] ∧
      (r.totalCount (.ofIndex m)).result = .ok 0 ∧ (r.records (.ofIndex m)).result = .ok [] := by
  have hbrowses : r.Browses (.ofSort r.tieBreakerField none) := by
    refine ⟨hd ▸ .matchNone, ?_, hl⟩
    rw [hd]
    exact ⟨rfl, rfl⟩
  have hcompiled : r.compiled = r.paged := by
    unfold Relation.compiled
    rw [hv]
  have hnone : m.found r.document.queryClause = [] := by
    rw [hd]
    exact found_matchNone m
  have htotal := Relation.totalCount_eq hbrowses.plain.decided m
  rw [hnone] at htotal
  exact ⟨hcompiled ▸ hbrowses.plain_paged.knn, hcompiled ▸ hbrowses.plain_paged.should, htotal,
    hbrowses.records_of_empty hnone⟩

/-- A denied request fails closed. It is built as the document that matches nothing under all settings
and never has a vector made. Unless a token does not read back, its outcome is empty; and whatever page
and position its relation is turned to, there is no vector part and nothing is found. -/
theorem denied_failsClosed (h : o.Denied) (s : SearchService) (m : MemoryIndex) (provider : Provider) :
    (∀ cs, o.build cs = .ok .matchNone) ∧
    (∀ texts, Call.embed texts ∉ ((s.onIndex m provider).search o).calls) ∧
    ((∃ c, TokenFault o c ∧ ((s.onIndex m provider).search o).result = .error (.cursor c)) ∨
      (TokensRead o ∧ ((s.onIndex m provider).search o).result = .ok ⟨[], 0, .disabled⟩)) ∧
    ∀ r status, ((s.onIndex m provider).relation o).result = .ok (r, status) → status = .disabled ∧
      ∀ page position, ({ r with page := page, position := position } : Relation).compiled.knn = none ∧
        ({ r with page := page, position := position } : Relation).compiled.query.should = [] ∧
        (({ r with page := page, position := position } : Relation).records (.ofIndex m)).result =
          .ok [] := by
  refine ⟨h.build, ?_, ?_, ?_⟩
  · intro texts hcall
    rcases relation_denied (s := s.onIndex m provider) h with ⟨c, -, hr⟩ | ⟨-, r, hr, -⟩
    · have hcall := embed_of_search hcall
      rw [hr] at hcall
      cases hcall
    · have hcall := embed_of_search hcall
      rw [hr] at hcall
      cases hcall
  · rcases relation_denied (s := s.onIndex m provider) h with ⟨c, hc, hr⟩ | ⟨htokens, r, hr, hd, hv, hl⟩
    · refine .inl ⟨c, hc, ?_⟩
      unfold search
      rw [hr]
      rfl
    · obtain ⟨-, -, htotal, hrecords⟩ := nothing_found hd hv hl m
      have hrelation : ((s.onIndex m provider).relation o).result = .ok (r, .disabled) := by
        rw [hr]
        rfl
      by_cases hcount : o.countOnly = true
      · refine .inr ⟨htokens, Run.bind_result.2 ⟨_, hrelation, Run.bind_result.2 ⟨0, htotal, ?_⟩⟩⟩
        dsimp only
        rw [if_pos hcount]
        rfl
      · rw [Bool.not_eq_true] at hcount
        exact .inr ⟨htokens, search_ok hrelation hcount htotal hrecords⟩
  · intro r status hrelation
    rcases relation_denied (s := s.onIndex m provider) h with ⟨c, -, hr⟩ | ⟨-, r', hr, hd, hv, hl⟩
    · rw [hr] at hrelation
      cases hrelation
    · rw [hr] at hrelation
      cases hrelation
      refine ⟨rfl, fun page position => ?_⟩
      obtain ⟨hknn, hshould, -, hrecords⟩ :=
        nothing_found (r := { r with page := page, position := position }) hd hv hl m
      exact ⟨hknn, hshould, hrecords⟩

/-- A search in groups that names none, which is a fault of anybody who may search there. -/
def deniedSearch : SearchOptions :=
  { currentUser := some { id := 7, canReadCrossProject := false }, searchLevel := some .group
    docType := some .issue, query := "printer on fire", flags := { hybrid := true } }

theorem denied_failsClosed_threeIssues : deniedSearch.Denied ∧
    ((exampleService.onIndex threeIssues fun _ _ => .ok []).search deniedSearch).result =
      .ok ⟨[], 0, .disabled⟩ := by
  have hdenied : deniedSearch.Denied := ⟨rfl, ⟨_, rfl, rfl⟩, .inl rfl, _, rfl, rfl⟩
  refine ⟨hdenied, ?_⟩
  rcases (denied_failsClosed hdenied exampleService threeIssues fun _ _ => .ok []).2.2.1 with
    ⟨c, ⟨token, htoken, -⟩, -⟩ | ⟨-, hresult⟩
  · rcases htoken with h | h <;> cases h
  · exact hresult

end SearchService

end TenantSearch
