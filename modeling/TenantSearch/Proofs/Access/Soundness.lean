/-
Every source that a compiled search finds is readable by the acting user. The conditions of access
are among the filters of the document built, a page and a position add one more filter, and either
shape of the vector part keeps all filters: the one repeats them in a section of its own, the other
moves nothing but the scored text.

Found means found by the index, which compares ids as doubles. So what is found is readable as far as
the index sees it, and readable by the ids themselves where it tells those of the request apart. An id
beyond 2 ^ 53 finds what belongs to its neighbour.
-/
import TenantSearch.Proofs.Access.Exact
import TenantSearch.Proofs.Access.Rules
import TenantSearch.Proofs.Search.Compiled

namespace TenantSearch

open Index

/-- A search finds a source: its query accepts it, or the filter of its section of nearest neighbours. -/
def Relation.Finds (r : Relation) (id : String) (source : Json) : Prop :=
  Accepts id source r.compiled.queryClause ∨
    ∃ k f, r.compiled.knn = some k ∧ k.get? "filter" = some f ∧ Accepts id source f

namespace Access

variable {o : SearchOptions} {s : CompileSettings} {t : DocType} {d e : QueryDocument}
variable {id : String} {source : Json}

/-- The filters of a document hold of a source, and what it excludes does not. -/
structure Passes (d : QueryDocument) (id : String) (source : Json) : Prop where
  filter : ∀ c ∈ d.query.filter, Accepts id source c
  mustNot : ∀ c ∈ d.query.mustNot, outcome id source c = .ok false

theorem Passes.of_narrows (hn : d.Narrows e) (h : Passes e id source) : Passes d id source :=
  ⟨fun c hc => h.filter c (hn.keeps.filter.subset hc), fun c hc => h.mustNot c (hn.keeps.mustNot.subset hc)⟩

theorem Passes.added {c : Clause} (h : Passes (d.filter c) id source) : Accepts id source c :=
  h.filter c (List.mem_append_right _ (List.mem_singleton_self c))

/-- What passes a rule on top of a document passes the rule alone, which scores nothing. -/
theorem Passes.accepts {f : QueryDocument → QueryDocument} (hf : QueryDocument.Adds f)
    (hmust : (f .empty).query.must = []) (h : Passes (f e) id source) :
    Accepts id source (f .empty).queryClause := by
  refine (hf.plain .empty).accepts_iff.2 ⟨?_, ?_, ?_⟩
  · rw [hmust]
    exact List.forall_mem_nil _
  · exact fun c hc => h.filter c (hf.filter_subset e hc)
  · exact fun c hc => h.mustNot c (hf.mustNot_subset e hc)

/-! ## The rules one by one -/

theorem opened_of_passes (h : Passes (byMembership e o t) id source) (ha : o.isAdmin = false) :
    (∃ f ∈ o.features, Opened Carries o.currentUser t (some f) source) ∨
      (o.features = [] ∧ Opened Carries o.currentUser t none source) := by
  have hmust : (byMembership .empty o t).query.must = [] := by
    unfold byMembership
    split <;> rfl
  have hacc := h.accepts (f := fun d => byMembership d o t) (adds_byMembership .nothing o t) hmust
  rcases exists_featureChoices.1 (accepts_byMembership.1 hacc ha) with ⟨f, hf, hadmits⟩ | ⟨hnone, hadmits⟩
  · exact .inl ⟨f, hf, hadmits.opened⟩
  · exact .inr ⟨hnone, hadmits.opened⟩

theorem notArchived_of_passes (h : Passes (Facets.byArchived e o) id source) :
    o.includeArchived = false →
      Carries source "archived" (.bool false) ∨ fieldValue source "archived" = none := by
  have hmust : (Facets.byArchived .empty o).query.must = [] := by
    unfold Facets.byArchived
    split <;> rfl
  exact accepts_byArchived.1
    (h.accepts (f := fun d => Facets.byArchived d o) (Facets.adds_byArchived .nothing o) hmust)

theorem confidential_of_passes (h : Passes (byConfidentiality e o t) id source) :
    t.hasConfidentiality = true → Carries source "confidential" (.bool false) ∨
      ∃ u, o.currentUser = some u ∧ (u.canReadAllResources = true ∨ u.canReadAllConfidential = true ∨
        (Carries source "confidential" (.bool true) ∧ Reader Carries u t source)) := by
  have hmust : (byConfidentiality .empty o t).query.must = [] := by
    unfold byConfidentiality
    split
    · rfl
    cases o.currentUser with
    | none => rfl
    | some u => dsimp only; split <;> rfl
  exact accepts_byConfidentiality.1
    (h.accepts (f := fun d => byConfidentiality d o t) (adds_byConfidentiality .nothing o t) hmust)

theorem notHidden_of_passes (h : Passes (byNotHidden e o t) id source) :
    t.hasHidden = true → o.isAdmin = false → ¬ Carries source "hidden" (.bool true) := by
  have hmust : (byNotHidden .empty o t).query.must = [] := by
    unfold byNotHidden
    split <;> rfl
  exact accepts_byNotHidden.1
    (h.accepts (f := fun d => byNotHidden d o t) (adds_byNotHidden .nothing o t) hmust)

/-! ## The document built -/

/-- A source that passes the filters of the query part of a scoped type is readable. -/
theorem readable_of_matching (hm : o.matching s t = .ok d) (ht : t.isScoped = true)
    (hskip : o.skipTypeFilter = false) (h : Passes d id source) : Readable Carries o t source := by
  obtain ⟨e₁, e₂, -, happly, hfacets⟩ := SearchOptions.matching_cases hm
  have h₂ : Passes e₂ id source := h.of_narrows hfacets
  have htype : Passes (Facets.byType e₁ o t) id source :=
    h₂.of_narrows ((addsOrFails_apply o t).narrows happly)
  unfold Facets.byType at htype
  rw [hskip] at htype
  rcases apply_cases happly with ⟨hno, -⟩ | ⟨-, -, rfl⟩ | ⟨-, hok, level, e₃, hl, hlevel, rfl⟩
  · rw [ht] at hno; cases hno
  · have hnone : outcome id source Clause.matchNone = .ok true := h₂.added
    rw [outcome_matchNone] at hnone; cases hnone
  -- from the last rule back to the first, each document narrows the one before it
  have hconf := h₂.of_narrows ((adds_byNotHidden .nothing o t).narrows _)
  have harch := hconf.of_narrows ((adds_byConfidentiality .nothing o t).narrows _)
  have hmem : Passes (byMembership e₃ o t) id source := by
    split at harch
    · exact harch.of_narrows ((Facets.adds_byArchived .nothing o).narrows _)
    · exact harch
  have hscope := hmem.of_narrows ((adds_byMembership .nothing o t).narrows _)
  refine ⟨hok, carries_str.1 (accepts_term_iff.1 htype.added),
    inScope_of_clause hlevel hscope.filter, opened_of_passes hmem, fun hp ha hi => ?_,
    confidential_of_passes hconf, notHidden_of_passes h₂⟩
  -- archived documents are left out of searches above projects only
  have hne : level ≠ .project := fun he => hp (he ▸ hl)
  simp only [hne, ne_eq, not_false_eq_true, decide_true, ha, Bool.and_self, if_true] at harch
  exact notArchived_of_passes harch hi

theorem readable_of_build (hb : o.build s = .ok d) (ht : o.docType = some t) (hs : t.isScoped = true)
    (hskip : o.skipTypeFilter = false) (h : Passes d id source) : Readable Carries o t source := by
  obtain ⟨t', ht', ⟨-, -, rfl⟩ | ⟨e, hm, rfl⟩⟩ := SearchOptions.build_cases hb
  · have hnone : outcome id source Clause.matchNone = .ok true := h.added
    rw [outcome_matchNone] at hnone; cases hnone
  · obtain rfl : t = t' := Option.some.inj (ht.symm.trans ht')
    have hq := SearchOptions.present_query (o := o) (s := s) (t := t) e
    exact readable_of_matching hm hs hskip ⟨hq ▸ h.filter, hq ▸ h.mustNot⟩

/-! ## Pages, positions and vectors -/

theorem passes_of_paged {r : Relation} (hf : ∀ c ∈ r.paged.query.filter, Accepts id source c)
    (hn : ∀ c ∈ r.paged.query.mustNot, outcome id source c = .ok false) :
    Passes r.document id source :=
  ⟨fun c hc => hf c (r.paged_filter_subset hc), fun c hc => hn c (r.paged_mustNot ▸ hc)⟩

theorem passes_of_finds {r : Relation} (hb : o.build s = .ok r.document) (hfound : r.Finds id source) :
    Passes r.document id source := by
  rcases hfound with h | ⟨k, f, hk, hf, h⟩
  · obtain ⟨-, hfilter, hnot⟩ := h.parts
    rw [r.compiled_filter] at hfilter
    rw [r.compiled_mustNot] at hnot
    exact passes_of_paged hfilter hnot
  · rw [Relation.compiled_knn_filter (SearchOptions.build_plain hb).knn hk hf] at h
    obtain ⟨-, hfilter, hnot⟩ := h.parts
    exact passes_of_paged hfilter hnot

/-- Whatever the page, the position and the vector part of a search for documents of a scoped type,
a source that it finds is readable by the acting user: to the index, and by what its fields hold where
the ids that the request names are told apart. -/
theorem compiled_readable {r : Relation} (hb : o.build s = .ok r.document) (ht : o.docType = some t)
    (hs : t.isScoped = true) (hskip : o.skipTypeFilter = false) (hfound : r.Finds id source) :
    Readable Carries o t source ∧
      ((∀ i, o.Names i → KeptApart source i) → Readable Holds o t source) := by
  have hreadable := readable_of_build hb ht hs hskip (passes_of_finds hb hfound)
  exact ⟨hreadable, fun ho => hreadable.exact ho⟩

/-- A search for the issues of a project by a reporter of it. -/
def teamSearch : SearchOptions :=
  { docType := some .issue, searchLevel := some .project, projectIds := [7], features := [.issues]
    currentUser := some { id := 5, projects := [⟨7, .reporter⟩] } }

/-- The first two issues of that search behind a position, with a vector beside its text. -/
def teamPage : Relation :=
  { index := "docs", document := (teamSearch.build {}).toOption.getD .empty
    tieBreakerField := "id", page := .first 2
    position := some (.forward, ⟨some (.int ⟨7, by decide⟩), .int ⟨7, by decide⟩⟩)
    vector := some ⟨.opensearch, "embedding", [], 1, 1, .finite default, .finite default⟩ }

/-- A confidential issue of somebody else, in a project that only its members see. -/
def teamIssue : Json :=
  .obj [("author_id", .ofUInt64 9), ("confidential", .bool true), ("id", .ofUInt64 3),
    ("issues_access_level", .ofUInt64 10), ("project_id", .ofUInt64 7), ("type", .str "issue"),
    ("visibility_level", .ofUInt64 0)]

theorem compiled_readable_teamIssue : teamSearch.build {} = .ok teamPage.document ∧
    teamPage.Finds "3" teamIssue ∧ (∀ i, teamSearch.Names i → i.toNat < 2 ^ 53) ∧
    Readable Holds teamSearch .issue teamIssue := by
  have hfound : teamPage.Finds "3" teamIssue := .inl (by decide +kernel)
  have hnames : ∀ i, teamSearch.Names i → i.toNat < 2 ^ 53 := by
    rintro i (⟨_, -, hi⟩ | ⟨u, _, hu, hi⟩)
    · obtain rfl := List.mem_singleton.1 hi
      decide
    · obtain rfl := Option.some.inj hu
      rcases hi with - | ⟨p, hp⟩ | ⟨g, hg⟩
      · decide
      · obtain rfl := List.mem_singleton.1 hp
        decide
      · cases hg
  refine ⟨rfl, hfound, hnames, ?_⟩
  exact (compiled_readable rfl rfl rfl rfl hfound).2 fun i hi => .inl (hnames i hi)

/-- An anonymous search for the issues of a project whose id has 54 bits. -/
def farSearch : SearchOptions :=
  { docType := some .issue, searchLevel := some .project, projectIds := [9007199254740992] }

def farPage : Relation :=
  { index := "docs", document := (farSearch.build {}).toOption.getD .empty, tieBreakerField := "id" }

/-- A public issue of the project with the next id. -/
def neighbourIssue : Json :=
  .obj [("confidential", .bool false), ("id", .ofUInt64 1), ("project_id", .ofUInt64 9007199254740993),
    ("type", .str "issue"), ("visibility_level", .ofUInt64 20)]

/-- The search for the one project finds the issue of the other. -/
theorem neighbourIssue_unreadable : farSearch.build {} = .ok farPage.document ∧
    farPage.Finds "1" neighbourIssue ∧ ¬ Readable Holds farSearch .issue neighbourIssue := by
  refine ⟨rfl, .inl (by decide +kernel), fun h => ?_⟩
  obtain ⟨i, hi, hc⟩ := h.scope
  obtain rfl := List.mem_singleton.1 hi
  obtain ⟨x, hx, hq⟩ := holds_id_iff.1 hc
  obtain rfl := List.mem_singleton.1 hx
  have hsame : ((9007199254740993 : ℕ) : ℚ) = (9007199254740992 : ℕ) := Option.some.inj hq
  norm_num at hsame

end Access

end TenantSearch
