/-
Compilation only narrows: from one step to the next a document keeps every condition it has and
gains further ones at the end of its lists, none of which faults (`Narrows`). Which ones a step adds
does not depend on the document it is given (`Adds`). Each step of the pipeline is such a step, so the
conditions of a step are among those of the document built, the query built evaluates on every
source, and it accepts a source exactly when every step does that starts from the empty document.
-/
import TenantSearch.Compile.Build
import TenantSearch.Proofs.Index.Clauses

namespace TenantSearch

open Index

/-- An expression has the clauses of another one, in place, at the front of its lists. Nothing is added to
`should`, which asks for what it asked for. -/
structure BoolExpr.Keeps (e d : BoolExpr) : Prop where
  must : d.must <+: e.must
  mustNot : d.mustNot <+: e.mustNot
  filter : d.filter <+: e.filter
  should : e.should = d.should
  minimum : e.minimumShouldMatch = d.minimumShouldMatch

theorem BoolExpr.Keeps.refl (e : BoolExpr) : e.Keeps e :=
  ⟨List.prefix_rfl, List.prefix_rfl, List.prefix_rfl, rfl, rfl⟩

/-- `e` is `d` with conditions added to it, all of which evaluate without a fault. -/
inductive QueryDocument.Narrows (d : QueryDocument) : QueryDocument → Prop where
  | refl : Narrows d d
  | must {e : QueryDocument} {c : Clause} : Narrows d e → Decided c → Narrows d (e.must c)
  | mustNot {e : QueryDocument} {c : Clause} : Narrows d e → Decided c → Narrows d (e.mustNot c)
  | filter {e : QueryDocument} {c : Clause} : Narrows d e → Decided c → Narrows d (e.filter c)
  | trackScores {e : QueryDocument} (b : Bool) : Narrows d e → Narrows d { e with trackScores := b }

namespace QueryDocument.Narrows

variable {d e e' : QueryDocument}

theorem trans (h : Narrows d e) (h' : Narrows e e') : Narrows d e' := by
  induction h' with
  | refl => exact h
  | must _ hc ih => exact ih.must hc
  | mustNot _ hc ih => exact ih.mustNot hc
  | filter _ hc ih => exact ih.filter hc
  | trackScores b _ ih => exact ih.trackScores b

/-! ## What a narrowing keeps -/

theorem keeps (h : Narrows d e) : e.query.Keeps d.query := by
  induction h with
  | refl => exact .refl _
  | must _ _ ih => exact { ih with must := ih.must.trans (List.prefix_append _ _) }
  | mustNot _ _ ih => exact { ih with mustNot := ih.mustNot.trans (List.prefix_append _ _) }
  | filter _ _ ih => exact { ih with filter := ih.filter.trans (List.prefix_append _ _) }
  | trackScores _ _ ih => exact ih

theorem sort_eq (h : Narrows d e) : e.sort = d.sort := by
  induction h with
  | refl => rfl
  | must _ _ ih | mustNot _ _ ih | filter _ _ ih | trackScores _ _ ih => exact ih

end QueryDocument.Narrows

/-- A document whose query is the conjunction of clauses without faults: nothing is left to
`should`, and there is no section of nearest neighbours. -/
structure QueryDocument.Plain (d : QueryDocument) : Prop where
  must : ∀ c ∈ d.query.must, Decided c
  mustNot : ∀ c ∈ d.query.mustNot, Decided c
  filter : ∀ c ∈ d.query.filter, Decided c
  should : d.query.should = []
  minimum : d.query.minimumShouldMatch = none
  knn : d.knn = none

namespace QueryDocument.Plain

variable {d e : QueryDocument}

theorem empty : QueryDocument.empty.Plain :=
  ⟨by simp [QueryDocument.empty], by simp [QueryDocument.empty], by simp [QueryDocument.empty],
    rfl, rfl, rfl⟩

theorem add_must (h : d.Plain) {c : Clause} (hc : Decided c) : (d.must c).Plain :=
  ⟨List.forall_mem_append.2 ⟨h.must, List.forall_mem_singleton.2 hc⟩, h.mustNot, h.filter, h.should,
    h.minimum, h.knn⟩

theorem add_mustNot (h : d.Plain) {c : Clause} (hc : Decided c) : (d.mustNot c).Plain :=
  ⟨h.must, List.forall_mem_append.2 ⟨h.mustNot, List.forall_mem_singleton.2 hc⟩, h.filter, h.should,
    h.minimum, h.knn⟩

theorem add_filter (h : d.Plain) {c : Clause} (hc : Decided c) : (d.filter c).Plain :=
  ⟨h.must, h.mustNot, List.forall_mem_append.2 ⟨h.filter, List.forall_mem_singleton.2 hc⟩, h.should,
    h.minimum, h.knn⟩

theorem matchNone : QueryDocument.matchNone.Plain := empty.add_filter decided_matchNone

theorem of_narrows (h : d.Plain) (hn : d.Narrows e) : e.Plain := by
  induction hn with
  | refl => exact h
  | must _ hc ih => exact ih.add_must hc
  | mustNot _ hc ih => exact ih.add_mustNot hc
  | filter _ hc ih => exact ih.add_filter hc
  | trackScores b _ ih => exact ⟨ih.must, ih.mustNot, ih.filter, ih.should, ih.minimum, ih.knn⟩

theorem decided (h : d.Plain) : Decided d.queryClause :=
  decided_clause h.must h.filter h.mustNot (by simp [h.should])

/-- A document with the query of a plain one is plain. -/
theorem of_query (h : d.Plain) (hq : e.query = d.query) (hk : e.knn = none) : e.Plain :=
  ⟨hq ▸ h.must, hq ▸ h.mustNot, hq ▸ h.filter, hq ▸ h.should, hq ▸ h.minimum, hk⟩

variable {id : String} {source : Json} {c : Clause}

theorem accepts_iff (h : d.Plain) : Accepts id source d.queryClause ↔
    (∀ c ∈ d.query.must, Accepts id source c) ∧ (∀ c ∈ d.query.filter, Accepts id source c) ∧
      ∀ c ∈ d.query.mustNot, outcome id source c = .ok false :=
  accepts_clause_iff h.should h.minimum

theorem accepts_empty : Accepts id source QueryDocument.empty.queryClause :=
  empty.accepts_iff.2 ⟨List.forall_mem_nil _, List.forall_mem_nil _, List.forall_mem_nil _⟩

/-- A scored clause narrows what is accepted by exactly itself. -/
theorem accepts_must (h : d.Plain) : Accepts id source (d.must c).queryClause ↔
    Accepts id source d.queryClause ∧ Accepts id source c := by
  have hiff : Accepts id source (d.must c).queryClause ↔ _ := accepts_clause_iff h.should h.minimum
  rw [hiff, h.accepts_iff]
  simp only [QueryDocument.must, BoolExpr.addMust, List.forall_mem_append, List.forall_mem_singleton]
  tauto

theorem accepts_mustNot (h : d.Plain) : Accepts id source (d.mustNot c).queryClause ↔
    Accepts id source d.queryClause ∧ outcome id source c = .ok false := by
  have hiff : Accepts id source (d.mustNot c).queryClause ↔ _ := accepts_clause_iff h.should h.minimum
  rw [hiff, h.accepts_iff]
  simp only [QueryDocument.mustNot, BoolExpr.addMustNot, List.forall_mem_append,
    List.forall_mem_singleton, and_assoc]

/-- A filter narrows what is accepted by exactly itself. -/
theorem accepts_filter (h : d.Plain) : Accepts id source (d.filter c).queryClause ↔
    Accepts id source d.queryClause ∧ Accepts id source c := by
  have hiff : Accepts id source (d.filter c).queryClause ↔ _ := accepts_clause_iff h.should h.minimum
  rw [hiff, h.accepts_iff]
  simp only [QueryDocument.filter, BoolExpr.addFilter, List.forall_mem_append, List.forall_mem_singleton]
  tauto

end QueryDocument.Plain

theorem QueryDocument.not_accepts_matchNone {id : String} {source : Json} :
    ¬ Accepts id source QueryDocument.matchNone.queryClause := by
  intro h
  have hnone := h.parts.2.1 .matchNone (List.mem_singleton_self _)
  cases hnone

/-! ## Steps -/

/-- A step of a compilation: it adds conditions without faults, the same ones to every document. -/
inductive QueryDocument.Adds : (QueryDocument → QueryDocument) → Prop where
  | nothing : Adds fun d => d
  | must {f : QueryDocument → QueryDocument} {c : Clause} : Adds f → Decided c →
      Adds fun d => (f d).must c
  | mustNot {f : QueryDocument → QueryDocument} {c : Clause} : Adds f → Decided c →
      Adds fun d => (f d).mustNot c
  | filter {f : QueryDocument → QueryDocument} {c : Clause} : Adds f → Decided c →
      Adds fun d => (f d).filter c
  | trackScores {f : QueryDocument → QueryDocument} (b : Bool) : Adds f →
      Adds fun d => { f d with trackScores := b }

namespace QueryDocument.Adds

variable {f g : QueryDocument → QueryDocument} {d e : QueryDocument} {id : String} {source : Json}

theorem comp (hf : Adds f) (hg : Adds g) : Adds fun d => g (f d) := by
  induction hg with
  | nothing => exact hf
  | must _ hc ih => exact ih.must hc
  | mustNot _ hc ih => exact ih.mustNot hc
  | filter _ hc ih => exact ih.filter hc
  | trackScores b _ ih => exact ih.trackScores b

theorem ite {p : Prop} [Decidable p] (hf : Adds f) (hg : Adds g) :
    Adds fun d => if p then f d else g d := by
  by_cases hp : p
  · simpa only [if_pos hp] using hf
  · simpa only [if_neg hp] using hg

theorem foldl {α : Type} {h : QueryDocument → α → QueryDocument} (hh : ∀ a, Adds fun d => h d a) :
    ∀ {as : List α} {f : QueryDocument → QueryDocument}, Adds f → Adds fun d => as.foldl h (f d)
  | [], _, hf => hf
  | a :: _, f, hf => foldl (f := fun d => h (f d) a) hh (hf.comp (hh a))

theorem narrows (hf : Adds f) (d : QueryDocument) : d.Narrows (f d) := by
  induction hf with
  | nothing => exact .refl
  | must _ hc ih => exact ih.must hc
  | mustNot _ hc ih => exact ih.mustNot hc
  | filter _ hc ih => exact ih.filter hc
  | trackScores b _ ih => exact ih.trackScores b

theorem plain (hf : Adds f) (hd : d.Plain) : (f d).Plain := hd.of_narrows (hf.narrows d)

/-! What a step adds to a document is what it does to the empty one. -/

theorem filter_subset (hf : Adds f) (d : QueryDocument) :
    (f .empty).query.filter ⊆ (f d).query.filter := by
  induction hf with
  | nothing => exact List.nil_subset _
  | filter _ _ ih =>
    exact List.append_subset.2 ⟨List.subset_append_of_subset_left _ ih, List.subset_append_right _ _⟩
  | must _ _ ih | mustNot _ _ ih | trackScores _ _ ih => exact ih

theorem mustNot_subset (hf : Adds f) (d : QueryDocument) :
    (f .empty).query.mustNot ⊆ (f d).query.mustNot := by
  induction hf with
  | nothing => exact List.nil_subset _
  | mustNot _ _ ih =>
    exact List.append_subset.2 ⟨List.subset_append_of_subset_left _ ih, List.subset_append_right _ _⟩
  | must _ _ ih | filter _ _ ih | trackScores _ _ ih => exact ih

theorem accepts_iff (hf : Adds f) (hd : d.Plain) : Accepts id source (f d).queryClause ↔
    Accepts id source d.queryClause ∧ Accepts id source (f .empty).queryClause := by
  induction hf with
  | nothing => exact (and_iff_left Plain.accepts_empty).symm
  | must hg _ ih =>
    rw [(hg.plain hd).accepts_must, (hg.plain .empty).accepts_must, ← and_assoc]
    exact and_congr_left' ih
  | mustNot hg _ ih =>
    rw [(hg.plain hd).accepts_mustNot, (hg.plain .empty).accepts_mustNot, ← and_assoc]
    exact and_congr_left' ih
  | filter hg _ ih =>
    rw [(hg.plain hd).accepts_filter, (hg.plain .empty).accepts_filter, ← and_assoc]
    exact and_congr_left' ih
  | trackScores b _ ih => exact ih

end QueryDocument.Adds

/-- A step that may fail either fails on every document alike or adds the same conditions to each. -/
def QueryDocument.AddsOrFails (f : QueryDocument → Except ArgumentError QueryDocument) : Prop :=
  (∃ e, ∀ d, f d = .error e) ∨ ∃ g, Adds g ∧ ∀ d, f d = .ok (g d)

namespace QueryDocument.AddsOrFails

variable {f g : QueryDocument → Except ArgumentError QueryDocument}

theorem of_adds {f : QueryDocument → QueryDocument} (h : Adds f) : AddsOrFails fun d => .ok (f d) :=
  .inr ⟨f, h, fun _ => rfl⟩

theorem bind (hf : AddsOrFails f) (hg : AddsOrFails g) : AddsOrFails fun d => f d >>= g := by
  rcases hf with ⟨e, hf⟩ | ⟨f', hf', hf⟩
  · exact .inl ⟨e, fun d => bind_eq_error (hf d)⟩
  simp only [hf, ok_bind]
  rcases hg with ⟨e, hg⟩ | ⟨g', hg', hg⟩
  · exact .inl ⟨e, fun d => hg _⟩
  · exact .inr ⟨_, hf'.comp hg', fun d => hg _⟩

theorem after {f : QueryDocument → QueryDocument} (hg : AddsOrFails g) (hf : Adds f) :
    AddsOrFails fun d => g (f d) := (of_adds hf).bind hg

/-- What succeeds on one document is one step, which succeeds on every other one. -/
theorem exists_adds (hf : AddsOrFails f) {d e : QueryDocument} (h : f d = .ok e) :
    ∃ g, Adds g ∧ ∀ d, f d = .ok (g d) := by
  rcases hf with ⟨e', hf⟩ | hf
  · rw [hf d] at h
    cases h
  · exact hf

theorem narrows (hf : AddsOrFails f) {d e : QueryDocument} (h : f d = .ok e) : d.Narrows e := by
  obtain ⟨g, hg, hf⟩ := hf.exists_adds h
  rw [hf d] at h
  cases h
  exact hg.narrows d

end QueryDocument.AddsOrFails

/-! ## Facets -/

namespace Facets

open QueryDocument

variable {g : QueryDocument → QueryDocument}

theorem adds_filterTerms (h : Adds g) (field : String) (vs : List Json) :
    Adds fun d => filterTerms (g d) field vs := by
  unfold filterTerms
  exact .ite h (h.filter (decided_terms field vs))

theorem adds_excludeTerms (h : Adds g) (field : String) (vs : List Json) :
    Adds fun d => excludeTerms (g d) field vs := by
  unfold excludeTerms
  exact .ite h (h.mustNot (decided_terms field vs))

theorem adds_byWildcard (h : Adds g) (field : String) (w : Option Wildcard) :
    Adds fun d => byWildcard (g d) field w := by
  rcases w with _ | _ | _
  · exact h
  · exact h.mustNot (decided_exist field)
  · exact h.filter (decided_exist field)

theorem adds_byTerm (h : Adds g) (field : String) (v notV : Option Json) :
    Adds fun d => byTerm (g d) field v notV := by
  cases v <;> cases notV
  · exact h
  · exact h.mustNot (decided_term field _)
  · exact h.filter (decided_term field _)
  · exact (h.filter (decided_term field _)).mustNot (decided_term field _)

theorem decided_labelClause (label : String) : Decided (labelClause label) := by
  unfold labelClause
  split
  · exact decided_startsWith _ _
  · exact decided_term _ _

theorem decided_labelClauses (labels : List String) : ∀ c ∈ labels.map labelClause, Decided c := by
  intro c hc
  obtain ⟨label, -, rfl⟩ := List.mem_map.1 hc
  exact decided_labelClause label

theorem adds_byType (h : Adds g) (o : SearchOptions) (t : DocType) : Adds fun d => byType (g d) o t := by
  unfold byType
  exact .ite h (h.filter (decided_term _ _))

theorem decided_archivedParts :
    ∀ c ∈ [Clause.term "archived" (.bool false), .not (.exist "archived")], Decided c := by
  intro c hc
  rcases List.mem_pair.1 hc with rfl | rfl
  · exact decided_term _ _
  · exact decided_not (decided_exist _)

theorem adds_byArchived (h : Adds g) (o : SearchOptions) : Adds fun d => byArchived (g d) o := by
  unfold byArchived
  exact .ite h (h.filter (decided_anyOf decided_archivedParts))

theorem adds_byAuthor (h : Adds g) (f : Facets) : Adds fun d => byAuthor (g d) f :=
  adds_byTerm h _ _ _

theorem adds_byAssignees (h : Adds g) (f : Facets) : Adds fun d => byAssignees (g d) f := by
  unfold byAssignees
  refine adds_byWildcard (adds_excludeTerms (adds_filterTerms ?_ _ _) _ _) _ _
  exact .foldl (fun id => Adds.nothing.filter (decided_term _ _)) h

theorem adds_byLabels (h : Adds g) (f : Facets) : Adds fun d => byLabels (g d) f := by
  unfold byLabels
  have hall : Adds fun d => f.labelNames.foldl (fun d label => d.filter (labelClause label)) (g d) :=
    .foldl (fun label => Adds.nothing.filter (decided_labelClause label)) h
  refine adds_byWildcard (.foldl (fun label => Adds.nothing.mustNot (decided_labelClause label)) ?_) _ _
  exact .ite hall (hall.filter (decided_anyOf (decided_labelClauses f.orLabelNames)))

theorem adds_byMilestone (h : Adds g) (f : Facets) : Adds fun d => byMilestone (g d) f :=
  adds_byWildcard (adds_excludeTerms (adds_filterTerms h _ _) _ _) _ _

theorem adds_byWeight (h : Adds g) (f : Facets) : Adds fun d => byWeight (g d) f :=
  adds_byWildcard (adds_byTerm h _ _ _) _ _

theorem adds_byHealthStatus (h : Adds g) (f : Facets) : Adds fun d => byHealthStatus (g d) f :=
  adds_byWildcard (adds_excludeTerms (adds_filterTerms h _ _) _ _) _ _

theorem adds_byState (h : Adds g) (f : Facets) : Adds fun d => byState (g d) f := by
  unfold byState
  rcases f.state with _ | state
  · exact h
  · cases state <;> first | exact h | exact h.filter (decided_term _ _)

theorem adds_byConfidential (h : Adds g) (f : Facets) : Adds fun d => byConfidential (g d) f := by
  unfold byConfidential
  cases f.confidential with
  | none => exact h
  | some b => exact h.filter (decided_term _ _)

theorem addsOrFails_byWindow (field : String) (w : Window) :
    AddsOrFails fun d => byWindow d field w := by
  unfold byWindow
  rcases bound? w.after with e | gte
  · exact .inl ⟨e, fun _ => rfl⟩
  rcases bound? w.before with e | lte
  · exact .inl ⟨e, fun _ => rfl⟩
  show AddsOrFails fun d => .ok (d.filter? (Clause.between? field gte lte))
  cases hc : Clause.between? field gte lte with
  | none => exact .of_adds .nothing
  | some c => exact .of_adds (.filter .nothing (decided_between hc))

theorem addsOrFails_byDates (f : Facets) : AddsOrFails fun d => byDates d f :=
  (addsOrFails_byWindow "created_at" f.created).bind <|
    (addsOrFails_byWindow "updated_at" f.updated).bind <|
      (addsOrFails_byWindow "closed_at" f.closed).bind (addsOrFails_byWindow "due_date" f.due)

theorem adds_byBranches (h : Adds g) (f : Facets) : Adds fun d => byBranches (g d) f :=
  adds_excludeTerms (adds_filterTerms (adds_excludeTerms (adds_filterTerms h _ _) _ _) _ _) _ _

theorem adds_byWorkItemType (h : Adds g) (f : Facets) : Adds fun d => byWorkItemType (g d) f :=
  adds_excludeTerms (adds_filterTerms h _ _) _ _

theorem adds_byLanguages (h : Adds g) (f : Facets) : Adds fun d => byLanguages (g d) f :=
  adds_filterTerms h _ _

theorem addsOrFails_apply (f : Facets) (t : DocType) : AddsOrFails fun d => apply d f t := by
  have hauthor := adds_byAuthor .nothing f
  have htracked := adds_byMilestone (adds_byLabels (adds_byAssignees hauthor f) f) f
  have hstate := adds_byConfidential
    (adds_byState (adds_byHealthStatus (adds_byWeight htracked f) f) f) f
  cases t with
  | issue => exact (addsOrFails_byDates f).after hstate
  | workItem => exact (addsOrFails_byDates f).after (adds_byWorkItemType hstate f)
  | mergeRequest => exact (addsOrFails_byDates f).after (adds_byBranches (adds_byState htracked f) f)
  | epic =>
    have hepic := adds_byState (adds_byHealthStatus (adds_byLabels hauthor f) f) f
    exact (addsOrFails_byDates f).after (adds_byConfidential hepic f)
  | note => exact (addsOrFails_byDates f).after hauthor
  | milestone => exact (addsOrFails_byDates f).after (adds_byState .nothing f)
  | project | user => exact addsOrFails_byDates f
  | blob => exact .of_adds (adds_byLanguages .nothing f)
  | wikiBlob | commit => exact .of_adds .nothing

end Facets

/-! ## Free text -/

namespace FullText

open QueryDocument

theorem decided_textClause (query : String) (fields : List String) (multiMatch : Bool) :
    Decided (textClause query fields multiMatch) := by
  unfold textClause
  split
  · exact decided_simpleQuery query fields
  · refine decided_anyOf ?_
    intro c hc
    simp only [List.mem_cons, List.not_mem_nil, or_false] at hc
    rcases hc with rfl | rfl | rfl
    · exact decided_multiMatch query fields "or"
    · exact decided_multiMatch query fields "and"
    · exact decided_phrase query fields

theorem adds_byFullText (o : SearchOptions) (t : DocType) (multiMatch : Bool) :
    Adds fun d => byFullText d o t multiMatch := by
  unfold byFullText
  refine .ite ((Adds.nothing.trackScores true).must decided_matchAll) ?_
  cases reference? (Text.trim o.query) t with
  | none => exact .must .nothing (decided_textClause _ _ _)
  | some n => exact .must .nothing (decided_term _ _)

end FullText

theorem SearchOptions.docType?_eq_ok {o : SearchOptions} {t : DocType} :
    o.docType? = .ok t ↔ o.docType = some t := by
  unfold docType?
  cases o.docType <;> simp

theorem SearchOptions.searchLevel?_eq_ok {o : SearchOptions} {l : SearchLevel} :
    o.searchLevel? = .ok l ↔ o.searchLevel = some l := by
  unfold searchLevel?
  cases o.searchLevel <;> simp

/-! ## Access -/

namespace Access

open QueryDocument

variable {e e' : QueryDocument} {o : SearchOptions} {t : DocType}
variable {g : QueryDocument → QueryDocument}

theorem crossProjectDenied_eq {l : SearchLevel} (hl : o.searchLevel = some l) : crossProjectDenied o =
    .ok (decide (l ≠ .project) && o.currentUser.any fun u => !u.canReadCrossProject) := by
  unfold crossProjectDenied
  rw [SearchOptions.searchLevel?_eq_ok.2 hl]
  cases l <;> rfl

theorem decided_pathClauses (paths : List Path) : ∀ c ∈ paths.map pathClause, Decided c := by
  intro c hc
  obtain ⟨path, -, rfl⟩ := List.mem_map.1 hc
  exact decided_startsWith _ _

/-- What scoping a search adds to a document: nothing, its projects, or the paths of its groups. -/
theorem bySearchLevel_cases (h : bySearchLevel e o t = .ok e') :
    (o.searchLevel = some .global ∧ e' = e) ∨
    (o.searchLevel = some .project ∧
      e' = e.filter (.terms "project_id" (o.projectIds.map Json.ofUInt64))) ∨
    (o.searchLevel = some .group ∧ ∃ paths, o.groupIds.mapM (groupPath o) = .ok paths ∧
      e' = e.filter (.anyOfFlat (paths.map pathClause))) := by
  obtain ⟨level, hl, h⟩ := bind_eq_ok.1 h
  have hlevel := SearchOptions.searchLevel?_eq_ok.1 hl
  cases level with
  | global => cases h; exact .inl ⟨hlevel, rfl⟩
  | project =>
    refine .inr (.inl ⟨hlevel, ?_⟩)
    simp only at h
    split at h
    · cases h
    · split at h
      · cases h
      · cases h; rfl
  | group =>
    refine .inr (.inr ⟨hlevel, ?_⟩)
    simp only at h
    split at h
    · cases h
    · obtain ⟨paths, hp, h⟩ := bind_eq_ok.1 h
      cases h; exact ⟨paths, hp, rfl⟩

theorem addsOrFails_bySearchLevel (o : SearchOptions) (t : DocType) :
    AddsOrFails fun d => bySearchLevel d o t := by
  unfold bySearchLevel
  rcases o.searchLevel? with e | level
  · exact .inl ⟨e, fun _ => rfl⟩
  cases level with
  | global => exact .of_adds .nothing
  | project =>
    by_cases hscope : t.scope = .group
    · exact .inl ⟨.notAtProjectLevel t, fun d => if_pos hscope⟩
    by_cases hprojects : o.projectIds.isEmpty = true
    · exact .inl ⟨.noProjects, fun d => (if_neg hscope).trans (if_pos hprojects)⟩
    · exact .inr ⟨_, .filter .nothing (decided_terms _ _),
        fun d => (if_neg hscope).trans (if_neg hprojects)⟩
  | group =>
    by_cases hgroups : o.groupIds.isEmpty = true
    · exact .inl ⟨.noGroups, fun d => if_pos hgroups⟩
    rcases o.groupIds.mapM (groupPath o) with e | paths
    · exact .inl ⟨e, fun d => if_neg hgroups⟩
    · exact .inr ⟨_, .filter .nothing (decided_anyOfFlat (decided_pathClauses paths)),
        fun d => if_neg hgroups⟩

/-- The clauses of memberships: direct ones, those of private groups with the feature's gate, and
those of other groups with the gate or the visibilities that are not open. -/
theorem mem_memberClauses {u : CurrentUser} {feature : Option Feature} {c : Clause}
    (h : c ∈ memberClauses u t feature) :
    let minimum := (feature.map Feature.minimumRole).getD .guest
    let gate := feature.map memberGate
    c = .gated (.terms t.membershipField ((memberIds u t minimum).map Json.ofUInt64)) gate ∨
    c = .gated (.anyOfFlat ((splitPaths u.groups minimum).1.map pathClause)) gate ∨
    c = .allOf [.anyOfFlat ((splitPaths u.groups minimum).2.map pathClause),
      gate.getD (visibilityTerms t
        (Visibility.all.filter fun l => !(visibleLevels (some u)).contains l))] := by
  intro minimum gate
  unfold memberClauses at h
  simp only [List.mem_append] at h
  rcases h with (h | h) | h <;> split at h
  · cases h
  · exact .inl (List.mem_singleton.1 h)
  · cases h
  · exact .inr (.inl (List.mem_singleton.1 h))
  · cases h
  · exact .inr (.inr (List.mem_singleton.1 h))

theorem decided_memberGate {feature : Option Feature} {g : Clause}
    (h : feature.map memberGate = some g) : Decided g := by
  obtain ⟨f, -, rfl⟩ := Option.map_eq_some_iff.1 h
  exact decided_terms _ _

theorem decided_memberClauses {u : CurrentUser} {feature : Option Feature} {c : Clause}
    (h : c ∈ memberClauses u t feature) : Decided c := by
  rcases mem_memberClauses h with rfl | rfl | rfl
  · exact decided_gated (decided_terms _ _) fun g => decided_memberGate
  · exact decided_gated (decided_anyOfFlat (decided_pathClauses _)) fun g => decided_memberGate
  · refine decided_allOf ?_
    intro c hc
    rcases List.mem_pair.1 hc with rfl | rfl
    · exact decided_anyOfFlat (decided_pathClauses _)
    · cases feature with
      | none => exact decided_terms _ _
      | some f => exact decided_terms _ _

theorem decided_visibleClause (u : Option CurrentUser) (feature : Option Feature) :
    Decided (visibleClause u t feature) := by
  unfold visibleClause
  cases feature with
  | none => exact decided_terms _ _
  | some f =>
    refine decided_allOf ?_
    intro c hc
    rcases List.mem_pair.1 hc with rfl | rfl
    · exact decided_terms _ _
    · exact decided_term _ _

theorem decided_membershipParts (u : Option CurrentUser) (feature : Option Feature) :
    ∀ c ∈ visibleClause u t feature ::
      (match u with
        | some u => memberClauses u t feature
        | none => []), Decided c := by
  intro c hc
  rcases List.mem_cons.1 hc with rfl | hc
  · exact decided_visibleClause u feature
  · cases u with
    | none => cases hc
    | some u => exact decided_memberClauses hc

theorem decided_membershipClause (u : Option CurrentUser) (feature : Option Feature) :
    Decided (membershipClause u t feature) := decided_anyOf (decided_membershipParts u feature)

theorem decided_membershipClauses (o : SearchOptions) :
    ∀ c ∈ (featureChoices o).map (membershipClause o.currentUser t), Decided c := by
  intro c hc
  obtain ⟨feature, -, rfl⟩ := List.mem_map.1 hc
  exact decided_membershipClause _ feature

theorem adds_byMembership (h : Adds g) (o : SearchOptions) (t : DocType) :
    Adds fun d => byMembership (g d) o t := by
  unfold byMembership
  exact .ite h (h.filter (decided_anyOfFlat (decided_membershipClauses o)))

theorem decided_readerClauses {u : CurrentUser} {c : Clause} (h : c ∈ readerClauses u t) : Decided c := by
  unfold readerClauses at h
  simp only [List.mem_append, List.mem_cons, List.not_mem_nil, or_false] at h
  rcases h with ((rfl | rfl) | h) | h
  · exact decided_term _ _
  · exact decided_term _ _
  · generalize (if t.scope = .project then memberProjects u .reporter else []) = ids at h
    split at h
    · cases h
    · rw [List.mem_singleton.1 h]; exact decided_terms _ _
  · exact decided_pathClauses _ c h

theorem decided_confidentialParts (u : CurrentUser) (t : DocType) :
    ∀ c ∈ [Clause.term "confidential" (.bool false),
      .allOf [.term "confidential" (.bool true), .anyOf (readerClauses u t)]], Decided c := by
  intro c hc
  rcases List.mem_pair.1 hc with rfl | rfl
  · exact decided_term _ _
  · refine decided_allOf ?_
    intro c hc
    rcases List.mem_pair.1 hc with rfl | rfl
    · exact decided_term _ _
    · exact decided_anyOf fun c hc => decided_readerClauses hc

theorem adds_byConfidentiality (h : Adds g) (o : SearchOptions) (t : DocType) :
    Adds fun d => byConfidentiality (g d) o t := by
  unfold byConfidentiality
  refine .ite h ?_
  cases o.currentUser with
  | none => exact h.filter (decided_term _ _)
  | some u => exact .ite h (h.filter (decided_anyOf (decided_confidentialParts u t)))

theorem adds_byNotHidden (h : Adds g) (o : SearchOptions) (t : DocType) :
    Adds fun d => byNotHidden (g d) o t := by
  unfold byNotHidden
  exact .ite h (h.mustNot (decided_term _ _))

/-- What access adds to a document: nothing for an unscoped type, a clause that matches nothing
when reading across projects is denied, and otherwise the rules one after the other. -/
theorem apply_cases (h : apply e o t = .ok e') :
    (t.isScoped = false ∧ e' = e) ∨
    (t.isScoped = true ∧ crossProjectDenied o = .ok true ∧ e' = e.filter .matchNone) ∨
    (t.isScoped = true ∧ crossProjectDenied o = .ok false ∧ ∃ level e₁, o.searchLevel = some level ∧
      bySearchLevel e o t = .ok e₁ ∧
      e' = byNotHidden (byConfidentiality (if level ≠ .project && t.hasArchived then
        Facets.byArchived (byMembership e₁ o t) o else byMembership e₁ o t) o t) o t) := by
  unfold apply at h
  by_cases hs : t.isScoped = true
  · rw [hs] at h
    obtain ⟨denied, hd, h⟩ := bind_eq_ok.1 h
    cases denied with
    | true => cases h; exact .inr (.inl ⟨hs, hd, rfl⟩)
    | false =>
      obtain ⟨level, hl, h⟩ := bind_eq_ok.1 h
      obtain ⟨e₁, he, h⟩ := bind_eq_ok.1 h
      cases h
      exact .inr (.inr ⟨hs, hd, level, e₁, SearchOptions.searchLevel?_eq_ok.1 hl, he, rfl⟩)
  · rw [Bool.not_eq_true] at hs
    rw [hs] at h
    cases h; exact .inl ⟨hs, rfl⟩

/-- The rules of a search that is not denied fail where its scope does. -/
theorem apply_eq (hs : t.isScoped = true) {l : SearchLevel} (hl : o.searchLevel = some l)
    (hd : crossProjectDenied o = .ok false) (d : QueryDocument) :
    apply d o t = bySearchLevel d o t >>= fun d => .ok (byNotHidden (byConfidentiality
      (if l ≠ .project && t.hasArchived then Facets.byArchived (byMembership d o t) o
        else byMembership d o t) o t) o t) := by
  unfold apply
  rw [hs, hd, SearchOptions.searchLevel?_eq_ok.2 hl]
  rfl

theorem addsOrFails_apply (o : SearchOptions) (t : DocType) : AddsOrFails fun d => apply d o t := by
  unfold apply
  cases t.isScoped with
  | false => exact .of_adds .nothing
  | true =>
    rcases crossProjectDenied o with e | denied
    · exact .inl ⟨e, fun _ => rfl⟩
    cases denied with
    | true => exact .of_adds (.filter .nothing decided_matchNone)
    | false =>
      rcases o.searchLevel? with e | level
      · exact .inl ⟨e, fun _ => rfl⟩
      have hmember : Adds fun d => byMembership d o t := adds_byMembership .nothing o t
      have harchived : Adds fun d => if level ≠ .project && t.hasArchived then
          Facets.byArchived (byMembership d o t) o else byMembership d o t :=
        .ite (Facets.adds_byArchived hmember o) hmember
      exact (addsOrFails_bySearchLevel o t).bind
        (.of_adds (adds_byNotHidden (adds_byConfidentiality harchived o t) o t))

/-- Where access is not denied, a source passes it when it passes every rule by itself. -/
theorem accepts_apply (h : apply .empty o t = .ok e) (hs : t.isScoped = true)
    (hd : crossProjectDenied o = .ok false) : ∃ level scope, o.searchLevel = some level ∧
      bySearchLevel .empty o t = .ok scope ∧ ∀ id source, (Accepts id source e.queryClause ↔
        Accepts id source scope.queryClause ∧ Accepts id source (byMembership .empty o t).queryClause ∧
        ((level ≠ .project && t.hasArchived) = true →
          Accepts id source (Facets.byArchived .empty o).queryClause) ∧
        Accepts id source (byConfidentiality .empty o t).queryClause ∧
        Accepts id source (byNotHidden .empty o t).queryClause) := by
  rcases apply_cases h with ⟨hno, -⟩ | ⟨-, hdenied, -⟩ | ⟨-, -, level, scope, hl, hscope, rfl⟩
  · rw [hs] at hno; cases hno
  · rw [hd] at hdenied; cases hdenied
  refine ⟨level, scope, hl, hscope, fun id source => ?_⟩
  have hplain : scope.Plain := .of_narrows .empty ((addsOrFails_bySearchLevel o t).narrows hscope)
  have hmember : Adds fun d => byMembership d o t := adds_byMembership .nothing o t
  have harchived : Adds fun d => Facets.byArchived d o := Facets.adds_byArchived .nothing o
  have hconfidential : Adds fun d => byConfidentiality d o t := adds_byConfidentiality .nothing o t
  have hhidden : Adds fun d => byNotHidden d o t := adds_byNotHidden .nothing o t
  by_cases hlevel : (level ≠ .project && t.hasArchived) = true
  · rw [if_pos hlevel, hhidden.accepts_iff (hconfidential.plain (harchived.plain (hmember.plain hplain))),
      hconfidential.accepts_iff (harchived.plain (hmember.plain hplain)),
      harchived.accepts_iff (hmember.plain hplain), hmember.accepts_iff hplain]
    simp only [hlevel, true_imp_iff, and_assoc]
  · rw [if_neg hlevel, hhidden.accepts_iff (hconfidential.plain (hmember.plain hplain)),
      hconfidential.accepts_iff (hmember.plain hplain), hmember.accepts_iff hplain]
    simp only [hlevel, Bool.false_eq_true, false_imp_iff, true_and, and_assoc]

end Access

/-! ## The whole pipeline -/

namespace SearchOptions

variable {o : SearchOptions} {s : CompileSettings} {t : DocType} {d : QueryDocument}

/-- The query part of a document: the access rules on free text and type, and facets on top. -/
theorem matching_cases (h : o.matching s t = .ok d) :
    ∃ e₁ e₂, QueryDocument.empty.Narrows e₁ ∧ Access.apply (Facets.byType e₁ o t) o t = .ok e₂ ∧
      e₂.Narrows d := by
  obtain ⟨e₂, ha, h⟩ := bind_eq_ok.1 h
  exact ⟨_, e₂, (FullText.adds_byFullText o t _).narrows _, ha,
    (Facets.addsOrFails_apply o.facets t).narrows h⟩

/-- A source matches a request when it passes free text, type, access and facets, each by itself. -/
theorem accepts_matching (h : o.matching s t = .ok d) : ∃ access facets,
    Access.apply .empty o t = .ok access ∧ Facets.apply .empty o.facets t = .ok facets ∧
      ∀ id source, (Accepts id source d.queryClause ↔
        Accepts id source
          (FullText.byFullText .empty o t (s.multiMatch && o.flags.multiMatch)).queryClause ∧
        Accepts id source (Facets.byType .empty o t).queryClause ∧
        Accepts id source access.queryClause ∧ Accepts id source facets.queryClause) := by
  obtain ⟨e₂, ha, h⟩ := bind_eq_ok.1 h
  obtain ⟨a, ha', hacc⟩ := (Access.addsOrFails_apply o t).exists_adds ha
  obtain ⟨f, hf', hfac⟩ := (Facets.addsOrFails_apply o.facets t).exists_adds h
  rw [hacc] at ha
  cases ha
  rw [hfac] at h
  cases h
  refine ⟨a .empty, f .empty, hacc _, hfac _, fun id source => ?_⟩
  have htype : QueryDocument.Adds fun d => Facets.byType d o t := Facets.adds_byType .nothing o t
  have htext := (FullText.adds_byFullText o t (s.multiMatch && o.flags.multiMatch)).plain .empty
  rw [hf'.accepts_iff (ha'.plain (htype.plain htext)), ha'.accepts_iff (htype.plain htext),
    htype.accepts_iff htext]
  simp only [and_assoc]

theorem matching_narrows (h : o.matching s t = .ok d) : QueryDocument.empty.Narrows d := by
  obtain ⟨e₁, e₂, h₁, ha, h₂⟩ := matching_cases h
  have htype : e₁.Narrows (Facets.byType e₁ o t) := (Facets.adds_byType .nothing o t).narrows e₁
  exact ((h₁.trans htype).trans ((Access.addsOrFails_apply o t).narrows ha)).trans h₂

/-- What is built for a valid request: presented matches, or nothing for a denied search. -/
theorem build_eq (h : o.validate = .ok ()) (ht : o.docType = some t) : o.build s =
    ((if t.isScoped then Access.crossProjectDenied o else .ok false) >>= fun denied =>
      if denied then .ok .matchNone else (o.matching s t).map (o.present s t)) := by
  unfold build
  rw [h, ok_bind, docType?_eq_ok.2 ht, ok_bind]
  dsimp only
  split <;> rfl

/-- A valid request compiles to the document that matches nothing when reading across projects is
denied, and to its query part, presented, otherwise. -/
theorem build_eq_ok : o.build s = .ok d ↔ o.validate = .ok () ∧ ∃ t, o.docType = some t ∧
    ((t.isScoped = true ∧ Access.crossProjectDenied o = .ok true ∧ d = .matchNone) ∨
      (t.isScoped = true → Access.crossProjectDenied o = .ok false) ∧
        ∃ e, o.matching s t = .ok e ∧ d = o.present s t e) := by
  constructor
  · intro h
    obtain ⟨_, hvalid, h⟩ := bind_eq_ok.1 h
    obtain ⟨t, ht, h⟩ := bind_eq_ok.1 h
    refine ⟨hvalid, t, docType?_eq_ok.1 ht, ?_⟩
    dsimp only at h
    split at h
    · rename_i hs
      obtain ⟨denied, hd, h⟩ := bind_eq_ok.1 h
      cases denied with
      | true =>
        cases h
        exact .inl ⟨hs, hd, rfl⟩
      | false =>
        obtain ⟨e, he, h⟩ := bind_eq_ok.1 h
        cases h
        exact .inr ⟨fun _ => hd, e, he, rfl⟩
    · rename_i hs
      obtain ⟨denied, hd, h⟩ := bind_eq_ok.1 h
      cases hd
      obtain ⟨e, he, h⟩ := bind_eq_ok.1 h
      cases h
      exact .inr ⟨fun h => absurd h hs, e, he, rfl⟩
  · rintro ⟨hvalid, t, ht, ⟨hs, hd, rfl⟩ | ⟨hd, e, he, rfl⟩⟩
    · unfold build
      rw [hvalid, ok_bind, docType?_eq_ok.2 ht, ok_bind]
      dsimp only
      rw [if_pos hs, hd]
      rfl
    · unfold build
      rw [hvalid, ok_bind, docType?_eq_ok.2 ht, ok_bind]
      dsimp only
      by_cases hs : t.isScoped = true
      · rw [if_pos hs, hd hs, ok_bind, he]
        rfl
      · rw [if_neg hs, ok_bind, he]
        rfl

theorem build_cases (h : o.build s = .ok d) :
    ∃ t, o.docType = some t ∧
      ((t.isScoped = true ∧ Access.crossProjectDenied o = .ok true ∧ d = .matchNone) ∨
        ∃ e, o.matching s t = .ok e ∧ d = o.present s t e) := by
  obtain ⟨-, t, ht, hcase⟩ := build_eq_ok.1 h
  exact ⟨t, ht, hcase.imp_right And.right⟩

theorem present_query (e : QueryDocument) : (o.present s t e).query = e.query := by
  unfold present FullText.byHighlight
  cases o.countOnly <;> cases o.highlight <;> rfl

theorem present_knn (e : QueryDocument) : (o.present s t e).knn = e.knn := by
  unfold present FullText.byHighlight
  cases o.countOnly <;> cases o.highlight <;> rfl

theorem present_sort (e : QueryDocument) :
    (o.present s t e).sort =
      if o.countOnly then e.sort else e.sort ++ (Sorting.resolve? o.orderBy o.sort t).toList := by
  unfold present FullText.byHighlight
  cases o.countOnly <;> cases o.highlight <;> rfl

theorem build_plain (h : o.build s = .ok d) : d.Plain := by
  obtain ⟨t, -, ⟨-, -, rfl⟩ | ⟨e, he, rfl⟩⟩ := build_cases h
  · exact .matchNone
  · have hp := QueryDocument.Plain.empty.of_narrows (matching_narrows he)
    exact hp.of_query (present_query e) ((present_knn e).trans hp.knn)

/-- What the document of a request accepts: nothing when reading across projects is denied, and
otherwise what passes free text, type, access and facets, each by itself. -/
theorem accepts_build (h : o.build s = .ok d) (ht : o.docType = some t) :
    (t.isScoped = true ∧ Access.crossProjectDenied o = .ok true ∧
      ∀ id source, ¬ Accepts id source d.queryClause) ∨
    ((t.isScoped = true → Access.crossProjectDenied o = .ok false) ∧ ∃ access facets,
      Access.apply .empty o t = .ok access ∧ Facets.apply .empty o.facets t = .ok facets ∧
        ∀ id source, (Accepts id source d.queryClause ↔
          Accepts id source
            (FullText.byFullText .empty o t (s.multiMatch && o.flags.multiMatch)).queryClause ∧
          Accepts id source (Facets.byType .empty o t).queryClause ∧
          Accepts id source access.queryClause ∧ Accepts id source facets.queryClause)) := by
  obtain ⟨-, t', ht', hcase⟩ := build_eq_ok.1 h
  obtain rfl : t = t' := Option.some.inj (ht.symm.trans ht')
  rcases hcase with ⟨hs, hd, rfl⟩ | ⟨hd, e, hm, rfl⟩
  · exact .inl ⟨hs, hd, fun _ _ => QueryDocument.not_accepts_matchNone⟩
  · obtain ⟨access, facets, ha, hf, hacc⟩ := accepts_matching hm
    have hquery : (o.present s t e).queryClause = e.queryClause := congrArg BoolExpr.clause (present_query e)
    refine .inr ⟨hd, access, facets, ha, hf, fun id source => ?_⟩
    rw [hquery]
    exact hacc id source

/-- The order that a request names, if it asks for records at all. -/
def sortClause (o : SearchOptions) : Option SortClause :=
  if o.countOnly then none else o.docType.bind (Sorting.resolve? o.orderBy o.sort)

/-- An order that is named leaves missing values last. -/
theorem sortClause_missing {c : SortClause} (h : o.sortClause = some c) : c.missing = none := by
  unfold sortClause at h
  split at h
  · cases h
  obtain ⟨t, -, hr⟩ := Option.bind_eq_some_iff.1 h
  obtain ⟨⟨name, order⟩, -, hr⟩ := Option.bind_eq_some_iff.1 hr
  obtain ⟨key, -, hr⟩ := Option.bind_eq_some_iff.1 hr
  split at hr
  · cases hr; rfl
  · cases hr

/-- A document built has the order that the request names, unless it matches nothing at all. -/
theorem build_sort (h : o.build s = .ok d) : d.sort = o.sortClause.toList ∨ d = .matchNone := by
  obtain ⟨t, ht, ⟨-, -, rfl⟩ | ⟨e, he, rfl⟩⟩ := build_cases h
  · exact .inr rfl
  have hsort : e.sort = [] := (matching_narrows he).sort_eq
  refine .inl ?_
  rw [present_sort, hsort]
  unfold sortClause
  rw [ht, Option.bind_some]
  split <;> rfl

end SearchOptions

end TenantSearch
