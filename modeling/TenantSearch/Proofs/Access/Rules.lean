/-
What the rules of access ask of a source, exactly. The paths of a user's groups reach the query without
repeats, without those that another path begins, and split into the paths of private groups and of the
others outside of them. None of this changes which sources they admit: a path left out lies below one
that is kept. So a membership clause admits a source by visibility, by a role in its project or group,
or by a role in any group at or above its path (`Admits`), and the clauses of readers accept what
readers may read.
-/
import TenantSearch.Proofs.Access.Paths

namespace TenantSearch.Access

open Index

variable {id : String} {source : Json} {user : Option CurrentUser} {u : CurrentUser} {t : DocType}
variable {role : AccessLevel} {feature : Option Feature} {o : SearchOptions}

/-! ## Lists of ids -/

theorem mem_memberProjects {i : Id} : i ∈ memberProjects u role ↔
    ∃ p ∈ u.projects, p.accessLevel.atLeast role = true ∧ p.projectId = i := by
  unfold memberProjects
  rw [mem_dropRepeats, List.mem_mergeSort, List.mem_map]
  simp only [List.mem_filter, and_assoc]

/-! ## Memberships in groups above a source -/

/-- A membership, with at least a role, in a group at or above the path of a source. -/
structure Above (u : CurrentUser) (role : AccessLevel) (source : Json) (g : GroupMembership) : Prop where
  mem : g ∈ u.groups
  role : g.accessLevel.atLeast role = true
  path : g.traversalIds ≠ []
  under : Under source g.traversalIds

theorem above_iff {g : GroupMembership} :
    Above u role source g ↔ Counts u.groups role g ∧ Under source g.traversalIds :=
  ⟨fun h => ⟨⟨h.mem, h.role, h.path⟩, h.under⟩, fun h => ⟨h.1.mem, h.1.role, h.1.path, h.2⟩⟩

/-- Of the memberships that count for a role, those that lie above a source. -/
theorem under_countedPaths (p : GroupMembership → Bool) :
    UnderAny source (countedPaths u.groups role p) ↔ ∃ g, Above u role source g ∧ p g = true := by
  simp only [UnderAny, mem_countedPaths, above_iff]
  constructor
  · rintro ⟨_, ⟨g, hg, hp, rfl⟩, hu⟩
    exact ⟨g, ⟨hg, hu⟩, hp⟩
  · rintro ⟨g, ⟨hg, hu⟩, hp⟩
    exact ⟨_, ⟨g, hg, hp, rfl⟩, hu⟩

/-- The first list of paths holds what lies under private groups. -/
theorem under_closed : UnderAny source (splitPaths u.groups role).1 ↔
    ∃ g, Above u role source g ∧ g.visibility = .priv := by
  rw [(closed_reduces u.groups role).under_iff, under_countedPaths]
  simp only [decide_eq_true_eq]

/-- The two lists of paths together hold what lies under any group. -/
theorem under_split : UnderAny source (splitPaths u.groups role).1 ∨
    UnderAny source (splitPaths u.groups role).2 ↔ ∃ g, Above u role source g := by
  have hsplit := splitPaths_split u.groups role
  constructor
  · rintro (⟨path, hp, hu⟩ | ⟨path, hp, hu⟩)
    · obtain ⟨g, hg, -, rfl⟩ := hsplit.ofClosed path hp
      exact ⟨g, above_iff.2 ⟨hg, hu⟩⟩
    · obtain ⟨g, hg, -, rfl⟩ := hsplit.ofFree path hp
      exact ⟨g, above_iff.2 ⟨hg, hu⟩⟩
  · rintro ⟨g, hg⟩
    obtain ⟨hcounts, hu⟩ := above_iff.1 hg
    by_cases hv : g.visibility = .priv
    · obtain ⟨path, hp, hpre⟩ := hsplit.coversClosed g hcounts hv
      exact .inl ⟨path, hp, hu.above hpre⟩
    -- the path of another group is left out of the second list when a private group lies above it
    rcases hsplit.coversFree g hcounts hv with ⟨path, hp, hpre⟩ | ⟨path, hp, hpre⟩
    · exact .inr ⟨path, hp, hu.above hpre⟩
    · exact .inl ⟨path, hp, hu.above hpre⟩

/-! ## Membership -/

/-- What admits a source for a feature, or without one: visibility to everybody like the user, a role
in its project or group, or a role in a group at or above its path. Without a feature a group that is
not private admits what is not visible to everybody like the user. -/
inductive Admits (user : Option CurrentUser) (t : DocType) (feature : Option Feature)
    (source : Json) : Prop where
  | visible (l : Visibility) : l ∈ visibleLevels user →
      Carries source t.visibilityField (.ofUInt64 l.stored) →
      FeatureAt Carries source [.enabled] feature → Admits user t feature source
  | direct (u : CurrentUser) (i : Id) : user = some u → i ∈ memberIds u t (memberRole feature) →
      CarriesId source t.membershipField i →
      FeatureAt Carries source [.enabled, .priv] feature → Admits user t feature source
  | above (u : CurrentUser) (g : GroupMembership) : user = some u →
      Above u (memberRole feature) source g → FeatureAt Carries source [.enabled, .priv] feature →
      (feature = none → g.visibility = .priv ∨
        ∃ l ∉ visibleLevels user, Carries source t.visibilityField (.ofUInt64 l.stored)) →
      Admits user t feature source

theorem accepts_visibilityTerms {levels : List Visibility} :
    Accepts id source (visibilityTerms t levels) ↔
      ∃ l ∈ levels, Carries source t.visibilityField (.ofUInt64 l.stored) := accepts_terms_map

theorem accepts_memberGate {f : Feature} :
    Accepts id source (memberGate f) ↔ FeatureAt Carries source [.enabled, .priv] (some f) := by
  have hterms : Accepts id source
      (.terms f.accessField ([FeatureAccess.enabled, .priv].map fun l => .ofUInt64 l.stored)) ↔ _ :=
    accepts_terms_map
  exact hterms

/-- A gate asks for nothing without a feature. -/
theorem accepts_gates : (∀ g, feature.map memberGate = some g → Accepts id source g) ↔
    FeatureAt Carries source [.enabled, .priv] feature := by
  cases feature with
  | none => simp [FeatureAt]
  | some f => simp [accepts_memberGate]

theorem accepts_visibleClause : Accepts id source (visibleClause user t feature) ↔
    (∃ l ∈ visibleLevels user, Carries source t.visibilityField (.ofUInt64 l.stored)) ∧
      FeatureAt Carries source [.enabled] feature := by
  unfold visibleClause
  cases feature with
  | none =>
    rw [accepts_visibilityTerms]
    exact (and_iff_left trivial).symm
  | some f =>
    rw [accepts_allOf, List.forall_mem_cons, List.forall_mem_singleton, accepts_visibilityTerms,
      accepts_term_iff]
    simp [FeatureAt]

/-- A clause that accepts nothing for an empty list may be left out then. -/
theorem exists_accepts_unless_empty {α : Type} {as : List α} {c : Clause}
    (h : as = [] → ¬ Accepts id source c) :
    (∃ c' ∈ (if as.isEmpty then [] else [c]), Accepts id source c') ↔ Accepts id source c := by
  cases as with
  | nil => simpa using h rfl
  | cons a as => simp

/-- The gate of a path outside of private groups: without a feature, a visibility that is not open. -/
theorem accepts_freeGate : Accepts id source ((feature.map memberGate).getD (visibilityTerms t
      (Visibility.all.filter fun l => !(visibleLevels (some u)).contains l))) ↔
    FeatureAt Carries source [.enabled, .priv] feature ∧ (feature = none →
      ∃ l ∉ visibleLevels (some u), Carries source t.visibilityField (.ofUInt64 l.stored)) := by
  cases feature with
  | none =>
    have hall : ∀ l : Visibility, l ∈ Visibility.all := fun l => by cases l <;> decide
    rw [Option.map_none, Option.getD_none, accepts_visibilityTerms]
    simp [FeatureAt, hall]
  | some f =>
    rw [Option.map_some, Option.getD_some, accepts_memberGate]
    simp

theorem exists_accepts_memberClauses : (∃ c ∈ memberClauses u t feature, Accepts id source c) ↔
    ((∃ i ∈ memberIds u t (memberRole feature), CarriesId source t.membershipField i) ∧
      FeatureAt Carries source [.enabled, .priv] feature) ∨
    (UnderAny source (splitPaths u.groups (memberRole feature)).1 ∧
      FeatureAt Carries source [.enabled, .priv] feature) ∨
    (UnderAny source (splitPaths u.groups (memberRole feature)).2 ∧
      FeatureAt Carries source [.enabled, .priv] feature ∧ (feature = none →
        ∃ l ∉ visibleLevels (some u), Carries source t.visibilityField (.ofUInt64 l.stored))) := by
  unfold memberClauses
  simp only [List.mem_append, or_and_right, exists_or, or_assoc]
  refine or_congr ?_ (or_congr ?_ ?_)
  · rw [exists_accepts_unless_empty, accepts_gated, accepts_terms_map, accepts_gates]
    · rfl
    · intro he
      simp [he, accepts_gated, accepts_terms]
  · rw [exists_accepts_unless_empty, accepts_gated, accepts_paths, accepts_gates]
    · rfl
    · intro he
      simp [he, accepts_gated, Clause.anyOfFlat, accepts_anyOf]
  · rw [exists_accepts_unless_empty, accepts_allOf, List.forall_mem_cons, List.forall_mem_singleton,
      accepts_paths, accepts_freeGate]
    · rfl
    · intro he
      simp [he, accepts_allOf, Clause.anyOfFlat, accepts_anyOf]

/-- A membership clause accepts exactly the sources that it admits. -/
theorem accepts_membershipClause :
    Accepts id source (membershipClause user t feature) ↔ Admits user t feature source := by
  have hclause : Accepts id source (membershipClause user t feature) ↔
      Accepts id source (visibleClause user t feature) ∨
        ∃ u, user = some u ∧ ∃ c ∈ memberClauses u t feature, Accepts id source c := by
    refine (accepts_anyOf (decided_membershipParts user feature)).trans ?_
    cases user <;> simp
  rw [hclause, accepts_visibleClause]
  constructor
  · rintro (⟨⟨l, hl, hc⟩, hf⟩ | ⟨u, rfl, h⟩)
    · exact .visible l hl hc hf
    rcases exists_accepts_memberClauses.1 h with ⟨⟨i, hi, hc⟩, hf⟩ | ⟨hu, hf⟩ | ⟨hu, hf, hfree⟩
    · exact .direct u i rfl hi hc hf
    · obtain ⟨g, hg, hv⟩ := under_closed.1 hu
      exact .above u g rfl hg hf fun _ => .inl hv
    · obtain ⟨g, hg⟩ := under_split.1 (.inr hu)
      exact .above u g rfl hg hf fun hn => .inr (hfree hn)
  · rintro (⟨l, hl, hc, hf⟩ | ⟨u, i, rfl, hi, hc, hf⟩ | ⟨u, g, rfl, hg, hf, hfree⟩)
    · exact .inl ⟨⟨l, hl, hc⟩, hf⟩
    · exact .inr ⟨u, rfl, exists_accepts_memberClauses.2 (.inl ⟨⟨i, hi, hc⟩, hf⟩)⟩
    · refine .inr ⟨u, rfl, exists_accepts_memberClauses.2 (.inr ?_)⟩
      rcases under_split.2 ⟨g, hg⟩ with hu | hu
      · exact .inl ⟨hu, hf⟩
      by_cases hv : g.visibility = .priv
      · exact .inl ⟨under_closed.2 ⟨g, hg, hv⟩, hf⟩
      · exact .inr ⟨hu, hf, fun hn => (hfree hn).resolve_left hv⟩

/-- Who is admitted has the source opened to them. -/
theorem Admits.opened (h : Admits user t feature source) : Opened Carries user t feature source := by
  rcases h with ⟨l, hl, hc, hf⟩ | ⟨u, i, rfl, hi, hc, hf⟩ | ⟨u, g, rfl, hg, hf, -⟩
  · cases user with
    | none =>
      obtain rfl := List.mem_singleton.1 hl
      exact .pub hc hf
    | some u =>
      unfold visibleLevels at hl
      dsimp only at hl
      split at hl
      · obtain rfl := List.mem_singleton.1 hl
        exact .pub hc hf
      · rename_i hext
        rcases List.mem_pair.1 hl with rfl | rfl
        · exact .pub hc hf
        · exact .internal u rfl (Bool.eq_false_iff.2 hext) hc hf
  · refine .member u rfl ?_ hf
    unfold memberIds at hi
    unfold DocType.membershipField at hc
    by_cases ht : t.scope = .group
    · rw [if_pos ht] at hi hc
      obtain ⟨g, hg, rfl⟩ := List.mem_map.1 hi
      obtain ⟨hg, hrole⟩ := List.mem_filter.1 hg
      exact .group g ht hg hrole hc
    · rw [if_neg ht] at hi hc
      obtain ⟨p, hp, hrole, rfl⟩ := mem_memberProjects.1 hi
      exact .project p ht hp hrole hc
  · exact .member u rfl (.above g hg.mem hg.role hg.path hg.under) hf

/-! ## Readers -/

/-- The clauses of those who read confidential documents accept what the policy lets them read. -/
theorem exists_accepts_readerClauses :
    (∃ c ∈ readerClauses u t, Accepts id source c) ↔ Reader Carries u t source := by
  have hprojects : (∃ c ∈ (if (if t.scope = .project then memberProjects u .reporter else []).isEmpty
      then [] else [Clause.terms "project_id" ((if t.scope = .project then memberProjects u .reporter
        else []).map Json.ofUInt64)]), Accepts id source c) ↔
      t.scope = .project ∧ ∃ i ∈ memberProjects u .reporter, CarriesId source "project_id" i := by
    rw [exists_accepts_unless_empty, accepts_terms_map]
    · by_cases ht : t.scope = .project <;> simp [ht]
    · intro he
      simp [he, accepts_terms]
  unfold readerClauses
  simp only [List.mem_append, or_and_right, exists_or]
  rw [hprojects, exists_accepts_pathClause, (minimalPaths_reduces _).under_iff]
  simp only [List.mem_cons, List.not_mem_nil, or_false, or_and_right, exists_or, exists_eq_left,
    accepts_term_iff]
  constructor
  · rintro (((h | h) | ⟨ht, i, hi, h⟩) | ⟨_, hp, h⟩)
    · exact .author h
    · exact .assignee h
    · obtain ⟨p, hp, hrole, rfl⟩ := mem_memberProjects.1 hi
      exact .project p ht hp hrole h
    · obtain ⟨g, hg, rfl⟩ := List.mem_map.1 hp
      obtain ⟨hg, hrole⟩ := List.mem_filter.1 hg
      exact .above g hg hrole h
  · rintro (h | h | ⟨p, ht, hp, hrole, h⟩ | ⟨g, hg, hrole, h⟩)
    · exact .inl (.inl (.inl h))
    · exact .inl (.inl (.inr h))
    · exact .inl (.inr ⟨ht, p.projectId, mem_memberProjects.2 ⟨p, hp, hrole, rfl⟩, h⟩)
    · exact .inr ⟨g.traversalIds, List.mem_map_of_mem (List.mem_filter.2 ⟨hg, hrole⟩), h⟩

/-! ## The rules -/

/-- One of the features named, or no feature when none is named. -/
theorem exists_featureChoices {p : Option Feature → Prop} : (∃ f ∈ featureChoices o, p f) ↔
    (∃ f ∈ o.features, p (some f)) ∨ (o.features = [] ∧ p none) := by
  unfold featureChoices
  cases o.features <;> simp

/-- The filter of membership accepts what is admitted for one of the features. -/
theorem accepts_membershipFilter :
    Accepts id source (.anyOfFlat ((featureChoices o).map (membershipClause o.currentUser t))) ↔
      ∃ feature ∈ featureChoices o, Admits o.currentUser t feature source := by
  rw [accepts_anyOfFlat (decided_membershipClauses o)]
  simp only [List.mem_map, exists_exists_and_eq_and, accepts_membershipClause]

/-- What the rule of membership asks of a source: nothing for an administrator, and otherwise to be
admitted for one of the features, or without one when none is named. -/
theorem accepts_byMembership : Accepts id source (byMembership .empty o t).queryClause ↔
    (o.isAdmin = false → ∃ feature ∈ featureChoices o, Admits o.currentUser t feature source) := by
  unfold byMembership
  by_cases ha : o.isAdmin = true
  · rw [if_pos ha, ha]
    exact ⟨fun _ h => (by cases h), fun _ => QueryDocument.Plain.accepts_empty⟩
  · rw [if_neg ha, QueryDocument.Plain.empty.accepts_filter, accepts_membershipFilter]
    rw [Bool.not_eq_true] at ha
    simp only [ha, true_imp_iff]
    exact and_iff_right QueryDocument.Plain.accepts_empty

/-- What the rule of archived documents asks of a source. -/
theorem accepts_byArchived : Accepts id source (Facets.byArchived .empty o).queryClause ↔
    (o.includeArchived = false →
      Carries source "archived" (.bool false) ∨ fieldValue source "archived" = none) := by
  have hempty : Accepts id source QueryDocument.empty.queryClause := QueryDocument.Plain.accepts_empty
  unfold Facets.byArchived
  by_cases hi : o.includeArchived = true
  · simpa [hi] using hempty
  · rw [if_neg hi, QueryDocument.Plain.empty.accepts_filter, accepts_anyOf Facets.decided_archivedParts]
    simp [hempty, hi, accepts_term_iff, accepts_not]

theorem accepts_confidentialClause : Accepts id source (.anyOf [.term "confidential" (.bool false),
      .allOf [.term "confidential" (.bool true), .anyOf (readerClauses u t)]]) ↔
    Carries source "confidential" (.bool false) ∨
      (Carries source "confidential" (.bool true) ∧ Reader Carries u t source) := by
  have hreader : Accepts id source (.allOf [.term "confidential" (.bool true), .anyOf (readerClauses u t)]) ↔
      Carries source "confidential" (.bool true) ∧ Reader Carries u t source := by
    rw [accepts_allOf, List.forall_mem_cons, List.forall_mem_singleton, accepts_term_iff,
      accepts_anyOf fun c hc => decided_readerClauses hc, exists_accepts_readerClauses]
  rw [accepts_anyOf (decided_confidentialParts u t)]
  simp only [List.mem_cons, List.not_mem_nil, or_false, exists_eq_or_imp, exists_eq_left, hreader,
    accepts_term_iff]

/-- What the rule of confidential documents asks of a source. -/
theorem accepts_byConfidentiality :
    Accepts id source (byConfidentiality .empty o t).queryClause ↔
      (t.hasConfidentiality = true → Carries source "confidential" (.bool false) ∨
        ∃ u, o.currentUser = some u ∧ (u.canReadAllResources = true ∨ u.canReadAllConfidential = true ∨
          (Carries source "confidential" (.bool true) ∧ Reader Carries u t source))) := by
  have hempty : Accepts id source QueryDocument.empty.queryClause := QueryDocument.Plain.accepts_empty
  unfold byConfidentiality
  by_cases ht : t.hasConfidentiality = true
  swap
  · simpa [ht] using hempty
  rw [ht]
  cases o.currentUser with
  | none => simp [QueryDocument.Plain.empty.accepts_filter, accepts_term_iff, hempty]
  | some u =>
    simp only [Bool.not_true, Bool.false_eq_true, if_false, true_imp_iff, Option.some.injEq,
      exists_eq_left']
    by_cases hall : (u.canReadAllResources || u.canReadAllConfidential) = true
    · rw [if_pos hall]
      rw [Bool.or_eq_true] at hall
      rw [← or_assoc (a := u.canReadAllResources = true)]
      exact ⟨fun _ => .inr (.inl hall), fun _ => hempty⟩
    · rw [if_neg hall, QueryDocument.Plain.empty.accepts_filter, accepts_confidentialClause]
      simp only [Bool.or_eq_true, not_or] at hall
      simp [hempty, hall]

/-- What the rule of hidden documents asks of a source. -/
theorem accepts_byNotHidden : Accepts id source (byNotHidden .empty o t).queryClause ↔
    (t.hasHidden = true → o.isAdmin = false → ¬ Carries source "hidden" (.bool true)) := by
  have hempty : Accepts id source QueryDocument.empty.queryClause := QueryDocument.Plain.accepts_empty
  unfold byNotHidden
  by_cases hno : (!t.hasHidden || o.isAdmin) = true
  · rw [if_pos hno]
    simp only [Bool.or_eq_true, Bool.not_eq_true'] at hno
    refine ⟨fun _ ht ha => ?_, fun _ => hempty⟩
    rcases hno with h | h
    · cases h.symm.trans ht
    · cases ha.symm.trans h
  · rw [if_neg hno, QueryDocument.Plain.empty.accepts_mustNot, (decided_term _ _).outcome_false_iff,
      accepts_term_iff, and_iff_right hempty]
    rw [Bool.not_eq_true, Bool.or_eq_false_iff, Bool.not_eq_false'] at hno
    exact ⟨fun h _ _ => h, fun h => h hno.1 hno.2⟩

end TenantSearch.Access
