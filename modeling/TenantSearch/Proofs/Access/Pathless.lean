/-
Memberships in groups without a path. A request may name a group whose path is empty, and the indexed
form of the empty path begins that of every other one. The scope of a search refuses such a path and the
rule of membership leaves it out. The rule of confidential documents does neither: a reporter of a group
without a path reads every confidential document that lies in some group. Apart from that, such a
membership changes nothing in what is found among documents of projects.
-/
import TenantSearch.Proofs.Access.Privilege

namespace TenantSearch

open Index

/-- A user without the memberships that have no path. -/
def CurrentUser.withPaths (u : CurrentUser) : CurrentUser :=
  { u with groups := u.groups.filter fun g => !g.traversalIds.isEmpty }

/-- A user who reads all that is confidential. -/
def CurrentUser.trusted (u : CurrentUser) : CurrentUser := { u with canReadAllConfidential := true }

namespace SearchOptions

/-- The same request without the memberships that have no path. -/
def withPaths (o : SearchOptions) : SearchOptions :=
  o.actingAs (o.currentUser.map CurrentUser.withPaths)

/-- The same request by a user who reads all that is confidential. -/
def trusted (o : SearchOptions) : SearchOptions :=
  o.actingAs (o.currentUser.map CurrentUser.trusted)

end SearchOptions

/-- The user of a request is at least a reporter of a group without a path. -/
def ReportsNowhere (o : SearchOptions) : Prop :=
  ∃ u, o.currentUser = some u ∧ ∃ g ∈ u.groups, g.accessLevel.atLeast .reporter = true ∧
    g.traversalIds = []

namespace Access

variable {o : SearchOptions} {t : DocType} {u : CurrentUser} {d : QueryDocument}
variable {id : String} {source : Json} {role : AccessLevel} {feature : Option Feature}

/-- A source lies in some group. -/
abbrev InSomeGroup (source : Json) : Prop := ∃ s, .str s ∈ fieldValues source "traversal_ids"

theorem under_nil : Under source [] ↔ InSomeGroup source := by
  unfold Under
  rw [traversalPath_nil]
  simp

/-! ## Paths of the three rules -/

/-- The empty path is never left out for another one. -/
theorem nil_mem_minimalPaths {paths : List Path} : [] ∈ minimalPaths paths ↔ [] ∈ paths := by
  rw [(minimalPaths_reduces paths).mem_iff]
  simp

theorem nil_not_mem_scope {paths : List Path} (h : o.groupIds.mapM (groupPath o) = .ok paths) :
    [] ∉ paths := by
  intro hnil
  obtain ⟨g, -, hg⟩ := exists_of_mem_mapM h hnil
  exact (groupPath_eq_ok hg).2 rfl

/-- The empty path reaches neither list of the rule of membership. -/
theorem nil_not_mem_splitPaths (groups : List GroupMembership) (role : AccessLevel) :
    [] ∉ (splitPaths groups role).1 ∧ [] ∉ (splitPaths groups role).2 := by
  have hsplit := splitPaths_split groups role
  constructor
  · intro h
    obtain ⟨g, hg, -, hnil⟩ := hsplit.ofClosed _ h
    exact hg.path hnil
  · intro h
    obtain ⟨g, hg, -, hnil⟩ := hsplit.ofFree _ h
    exact hg.path hnil

theorem pathClause_eq_nil {path : Path} : pathClause path = pathClause [] ↔ path = [] := by
  refine ⟨fun h => ?_, congrArg pathClause⟩
  have htext : traversalPath path = traversalPath [] := by
    simpa [pathClause, Clause.startsWith] using h
  exact List.prefix_nil.1 (traversalPath_prefix_iff.1 (htext ▸ List.prefix_rfl))

/-- It does reach the clauses of readers. -/
theorem pathClause_nil_mem_readerClauses : pathClause [] ∈ readerClauses u t ↔
    ∃ g ∈ u.groups, g.accessLevel.atLeast .reporter = true ∧ g.traversalIds = [] := by
  have hothers : ∀ ids : List Id, pathClause [] ∉
      [.term "author_id" (.ofUInt64 u.id), .term "assignee_id" (.ofUInt64 u.id)] ++
        if ids.isEmpty then [] else [Clause.terms "project_id" (ids.map Json.ofUInt64)] := by
    intro ids
    split <;> simp [pathClause, Clause.startsWith, Clause.term, Clause.terms]
  unfold readerClauses
  rw [List.mem_append, or_iff_right (hothers _), List.mem_map]
  simp only [pathClause_eq_nil, exists_eq_right, nil_mem_minimalPaths, List.mem_map, List.mem_filter,
    and_assoc]

/-! ## Membership -/

theorem splitPaths_withPaths (u : CurrentUser) (role : AccessLevel) :
    splitPaths u.withPaths.groups role = splitPaths u.groups role := by
  unfold splitPaths CurrentUser.withPaths
  simp only [List.filter_filter, Bool.and_assoc, Bool.and_self]

theorem memberClauses_withPaths (ht : t.scope = .project) :
    memberClauses u.withPaths t feature = memberClauses u t feature := by
  have hids : ∀ role, memberIds u.withPaths t role = memberIds u t role := by
    intro role
    unfold memberIds
    rw [ht]
    rfl
  unfold memberClauses
  simp only [splitPaths_withPaths, hids]
  rfl

theorem isAdmin_withPaths (o : SearchOptions) : o.withPaths.isAdmin = o.isAdmin := by
  unfold SearchOptions.isAdmin SearchOptions.withPaths SearchOptions.actingAs
  cases o.currentUser <;> rfl

/-- For documents of projects the rule of membership compiles to the same clauses. -/
theorem byMembership_withPaths (ht : t.scope = .project) (d : QueryDocument) :
    byMembership d o.withPaths t = byMembership d o t := by
  have hclause : membershipClause o.withPaths.currentUser t = membershipClause o.currentUser t := by
    funext feature
    unfold membershipClause SearchOptions.withPaths SearchOptions.actingAs
    cases o.currentUser with
    | none => rfl
    | some u =>
      dsimp only [Option.map_some]
      rw [memberClauses_withPaths ht]
      rfl
  have hfeatures : featureChoices o.withPaths = featureChoices o := rfl
  unfold byMembership
  rw [isAdmin_withPaths, hclause, hfeatures]

/-! ## Confidential documents -/

/-- The memberships without a path make a reader of what lies in some group, once the role is enough. -/
theorem reader_iff_withPaths : Reader Carries u t source ↔ Reader Carries u.withPaths t source ∨
    ((∃ g ∈ u.groups, g.accessLevel.atLeast .reporter = true ∧ g.traversalIds = []) ∧
      InSomeGroup source) := by
  constructor
  · rintro (h | h | ⟨p, ht, hp, hrole, h⟩ | ⟨g, hg, hrole, h⟩)
    · exact .inl (.author h)
    · exact .inl (.assignee h)
    · exact .inl (.project p ht hp hrole h)
    · by_cases hnil : g.traversalIds = []
      · exact .inr ⟨⟨g, hg, hrole, hnil⟩, under_nil.1 (hnil ▸ h)⟩
      · exact .inl (.above g (List.mem_filter.2 ⟨hg, by simpa using hnil⟩) hrole h)
  · rintro ((h | h | ⟨p, ht, hp, hrole, h⟩ | ⟨g, hg, hrole, h⟩) | ⟨⟨g, hg, hrole, hnil⟩, h⟩)
    · exact .author h
    · exact .assignee h
    · exact .project p ht hp hrole h
    · exact .above g (List.mem_filter.1 hg).1 hrole h
    · exact .above g hg hrole (hnil ▸ under_nil.2 h)

theorem accepts_byConfidentiality_withPaths :
    Accepts id source (byConfidentiality .empty o t).queryClause ↔
      Accepts id source (byConfidentiality .empty o.withPaths t).queryClause ∨
        (ReportsNowhere o ∧ Carries source "confidential" (.bool true) ∧ InSomeGroup source) := by
  unfold ReportsNowhere SearchOptions.withPaths SearchOptions.actingAs
  rw [accepts_byConfidentiality, accepts_byConfidentiality]
  cases o.currentUser with
  | none => simp
  | some u =>
    simp only [Option.map_some, Option.some.injEq, exists_eq_left', reader_iff_withPaths (u := u)]
    have hsame : u.withPaths.canReadAllResources = u.canReadAllResources ∧
        u.withPaths.canReadAllConfidential = u.canReadAllConfidential := ⟨rfl, rfl⟩
    rw [hsame.1, hsame.2]
    tauto

theorem accepts_byConfidentiality_trusted (hu : o.currentUser.isSome = true) :
    Accepts id source (byConfidentiality .empty o.trusted t).queryClause := by
  obtain ⟨u, hu⟩ := Option.isSome_iff_exists.1 hu
  rw [accepts_byConfidentiality]
  refine fun _ => .inr ⟨u.trusted, ?_, .inr (.inl rfl)⟩
  unfold SearchOptions.trusted SearchOptions.actingAs
  rw [hu]
  rfl

theorem byMembership_trusted (d : QueryDocument) :
    byMembership d o.trusted t = byMembership d o t := by
  unfold byMembership featureChoices SearchOptions.isAdmin SearchOptions.trusted SearchOptions.actingAs
  cases o.currentUser <;> rfl

theorem byNotHidden_trusted (d : QueryDocument) : byNotHidden d o.trusted t = byNotHidden d o t := by
  unfold byNotHidden SearchOptions.isAdmin SearchOptions.trusted SearchOptions.actingAs
  cases o.currentUser <;> rfl

/-! ## Whole requests -/

theorem crossProjectDenied_withPaths (o : SearchOptions) :
    crossProjectDenied o.withPaths = crossProjectDenied o := by
  unfold crossProjectDenied SearchOptions.withPaths SearchOptions.actingAs
  cases o.currentUser <;> rfl

theorem crossProjectDenied_trusted (o : SearchOptions) :
    crossProjectDenied o.trusted = crossProjectDenied o := by
  unfold crossProjectDenied SearchOptions.trusted SearchOptions.actingAs
  cases o.currentUser <;> rfl

/-- The rules compile for whoever is denied as the user of a request is. -/
theorem exists_apply_actingAs {user : Option CurrentUser} (ha : apply .empty o t = .ok d)
    (hd : crossProjectDenied (o.actingAs user) = crossProjectDenied o) :
    ∃ d', apply .empty (o.actingAs user) t = .ok d' := by
  rcases apply_cases ha with ⟨hs, -⟩ | ⟨hs, hdenied, -⟩ | ⟨hs, hopen, level, scope, hl, hscope, -⟩
  · unfold apply
    rw [hs]
    exact ⟨_, rfl⟩
  · unfold apply
    rw [hs, hd, hdenied]
    exact ⟨_, rfl⟩
  · have hscope' : bySearchLevel .empty (o.actingAs user) t = .ok scope := hscope
    rw [apply_eq hs (o := o.actingAs user) hl (hd.trans hopen), hscope']
    exact ⟨_, rfl⟩

/-- What is denied finds nothing. -/
theorem not_accepts_denied (ha : apply .empty o t = .ok d) (hs : t.isScoped = true)
    (hd : crossProjectDenied o = .ok true) : ¬ Accepts id source d.queryClause := by
  rcases apply_cases ha with ⟨hno, -⟩ | ⟨-, -, rfl⟩ | ⟨-, hopen, -⟩
  · rw [hs] at hno; cases hno
  · exact QueryDocument.not_accepts_matchNone
  · rw [hd] at hopen; cases hopen

/-- Without the memberships that have no path a request finds what it found, apart from confidential
documents that lie in some group, when one of these memberships is that of a reporter. -/
theorem accepts_apply_withPaths {d' e : QueryDocument} (ht : t.scope = .project)
    (ha : apply .empty o t = .ok d) (ha' : apply .empty o.withPaths t = .ok d')
    (he : apply .empty o.trusted t = .ok e) : Accepts id source d.queryClause ↔
      Accepts id source d'.queryClause ∨ (ReportsNowhere o ∧ Carries source "confidential" (.bool true) ∧
        InSomeGroup source ∧ Accepts id source e.queryClause) := by
  have hs : t.isScoped = true := by
    unfold DocType.isScoped
    rw [ht]
    rfl
  have hd' := crossProjectDenied_withPaths o
  have hde := crossProjectDenied_trusted o
  rcases apply_cases ha with ⟨hno, -⟩ | ⟨-, hd, -⟩ | ⟨-, hd, -⟩
  · rw [hs] at hno; cases hno
  · refine iff_of_false (not_accepts_denied ha hs hd) ?_
    rintro (h | ⟨-, -, -, h⟩)
    · exact not_accepts_denied ha' hs (hd'.trans hd) h
    · exact not_accepts_denied he hs (hde.trans hd) h
  have hhidden : byNotHidden .empty o.withPaths t = byNotHidden .empty o t := by
    unfold byNotHidden
    rw [isAdmin_withPaths]
  have htrusted : ReportsNowhere o →
      Accepts id source (byConfidentiality .empty o.trusted t).queryClause := by
    rintro ⟨u, hu, -⟩
    exact accepts_byConfidentiality_trusted (Option.isSome_of_mem hu)
  rw [accepts_apply_iff ha hs hd, accepts_apply_iff ha' hs (hd'.trans hd),
    accepts_apply_iff he hs (hde.trans hd), byMembership_withPaths ht, hhidden, byMembership_trusted,
    byNotHidden_trusted, accepts_byConfidentiality_withPaths (o := o)]
  constructor
  · rintro ⟨hin, hmember, hopen | ⟨hr, hc, hg⟩, hnot⟩
    · exact .inl ⟨hin, hmember, hopen, hnot⟩
    · exact .inr ⟨hr, hc, hg, hin, hmember, htrusted hr, hnot⟩
  · rintro (⟨hin, hmember, hopen, hnot⟩ | ⟨hr, hc, hg, hin, hmember, -, hnot⟩)
    · exact ⟨hin, hmember, .inl hopen, hnot⟩
    · exact ⟨hin, hmember, .inr ⟨hr, hc, hg⟩, hnot⟩

/-- Memberships without a path in a search for documents of projects. Scope and membership have no use
for an empty path. The clauses of readers have it as soon as the user reports in a group without a path,
and then the search finds, beyond what it finds without such memberships, the confidential documents
that lie in some group and that the user would find if trusted with all that is confidential. -/
theorem apply_withPaths (ht : t.scope = .project) (ha : apply .empty o t = .ok d) :
    (∀ paths, o.groupIds.mapM (groupPath o) = .ok paths → [] ∉ paths) ∧
    (∀ u, o.currentUser = some u →
      (∀ role, [] ∉ (splitPaths u.groups role).1 ∧ [] ∉ (splitPaths u.groups role).2) ∧
        (pathClause [] ∈ readerClauses u t ↔ ReportsNowhere o)) ∧
    ∃ d' e, apply .empty o.withPaths t = .ok d' ∧ apply .empty o.trusted t = .ok e ∧
      ∀ id source, Accepts id source d.queryClause ↔ Accepts id source d'.queryClause ∨
        (ReportsNowhere o ∧ Carries source "confidential" (.bool true) ∧ InSomeGroup source ∧
          Accepts id source e.queryClause) := by
  refine ⟨fun _ => nil_not_mem_scope, fun u hu => ⟨nil_not_mem_splitPaths u.groups, ?_⟩, ?_⟩
  · rw [pathClause_nil_mem_readerClauses]
    simp [ReportsNowhere, hu]
  · obtain ⟨d', ha'⟩ := exists_apply_actingAs ha (crossProjectDenied_withPaths o)
    obtain ⟨e, he⟩ := exists_apply_actingAs ha (crossProjectDenied_trusted o)
    exact ⟨d', e, ha', he, fun _ _ => accepts_apply_withPaths ht ha ha' he⟩

/-- A search for issues everywhere by a reporter of a group without a path. -/
def pathlessSearch : SearchOptions :=
  { docType := some .issue, searchLevel := some .global
    currentUser := some { id := 5, groups := [⟨2, [], .internal, .reporter⟩] } }

/-- A confidential issue of a group in which that user has no role. -/
def foreignIssue : Json :=
  .obj [("type", .str "issue"), ("visibility_level", .ofUInt32 20),
    ("traversal_ids", .str "9-"), ("confidential", .bool true)]

theorem apply_withPaths_foreignIssue : ∃ d d', apply .empty pathlessSearch .issue = .ok d ∧
    apply .empty pathlessSearch.withPaths .issue = .ok d' ∧
    (Accepts "1" foreignIssue d.queryClause ↔ Accepts "1" foreignIssue d'.queryClause ∨
      (ReportsNowhere pathlessSearch ∧ Carries foreignIssue "confidential" (.bool true) ∧
        InSomeGroup foreignIssue)) := by
  obtain ⟨d, hd⟩ : ∃ d, apply .empty pathlessSearch .issue = .ok d := ⟨_, rfl⟩
  obtain ⟨-, -, d', e, hd', he, h⟩ := apply_withPaths (t := .issue) rfl hd
  have htrusted : Accepts "1" foreignIssue e.queryClause := by
    cases he
    decide +kernel
  refine ⟨d, d', hd, hd', ?_⟩
  rw [h "1" foreignIssue]
  simp only [htrusted, and_true]

/-- A membership without a path does grant something: without it the issue is not found. -/
theorem pathless_grants : ∃ d d', apply .empty pathlessSearch .issue = .ok d ∧
    apply .empty pathlessSearch.withPaths .issue = .ok d' ∧
    Accepts "1" foreignIssue d.queryClause ∧ ¬ Accepts "1" foreignIssue d'.queryClause := by
  refine ⟨_, _, rfl, rfl, ?_, ?_⟩ <;> decide +kernel

end Access

end TenantSearch
