/-
More privilege never hides a document. A user with at least the rights of another one, or any user who
reads across projects compared with nobody, finds every source that the other finds. The clauses of the
two do not compare one by one: a further private group takes paths out of the list of the other groups,
and a user who is no longer external is asked for fewer visibilities below a group. The sources that the
rules ask for do compare, rule by rule.
-/
import TenantSearch.Proofs.Access.Rules

namespace TenantSearch

open Index

/-- A user with at least the rights of another one: the same user, no right taken away, and every
membership kept where it is with at least its role. -/
structure CurrentUser.AtLeast (u' u : CurrentUser) : Prop where
  id : u'.id = u.id
  external : u'.external = true → u.external = true
  resources : u.canReadAllResources = true → u'.canReadAllResources = true
  confidential : u.canReadAllConfidential = true → u'.canReadAllConfidential = true
  crossProject : u.canReadCrossProject = true → u'.canReadCrossProject = true
  projects : ∀ p ∈ u.projects, ∃ p' ∈ u'.projects, p'.projectId = p.projectId ∧
    p'.accessLevel.atLeast p.accessLevel = true
  groups : ∀ g ∈ u.groups, ∃ g' ∈ u'.groups, g'.groupId = g.groupId ∧
    g'.traversalIds = g.traversalIds ∧ g'.visibility = g.visibility ∧
    g'.accessLevel.atLeast g.accessLevel = true

/-- Who acts with at least the privilege of somebody: a user with at least the rights, and any user
who reads across projects in place of nobody. -/
inductive Privileged : Option CurrentUser → Option CurrentUser → Prop where
  | anonymous (u : CurrentUser) : u.canReadCrossProject = true → Privileged (some u) none
  | user (u' u : CurrentUser) : u'.AtLeast u → Privileged (some u') (some u)

/-- A request as another user makes it. -/
def SearchOptions.actingAs (o : SearchOptions) (user : Option CurrentUser) : SearchOptions :=
  { o with currentUser := user }

namespace Access

variable {u u' : CurrentUser} {user user' : Option CurrentUser} {t : DocType} {role : AccessLevel}
variable {feature : Option Feature} {o : SearchOptions} {s : CompileSettings} {d d' : QueryDocument}
variable {id : String} {source : Json}

/-! ## Rights and memberships -/

theorem atLeast_trans {a b c : AccessLevel} (h : a.atLeast b = true) (h' : b.atLeast c = true) :
    a.atLeast c = true := by
  unfold AccessLevel.atLeast at *
  simp only [decide_eq_true_eq] at *
  omega

theorem visibleLevels_mono (h : Privileged user' user) : visibleLevels user ⊆ visibleLevels user' := by
  unfold visibleLevels
  rcases h with ⟨u', -⟩ | ⟨u', u, h⟩
  · cases hu' : u'.external <;> simp [hu']
  · cases hu' : u'.external with
    | true => simp [hu', h.external hu']
    | false => cases hu : u.external <;> simp [hu, hu']

theorem memberProjects_mono (h : u'.AtLeast u) : memberProjects u role ⊆ memberProjects u' role := by
  intro i hi
  obtain ⟨p, hp, hrole, rfl⟩ := mem_memberProjects.1 hi
  obtain ⟨p', hp', hid, hlevel⟩ := h.projects p hp
  exact mem_memberProjects.2 ⟨p', hp', atLeast_trans hlevel hrole, hid⟩

theorem memberIds_mono (h : u'.AtLeast u) : memberIds u t role ⊆ memberIds u' t role := by
  unfold memberIds
  split
  · intro i hi
    obtain ⟨g, hg, rfl⟩ := List.mem_map.1 hi
    obtain ⟨hg, hrole⟩ := List.mem_filter.1 hg
    obtain ⟨g', hg', hid, -, -, hlevel⟩ := h.groups g hg
    exact List.mem_map.2 ⟨g', List.mem_filter.2 ⟨hg', atLeast_trans hlevel hrole⟩, hid⟩
  · exact memberProjects_mono h

/-- A group above a source stays one, and a private one stays private. -/
theorem Above.mono {g : GroupMembership} (h : u'.AtLeast u) (hg : Above u role source g) :
    ∃ g', Above u' role source g' ∧ g'.visibility = g.visibility := by
  obtain ⟨hmem, hrole, hpath, hunder⟩ := hg
  obtain ⟨g', hg', -, hids, hv, hlevel⟩ := h.groups g hmem
  exact ⟨g', ⟨hg', atLeast_trans hlevel hrole, hids ▸ hpath, hids ▸ hunder⟩, hv⟩

/-! ## The rules -/

theorem Admits.mono (hp : Privileged user' user) (h : Admits user t feature source) :
    Admits user' t feature source := by
  rcases h with ⟨l, hl, hc, hf⟩ | ⟨u, i, rfl, hi, hc, hf⟩ | ⟨u, g, rfl, hg, hf, hfree⟩
  · exact .visible l (visibleLevels_mono hp hl) hc hf
  · obtain - | ⟨u', _, h⟩ := hp
    exact .direct u' i rfl (memberIds_mono h hi) hc hf
  · have hp' := hp
    obtain - | ⟨u', _, h⟩ := hp'
    obtain ⟨g', hg', hv⟩ := hg.mono h
    by_cases hn : feature = none ∧ g.visibility ≠ .priv
    · obtain ⟨rfl, hpriv⟩ := hn
      obtain ⟨l, hl, hc⟩ := (hfree rfl).resolve_left hpriv
      -- a visibility that was not open to the one may be open to the other, who needs no group then
      by_cases hl' : l ∈ visibleLevels (some u')
      · exact .visible l hl' hc trivial
      · exact .above u' g' rfl hg' hf fun _ => .inr ⟨l, hl', hc⟩
    · refine .above u' g' rfl hg' hf fun hn' => .inl ?_
      rw [hv]
      by_contra hpriv
      exact hn ⟨hn', hpriv⟩

theorem Reader.mono (hp : u'.AtLeast u) (h : Reader Carries u t source) : Reader Carries u' t source := by
  rcases h with h | h | ⟨p, ht, hmem, hrole, h⟩ | ⟨g, hmem, hrole, h⟩
  · exact .author (hp.id ▸ h)
  · exact .assignee (hp.id ▸ h)
  · obtain ⟨p', hp', hid, hlevel⟩ := hp.projects p hmem
    exact .project p' ht hp' (atLeast_trans hlevel hrole) (hid ▸ h)
  · obtain ⟨g', hg', -, hids, -, hlevel⟩ := hp.groups g hmem
    exact .above g' hg' (atLeast_trans hlevel hrole) (hids ▸ h)

theorem isAdmin_mono (hp : Privileged user' user) (h : (o.actingAs user').isAdmin = false) :
    (o.actingAs user).isAdmin = false := by
  rcases hp with - | ⟨u', u, hp⟩
  · rfl
  · rw [Bool.eq_false_iff] at h ⊢
    exact fun hadmin => h (hp.resources hadmin)

/-- Searching above projects is not denied to the more privileged unless it is to the other. -/
theorem crossProjectDenied_mono (hp : Privileged user' user)
    (h : crossProjectDenied (o.actingAs user) = .ok false) :
    crossProjectDenied (o.actingAs user') = .ok false := by
  obtain ⟨level, hl, h⟩ := bind_eq_ok.1 h
  refine bind_eq_ok.2 ⟨level, hl, ?_⟩
  cases level with
  | project => rfl
  | global | group =>
    have hno : (user.any fun u => !u.canReadCrossProject) = false := Except.ok.inj h
    refine congrArg Except.ok ?_
    show (user'.any fun u => !u.canReadCrossProject) = false
    rcases hp with ⟨u', hcross⟩ | ⟨u', u, hp⟩
    · simpa using hcross
    · simp only [Option.any_some, Bool.not_eq_false'] at hno ⊢
      exact hp.crossProject hno

theorem byMembership_mono (hp : Privileged user' user)
    (h : Accepts id source (byMembership .empty (o.actingAs user) t).queryClause) :
    Accepts id source (byMembership .empty (o.actingAs user') t).queryClause := by
  rw [accepts_byMembership] at h ⊢
  intro ha
  obtain ⟨feature, hf, hadmits⟩ := h (isAdmin_mono hp ha)
  exact ⟨feature, hf, hadmits.mono hp⟩

theorem byConfidentiality_mono (hp : Privileged user' user)
    (h : Accepts id source (byConfidentiality .empty (o.actingAs user) t).queryClause) :
    Accepts id source (byConfidentiality .empty (o.actingAs user') t).queryClause := by
  rw [accepts_byConfidentiality] at h ⊢
  intro ht
  obtain hopen | ⟨u, hu, hreads⟩ := h ht
  · exact .inl hopen
  cases hu
  obtain - | ⟨u', _, hp⟩ := hp
  refine .inr ⟨u', rfl, ?_⟩
  rcases hreads with hall | hall | ⟨hc, hreader⟩
  · exact .inl (hp.resources hall)
  · exact .inr (.inl (hp.confidential hall))
  · exact .inr (.inr ⟨hc, hreader.mono hp⟩)

theorem byNotHidden_mono (hp : Privileged user' user)
    (h : Accepts id source (byNotHidden .empty (o.actingAs user) t).queryClause) :
    Accepts id source (byNotHidden .empty (o.actingAs user') t).queryClause := by
  rw [accepts_byNotHidden] at h ⊢
  exact fun ht ha => h ht (isAdmin_mono hp ha)

/-! ## Requests -/

/-- A source lies where a search looks, and is not left out as archived. Neither depends on who acts. -/
def InPlace (o : SearchOptions) (t : DocType) (id : String) (source : Json) : Prop :=
  ∃ level scope, o.searchLevel = some level ∧ bySearchLevel .empty o t = .ok scope ∧
    Accepts id source scope.queryClause ∧ ((level ≠ .project && t.hasArchived) = true →
      Accepts id source (Facets.byArchived .empty o).queryClause)

theorem accepts_apply_iff (ha : apply .empty o t = .ok d) (hs : t.isScoped = true)
    (hd : crossProjectDenied o = .ok false) : Accepts id source d.queryClause ↔
      InPlace o t id source ∧ Accepts id source (byMembership .empty o t).queryClause ∧
        Accepts id source (byConfidentiality .empty o t).queryClause ∧
        Accepts id source (byNotHidden .empty o t).queryClause := by
  obtain ⟨level, scope, hl, hscope, hacc⟩ := accepts_apply ha hs hd
  have hplace : InPlace o t id source ↔ Accepts id source scope.queryClause ∧
      ((level ≠ .project && t.hasArchived) = true →
        Accepts id source (Facets.byArchived .empty o).queryClause) := by
    refine ⟨?_, fun h => ⟨level, scope, hl, hscope, h⟩⟩
    rintro ⟨level', scope', hl', hscope', h⟩
    obtain rfl : level = level' := Option.some.inj (hl.symm.trans hl')
    obtain rfl : scope = scope' := Except.ok.inj (hscope.symm.trans hscope')
    exact h
  rw [hacc, hplace]
  constructor
  · rintro ⟨hin, hmember, harchived, hopen, hnot⟩
    exact ⟨⟨hin, harchived⟩, hmember, hopen, hnot⟩
  · rintro ⟨⟨hin, harchived⟩, hmember, hopen, hnot⟩
    exact ⟨hin, hmember, harchived, hopen, hnot⟩

theorem apply_mono {access access' : QueryDocument} (hp : Privileged user' user)
    (ha : apply .empty (o.actingAs user) t = .ok access)
    (ha' : apply .empty (o.actingAs user') t = .ok access')
    (hd : t.isScoped = true → crossProjectDenied (o.actingAs user) = .ok false)
    (h : Accepts id source access.queryClause) : Accepts id source access'.queryClause := by
  by_cases hs : t.isScoped = true
  · -- where a search looks is the same for everybody
    obtain ⟨hin, hmember, hconfidential, hhidden⟩ := (accepts_apply_iff ha hs (hd hs)).1 h
    refine (accepts_apply_iff ha' hs (crossProjectDenied_mono hp (hd hs))).2 ⟨hin, ?_, ?_, ?_⟩
    · exact byMembership_mono hp hmember
    · exact byConfidentiality_mono hp hconfidential
    · exact byNotHidden_mono hp hhidden
  · unfold apply at ha ha'
    rw [Bool.not_eq_true] at hs
    rw [hs] at ha ha'
    cases ha
    cases ha'
    exact h

/-- Where both requests can be built, the one with more privilege finds every source that the other
finds. -/
theorem finds_more (hp : Privileged user' user) (hb : (o.actingAs user).build s = .ok d)
    (hb' : (o.actingAs user').build s = .ok d') (id : String) (source : Json)
    (h : Accepts id source d.queryClause) : Accepts id source d'.queryClause := by
  obtain ⟨-, t, ht, -⟩ := SearchOptions.build_eq_ok.1 hb
  rcases SearchOptions.accepts_build hb ht with ⟨-, -, hnone⟩ | ⟨hd, access, facets, ha, hf, hacc⟩
  · exact absurd h (hnone id source)
  rcases SearchOptions.accepts_build hb' ht with ⟨hs, hd', -⟩ | ⟨-, access', facets', ha', hf', hacc'⟩
  · rw [crossProjectDenied_mono hp (hd hs)] at hd'
    cases hd'
  obtain rfl : facets = facets' := Except.ok.inj (hf.symm.trans hf')
  obtain ⟨htext, htype, haccess, hfacets⟩ := (hacc id source).1 h
  exact (hacc' id source).2 ⟨htext, htype, apply_mono hp ha ha' hd haccess, hfacets⟩

/-- A search for the issues of a group. -/
def groupIssues : SearchOptions :=
  { docType := some .issue, searchLevel := some .group, groupIds := [2], groupPaths := [(2, [1, 2])] }

def contractor : CurrentUser :=
  { id := 7, external := true, groups := [⟨2, [1, 2], .internal, .guest⟩] }

/-- The same user inside the organisation, with a role in a private group above the other one. -/
def employee : CurrentUser :=
  { id := 7, groups := [⟨1, [1], .priv, .guest⟩, ⟨2, [1, 2], .internal, .reporter⟩] }

/-- An issue that the contractor finds through the group, and the employee by its visibility. -/
def internalIssue : Json :=
  .obj [("type", .str "issue"), ("visibility_level", .int ⟨10, by decide⟩),
    ("traversal_ids", .str "1-2-"), ("confidential", .bool false)]

theorem employee_atLeast : employee.AtLeast contractor :=
  ⟨rfl, by decide, by decide, by decide, by decide, by decide, by decide⟩

theorem finds_more_employee : ∃ d d', (groupIssues.actingAs (some contractor)).build {} = .ok d ∧
    (groupIssues.actingAs (some employee)).build {} = .ok d' ∧
    Accepts "1" internalIssue d.queryClause ∧ Accepts "1" internalIssue d'.queryClause := by
  obtain ⟨d, hd⟩ : ∃ d, (groupIssues.actingAs (some contractor)).build {} = .ok d := ⟨_, rfl⟩
  obtain ⟨d', hd'⟩ : ∃ d', (groupIssues.actingAs (some employee)).build {} = .ok d' := ⟨_, rfl⟩
  have hfound : Accepts "1" internalIssue d.queryClause := by
    cases hd
    decide +kernel
  exact ⟨d, d', hd, hd', hfound,
    finds_more (.user _ _ employee_atLeast) hd hd' "1" internalIssue hfound⟩

end Access

end TenantSearch
