/-
The rules of membership and of confidential documents on sources as the indexer stores them: one
visibility, ids that doubles keep apart, and the path of the group. There the clauses are exactly the
policy on what is stored, with equal ids and beginnings of paths. Splitting the paths of private groups
from the others, and leaving out the paths below one that is kept, neither lose a source nor add one.
-/
import TenantSearch.Proofs.Access.Rules
import TenantSearch.Proofs.Index.Integers

namespace TenantSearch.Access

open Index

variable {id : String} {source : Json} {user : Option CurrentUser} {u : CurrentUser} {t : DocType}
variable {role : AccessLevel} {feature : Option Feature} {o : SearchOptions}

/-! ## Stored fields -/

/-- A field holds ids, all of which doubles tell apart. -/
structure StoresIds (source : Json) (field : String) (ids : List Id) : Prop where
  values : fieldValues source field = ids.map Json.ofUInt64
  small : ∀ i ∈ ids, i.toNat < 2 ^ 53

/-- A source holds the path of its group, or none. -/
def StoresPath (source : Json) (path : Option Path) : Prop :=
  fieldValue source "traversal_ids" = path.map fun q => .str (traversalPath q)

theorem carriesId_iff_mem {field : String} {ids : List Id} {i : Id} (h : StoresIds source field ids) :
    CarriesId source field i ↔ i ∈ ids := by
  unfold CarriesId Carries
  rw [h.values]
  constructor
  · rintro ⟨x, hx, he⟩
    obtain ⟨j, hj, rfl⟩ := List.mem_map.1 hx
    exact (valuesEqual_ofUInt64 (h.small j hj)).1 he ▸ hj
  · intro hi
    exact ⟨_, List.mem_map_of_mem hi, valuesEqual_ofUInt64_self i⟩

theorem under_iff_path {path : Option Path} {p : Path} (h : StoresPath source path) :
    Under source p ↔ ∃ q, path = some q ∧ p <+: q := by
  cases path with
  | none =>
    have hnone : fieldValues source "traversal_ids" = [] := by
      unfold fieldValues
      rw [show fieldValue source "traversal_ids" = none from h]
    simp [Under, hnone]
  | some q =>
    have hsome : fieldValues source "traversal_ids" = [.str (traversalPath q)] := by
      unfold fieldValues
      rw [show fieldValue source "traversal_ids" = some (.str (traversalPath q)) from h]
    simp [under_iff_ancestor hsome]

theorem carries_visibility {field : String} {level l : Visibility}
    (h : fieldValue source field = some (.ofUInt64 level.stored)) :
    Carries source field (.ofUInt64 l.stored) ↔ level = l := by
  have hlevels : StoresIds source field [level.stored] := by
    refine ⟨?_, ?_⟩
    · unfold fieldValues
      rw [h]
      rfl
    · rw [List.forall_mem_singleton]
      cases level <;> decide
  have hinj : l.stored = level.stored ↔ level = l := by cases l <;> cases level <;> decide
  exact (carriesId_iff_mem hlevels).trans (List.mem_singleton.trans hinj)

theorem carries_bool {field : String} {b : Option Bool} {c : Bool}
    (h : fieldValue source field = b.map Json.bool) :
    Carries source field (.bool c) ↔ b = some c := by
  unfold Carries fieldValues
  rw [h]
  cases b with
  | none => simp
  | some b => simp [valuesEqual_bool]

/-! ## Membership -/

/-- Where a source lies: its visibility, the projects it is of, or the groups for documents of groups,
and the path of its group. -/
structure Place where
  level : Visibility
  owners : List Id
  path : Option Path

/-- A source stores its place in the fields of a type. -/
structure Placed (t : DocType) (source : Json) (p : Place) : Prop where
  level : fieldValue source t.visibilityField = some (.ofUInt64 p.level.stored)
  owners : StoresIds source t.membershipField p.owners
  path : StoresPath source p.path

/-- A user has at least a role in the project of a place, in its group for documents of groups, or in
a group whose path begins that of the place. -/
inductive HasRole (u : CurrentUser) (t : DocType) (role : AccessLevel) (p : Place) : Prop where
  | project (m : ProjectMembership) : t.scope ≠ .group → m ∈ u.projects →
      m.accessLevel.atLeast role → m.projectId ∈ p.owners → HasRole u t role p
  | group (g : GroupMembership) : t.scope = .group → g ∈ u.groups → g.accessLevel.atLeast role →
      g.groupId ∈ p.owners → HasRole u t role p
  | above (g : GroupMembership) (q : Path) : g ∈ u.groups → g.accessLevel.atLeast role →
      g.traversalIds ≠ [] → p.path = some q → g.traversalIds <+: q → HasRole u t role p

/-- What the policy of membership asks for a feature, or without one: a visibility open to the user
and the feature enabled, or a role and the feature enabled or private. -/
inductive Grants (user : Option CurrentUser) (t : DocType) (feature : Option Feature)
    (source : Json) (p : Place) : Prop where
  | visible : p.level = .pub ∨ (p.level = .internal ∧ ∃ u, user = some u ∧ u.external = false) →
      FeatureAt Carries source [.enabled] feature → Grants user t feature source p
  | member (u : CurrentUser) : user = some u → HasRole u t (memberRole feature) p →
      FeatureAt Carries source [.enabled, .priv] feature → Grants user t feature source p

variable {p : Place}

theorem mem_visibleLevels {l : Visibility} : l ∈ visibleLevels user ↔
    l = .pub ∨ (l = .internal ∧ ∃ u, user = some u ∧ u.external = false) := by
  cases user with
  | none => simp [visibleLevels]
  | some u => cases hext : u.external <;> simp [visibleLevels, hext]

theorem memberOf_iff_hasRole (h : Placed t source p) :
    MemberOf Carries u t role source ↔ HasRole u t role p := by
  have howners : ∀ i, CarriesId source t.membershipField i ↔ i ∈ p.owners :=
    fun i => carriesId_iff_mem h.owners
  unfold DocType.membershipField at howners
  constructor
  · rintro (⟨m, ht, hm, hrole, hc⟩ | ⟨g, ht, hg, hrole, hc⟩ | ⟨g, hg, hrole, hne, hu⟩)
    · rw [if_neg ht] at howners
      exact .project m ht hm hrole ((howners _).1 hc)
    · rw [if_pos ht] at howners
      exact .group g ht hg hrole ((howners _).1 hc)
    · obtain ⟨q, hq, hpre⟩ := (under_iff_path h.path).1 hu
      exact .above g q hg hrole hne hq hpre
  · rintro (⟨m, ht, hm, hrole, hc⟩ | ⟨g, ht, hg, hrole, hc⟩ | ⟨g, q, hg, hrole, hne, hq, hpre⟩)
    · rw [if_neg ht] at howners
      exact .project m ht hm hrole ((howners _).2 hc)
    · rw [if_pos ht] at howners
      exact .group g ht hg hrole ((howners _).2 hc)
    · exact .above g hg hrole hne ((under_iff_path h.path).2 ⟨q, hq, hpre⟩)

theorem opened_iff_grants (h : Placed t source p) :
    Opened Carries user t feature source ↔ Grants user t feature source p := by
  constructor
  · rintro (⟨hc, hf⟩ | ⟨u, rfl, hext, hc, hf⟩ | ⟨u, rfl, hm, hf⟩)
    · exact .visible (.inl ((carries_visibility h.level).1 hc)) hf
    · exact .visible (.inr ⟨(carries_visibility h.level).1 hc, u, rfl, hext⟩) hf
    · exact .member u rfl ((memberOf_iff_hasRole h).1 hm) hf
  · rintro (⟨hl | ⟨hl, u, rfl, hext⟩, hf⟩ | ⟨u, rfl, hm, hf⟩)
    · exact .pub ((carries_visibility h.level).2 hl) hf
    · exact .internal u rfl hext ((carries_visibility h.level).2 hl) hf
    · exact .member u rfl ((memberOf_iff_hasRole h).2 hm) hf

/-- A role admits. The clause of a group that is not private asks, without a feature, for a visibility
that is not open; where it is open the visibility admits. -/
theorem admits_of_hasRole (h : Placed t source p) (hrole : HasRole u t (memberRole feature) p)
    (hf : FeatureAt Carries source [.enabled, .priv] feature) : Admits (some u) t feature source := by
  have howners : ∀ i, i ∈ p.owners → CarriesId source t.membershipField i :=
    fun i => (carriesId_iff_mem h.owners).2
  rcases hrole with ⟨m, ht, hm, hrole, hc⟩ | ⟨g, ht, hg, hrole, hc⟩ | ⟨g, q, hg, hrole, hne, hq, hpre⟩
  · refine .direct u m.projectId rfl ?_ (howners _ hc) hf
    unfold memberIds
    rw [if_neg ht]
    exact mem_memberProjects.2 ⟨m, hm, hrole, rfl⟩
  · refine .direct u g.groupId rfl ?_ (howners _ hc) hf
    unfold memberIds
    rw [if_pos ht]
    exact List.mem_map_of_mem (List.mem_filter.2 ⟨hg, hrole⟩)
  · have hu : Under source g.traversalIds := (under_iff_path h.path).2 ⟨q, hq, hpre⟩
    by_cases hv : p.level ∈ visibleLevels (some u) ∧ feature = none
    · obtain ⟨hv, rfl⟩ := hv
      exact .visible p.level hv ((carries_visibility h.level).2 rfl) trivial
    · refine .above u g rfl ⟨hg, hrole, hne, hu⟩ hf fun hn => .inr ⟨p.level, ?_, ?_⟩
      · exact fun hl => hv ⟨hl, hn⟩
      · exact (carries_visibility h.level).2 rfl

theorem admits_iff_grants (h : Placed t source p) :
    Admits user t feature source ↔ Grants user t feature source p := by
  constructor
  · exact fun ha => (opened_iff_grants h).1 ha.opened
  · rintro (⟨hl, hf⟩ | ⟨u, rfl, hm, hf⟩)
    · exact .visible p.level (mem_visibleLevels.2 hl) ((carries_visibility h.level).2 rfl) hf
    · exact admits_of_hasRole h hm hf

/-- Unless an administrator asks, the rule of membership adds one filter, which decides every document
and matches the stored ones that the policy grants for one of the features, or without one when none
is named. -/
theorem byMembership_exact (ha : o.isAdmin = false) :
    ∃ c, (∀ d, byMembership d o t = d.filter c) ∧ Decided c ∧
      ∀ id source p, Placed t source p → (Accepts id source c ↔
        (∃ f ∈ o.features, Grants o.currentUser t (some f) source p) ∨
          (o.features = [] ∧ Grants o.currentUser t none source p)) := by
  refine ⟨.anyOfFlat ((featureChoices o).map (membershipClause o.currentUser t)), fun d => ?_,
    decided_anyOfFlat (decided_membershipClauses o), fun id source p h => ?_⟩
  · unfold byMembership
    rw [ha]
    rfl
  · rw [accepts_membershipFilter]
    simp only [admits_iff_grants h]
    exact exists_featureChoices

/-- A reporter of group 2, which lies below group 1. -/
def groupReporter : CurrentUser :=
  { id := 5, groups := [⟨2, [1, 2], .internal, .reporter⟩] }

def reporterSearch : SearchOptions :=
  { currentUser := some groupReporter, features := [.wiki, .mergeRequests] }

/-- A private merge request in a project below group 2, for members only. -/
def membersOnly : Json :=
  .obj [("merge_requests_access_level", .ofUInt64 10), ("project_id", .ofUInt64 7),
    ("traversal_ids", .str "1-2-6-"), ("visibility_level", .ofUInt64 0)]

theorem byMembership_exact_membersOnly : reporterSearch.isAdmin = false ∧
    Placed .mergeRequest membersOnly ⟨.priv, [7], some [1, 2, 6]⟩ ∧
    ∃ c, (∀ d, byMembership d reporterSearch .mergeRequest = d.filter c) ∧
      Accepts "1" membersOnly c := by
  have hplaced : Placed .mergeRequest membersOnly ⟨.priv, [7], some [1, 2, 6]⟩ :=
    ⟨rfl, ⟨rfl, by simp⟩, rfl⟩
  have hrole : HasRole groupReporter .mergeRequest .reporter ⟨.priv, [7], some [1, 2, 6]⟩ :=
    .above ⟨2, [1, 2], .internal, .reporter⟩ [1, 2, 6] (List.mem_singleton_self _) (by decide)
      (by decide) rfl (by decide)
  have hfeature : FeatureAt Carries membersOnly [.enabled, .priv] (some .mergeRequests) :=
    ⟨.priv, by decide, .ofUInt64 10, List.mem_singleton_self _, valuesEqual_ofUInt64_self 10⟩
  obtain ⟨c, hc, -, hexact⟩ := byMembership_exact (o := reporterSearch) (t := .mergeRequest) rfl
  exact ⟨rfl, hplaced, c, hc, (hexact "1" membersOnly _ hplaced).2
    (.inl ⟨.mergeRequests, by decide, .member groupReporter rfl hrole hfeature⟩)⟩

/-! ## Confidential documents -/

/-- What a source stores that decides who reads it when it is confidential. -/
structure Authorship where
  confidential : Option Bool
  authors : List Id
  assignees : List Id
  projects : List Id
  path : Option Path

/-- A source stores its authorship. -/
structure Authored (source : Json) (a : Authorship) : Prop where
  confidential : fieldValue source "confidential" = a.confidential.map Json.bool
  authors : StoresIds source "author_id" a.authors
  assignees : StoresIds source "assignee_id" a.assignees
  projects : StoresIds source "project_id" a.projects
  path : StoresPath source a.path

/-- The author and the assignees read what is confidential, and reporters of its project, for documents
of projects, and of the groups whose path begins its own. -/
inductive MayRead (u : CurrentUser) (t : DocType) (a : Authorship) : Prop where
  | author : u.id ∈ a.authors → MayRead u t a
  | assignee : u.id ∈ a.assignees → MayRead u t a
  | project (m : ProjectMembership) : t.scope = .project → m ∈ u.projects →
      m.accessLevel.atLeast .reporter → m.projectId ∈ a.projects → MayRead u t a
  | above (g : GroupMembership) (q : Path) : g ∈ u.groups → g.accessLevel.atLeast .reporter →
      a.path = some q → g.traversalIds <+: q → MayRead u t a

variable {a : Authorship}

theorem reader_iff_mayRead (h : Authored source a) : Reader Carries u t source ↔ MayRead u t a := by
  constructor
  · rintro (hc | hc | ⟨m, ht, hm, hrole, hc⟩ | ⟨g, hg, hrole, hu⟩)
    · exact .author ((carriesId_iff_mem h.authors).1 hc)
    · exact .assignee ((carriesId_iff_mem h.assignees).1 hc)
    · exact .project m ht hm hrole ((carriesId_iff_mem h.projects).1 hc)
    · obtain ⟨q, hq, hpre⟩ := (under_iff_path h.path).1 hu
      exact .above g q hg hrole hq hpre
  · rintro (hc | hc | ⟨m, ht, hm, hrole, hc⟩ | ⟨g, q, hg, hrole, hq, hpre⟩)
    · exact .author ((carriesId_iff_mem h.authors).2 hc)
    · exact .assignee ((carriesId_iff_mem h.assignees).2 hc)
    · exact .project m ht hm hrole ((carriesId_iff_mem h.projects).2 hc)
    · exact .above g hg hrole ((under_iff_path h.path).2 ⟨q, hq, hpre⟩)

theorem isAdmin_iff : o.isAdmin = true ↔ ∃ u, o.currentUser = some u ∧ u.canReadAllResources = true := by
  unfold SearchOptions.isAdmin
  cases o.currentUser <;> simp

/-- For the types with confidential documents, the rule matches a stored document exactly when the
policy lets the user read it, and for nobody exactly what is stored as not confidential. -/
theorem byConfidentiality_exact (ht : t.hasConfidentiality = true) (h : Authored source a) :
    (Accepts id source (byConfidentiality .empty o t).queryClause ↔
      o.isAdmin = true ∨ (∃ u, o.currentUser = some u ∧ u.canReadAllConfidential = true) ∨
        a.confidential = some false ∨
        ∃ u, o.currentUser = some u ∧ a.confidential = some true ∧ MayRead u t a) ∧
    (o.currentUser = none → (Accepts id source (byConfidentiality .empty o t).queryClause ↔
      a.confidential = some false)) := by
  have hrule : Accepts id source (byConfidentiality .empty o t).queryClause ↔ _ := accepts_byConfidentiality
  simp only [ht, true_imp_iff, carries_bool h.confidential, reader_iff_mayRead h] at hrule
  refine ⟨?_, fun hu => ?_⟩
  · rw [hrule, isAdmin_iff]
    constructor
    · rintro (hc | ⟨u, hu, hall | hall | hc⟩)
      · exact .inr (.inr (.inl hc))
      · exact .inl ⟨u, hu, hall⟩
      · exact .inr (.inl ⟨u, hu, hall⟩)
      · exact .inr (.inr (.inr ⟨u, hu, hc⟩))
    · rintro (⟨u, hu, hall⟩ | ⟨u, hu, hall⟩ | hc | ⟨u, hu, hc⟩)
      · exact .inr ⟨u, hu, .inl hall⟩
      · exact .inr ⟨u, hu, .inr (.inl hall)⟩
      · exact .inl hc
      · exact .inr ⟨u, hu, .inr (.inr hc)⟩
  · rw [hrule, hu]
    simp

/-- A confidential issue of somebody else in that project. -/
def confidentialIssue : Json :=
  .obj [("author_id", .ofUInt64 9), ("confidential", .bool true), ("project_id", .ofUInt64 7),
    ("traversal_ids", .str "1-2-6-")]

theorem byConfidentiality_exact_groupReporter : DocType.issue.hasConfidentiality = true ∧
    Authored confidentialIssue ⟨some true, [9], [], [7], some [1, 2, 6]⟩ ∧
    Accepts "1" confidentialIssue (byConfidentiality .empty reporterSearch .issue).queryClause ∧
    ¬ Accepts "1" confidentialIssue (byConfidentiality .empty {} .issue).queryClause := by
  have hauthored : Authored confidentialIssue ⟨some true, [9], [], [7], some [1, 2, 6]⟩ :=
    ⟨rfl, ⟨rfl, by simp⟩, ⟨rfl, by simp⟩, ⟨rfl, by simp⟩, rfl⟩
  have hread : MayRead groupReporter .issue ⟨some true, [9], [], [7], some [1, 2, 6]⟩ :=
    .above ⟨2, [1, 2], .internal, .reporter⟩ [1, 2, 6] (List.mem_singleton_self _) (by decide)
      rfl (by decide)
  refine ⟨rfl, hauthored, ?_, fun h => ?_⟩
  · exact (byConfidentiality_exact rfl hauthored).1.2
      (.inr (.inr (.inr ⟨groupReporter, rfl, rfl, hread⟩)))
  · cases ((byConfidentiality_exact rfl hauthored).2 rfl).1 h

end TenantSearch.Access
