/-
The order of a user's memberships, and how often each is listed, change nothing in what the rules of
access allow. Ids of projects and paths of groups reach the clauses sorted and without repeats, which
leaves one list for all ways to write the same members, so documents of projects get the same clauses in
the same order. Only the ids of groups are taken as they are listed. They are asked for as a set, so
documents of groups get clauses with the same outcomes.
-/
import TenantSearch.Proofs.Access.Privilege

namespace TenantSearch

open Index FullText

/-- A user with the memberships of another one, in whatever order and however often each. -/
structure CurrentUser.Relists (v u : CurrentUser) : Prop where
  rights : v = { u with projects := v.projects, groups := v.groups }
  projects : ∀ p, p ∈ v.projects ↔ p ∈ u.projects
  groups : ∀ g, g ∈ v.groups ↔ g ∈ u.groups

theorem CurrentUser.Relists.symm {v u : CurrentUser} (h : v.Relists u) : u.Relists v :=
  ⟨by rw [h.rights], fun p => (h.projects p).symm, fun g => (h.groups g).symm⟩

theorem CurrentUser.Relists.atLeast {v u : CurrentUser} (h : v.Relists u) : v.AtLeast u := by
  have hrole : ∀ a : AccessLevel, a.atLeast a = true := fun a => by cases a <;> rfl
  rw [h.rights]
  refine ⟨rfl, fun h => h, fun h => h, fun h => h, fun h => h, fun p hp => ?_, fun g hg => ?_⟩
  · exact ⟨p, (h.projects p).2 hp, rfl, hrole _⟩
  · exact ⟨g, (h.groups g).2 hg, rfl, rfl, rfl, hrole _⟩

/-! ## Sorted lists without repeats -/

section Sorted

variable {α : Type} [DecidableEq α]

/-- Sorting and dropping repeats leaves one list for the same members. -/
theorem dropRepeats_mergeSort_congr {le : α → α → Bool}
    (htrans : ∀ a b c, le a b = true → le b c = true → le a c = true)
    (htotal : ∀ a b, (le a b || le b a) = true) (hanti : ∀ a b, le a b = true → le b a = true → a = b)
    {as bs : List α} (h : ∀ a, a ∈ as ↔ a ∈ bs) :
    dropRepeats (as.mergeSort le) = dropRepeats (bs.mergeSort le) := by
  have hsorted : ∀ xs : List α, (xs.mergeSort le).Pairwise fun a b => le a b = true :=
    List.pairwise_mergeSort htrans htotal
  refine List.Perm.eq_of_pairwise (fun a b _ _ => hanti a b) ((hsorted as).sublist (dropRepeats_sublist _))
    ((hsorted bs).sublist (dropRepeats_sublist _)) ?_
  rw [List.perm_ext_iff_of_nodup (nodup_dropRepeats hanti (hsorted as)) (nodup_dropRepeats hanti (hsorted bs))]
  intro a
  rw [Access.mem_dropRepeats, Access.mem_dropRepeats, List.mem_mergeSort, List.mem_mergeSort, h]

end Sorted

/-! ## Documents with clauses alike -/

/-- Two documents have, list by list, clauses with the same outcomes. -/
structure QueryDocument.SameOutcomes (d e : QueryDocument) : Prop where
  must : ∀ id source, d.query.must.map (outcome id source) = e.query.must.map (outcome id source)
  mustNot : ∀ id source, d.query.mustNot.map (outcome id source) = e.query.mustNot.map (outcome id source)
  should : ∀ id source, d.query.should.map (outcome id source) = e.query.should.map (outcome id source)
  filter : ∀ id source, d.query.filter.map (outcome id source) = e.query.filter.map (outcome id source)
  minimum : d.query.minimumShouldMatch = e.query.minimumShouldMatch

namespace QueryDocument

variable {d e : QueryDocument} {f : QueryDocument → QueryDocument}

theorem SameOutcomes.refl (d : QueryDocument) : d.SameOutcomes d :=
  ⟨fun _ _ => rfl, fun _ _ => rfl, fun _ _ => rfl, fun _ _ => rfl, rfl⟩

theorem SameOutcomes.outcome_eq (h : d.SameOutcomes e) (id : String) (source : Json) :
    outcome id source d.queryClause = outcome id source e.queryClause := by
  unfold queryClause
  rw [outcome_clause, outcome_clause, h.must, h.mustNot, h.should, h.filter, h.minimum]

theorem SameOutcomes.add_filter (h : d.SameOutcomes e) {c c' : Clause}
    (hc : ∀ id source, outcome id source c = outcome id source c') :
    (d.filter c).SameOutcomes (e.filter c') := by
  refine ⟨h.must, h.mustNot, h.should, fun id source => ?_, h.minimum⟩
  show (d.query.filter ++ [c]).map _ = (e.query.filter ++ [c']).map _
  rw [List.map_append, List.map_append, h.filter, List.map_singleton, List.map_singleton, hc]

/-- A step adds the same clauses to both. -/
theorem Adds.sameOutcomes (hf : Adds f) (h : d.SameOutcomes e) : (f d).SameOutcomes (f e) := by
  induction hf with
  | nothing => exact h
  | filter _ _ ih => exact ih.add_filter fun _ _ => rfl
  | trackScores _ _ ih => exact ⟨ih.must, ih.mustNot, ih.should, ih.filter, ih.minimum⟩
  | @must g c _ _ ih =>
    refine ⟨fun id source => ?_, ih.mustNot, ih.should, ih.filter, ih.minimum⟩
    show ((g d).query.must ++ [c]).map _ = ((g e).query.must ++ [c]).map _
    rw [List.map_append, List.map_append, ih.must]
  | @mustNot g c _ _ ih =>
    refine ⟨ih.must, fun id source => ?_, ih.should, ih.filter, ih.minimum⟩
    show ((g d).query.mustNot ++ [c]).map _ = ((g e).query.mustNot ++ [c]).map _
    rw [List.map_append, List.map_append, ih.mustNot]

end QueryDocument

namespace Access

variable {u v : CurrentUser} {o : SearchOptions} {t : DocType} {role : AccessLevel}
variable {feature : Option Feature} {d e : QueryDocument} {id : String} {source : Json}

/-! ## Lists made of memberships -/

/-- The minimal paths depend on the set of paths only. -/
theorem minimalPaths_congr {ps qs : List Path} (h : ∀ p, p ∈ ps ↔ p ∈ qs) :
    minimalPaths ps = minimalPaths qs := by
  have hsame : dropRepeats (ps.mergeSort pathAtMost) = dropRepeats (qs.mergeSort pathAtMost) :=
    dropRepeats_mergeSort_congr pathAtMost_trans pathAtMost_total pathAtMost_antisymm h
  unfold minimalPaths
  rw [hsame]

theorem mem_map_filter_congr {α β : Type} {as bs : List α} (h : ∀ a, a ∈ as ↔ a ∈ bs) (p : α → Bool)
    (f : α → β) (b : β) : b ∈ (as.filter p).map f ↔ b ∈ (bs.filter p).map f := by
  simp only [List.mem_map, List.mem_filter, h]

theorem memberProjects_relists (h : v.Relists u) (role : AccessLevel) :
    memberProjects v role = memberProjects u role := by
  unfold memberProjects
  refine dropRepeats_mergeSort_congr ?_ ?_ ?_ (mem_map_filter_congr h.projects _ _)
  · intro a b c hab hbc
    simp only [decide_eq_true_eq] at *
    omega
  · intro a b
    rw [Bool.or_eq_true, decide_eq_true_eq, decide_eq_true_eq]
    exact Nat.le_total _ _
  · intro a b hab hba
    simp only [decide_eq_true_eq] at *
    exact UInt64.toNat_inj.1 (Nat.le_antisymm hab hba)

/-- Which paths of other groups are left out goes by the paths of private groups, which are the same. -/
theorem splitPaths_relists (h : v.Relists u) (role : AccessLevel) :
    splitPaths v.groups role = splitPaths u.groups role := by
  have hcounted : ∀ p : GroupMembership → Bool, ∀ path : Path,
      path ∈ ((v.groups.filter fun g => g.accessLevel.atLeast role && !g.traversalIds.isEmpty).filter
        p).map (·.traversalIds) ↔
      path ∈ ((u.groups.filter fun g => g.accessLevel.atLeast role && !g.traversalIds.isEmpty).filter
        p).map (·.traversalIds) := by
    intro p path
    refine mem_map_filter_congr (fun g => ?_) p _ path
    rw [List.mem_filter, List.mem_filter, h.groups]
  unfold splitPaths
  dsimp only
  rw [minimalPaths_congr (hcounted fun g => decide (g.visibility = .priv))]
  refine congrArg (Prod.mk _) (minimalPaths_congr fun path => ?_)
  rw [List.mem_filter, List.mem_filter, hcounted fun g => decide (g.visibility ≠ .priv)]

theorem visibleLevels_relists (h : v.Relists u) : visibleLevels (some v) = visibleLevels (some u) := by
  rw [h.rights]
  rfl

theorem readerClauses_relists (h : v.Relists u) : readerClauses v t = readerClauses u t := by
  have hid : v.id = u.id := by rw [h.rights]
  unfold readerClauses
  dsimp only
  rw [memberProjects_relists h, minimalPaths_congr (mem_map_filter_congr h.groups _ _), hid]

/-! ## The rules -/

/-- For documents of projects a membership clause is the same, word by word. -/
theorem memberClauses_relists (h : v.Relists u) (ht : t.scope ≠ .group) :
    memberClauses v t feature = memberClauses u t feature := by
  have hids : ∀ role, memberIds v t role = memberIds u t role := by
    intro role
    unfold memberIds
    rw [if_neg ht, if_neg ht, memberProjects_relists h]
  unfold memberClauses
  dsimp only
  rw [hids, splitPaths_relists h, visibleLevels_relists h]

theorem isAdmin_relists (hu : o.currentUser = some u) (h : v.Relists u) :
    (o.actingAs (some v)).isAdmin = o.isAdmin := by
  unfold SearchOptions.isAdmin SearchOptions.actingAs
  rw [hu, h.rights]

theorem byMembership_relists (hu : o.currentUser = some u) (h : v.Relists u) (ht : t.scope ≠ .group)
    (d : QueryDocument) : byMembership d (o.actingAs (some v)) t = byMembership d o t := by
  have hclause : membershipClause (some v) t = membershipClause (some u) t := by
    funext feature
    unfold membershipClause visibleClause
    dsimp only
    rw [memberClauses_relists h ht, visibleLevels_relists h]
  unfold byMembership
  rw [isAdmin_relists hu h, hu]
  show (if o.isAdmin = true then d else
    d.filter (.anyOfFlat ((featureChoices o).map (membershipClause (some v) t)))) = _
  rw [hclause]

theorem byConfidentiality_relists (hu : o.currentUser = some u) (h : v.Relists u) (d : QueryDocument) :
    byConfidentiality d (o.actingAs (some v)) t = byConfidentiality d o t := by
  have hrights : v.canReadAllResources = u.canReadAllResources ∧
      v.canReadAllConfidential = u.canReadAllConfidential := by
    rw [h.rights]
    exact ⟨rfl, rfl⟩
  unfold byConfidentiality
  rw [hu]
  dsimp only [SearchOptions.actingAs]
  rw [hrights.1, hrights.2, readerClauses_relists h]

theorem byNotHidden_relists (hu : o.currentUser = some u) (h : v.Relists u) (d : QueryDocument) :
    byNotHidden d (o.actingAs (some v)) t = byNotHidden d o t := by
  unfold byNotHidden
  rw [isAdmin_relists hu h]

theorem crossProjectDenied_relists (hu : o.currentUser = some u) (h : v.Relists u) :
    crossProjectDenied (o.actingAs (some v)) = crossProjectDenied o := by
  have hcross : v.canReadCrossProject = u.canReadCrossProject := by rw [h.rights]
  unfold crossProjectDenied
  rw [hu]
  dsimp only [SearchOptions.actingAs, SearchOptions.searchLevel?, Option.any_some]
  rw [hcross]

/-! ## Documents of groups -/

theorem admits_relists (h : v.Relists u) :
    Admits (some v) t feature source ↔ Admits (some u) t feature source :=
  ⟨fun ha => ha.mono (.user u v h.symm.atLeast), fun ha => ha.mono (.user v u h.atLeast)⟩

/-- The ids of groups stand in the clauses as they are listed, but what they admit is the same. -/
theorem sameOutcomes_byMembership (hu : o.currentUser = some u) (h : v.Relists u) (d : QueryDocument) :
    (byMembership d (o.actingAs (some v)) t).SameOutcomes (byMembership d o t) := by
  unfold byMembership
  rw [isAdmin_relists hu h]
  split
  · exact .refl d
  refine (QueryDocument.SameOutcomes.refl d).add_filter fun id source => ?_
  rw [(decided_anyOfFlat (decided_membershipClauses _)).outcome_eq,
    (decided_anyOfFlat (decided_membershipClauses _)).outcome_eq, Except.ok.injEq, decide_eq_decide,
    accepts_membershipFilter, accepts_membershipFilter, hu]
  exact exists_congr fun feature => and_congr_right fun _ => admits_relists h

/-- The rules fail alike for both users or add clauses with the same outcomes. -/
theorem apply_relists_cases (hu : o.currentUser = some u) (h : v.Relists u) (d : QueryDocument)
    (t : DocType) :
    (∃ err, apply d o t = .error err ∧ apply d (o.actingAs (some v)) t = .error err) ∨
      ∃ e e', apply d o t = .ok e ∧ apply d (o.actingAs (some v)) t = .ok e' ∧ e'.SameOutcomes e := by
  have hlevel : (o.actingAs (some v)).searchLevel? = o.searchLevel? := rfl
  have hscope : bySearchLevel d (o.actingAs (some v)) t = bySearchLevel d o t := rfl
  unfold apply
  rw [crossProjectDenied_relists hu h, hlevel, hscope]
  cases t.isScoped with
  | false => exact .inr ⟨d, d, rfl, rfl, .refl d⟩
  | true =>
    rcases crossProjectDenied o with err | denied
    · exact .inl ⟨err, rfl, rfl⟩
    cases denied with
    | true => exact .inr ⟨_, _, rfl, rfl, .refl _⟩
    | false =>
      rcases o.searchLevel? with err | level
      · exact .inl ⟨err, rfl, rfl⟩
      rcases bySearchLevel d o t with err | scope
      · exact .inl ⟨err, rfl, rfl⟩
      refine .inr ⟨_, _, rfl, rfl, ?_⟩
      rw [byNotHidden_relists hu h, byConfidentiality_relists hu h]
      have harchived : QueryDocument.Adds fun d =>
          if level ≠ .project && t.hasArchived then Facets.byArchived d o else d :=
        .ite (Facets.adds_byArchived .nothing o) .nothing
      exact (adds_byNotHidden (adds_byConfidentiality harchived o t) o t).sameOutcomes
        (sameOutcomes_byMembership hu h scope)

/-- The rules of access depend on the set of memberships only. However a user's memberships are ordered
and repeated, the rules fail with the same fault or not at all; they compile to the same document for
every type but those of groups, and to one that has the same outcome on every source for these too. -/
theorem apply_relists (hu : o.currentUser = some u) (h : v.Relists u) (d : QueryDocument) (t : DocType) :
    (∀ err, apply d (o.actingAs (some v)) t = .error err ↔ apply d o t = .error err) ∧
    (t.scope ≠ .group → apply d (o.actingAs (some v)) t = apply d o t) ∧
    ∀ e, apply d o t = .ok e → ∃ e', apply d (o.actingAs (some v)) t = .ok e' ∧
      ∀ id source, outcome id source e'.queryClause = outcome id source e.queryClause := by
  refine ⟨?_, fun ht => ?_, ?_⟩
  · rcases apply_relists_cases hu h d t with ⟨err, he, he'⟩ | ⟨e, e', he, he', -⟩
    · rw [he, he']
      exact fun _ => Iff.rfl
    · rw [he, he']
      intro err
      constructor <;> intro hno <;> cases hno
  · have hmember := byMembership_relists hu h ht
    have hopen : ∀ d, byConfidentiality d (o.actingAs (some v)) t = byConfidentiality d o t :=
      byConfidentiality_relists hu h
    have hhidden : ∀ d, byNotHidden d (o.actingAs (some v)) t = byNotHidden d o t :=
      byNotHidden_relists hu h
    unfold apply
    simp only [crossProjectDenied_relists hu h, hmember, hopen, hhidden]
    rfl
  · intro e he
    rcases apply_relists_cases hu h d t with ⟨err, herr, -⟩ | ⟨e₁, e', he₁, he', hsame⟩
    · rw [he] at herr
      cases herr
    · obtain rfl : e = e₁ := Except.ok.inj (he.symm.trans he₁)
      exact ⟨e', he', hsame.outcome_eq⟩

/-- A member of two projects and of three groups, one of them private. -/
def manyRoles : CurrentUser :=
  { id := 5, projects := [⟨7, .guest⟩, ⟨3, .owner⟩]
    groups := [⟨1, [1], .priv, .guest⟩, ⟨2, [1, 2], .internal, .reporter⟩, ⟨9, [9], .pub, .guest⟩] }

/-- The same user, with the memberships turned around and some of them repeated. -/
def manyRolesRelisted : CurrentUser :=
  { manyRoles with
    projects := [⟨3, .owner⟩, ⟨7, .guest⟩, ⟨3, .owner⟩]
    groups := [⟨9, [9], .pub, .guest⟩, ⟨2, [1, 2], .internal, .reporter⟩, ⟨1, [1], .priv, .guest⟩,
      ⟨2, [1, 2], .internal, .reporter⟩] }

def manyRolesSearch : SearchOptions := { searchLevel := some .global, currentUser := some manyRoles }

/-- An epic of the private group. -/
def privateEpic : Json :=
  .obj [("confidential", .bool false), ("namespace_id", .ofUInt64 1),
    ("namespace_visibility_level", .ofUInt64 0), ("traversal_ids", .str "1-")]

theorem apply_relists_manyRoles : manyRolesSearch.currentUser = some manyRoles ∧
    manyRolesRelisted.Relists manyRoles ∧
    apply .empty (manyRolesSearch.actingAs (some manyRolesRelisted)) .issue =
      apply .empty manyRolesSearch .issue ∧
    ∃ e e', apply .empty manyRolesSearch .epic = .ok e ∧
      apply .empty (manyRolesSearch.actingAs (some manyRolesRelisted)) .epic = .ok e' ∧
      Accepts "1" privateEpic e.queryClause ∧ Accepts "1" privateEpic e'.queryClause := by
  have hrelists : manyRolesRelisted.Relists manyRoles := by
    refine ⟨rfl, fun p => ?_, fun g => ?_⟩ <;>
    · simp only [manyRolesRelisted, manyRoles, List.mem_cons, List.not_mem_nil, or_false]
      tauto
  have hmember := fun t => apply_relists (o := manyRolesSearch) rfl hrelists .empty t
  obtain ⟨e, he⟩ : ∃ e, apply .empty manyRolesSearch .epic = .ok e := ⟨_, rfl⟩
  obtain ⟨e', he', hsame⟩ := (hmember .epic).2.2 e he
  have hfound : Accepts "1" privateEpic e.queryClause := by
    cases he
    decide +kernel
  refine ⟨rfl, hrelists, (hmember .issue).2.1 (by decide), e, e', he, he', hfound, ?_⟩
  exact (hsame "1" privateEpic).trans hfound

end Access

end TenantSearch
