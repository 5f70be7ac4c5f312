/-
Groups by the beginnings of indexed paths. A dash ends every id of an indexed path, so one path begins
another as text exactly when it does id by id, and different paths have different texts. The scope of a
group search, which compares texts only, is therefore the groups that it names and all groups below
them: never a group whose id merely begins with the same digits, never a sibling, never a group above.
-/
import TenantSearch.Proofs.Access.Stored

namespace TenantSearch.Access

open Index

variable {o : SearchOptions} {t : DocType} {d e : QueryDocument} {id : String} {source : Json}
variable {p q : Path}

/-! ## Texts of paths -/

/-- Paths with the same text are the same. -/
theorem traversalPath_inj (h : traversalPath p = traversalPath q) : p = q := by
  have hp : p <+: q := traversalPath_prefix_iff.1 (h ▸ List.prefix_rfl)
  have hq : q <+: p := traversalPath_prefix_iff.1 (h ▸ List.prefix_rfl)
  exact hp.eq_of_length (le_antisymm hp.length_le hq.length_le)

/-- Two ids below one group part their paths for good. -/
theorem not_prefix_of_ne {above below : Path} {a b : Id} (h : a ≠ b) :
    ¬ above ++ [a] <+: above ++ b :: below := by
  rw [List.prefix_append_right_inj, List.cons_prefix_cons]
  exact fun hp => h hp.1

/-- A path does not begin those it continues. -/
theorem not_prefix_above {below : Path} (h : below ≠ []) : ¬ q ++ below <+: q := by
  intro hp
  have hlength := hp.length_le
  rw [List.length_append] at hlength
  exact h (List.eq_nil_of_length_eq_zero (by omega))

/-! ## Clauses of groups -/

/-- The clause of a group matches what is stored in the group or below it. -/
theorem accepts_pathClause_iff (h : StoresPath source (some q)) :
    Accepts id source (pathClause p) ↔ p <+: q := by
  rw [accepts_pathClause, under_iff_path h]
  simp

/-- Every group that a search accepts has a path, which is not empty. -/
theorem mem_scopePaths {paths : List Path} (h : o.groupIds.mapM (groupPath o) = .ok paths) :
    p ∈ paths ↔ ∃ g ∈ o.groupIds, o.groupPaths.lookup g = some p := by
  constructor
  · intro hp
    obtain ⟨g, hg, hpath⟩ := exists_of_mem_mapM h hp
    exact ⟨g, hg, (groupPath_eq_ok hpath).1⟩
  · rintro ⟨g, hg, hl⟩
    obtain ⟨p', hp', hpath⟩ := exists_of_mapM_eq_ok h hg
    obtain rfl : p = p' := Option.some.inj (hl.symm.trans (groupPath_eq_ok hpath).1)
    exact hp'

/-- An accepted group search adds the clauses of the paths of its groups as one filter. -/
theorem bySearchLevel_groups (hl : o.searchLevel = some .group) (h : bySearchLevel d o t = .ok e) :
    ∃ paths, o.groupIds.mapM (groupPath o) = .ok paths ∧ e = d.filter (.anyOfFlat (paths.map pathClause)) := by
  rcases bySearchLevel_cases h with ⟨hl', -⟩ | ⟨hl', -⟩ | ⟨-, hgroups⟩
  · rw [hl] at hl'
    cases hl'
  · rw [hl] at hl'
    cases hl'
  · exact hgroups

/-- The filter of an accepted group search, which does not depend on the document it is added to. -/
theorem exists_groupFilter (hl : o.searchLevel = some .group) (h : bySearchLevel d o t = .ok e) :
    ∃ c, (∀ d, bySearchLevel d o t = .ok (d.filter c)) ∧ Decided c ∧
      ∀ id source q, StoresPath source (some q) → (Accepts id source c ↔
        ∃ g ∈ o.groupIds, ∃ p, o.groupPaths.lookup g = some p ∧ p <+: q) := by
  obtain ⟨step, -, hstep⟩ := (addsOrFails_bySearchLevel o t).exists_adds h
  obtain ⟨paths, hpaths, -⟩ := bySearchLevel_groups hl h
  refine ⟨.anyOfFlat (paths.map pathClause), fun d' => ?_,
    decided_anyOfFlat (decided_pathClauses paths), fun id source q hq => ?_⟩
  · obtain ⟨paths', hpaths', he⟩ := bySearchLevel_groups hl (hstep d')
    obtain rfl : paths = paths' := Except.ok.inj (hpaths.symm.trans hpaths')
    rw [hstep d', he]
  · rw [accepts_paths]
    simp only [UnderAny, mem_scopePaths hpaths, under_iff_path hq, Option.some.injEq, exists_eq_left']
    constructor
    · rintro ⟨p, ⟨g, hg, hlookup⟩, hp⟩
      exact ⟨g, hg, p, hlookup, hp⟩
    · rintro ⟨g, hg, p, hlookup, hp⟩
      exact ⟨p, ⟨g, hg, hlookup⟩, hp⟩

/-- Beginnings of indexed paths are ancestry. The text of a path begins that of another one exactly when
the path does, and no two paths share a text. So an accepted group search adds one filter, which decides
every document and matches a stored one exactly when the path recorded for a group it names begins the
document's own; and the clause of a group matches neither what lies in or below a sibling, whatever the
digits of the two ids, nor what lies in a group above. -/
theorem groupScope_ancestry :
    (∀ p q, (traversalPath p).toList <+: (traversalPath q).toList ↔ p <+: q) ∧
    Function.Injective traversalPath ∧
    (∀ o t d e, o.searchLevel = some .group → bySearchLevel d o t = .ok e →
      ∃ c, (∀ d, bySearchLevel d o t = .ok (d.filter c)) ∧ Decided c ∧
        ∀ id source q, StoresPath source (some q) → (Accepts id source c ↔
          ∃ g ∈ o.groupIds, ∃ p, o.groupPaths.lookup g = some p ∧ p <+: q)) ∧
    (∀ id source above a b below, a ≠ b → StoresPath source (some (above ++ b :: below)) →
      ¬ Accepts id source (pathClause (above ++ [a]))) ∧
    ∀ id source q below, below ≠ [] → StoresPath source (some q) →
      ¬ Accepts id source (pathClause (q ++ below)) := by
  refine ⟨fun p q => traversalPath_prefix_iff, fun p q => traversalPath_inj,
    fun o t d e => exists_groupFilter, fun id source above a b below hne hs => ?_,
    fun id source q below hne hs => ?_⟩
  · rw [accepts_pathClause_iff hs]
    exact not_prefix_of_ne hne
  · rw [accepts_pathClause_iff hs]
    exact not_prefix_above hne

/-- A search in group 1 and in group 34, which lies below group 3. -/
def twoGroups : SearchOptions :=
  { searchLevel := some .group, groupIds := [1, 34], groupPaths := [(1, [1]), (34, [3, 34])] }

/-- A document in the group of a path. -/
def storedIn (path : Path) : Json := .obj [("traversal_ids", .str (traversalPath path))]

/-- Group 12 below group 1 is in the scope of that search, group 12 by itself and group 3 are not. -/
theorem groupScope_ancestry_twoGroups :
    (∀ path ∈ [[1, 12], [12], [3]], StoresPath (storedIn path) (some path)) ∧ ∃ c,
      bySearchLevel .empty twoGroups .issue = .ok (QueryDocument.empty.filter c) ∧
      Accepts "1" (storedIn [1, 12]) c ∧ ¬ Accepts "2" (storedIn [12]) c ∧
      ¬ Accepts "3" (storedIn [3]) c ∧ ¬ Accepts "2" (storedIn [12]) (pathClause [1]) ∧
      ¬ Accepts "3" (storedIn [3]) (pathClause [3, 34]) := by
  have hstored : ∀ path, StoresPath (storedIn path) (some path) := fun _ => rfl
  obtain ⟨-, -, hscope, hsibling, habove⟩ := groupScope_ancestry
  obtain ⟨c, hc, -, hacc⟩ := hscope twoGroups .issue .empty _ rfl rfl
  refine ⟨fun path _ => hstored path, c, hc .empty, ?_, ?_, ?_, ?_, ?_⟩
  · exact (hacc _ _ _ (hstored _)).2 ⟨1, by decide, [1], rfl, by decide⟩
  · rw [hacc _ _ _ (hstored _)]
    decide
  · rw [hacc _ _ _ (hstored _)]
    decide
  · exact hsibling "2" _ [] 1 12 [] (by decide) (hstored _)
  · exact habove "3" _ [3] [34] (by decide) (hstored _)

end TenantSearch.Access
