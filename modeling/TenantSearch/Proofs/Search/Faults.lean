/-
When a request has no relation. Only its scope can be at fault, or a token: a project search for epics or
without projects, a group search without groups or with one whose path is not known, and a token that
does not read back. The scope is at fault first. Nothing else fails a decoded request under valid
settings: its dates can be written, the backend has a name, and a provider's failure only costs the
vector part. Either fault is found before the provider is asked.
-/
import TenantSearch.Proofs.Access.Policy
import TenantSearch.Proofs.Request.Dates
import TenantSearch.Proofs.Search.Denial

namespace TenantSearch

namespace SearchOptions

/-- What can be wrong with the scope of a search. -/
inductive ScopeFault (o : SearchOptions) : ArgumentError → Prop where
  | notAtProjectLevel : o.searchLevel = some .project → o.docType = some .epic →
      ScopeFault o (.notAtProjectLevel .epic)
  | noProjects : o.searchLevel = some .project → o.projectIds = [] → ScopeFault o .noProjects
  | noGroups : o.searchLevel = some .group → o.groupIds = [] → ScopeFault o .noGroups
  | pathMissing (g : Id) : o.searchLevel = some .group → g ∈ o.groupIds →
      o.groupPaths.lookup g = none → ScopeFault o (.pathMissing g)
  | pathEmpty (g : Id) : o.searchLevel = some .group → g ∈ o.groupIds →
      o.groupPaths.lookup g = some [] → ScopeFault o (.pathEmpty g)

/-- A search for documents that have a scope, in one that is at fault. A denied search is not at fault,
as it finds nothing in any scope. -/
structure OutOfScope (o : SearchOptions) : Prop where
  docType : o.docType ≠ some .user
  allowed : ¬ o.Denied
  fault : ∃ e, o.ScopeFault e

end SearchOptions

/-! ## Scope -/

namespace Access

variable {o : SearchOptions} {t : DocType} {d : QueryDocument} {l : SearchLevel}

theorem scope_eq_group : t.scope = .group ↔ t = .epic := by
  cases t <;> decide

theorem groupPath_eq_error {g : Id} {e : ArgumentError} (hl : o.searchLevel = some .group)
    (hg : g ∈ o.groupIds) (h : groupPath o g = .error e) : o.ScopeFault e := by
  unfold groupPath at h
  split at h
  · cases h
    exact .pathMissing g hl hg ‹_›
  · cases h
    exact .pathEmpty g hl hg ‹_›
  · cases h

theorem bySearchLevel_project (hl : o.searchLevel = some .project) (ht : o.docType = some t) :
    (∃ e, o.ScopeFault e ∧ bySearchLevel d o t = .error e) ∨
      ((∀ e, ¬ o.ScopeFault e) ∧ ∃ d', bySearchLevel d o t = .ok d') := by
  unfold bySearchLevel
  rw [SearchOptions.searchLevel?_eq_ok.2 hl, ok_bind]
  dsimp only
  split
  · rename_i hscope
    obtain rfl := scope_eq_group.1 hscope
    exact .inl ⟨_, .notAtProjectLevel hl ht, rfl⟩
  rename_i hscope
  split
  · rename_i hprojects
    exact .inl ⟨_, .noProjects hl (List.isEmpty_iff.1 hprojects), rfl⟩
  rename_i hprojects
  refine .inr ⟨fun e he => ?_, _, rfl⟩
  rcases he with ⟨-, hepic⟩ | ⟨-, hnone⟩ | ⟨hl', -⟩ | ⟨g, hl', -⟩ | ⟨g, hl', -⟩
  · exact hscope (scope_eq_group.2 (Option.some.inj (ht.symm.trans hepic)))
  · exact hprojects (List.isEmpty_iff.2 hnone)
  all_goals
    rw [hl] at hl'
    cases hl'

theorem bySearchLevel_group (hl : o.searchLevel = some .group) :
    (∃ e, o.ScopeFault e ∧ bySearchLevel d o t = .error e) ∨
      ((∀ e, ¬ o.ScopeFault e) ∧ ∃ d', bySearchLevel d o t = .ok d') := by
  unfold bySearchLevel
  rw [SearchOptions.searchLevel?_eq_ok.2 hl, ok_bind]
  dsimp only
  split
  · rename_i hgroups
    exact .inl ⟨_, .noGroups hl (List.isEmpty_iff.1 hgroups), rfl⟩
  rename_i hgroups
  rcases mapM_cases (f := groupPath o) o.groupIds with ⟨hall, paths, hpaths⟩ | ⟨g, hg, e, he, hfail⟩
  · rw [hpaths]
    refine .inr ⟨fun e he => ?_, _, rfl⟩
    have hknown : ∀ g ∈ o.groupIds, ∃ path, o.groupPaths.lookup g = some path ∧ path ≠ [] := by
      intro g hg
      obtain ⟨path, hpath⟩ := hall g hg
      exact ⟨path, groupPath_eq_ok hpath⟩
    rcases he with ⟨hl', -⟩ | ⟨hl', -⟩ | ⟨-, hnone⟩ | ⟨g, -, hg, hnone⟩ | ⟨g, -, hg, hempty⟩
    · rw [hl] at hl'
      cases hl'
    · rw [hl] at hl'
      cases hl'
    · exact hgroups (List.isEmpty_iff.2 hnone)
    · obtain ⟨path, hpath, -⟩ := hknown g hg
      rw [hnone] at hpath
      cases hpath
    · obtain ⟨path, hpath, hne⟩ := hknown g hg
      rw [hempty] at hpath
      cases hpath
      exact hne rfl
  · rw [hfail]
    exact .inl ⟨e, groupPath_eq_error hl hg he, rfl⟩

/-- Scoping fails with the fault of the scope, and comes through when it has none. -/
theorem bySearchLevel_or (hl : o.searchLevel = some l) (ht : o.docType = some t) (d : QueryDocument) :
    (∃ e, o.ScopeFault e ∧ bySearchLevel d o t = .error e) ∨
      ((∀ e, ¬ o.ScopeFault e) ∧ ∃ d', bySearchLevel d o t = .ok d') := by
  cases l with
  | project => exact bySearchLevel_project hl ht
  | group => exact bySearchLevel_group hl
  | global =>
    refine .inr ⟨fun e he => ?_, d, ?_⟩
    · rcases he with ⟨hl', -⟩ | ⟨hl', -⟩ | ⟨hl', -⟩ | ⟨g, hl', -⟩ | ⟨g, hl', -⟩ <;>
      · rw [hl] at hl'
        cases hl'
    · unfold bySearchLevel
      rw [SearchOptions.searchLevel?_eq_ok.2 hl]
      rfl

/-- Only denied searches are denied. -/
theorem crossProject_of_not_denied (hv : o.validate = .ok ()) (ht : o.docType = some t)
    (hs : t.isScoped = true) (hl : o.searchLevel = some l) (hd : ¬ o.Denied) :
    crossProjectDenied o = .ok false := by
  rw [crossProjectDenied_eq hl, Except.ok.injEq, Bool.and_eq_false_imp, decide_eq_true_eq]
  intro hlevel
  rw [Bool.eq_false_iff]
  intro hany
  obtain ⟨u, hu, hcross⟩ := (Option.any_eq_true _ _).1 hany
  refine hd ⟨hv, ⟨t, ht, hs⟩, ?_, u, hu, by simpa using hcross⟩
  cases l with
  | project => exact absurd rfl hlevel
  | group => exact .inl hl
  | global => exact .inr hl

end Access

/-! ## Documents -/

namespace SearchOptions

variable {o : SearchOptions} {t : DocType}

theorem isScoped_iff : t.isScoped = true ↔ t ≠ .user := by
  cases t <;> decide

theorem matching_unscoped (hs : ¬ t.isScoped = true) (hdates : o.Dated) (cs : CompileSettings) :
    ∃ d, o.matching cs t = .ok d := by
  obtain ⟨d, hd⟩ := Facets.apply_ok hdates
    (Facets.byType (FullText.byFullText .empty o t (cs.multiMatch && o.flags.multiMatch)) o t) t
  refine ⟨d, ?_⟩
  unfold matching Access.apply
  rw [Bool.not_eq_true] at hs
  rw [hs]
  exact hd

theorem matching_or (hs : t.isScoped = true) (ht : o.docType = some t) {l : SearchLevel}
    (hl : o.searchLevel = some l) (hd : Access.crossProjectDenied o = .ok false) (hdates : o.Dated)
    (cs : CompileSettings) : (∃ e, o.ScopeFault e ∧ o.matching cs t = .error e) ∨
      ((∀ e, ¬ o.ScopeFault e) ∧ ∃ d, o.matching cs t = .ok d) := by
  unfold matching
  dsimp only
  rw [Access.apply_eq hs hl hd]
  rcases Access.bySearchLevel_or hl ht
    (Facets.byType (FullText.byFullText .empty o t (cs.multiMatch && o.flags.multiMatch)) o t) with
    ⟨e, he, hfail⟩ | ⟨hnone, d, hok⟩
  · rw [hfail]
    exact .inl ⟨e, he, rfl⟩
  · rw [hok]
    exact .inr ⟨hnone, Facets.apply_ok hdates _ t⟩

/-- A valid request whose dates can be written is built unless its scope is at fault. -/
theorem build_or_fault (hv : o.validate = .ok ()) (hdates : o.Dated) (cs : CompileSettings) :
    (o.OutOfScope ∧ ∃ e, o.ScopeFault e ∧ o.build cs = .error e) ∨
      (¬ o.OutOfScope ∧ ∃ d, o.build cs = .ok d) := by
  obtain ⟨t, ht, -⟩ := validate_eq_ok.1 hv
  by_cases hdenied : o.Denied
  · exact .inr ⟨fun h => h.allowed hdenied, .matchNone, hdenied.build cs⟩
  by_cases hs : t.isScoped = true
  · obtain ⟨l, hl⟩ := exists_searchLevel hv ht hs
    have hd := Access.crossProject_of_not_denied hv ht hs hl hdenied
    rcases matching_or hs ht hl hd hdates cs with ⟨e, he, hfail⟩ | ⟨hnone, d, hok⟩
    · refine .inl ⟨⟨fun h => ?_, hdenied, e, he⟩, e, he, ?_⟩
      · exact isScoped_iff.1 hs (Option.some.inj (ht.symm.trans h))
      · unfold build
        rw [hv, ok_bind, docType?_eq_ok.2 ht, ok_bind, if_pos hs, hd, ok_bind, hfail]
        rfl
    · exact .inr ⟨fun h => h.fault.elim hnone, _, build_eq_ok.2 ⟨hv, t, ht, .inr ⟨fun _ => hd, d, hok, rfl⟩⟩⟩
  · obtain ⟨d, hok⟩ := matching_unscoped hs hdates cs
    have huser : t = .user := not_not.1 fun h => hs (isScoped_iff.2 h)
    exact .inr ⟨fun h => h.docType (huser ▸ ht), _,
      build_eq_ok.2 ⟨hv, t, ht, .inr ⟨fun h => absurd h hs, d, hok, rfl⟩⟩⟩

end SearchOptions

/-! ## Relations -/

namespace SearchService

variable {s : SearchService} {o : SearchOptions} {v : Json} {c c' : CursorError}

/-- A valid request has one token at most. -/
theorem TokenFault.unique (hv : o.validate = .ok ()) (h : TokenFault o c) (h' : TokenFault o c') :
    c = c' := by
  obtain ⟨t, -, -, -, hpositions, -⟩ := SearchOptions.validate_eq_ok.1 hv
  obtain ⟨token, ht, hc⟩ := h
  obtain ⟨token', ht', hc'⟩ := h'
  have hone : ¬ (o.paging.before.isSome = true ∧ o.paging.after.isSome = true) := by
    rwa [Bool.and_eq_true] at hpositions
  obtain rfl : token = token' := by
    rcases ht with ha | hb <;> rcases ht' with ha' | hb'
    · exact Option.some.inj (ha.symm.trans ha')
    · exact absurd ⟨Option.isSome_of_eq_some hb', Option.isSome_of_eq_some ha⟩ hone
    · exact absurd ⟨Option.isSome_of_eq_some hb, Option.isSome_of_eq_some ha'⟩ hone
    · exact Option.some.inj (hb.symm.trans hb')
  exact Except.error.inj (hc.symm.trans hc')

theorem TokensRead.not_fault (h : TokensRead o) : ¬ TokenFault o c := by
  rintro ⟨token, htoken, hc⟩
  obtain ⟨position, hread⟩ := h token htoken
  rw [hread] at hc
  cases hc

/-- The outcome of a decoded request under valid settings: the fault of its scope, the fault of its
token, both found without a call, or a relation. -/
theorem relation_outcome (hs : s.settings.validate = .ok ()) (hv : o.validate = .ok ())
    (hdates : o.Dated) :
    (o.OutOfScope ∧ ∃ e, o.ScopeFault e ∧ s.relation o = Run.ofExcept (.error (.argument e))) ∨
    (¬ o.OutOfScope ∧ ∃ c, TokenFault o c ∧ s.relation o = Run.ofExcept (.error (.cursor c))) ∨
    (¬ o.OutOfScope ∧ TokensRead o ∧ ∃ r, (s.relation o).result = .ok r) := by
  rcases SearchOptions.build_or_fault hv hdates s.compileSettings with
    ⟨hscope, e, he, hb⟩ | ⟨hscope, d, hb⟩
  · refine .inl ⟨hscope, e, he, relation_of_error ?_⟩
    unfold textRelation
    rw [hb]
    rfl
  obtain ⟨t, ht, -⟩ := SearchOptions.validate_eq_ok.1 hv
  rcases textRelation_cases hb ht with ⟨c, hc, htext⟩ | ⟨htokens, r, htext, -, -⟩
  · exact .inr (.inl ⟨hscope, c, hc, relation_of_error htext⟩)
  · obtain ⟨vector, status, hvector⟩ := resolveHybrid_ok hs hv ht
    exact .inr (.inr ⟨hscope, htokens, _, relation_eq_ok.2 ⟨r, t, htext, vector, hvector, rfl⟩⟩)

/-- A decoded request under valid settings has no relation exactly when its scope is at fault or a token
does not read back, whatever the provider does. The scope is at fault first, and neither fault asks the
provider. -/
theorem relation_fails_exactly (hs : s.settings.validate = .ok ()) (ho : SearchOptions.ofJson v = .ok o) :
    ((∃ e, (s.relation o).result = .error e) ↔ o.OutOfScope ∨ ∃ c, TokenFault o c) ∧
    (o.OutOfScope → ∃ e, o.ScopeFault e ∧ s.relation o = Run.ofExcept (.error (.argument e))) ∧
    (¬ o.OutOfScope → ∀ c, TokenFault o c → s.relation o = Run.ofExcept (.error (.cursor c))) := by
  obtain ⟨hv, hdates⟩ := SearchOptions.of_ofJson ho
  rcases relation_outcome hs hv hdates with ⟨hscope, e, he, hr⟩ | ⟨hscope, c, hc, hr⟩ | ⟨hscope, htokens, r, hr⟩
  · refine ⟨⟨fun _ => .inl hscope, fun _ => ⟨.argument e, ?_⟩⟩, fun _ => ⟨e, he, hr⟩,
      fun h => absurd hscope h⟩
    rw [hr]
    rfl
  · refine ⟨⟨fun _ => .inr ⟨c, hc⟩, fun _ => ⟨.cursor c, ?_⟩⟩, fun h => absurd h hscope, fun _ c' hc' => ?_⟩
    · rw [hr]
      rfl
    · rw [hr, hc.unique hv hc']
  · refine ⟨⟨?_, ?_⟩, fun h => absurd h hscope, fun _ c hc => absurd hc htokens.not_fault⟩
    · rintro ⟨e, he⟩
      rw [hr] at he
      cases he
    · rintro (h | ⟨c, hc⟩)
      · exact absurd h hscope
      · exact absurd hc htokens.not_fault

/-- A search for epics in projects, behind a token that does not read back. -/
def epicsInProjects : Json :=
  .obj [("after", .str "?"), ("doc_type", .str "epic"), ("search_level", .str "project")]

def epicSearch : SearchOptions :=
  { docType := some .epic, searchLevel := some .project, paging := { after := some "?" } }

theorem relation_fails_exactly_epicsInProjects : exampleService.settings.validate = .ok () ∧
    SearchOptions.ofJson epicsInProjects = .ok epicSearch ∧ (∃ c, TokenFault epicSearch c) ∧
    ∃ e, exampleService.relation epicSearch = Run.ofExcept (.error (.argument e)) := by
  have hread : SearchOptions.ofJson epicsInProjects = .ok epicSearch := rfl
  have hallowed : ¬ epicSearch.Denied := by
    rintro ⟨-, -, -, u, hu, -⟩
    cases hu
  have hscope : epicSearch.OutOfScope := ⟨by decide, hallowed, _, .notAtProjectLevel rfl rfl⟩
  obtain ⟨e, -, hr⟩ := (relation_fails_exactly (s := exampleService) rfl hread).2.1 hscope
  exact ⟨rfl, hread, ⟨_, "?", .inl rfl, rfl⟩, e, hr⟩

end SearchService

end TenantSearch
