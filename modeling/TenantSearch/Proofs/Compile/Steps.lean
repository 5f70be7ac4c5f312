/-
Steps of a compilation as an algebra. Whatever steps a document is sent through, in whatever order and
however often each, it finds what every step finds by itself on the empty document: the document of a
run is the intersection of its steps. So the order and the repeats of steps do not matter to what is
found, and what a step leaves behind is what was there before, with further clauses at the end.
-/
import TenantSearch.Proofs.Compile.Narrowing
import TenantSearch.Proofs.Index.Answers

namespace TenantSearch

open Index QueryDocument

/-- The facets that never fail. -/
inductive Facet where
  | author
  | assignees
  | labels
  | milestone
  | weight
  | health
  | state
  | confidential
  | branches
  | workItemType
  | languages
deriving DecidableEq

/-- Adds the conditions of a facet. -/
def Facet.add (d : QueryDocument) (f : Facets) : Facet → QueryDocument
  | .author => Facets.byAuthor d f
  | .assignees => Facets.byAssignees d f
  | .labels => Facets.byLabels d f
  | .milestone => Facets.byMilestone d f
  | .weight => Facets.byWeight d f
  | .health => Facets.byHealthStatus d f
  | .state => Facets.byState d f
  | .confidential => Facets.byConfidential d f
  | .branches => Facets.byBranches d f
  | .workItemType => Facets.byWorkItemType d f
  | .languages => Facets.byLanguages d f

theorem Facet.adds (f : Facets) : ∀ x : Facet, Adds fun d => x.add d f
  | .author => Facets.adds_byAuthor .nothing f
  | .assignees => Facets.adds_byAssignees .nothing f
  | .labels => Facets.adds_byLabels .nothing f
  | .milestone => Facets.adds_byMilestone .nothing f
  | .weight => Facets.adds_byWeight .nothing f
  | .health => Facets.adds_byHealthStatus .nothing f
  | .state => Facets.adds_byState .nothing f
  | .confidential => Facets.adds_byConfidential .nothing f
  | .branches => Facets.adds_byBranches .nothing f
  | .workItemType => Facets.adds_byWorkItemType .nothing f
  | .languages => Facets.adds_byLanguages .nothing f

/-- One step of a compilation, for the request and the type of documents compiled. -/
inductive CompileStep where
  | text (multiMatch : Bool)
  | type
  | access
  | scope
  | membership
  | archived
  | confidentiality
  | hidden
  | facet (x : Facet)
  | dates
  | highlight (preTag postTag : String)
deriving DecidableEq

namespace CompileStep

variable {o : SearchOptions} {t : DocType} {s : CompileStep} {steps steps' : List CompileStep}
variable {d e : QueryDocument} {id : String} {source : Json}

def run (o : SearchOptions) (t : DocType) (d : QueryDocument) :
    CompileStep → Except ArgumentError QueryDocument
  | .text multiMatch => .ok (FullText.byFullText d o t multiMatch)
  | .type => .ok (Facets.byType d o t)
  | .access => Access.apply d o t
  | .scope => Access.bySearchLevel d o t
  | .membership => .ok (Access.byMembership d o t)
  | .archived => .ok (Facets.byArchived d o)
  | .confidentiality => .ok (Access.byConfidentiality d o t)
  | .hidden => .ok (Access.byNotHidden d o t)
  | .facet x => .ok (x.add d o.facets)
  | .dates => Facets.byDates d o.facets
  | .highlight preTag postTag => .ok (FullText.byHighlight d o t preTag postTag)

/-- The steps one after the other, up to the first that fails. -/
def runAll (o : SearchOptions) (t : DocType) (steps : List CompileStep) (d : QueryDocument) :
    Except ArgumentError QueryDocument :=
  steps.foldlM (fun d s => s.run o t d) d

/-! ## One step -/

/-- A step that succeeds on one document succeeds on each, and adds the same conditions to each. What is
shown of the hits is no condition. -/
theorem exists_adds (h : s.run o t d = .ok e) :
    ∃ g, Adds g ∧ ∀ d, ∃ shown, s.run o t d = .ok { g d with highlight := shown } := by
  have hadds : ∀ {f : QueryDocument → Except ArgumentError QueryDocument}, AddsOrFails f →
      f d = .ok e → ∃ g, Adds g ∧ ∀ d, ∃ shown, f d = .ok { g d with highlight := shown } := by
    intro f hf hok
    obtain ⟨g, hg, hrun⟩ := hf.exists_adds hok
    exact ⟨g, hg, fun d => ⟨(g d).highlight, hrun d⟩⟩
  cases s with
  | text multiMatch => exact hadds (.of_adds (FullText.adds_byFullText o t multiMatch)) h
  | type => exact hadds (.of_adds (Facets.adds_byType .nothing o t)) h
  | access => exact hadds (Access.addsOrFails_apply o t) h
  | scope => exact hadds (Access.addsOrFails_bySearchLevel o t) h
  | membership => exact hadds (.of_adds (Access.adds_byMembership .nothing o t)) h
  | archived => exact hadds (.of_adds (Facets.adds_byArchived .nothing o)) h
  | confidentiality => exact hadds (.of_adds (Access.adds_byConfidentiality .nothing o t)) h
  | hidden => exact hadds (.of_adds (Access.adds_byNotHidden .nothing o t)) h
  | facet x => exact hadds (.of_adds (x.adds o.facets)) h
  | dates => exact hadds (Facets.addsOrFails_byDates o.facets) h
  | highlight preTag postTag =>
    refine ⟨fun d => d, .nothing, fun d => ?_⟩
    dsimp only [run]
    unfold FullText.byHighlight
    split
    · exact ⟨_, rfl⟩
    · exact ⟨d.highlight, rfl⟩

/-- A step leaves the clauses of a document in place. -/
theorem run_keeps (h : s.run o t d = .ok e) : e.query.Keeps d.query := by
  obtain ⟨g, hg, hrun⟩ := exists_adds h
  obtain ⟨shown, hd⟩ := hrun d
  cases h.symm.trans hd
  exact (hg.narrows d).keeps

/-- A step narrows a document to what the step finds by itself. -/
theorem run_spec (hd : d.Plain) (h : s.run o t d = .ok e) : e.Plain ∧
    ∃ alone, s.run o t .empty = .ok alone ∧ ∀ id source, (Accepts id source e.queryClause ↔
      Accepts id source d.queryClause ∧ Accepts id source alone.queryClause) := by
  obtain ⟨g, hg, hrun⟩ := exists_adds h
  obtain ⟨shown, hok⟩ := hrun d
  obtain ⟨shown', halone⟩ := hrun .empty
  cases h.symm.trans hok
  have hp := hg.plain hd
  exact ⟨hp.of_query rfl hp.knn, _, halone, fun id source => hg.accepts_iff hd⟩

theorem run_ok_of_ok (h : s.run o t d = .ok e) (d' : QueryDocument) : ∃ e', s.run o t d' = .ok e' := by
  obtain ⟨g, -, hrun⟩ := exists_adds h
  obtain ⟨shown, hok⟩ := hrun d'
  exact ⟨_, hok⟩

/-! ## Runs -/

/-- A source passes a step: the step succeeds on the empty document and finds the source. -/
def Passes (o : SearchOptions) (t : DocType) (id : String) (source : Json) (s : CompileStep) : Prop :=
  ∃ alone, s.run o t .empty = .ok alone ∧ Accepts id source alone.queryClause

theorem run_accepts (hd : d.Plain) (h : s.run o t d = .ok e) : Accepts id source e.queryClause ↔
    Accepts id source d.queryClause ∧ Passes o t id source s := by
  obtain ⟨-, alone, halone, hacc⟩ := run_spec hd h
  rw [hacc]
  refine and_congr_right fun _ => ⟨fun h => ⟨alone, halone, h⟩, ?_⟩
  rintro ⟨alone', halone', h⟩
  cases halone.symm.trans halone'
  exact h

/-- A run narrows a document to what each of its steps finds by itself. The invariant is that the
document stays a conjunction without faults. -/
theorem runAll_spec : ∀ {steps : List CompileStep} {d e : QueryDocument}, d.Plain →
    runAll o t steps d = .ok e → e.Plain ∧ (∀ s ∈ steps, ∃ alone, s.run o t .empty = .ok alone) ∧
      ∀ id source, (Accepts id source e.queryClause ↔
        Accepts id source d.queryClause ∧ ∀ s ∈ steps, Passes o t id source s)
  | [], d, e, hd, h => by
    cases h
    simpa using hd
  | s :: steps, d, e, hd, h => by
    obtain ⟨d', hs, h⟩ := bind_eq_ok.1 h
    obtain ⟨hd', alone, halone, -⟩ := run_spec hd hs
    obtain ⟨he, hsteps, hacc⟩ := runAll_spec hd' h
    refine ⟨he, List.forall_mem_cons.2 ⟨⟨alone, halone⟩, hsteps⟩, fun id source => ?_⟩
    rw [hacc, run_accepts hd hs, List.forall_mem_cons, and_assoc]

/-- Steps that succeed one by one succeed one after the other. -/
theorem exists_runAll : ∀ {steps : List CompileStep},
    (∀ s ∈ steps, ∃ alone, s.run o t .empty = .ok alone) → ∀ d, ∃ e, runAll o t steps d = .ok e
  | [], _, d => ⟨d, rfl⟩
  | s :: steps, h, d => by
    obtain ⟨⟨alone, halone⟩, hsteps⟩ := List.forall_mem_cons.1 h
    obtain ⟨d', hs⟩ := run_ok_of_ok halone d
    obtain ⟨e, he⟩ := exists_runAll hsteps d'
    exact ⟨e, bind_eq_ok.2 ⟨d', hs, he⟩⟩

/-- The document of a run finds what every step finds by itself. Any run of the same steps, in another
order or with other repeats, succeeds as well and finds the same documents in every index. And each
step leaves the clauses of the document it is given in place, at the front of their lists. -/
theorem steps_intersect (h : runAll o t steps .empty = .ok d) :
    (∀ id source, Accepts id source d.queryClause ↔ ∀ s ∈ steps, Passes o t id source s) ∧
    (∀ steps', (∀ s, s ∈ steps' ↔ s ∈ steps) → ∃ d', runAll o t steps' .empty = .ok d' ∧
      ∀ m : MemoryIndex, m.matching d'.toJson = m.matching d.toJson) ∧
    ∀ s ∈ steps, ∀ e, ∃ e', s.run o t e = .ok e' ∧ e'.query.Keeps e.query := by
  obtain ⟨hplain, hok, hacc⟩ := runAll_spec Plain.empty h
  have hfinds : ∀ id source, Accepts id source d.queryClause ↔ ∀ s ∈ steps, Passes o t id source s :=
    fun id source => (hacc id source).trans (and_iff_right Plain.accepts_empty)
  refine ⟨hfinds, fun steps' hsame => ?_, fun s hs e => ?_⟩
  · obtain ⟨d', h'⟩ := exists_runAll (fun s hs => hok s ((hsame s).1 hs)) .empty
    obtain ⟨hplain', -, hacc'⟩ := runAll_spec Plain.empty h'
    refine ⟨d', h', fun m => ?_⟩
    rw [MemoryIndex.matching_eq (MemoryIndex.queryOf_toJson d') hplain'.decided,
      MemoryIndex.matching_eq (MemoryIndex.queryOf_toJson d) hplain.decided]
    refine congrArg Except.ok (List.filter_congr fun x _ => decide_eq_decide.2 ?_)
    rw [hfinds, hacc', and_iff_right Plain.accepts_empty]
    simp only [hsame]
  · obtain ⟨alone, halone⟩ := hok s hs
    obtain ⟨e', he⟩ := run_ok_of_ok halone e
    exact ⟨e', he, run_keeps he⟩

/-- A search everywhere for open issues with a label. -/
def openBugs : SearchOptions where
  docType := some .issue
  searchLevel := some .global
  highlight := true
  facets := { labelNames := ["bug"], state := some .opened }

/-- Steps out of order, one of them twice and one within another. -/
def shuffledSteps : List CompileStep :=
  [.facet .state, .highlight "<em>" "</em>", .access, .facet .labels, .text true, .facet .state, .hidden]

def openBug : Json :=
  .obj [("state", .str "opened"), ("label_names", .arr [.str "bug", .str "ui"]),
    ("visibility_level", .ofUInt32 20), ("confidential", .bool false)]

theorem steps_intersect_shuffledSteps : ∃ d, runAll openBugs .issue shuffledSteps .empty = .ok d ∧
    Accepts "1" openBug d.queryClause ∧
    ∀ s ∈ shuffledSteps, Passes openBugs .issue "1" openBug s := by
  obtain ⟨d, hd⟩ : ∃ d, runAll openBugs .issue shuffledSteps .empty = .ok d := ⟨_, rfl⟩
  have hfound : Accepts "1" openBug d.queryClause := by
    cases hd
    decide +kernel
  exact ⟨d, hd, hfound, ((steps_intersect hd).1 "1" openBug).1 hfound⟩

end CompileStep

end TenantSearch
