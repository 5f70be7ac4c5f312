/-
Documents that the rules of access reject leave no trace. Two indexes that hold the same documents of
those that the rules accept answer every search alike: in the query sent no clause accepts what the rules
reject, and an index counts, orders and cuts nothing but what the query accepts. So the whole run of a
search is the same, its calls included.
-/
import TenantSearch.Proofs.Search.Requests

namespace TenantSearch

open Index

namespace MemoryIndex

variable {m m' : MemoryIndex} {c e : Clause} {d : QueryDocument}

/-- Of documents found alike, those found by a narrower clause are alike. -/
theorem found_congr (hnarrow : ∀ id source, Accepts id source c → Accepts id source e)
    (h : m.found e = m'.found e) : m.found c = m'.found c := by
  have hfilter : ∀ n : MemoryIndex, n.found c = (n.found e).filter fun d => decide (Accepts d.1 d.2 c) := by
    intro n
    unfold found
    rw [List.filter_filter]
    apply List.filter_congr
    intro d _
    rw [Bool.eq_iff_iff, Bool.and_eq_true, decide_eq_true_iff, decide_eq_true_iff]
    exact ⟨fun hc => ⟨hc, hnarrow d.1 d.2 hc⟩, And.left⟩
  rw [hfilter m, hfilter m', h]

/-- Indexes that match a body alike answer it alike. -/
theorem search_congr {body : Json} (h : m.matching body = m'.matching body) :
    m.search body = m'.search body := by
  unfold search window
  rw [h]

theorem count_congr {body : Json} (h : m.matching body = m'.matching body) :
    m.count body = m'.count body := by
  unfold count
  rw [h]

end MemoryIndex

namespace Relation

variable {r : Relation} {k : KeyOrder} {m m' : MemoryIndex}

theorem Browses.records_congr (hr : r.Browses k)
    (h : m.found r.document.queryClause = m'.found r.document.queryClause) :
    r.records (.ofIndex m) = r.records (.ofIndex m') := by
  have hfound : m.found r.compiled.queryClause = m'.found r.compiled.queryClause :=
    MemoryIndex.found_congr (fun _ _ hacc => (hr.accepts_compiled.1 hacc).1) h
  have hmatching : m.matching r.compiled.toJson = m'.matching r.compiled.toJson := by
    have hquery := MemoryIndex.queryOf_toJson r.compiled
    rw [MemoryIndex.matching_eq hquery hr.decided_compiled,
      MemoryIndex.matching_eq hquery hr.decided_compiled, hfound]
  unfold records Cluster.ofIndex
  dsimp only
  rw [MemoryIndex.search_congr hmatching]

theorem Browses.totalCount_congr (hr : r.Browses k)
    (h : m.found r.document.queryClause = m'.found r.document.queryClause) :
    r.totalCount (.ofIndex m) = r.totalCount (.ofIndex m') := by
  have hmatching : m.matching r.countBody = m'.matching r.countBody := by
    have hquery : MemoryIndex.queryOf r.countBody = r.document.queryClause := rfl
    rw [MemoryIndex.matching_eq hquery hr.plain.decided, MemoryIndex.matching_eq hquery hr.plain.decided, h]
  unfold totalCount Cluster.ofIndex
  dsimp only
  rw [MemoryIndex.count_congr hmatching]

end Relation

namespace SearchService

variable {o : SearchOptions} {t : DocType} {e : QueryDocument}

/-- What a request finds passes the rules of access by themselves. -/
theorem accepts_access {cs : CompileSettings} {d : QueryDocument} {id : String} {source : Json}
    (hb : o.build cs = .ok d) (ht : o.docType = some t) (ha : Access.apply .empty o t = .ok e)
    (h : Accepts id source d.queryClause) : Accepts id source e.queryClause := by
  rcases SearchOptions.accepts_build hb ht with ⟨-, -, hnone⟩ | ⟨-, access, facets, ha', -, hacc⟩
  · exact absurd h (hnone id source)
  · obtain rfl : e = access := Except.ok.inj (ha.symm.trans ha')
    exact ((hacc id source).1 h).2.2.1

/-- Documents that the rules of access reject do not influence what a search observes: over two indexes
that hold the same documents apart from those, in the same order, it makes the same calls with the same
result. -/
theorem search_isolated (ht : o.docType = some t) (ha : Access.apply .empty o t = .ok e)
    (s : SearchService) (provider : Provider) (m m' : MemoryIndex)
    (h : m.found e.queryClause = m'.found e.queryClause) :
    (s.onIndex m provider).search o = (s.onIndex m' provider).search o := by
  show ((s.onIndex m provider).relation o >>= _) = ((s.onIndex m provider).relation o >>= _)
  apply Run.bind_congr
  rintro ⟨r, status⟩ hr
  have hfound : m.found r.document.queryClause = m'.found r.document.queryClause :=
    MemoryIndex.found_congr (fun _ _ => accepts_access (relation_document hr) ht ha) h
  have hsame : r.totalCount (.ofIndex m) = r.totalCount (.ofIndex m') ∧
      r.records (.ofIndex m) = r.records (.ofIndex m') := by
    rcases relation_browses hr with hbrowses | ⟨-, hbrowses⟩ <;>
      exact ⟨hbrowses.totalCount_congr hfound, hbrowses.records_congr hfound⟩
  obtain ⟨htotal, hrecords⟩ := hsame
  unfold onIndex
  dsimp only
  rw [htotal, hrecords]

/-- The same issue as a public one, but private. -/
def privateIssue : String × Json :=
  ("p", .obj [("created_at", .str "2023-12-31"), ("id", .str "p"), ("type", .str "issue"),
    ("visibility_level", .int ⟨0, by decide⟩), ("confidential", .bool false)])

/-- The three issues, with a private one in front that would be the oldest. -/
def fourIssues : MemoryIndex := ⟨privateIssue :: threeIssues.documents⟩

theorem search_isolated_fourIssues : ∃ e, oldestIssues.docType = some .issue ∧
    Access.apply .empty oldestIssues .issue = .ok e ∧
    fourIssues.found e.queryClause = threeIssues.found e.queryClause ∧
    (exampleService.onIndex fourIssues fun _ _ => .ok []).search oldestIssues =
      (exampleService.onIndex threeIssues fun _ _ => .ok []).search oldestIssues := by
  obtain ⟨e, he⟩ : ∃ e, Access.apply .empty oldestIssues .issue = .ok e := ⟨_, rfl⟩
  have hrejected : ¬ Accepts privateIssue.1 privateIssue.2 e.queryClause := by
    cases he
    decide +kernel
  have hfound : fourIssues.found e.queryClause = threeIssues.found e.queryClause :=
    List.filter_cons_of_neg (by simpa using hrejected)
  exact ⟨e, rfl, he, hfound, search_isolated rfl he exampleService (fun _ _ => .ok []) fourIssues
    threeIssues hfound⟩

end SearchService

end TenantSearch
