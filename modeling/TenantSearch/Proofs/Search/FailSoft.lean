/-
Vectors only ever add to a text search. A request that asks for them compiles to the document of the
same request without them, to which the vector part is attached last, page and position included, and
from which it can be taken off again. A provider that fails or has no vector leaves the document as it
is; and an index that finds nothing by vectors gives the same page and the same total in either case.
-/
import TenantSearch.Proofs.Search.Moves
import TenantSearch.Proofs.Search.Requests

namespace TenantSearch

open Index MemoryIndex

/-! ## Documents -/

/-- The clauses that a clause asks to match with a score. -/
def Clause.mustOf (c : Clause) : List Clause :=
  match (c.get? "bool").bind fun e => e.get? "must" with
  | some (.arr clauses) => clauses
  | _ => []

namespace QueryDocument

/-- A document without its vector part. Where the part stands beside the free text, the free text
is the first of the clauses that should match. -/
def eraseVector (d : QueryDocument) : VectorBackend → QueryDocument
  | .elasticsearch => { d with knn := none }
  | .opensearch =>
    { d with query := { d.query with
        must := (d.query.should.head?.map Clause.mustOf).getD []
        should := []
        minimumShouldMatch := none } }

theorem mustOf_clause (clauses : List Clause) :
    Clause.mustOf ({ must := clauses } : BoolExpr).clause = clauses := by
  cases clauses <;> rfl

variable {d : QueryDocument}

/-- A vector part that is attached to a plain document can be taken off again. -/
theorem Plain.eraseVector_withVector (h : d.Plain) (q : VectorQuery) :
    (d.withVector q).eraseVector q.backend = d := by
  obtain ⟨⟨must, mustNot, should, filter, minimum⟩, knn, sort, offset, size, trackScores, highlight,
    source⟩ := d
  obtain rfl : knn = none := h.knn
  obtain rfl : should = [] := h.should
  obtain rfl : minimum = none := h.minimum
  unfold withVector
  cases q.backend with
  | elasticsearch => rfl
  | opensearch =>
    show eraseVector _ .opensearch = _
    unfold eraseVector
    dsimp only
    rw [List.nil_append, List.head?_cons, Option.map_some, mustOf_clause]
    rfl

/-- An index finds the same with a vector part, in the same order. -/
theorem Plain.ordered_withVector (h : d.Plain) (q : VectorQuery) (m : MemoryIndex) :
    m.ordered (d.withVector q) = m.ordered d := by
  have hfound : m.found (d.withVector q).queryClause = m.found d.queryClause := by
    apply List.filter_congr
    intro e he
    rw [decide_eq_decide]
    exact h.accepts_withVector q
  unfold ordered
  rw [hfound, (d.withVector_window q).1]

end QueryDocument

/-! ## Relations -/

namespace Relation

variable {r r₀ : Relation} {k : KeyOrder}

/-- A relation searches as one without a vector part does: it sends the same document, to which the
vector part may be attached, and gets the same from every index. -/
structure SearchesAs (r r₀ : Relation) : Prop where
  compiled : r.vector = none → r.compiled = r₀.compiled
  erased : ∀ q, r.vector = some q → r.compiled.eraseVector q.backend = r₀.compiled
  records : ∀ m, (r.records (.ofIndex m)).result = (r₀.records (.ofIndex m)).result
  total : ∀ m, (r.totalCount (.ofIndex m)).result = (r₀.totalCount (.ofIndex m)).result

theorem Browses.setVector (h : r.Browses k) (v : Option VectorQuery) :
    ({ r with vector := v } : Relation).Browses k := ⟨h.plain, h.follows, h.loader⟩

/-- A vector part is attached last, so it is all that tells the documents sent apart. -/
theorem compiled_setVector (r : Relation) (q : VectorQuery) :
    ({ r with vector := some q } : Relation).compiled = r.paged.withVector q := rfl

theorem compiled_of_no_vector (h : r.vector = none) : r.compiled = r.paged := by
  unfold compiled
  rw [h]

theorem Browses.records_setVector (h : r.Browses k) (hr : r.vector = none) (q : VectorQuery)
    (m : MemoryIndex) : (({ r with vector := some q } : Relation).records (.ofIndex m)).result =
      (r.records (.ofIndex m)).result := by
  obtain ⟨hsort, hoffset, hsize⟩ := r.paged.withVector_window q
  rw [(h.setVector (some q)).records_eq m, h.records_eq m, compiled_setVector, compiled_of_no_vector hr,
    h.plain_paged.ordered_withVector q m, hsort, hoffset, hsize]
  rfl

theorem Browses.searchesAs_setVector (h : r.Browses k) (hr : r.vector = none) (v : Option VectorQuery) :
    ({ r with vector := v } : Relation).SearchesAs r := by
  cases v with
  | none =>
    have heq : ({ r with vector := none } : Relation) = r := by rw [← hr]
    rw [heq]
    refine ⟨fun _ => rfl, ?_, fun _ => rfl, fun _ => rfl⟩
    intro q hq
    rw [hr] at hq
    cases hq
  | some q =>
    constructor
    · intro hnone
      cases hnone
    · rintro _ ⟨⟩
      rw [compiled_setVector, h.plain_paged.eraseVector_withVector, compiled_of_no_vector hr]
    · exact h.records_setVector hr q
    · exact fun _ => rfl

end Relation

/-! ## Requests -/

/-- The same request, with vectors turned off. -/
def SearchOptions.withoutHybrid (o : SearchOptions) : SearchOptions :=
  { o with flags := { o.flags with hybrid := false } }

namespace SearchService

variable {s : SearchService} {o : SearchOptions} {t : DocType} {r : Relation} {status : HybridStatus}

theorem vectorPlan_eq_some {settings : Settings} {p : VectorPlan}
    (h : vectorPlan settings o t = .ok (some p)) : o.flags.hybrid = true ∧
      VectorBackend.ofName settings.cluster.backend = .ok p.backend ∧ p.text = Text.trim o.query := by
  unfold vectorPlan at h
  obtain ⟨denied, h⟩ := exists_of_ite_bind h
  dsimp only at h
  split at h
  · cases h
  rename_i heligible
  rw [Bool.or_eq_true, not_or] at heligible
  have hflag : o.flags.hybrid = true := by
    have hall := heligible.2
    unfold FullText.hybridEligible at hall
    simp only [Bool.not_eq_true', Bool.not_eq_false, Bool.and_eq_true] at hall
    tauto
  split at h
  · obtain ⟨backend, hbackend, h⟩ := bind_eq_ok.1 h
    split at h
    · cases h
      exact ⟨hflag, mapError_eq_ok.1 hbackend, rfl⟩
    · cases h
  · cases h

/-- A plan is applied when the provider has a vector, and comes to nothing otherwise. -/
theorem resolve_cases (p : VectorPlan) (h : HybridSettings)
    (answer : Except EmbeddingError (List Embedding.Vector)) :
    (∃ vector rest, answer = .ok (vector :: rest) ∧ p.resolve h answer = (some (p.query h vector), .applied)) ∨
      ∃ reason, p.resolve h answer = (none, .fallback reason) := by
  rcases answer with e | _ | ⟨vector, rest⟩
  · exact .inr ⟨_, rfl⟩
  · exact .inr ⟨_, rfl⟩
  · exact .inl ⟨vector, rest, rfl, rfl⟩

/-- What becomes of the vector part: none is wanted, or none comes, or it is the query of a plan for the
backend of the cluster and the provider's first vector. -/
theorem resolveHybrid_cases {v : Option VectorQuery} (h : (s.resolveHybrid o t).result = .ok (v, status)) :
    (v = none ∧ status = .disabled) ∨ o.flags.hybrid = true ∧ ((v = none ∧ ∃ reason, status = .fallback reason) ∨
      ∃ (p : VectorPlan) (vector : Embedding.Vector) (rest : List Embedding.Vector),
        v = some (p.query s.settings.search.hybrid vector) ∧ status = .applied ∧
        VectorBackend.ofName s.settings.cluster.backend = .ok p.backend ∧
        s.provider s.settings.embedding [Text.trim o.query] = .ok (vector :: rest)) := by
  unfold resolveHybrid at h
  obtain ⟨plan, hplan, h⟩ := Run.bind_result.1 h
  cases plan with
  | none =>
    cases h
    exact .inl ⟨rfl, rfl⟩
  | some p =>
    obtain ⟨hflag, hbackend, htext⟩ := vectorPlan_eq_some (mapError_eq_ok.1 hplan)
    refine .inr ⟨hflag, ?_⟩
    have hresolve := Except.ok.inj h
    rcases resolve_cases p s.settings.search.hybrid (s.provider s.settings.embedding [p.text]) with
      ⟨vector, rest, hanswer, hp⟩ | ⟨reason, hp⟩
    · rw [hp] at hresolve
      cases hresolve
      exact .inr ⟨p, vector, rest, rfl, rfl, hbackend, htext ▸ hanswer⟩
    · rw [hp] at hresolve
      cases hresolve
      exact .inl ⟨rfl, reason, rfl⟩

/-- The relation of a request is that of its text with a vector part, which is there only when the
request asks for it and the provider has it. -/
theorem relation_vector (hv : s.settings.validate = .ok ()) (h : s.textRelation o = .ok (r, t)) :
    ∃ v status, (s.relation o).result = .ok ({ r with vector := v }, status) ∧
      (o.flags.hybrid = false → v = none ∧ status = .disabled) ∧
      ∀ q, v = some q → status = .applied ∧
        VectorBackend.ofName s.settings.cluster.backend = .ok q.backend ∧
        ∃ rest, s.provider s.settings.embedding [Text.trim o.query] = .ok (q.vector :: rest) := by
  obtain ⟨d, after, before, hd, ht, -, -, -⟩ := textRelation_eq_ok.1 h
  obtain ⟨v, status, hresolve⟩ := resolveHybrid_ok hv (SearchOptions.build_eq_ok.1 hd).1 ht
  refine ⟨v, status, relation_eq_ok.2 ⟨r, t, h, v, hresolve, rfl⟩, ?_⟩
  rcases resolveHybrid_cases hresolve with hdisabled | ⟨hflag, ⟨rfl, -⟩ | ⟨p, vector, rest, rfl, hstatus, hbackend, hanswer⟩⟩
  · exact ⟨fun _ => hdisabled, fun q hq => by rw [hdisabled.1] at hq; cases hq⟩
  · exact ⟨fun hoff => absurd (hflag.symm.trans hoff) (by decide), nofun⟩
  · refine ⟨fun hoff => absurd (hflag.symm.trans hoff) (by decide), ?_⟩
    rintro _ ⟨⟩
    exact ⟨hstatus, hbackend, rest, hanswer⟩

/-- A request for vectors fails soft. Whatever the provider answers, the request has a relation, and
so has the same request without vectors. The two send the same document when the provider fails or
has no vector; a vector that it has is searched for in the backend of the cluster, and can be taken
off the document again. On every chain of pages an index gives both the same records and total. -/
theorem hybrid_failsSoft (hv : s.settings.validate = .ok ()) (h : (s.relation o).result = .ok (r, status)) :
    ∃ r₀ : Relation, ∀ provider : Provider,
      (({ s with provider := provider } : SearchService).relation o.withoutHybrid).result =
        .ok (r₀, .disabled) ∧
      ∃ r' status', (({ s with provider := provider } : SearchService).relation o).result = .ok (r', status') ∧
        ((∀ vector rest, provider s.settings.embedding [Text.trim o.query] ≠ .ok (vector :: rest)) →
          ∀ moves, (r'.follow moves).compiled = (r₀.follow moves).compiled) ∧
        (∀ q, r'.vector = some q → status' = .applied ∧
          VectorBackend.ofName s.settings.cluster.backend = .ok q.backend ∧
          ∃ rest, provider s.settings.embedding [Text.trim o.query] = .ok (q.vector :: rest)) ∧
        ∀ moves, (r'.follow moves).SearchesAs (r₀.follow moves) := by
  obtain ⟨k, hbrowses⟩ := exists_browses h
  obtain ⟨r₀, t, h₀, v₀, -, rfl⟩ := relation_eq_ok.1 h
  obtain ⟨d, after, before, -, -, -, -, hr₀⟩ := textRelation_eq_ok.1 h₀
  have hnone : r₀.vector = none := by rw [hr₀]
  have hbrowses₀ : r₀.Browses k := ⟨hbrowses.plain, hbrowses.follows, hbrowses.loader⟩
  refine ⟨r₀, fun provider => ⟨?_, ?_⟩⟩
  · -- turning vectors off changes nothing in the text of a request
    obtain ⟨v, status', hrelation, hoff, -⟩ :=
      relation_vector (s := { s with provider := provider }) (o := o.withoutHybrid) hv h₀
    obtain ⟨rfl, rfl⟩ := hoff rfl
    rw [hrelation, ← hnone]
  · obtain ⟨v, status', hrelation, -, hvector⟩ :=
      relation_vector (s := { s with provider := provider }) hv h₀
    have hsearches : ∀ moves, (({ r₀ with vector := v } : Relation).follow moves).SearchesAs
        (r₀.follow moves) := by
      intro moves
      rw [Relation.follow_setVector]
      exact (hbrowses₀.follow moves).searchesAs_setVector ((r₀.follow_vector moves).trans hnone) v
    refine ⟨_, status', hrelation, ?_, hvector, hsearches⟩
    intro hanswer moves
    refine (hsearches moves).compiled ?_
    rw [Relation.follow_vector]
    rcases Option.eq_none_or_eq_some v with hv | ⟨q, hq⟩
    · exact hv
    · obtain ⟨-, -, rest, hok⟩ := hvector q hq
      exact absurd hok (hanswer q.vector rest)

/-- The example deployment, with vectors turned on and a provider that knows one vector. -/
def hybridService : SearchService :=
  { exampleService with
    settings := { exampleSettings with search := { hybrid := { enabled := true, minQueryChars := 1 } } }
    provider := fun _ _ => .ok [[.singleOfInt 1, .singleOfInt 2]] }

/-- The oldest issues about something, by vectors as well. -/
def slowIssues : SearchOptions :=
  { oldestIssues with
    query := "slow login"
    vectors := ⟨some (.singleOfInt 0), some .opensearch, some "embedding"⟩
    flags := { hybrid := true } }

theorem hybrid_failsSoft_slowIssues :
    hybridService.settings.validate = .ok () ∧
      (∃ r, (hybridService.relation slowIssues).result = .ok (r, .applied)) ∧
      ∃ r₀, (hybridService.relation slowIssues.withoutHybrid).result = .ok (r₀, .disabled) ∧
        ∃ r', (hybridService.relation slowIssues).result = .ok (r', .applied) ∧
          ∀ moves, (r'.follow moves).SearchesAs (r₀.follow moves) := by
  have hv : hybridService.settings.validate = .ok () := rfl
  obtain ⟨r, hr⟩ : ∃ r, (hybridService.relation slowIssues).result = .ok (r, .applied) := ⟨_, rfl⟩
  obtain ⟨r₀, hsoft⟩ := hybrid_failsSoft hv hr
  obtain ⟨h₀, r', status', hr', -, -, hsearches⟩ := hsoft hybridService.provider
  cases hr.symm.trans hr'
  exact ⟨hv, ⟨r, hr⟩, r₀, h₀, r, hr, hsearches⟩

end SearchService

end TenantSearch
