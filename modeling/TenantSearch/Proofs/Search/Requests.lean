/-
Requests for another page. A request that can be built under valid settings has a relation as soon as
its tokens read back, whatever the provider answers, and a total for every index. The page behind a
token can be asked for with its size at either end or with a token alone: the two requests differ in
the window of their documents, which the page replaces, so they are answered alike.
-/
import TenantSearch.Proofs.Compile.Windows
import TenantSearch.Proofs.Config.Valid
import TenantSearch.Proofs.Search.Service

namespace TenantSearch

open Index MemoryIndex

/-! ## Requests -/

namespace PageRequest

/-- A page of a size is asked for, counted from the end a direction starts at, and no position. -/
def Ends (p : PageRequest) (n : UInt32) : PageDirection → Prop
  | .forward => p.first = some n ∧ p.last = none ∧ p.before = none ∧ p.after = none
  | .backward => p.first = none ∧ p.last = some n ∧ p.before = none ∧ p.after = none

/-- The page behind a token, if there is one. -/
def resume (p : PageRequest) : PageDirection → Option String → PageRequest
  | .forward, token => { p with after := token }
  | .backward, token => { p with before := token }

/-- The page behind a token, its size given as that of a numbered page. -/
def bare (p : PageRequest) (n : UInt32) : PageDirection → String → PageRequest
  | .forward, token => { p with first := none, perPage := some n, after := some token }
  | .backward, token => { p with last := none, perPage := some n, before := some token }

variable {p : PageRequest} {n : UInt32} {dir : PageDirection}

/-- A request for an end has no token to begin with. -/
theorem resume_none (h : p.Ends n dir) : p.resume dir none = p := by
  cases dir with
  | forward =>
    obtain ⟨-, -, -, hafter⟩ := h
    unfold resume
    rw [← hafter]
  | backward =>
    obtain ⟨-, -, hbefore, -⟩ := h
    unfold resume
    rw [← hbefore]

end PageRequest

namespace SearchOptions

variable {o : SearchOptions} {p : PageRequest} {n : UInt32} {dir : PageDirection}

theorem validate_resume (h : o.validate = .ok ()) (hp : o.paging.Ends n dir) (token : Option String) :
    (o.withPaging (o.paging.resume dir token)).validate = .ok () := by
  cases dir with
  | forward =>
    obtain ⟨hfirst, hlast, hbefore, hafter⟩ := hp
    refine validate_withPaging h ?_ ?_ (page_ne_zero h)
    · show (o.paging.first.isSome && o.paging.last.isSome) = false
      rw [hlast]
      exact Bool.and_false _
    · show (o.paging.before.isSome && token.isSome) = false
      rw [hbefore]
      rfl
  | backward =>
    obtain ⟨hfirst, hlast, hbefore, hafter⟩ := hp
    refine validate_withPaging h ?_ ?_ (page_ne_zero h)
    · show (o.paging.first.isSome && o.paging.last.isSome) = false
      rw [hfirst]
      rfl
    · show (token.isSome && o.paging.after.isSome) = false
      rw [hafter]
      exact Bool.and_false _

theorem validate_bare (h : o.validate = .ok ()) (hp : o.paging.Ends n dir) (token : String) :
    (o.withPaging (o.paging.bare n dir token)).validate = .ok () := by
  cases dir with
  | forward =>
    obtain ⟨hfirst, hlast, hbefore, hafter⟩ := hp
    refine validate_withPaging h rfl ?_ (page_ne_zero h)
    show (o.paging.before.isSome && true) = false
    rw [hbefore]
    rfl
  | backward =>
    obtain ⟨hfirst, hlast, hbefore, hafter⟩ := hp
    refine validate_withPaging h ?_ ?_ (page_ne_zero h)
    · exact Bool.and_false _
    · show (true && o.paging.after.isSome) = false
      rw [hafter]
      rfl

end SearchOptions

/-! ## Relations of a request and of the same request for another page -/

namespace Relation

variable {r r' : Relation}

/-- Relations that differ in the window of their documents only are paged alike, once a page is asked
for. -/
theorem paged_congr (hr : { r with document := r'.document } = r')
    (h : r.document.unwindowed = r'.document.unwindowed) (hp : r'.page ≠ .unpaged) :
    r.paged = r'.paged := by
  obtain ⟨index, ⟨query, knn, sort, offset, size, trackScores, highlight, source⟩, tieBreakerField,
    page, position, vector, loader⟩ := r
  obtain ⟨_, ⟨_, _, _, offset', size', _, _, _⟩, _, _, _, _, _⟩ := r'
  cases hr
  cases h
  -- the page sets the size and drops the offset, so no window is left to differ in
  unfold paged
  rw [if_pos (.inl hp), if_pos (.inl hp)]
  unfold pagination
  cases page with
  | unpaged => exact absurd rfl hp
  | first n =>
    cases position with
    | none => rfl
    | some at' =>
      obtain ⟨dir, c⟩ := at'
      cases dir <;> rfl
  | last n =>
    cases position with
    | none => rfl
    | some at' =>
      obtain ⟨dir, c⟩ := at'
      cases dir <;> rfl

theorem records_congr (hr : { r with document := r'.document } = r')
    (h : r.document.unwindowed = r'.document.unwindowed) (hp : r'.page ≠ .unpaged) (c : Cluster) :
    r.records c = r'.records c := by
  have hcompiled : r.compiled = r'.compiled := by
    unfold compiled
    rw [paged_congr hr h hp, ← hr]
  unfold records
  rw [hcompiled, ← hr]
  rfl

/-- Of a relation only the index and the query part are counted. -/
theorem totalCount_of_query (hindex : r.index = r'.index)
    (hquery : r.document.queryClause = r'.document.queryClause) (c : Cluster) :
    r.totalCount c = r'.totalCount c := by
  unfold totalCount countBody
  rw [hindex, hquery]

theorem totalCount_congr (hr : { r with document := r'.document } = r')
    (h : r.document.unwindowed = r'.document.unwindowed) (c : Cluster) :
    r.totalCount c = r'.totalCount c := by
  refine totalCount_of_query ?_ (QueryDocument.queryClause_eq h) c
  rw [← hr]

/-- The total is the number of matches. -/
theorem totalCount_eq (hd : Decided r.document.queryClause) (m : MemoryIndex) :
    (r.totalCount (.ofIndex m)).result = .ok (m.found r.document.queryClause).length.toUInt64 := by
  obtain ⟨answer, hanswer, hcount⟩ := m.count_eq hd
  show (((m.count (.obj [("query", r.document.queryClause)])).mapError _).mapError _ >>= fun _ => _) = _
  rw [hanswer]
  exact mapError_eq_ok.2 hcount

end Relation

theorem Run.map_bind_congr {α β γ : Type} {x : Run α} {f g : α → β} {k : β → Run γ}
    (h : ∀ a, k (f a) = k (g a)) :
    ((x >>= fun a => pure (f a)) >>= k) = ((x >>= fun a => pure (g a)) >>= k) := by
  show Run.bind (Run.bind x _) k = Run.bind (Run.bind x _) k
  unfold Run.bind
  cases x.result with
  | error e => rfl
  | ok a =>
    show (⟨_, (k (f a)).result⟩ : Run γ) = ⟨_, (k (g a)).result⟩
    rw [h a]
    rfl

namespace SearchService

variable {s : SearchService} {o : SearchOptions} {d : QueryDocument} {n : UInt32} {dir : PageDirection}

/-! ## Searches -/

/-- Nothing that is looked up for a vector part can fail: a valid request names its level where access
is checked, and valid settings name a backend. -/
theorem vectorPlan_ok {t : DocType} (hv : s.settings.validate = .ok ()) (ho : o.validate = .ok ())
    (ht : o.docType = some t) : ∃ plan, vectorPlan s.settings o t = .ok plan := by
  have hdenied : t.isScoped = true → ∃ denied, Access.crossProjectDenied o = .ok denied := by
    intro hs
    obtain ⟨l, hl⟩ := SearchOptions.exists_searchLevel ho ht hs
    exact ⟨_, Access.crossProjectDenied_eq hl⟩
  obtain ⟨backend, hbackend⟩ := (Settings.validate_eq_ok.1 hv).exists_backend
  unfold vectorPlan
  refine exists_ok_of_ite_bind hdenied fun denied => ?_
  dsimp only
  split
  · exact ⟨none, rfl⟩
  split
  · rw [hbackend, mapError_eq_ok.2 rfl, ok_bind]
    split
    · exact ⟨_, rfl⟩
    · exact ⟨none, rfl⟩
  · exact ⟨none, rfl⟩

/-- The vector part of a valid request never fails. -/
theorem resolveHybrid_ok {t : DocType} (hv : s.settings.validate = .ok ()) (ho : o.validate = .ok ())
    (ht : o.docType = some t) : ∃ v status, (s.resolveHybrid o t).result = .ok (v, status) := by
  obtain ⟨plan, hplan⟩ := vectorPlan_ok hv ho ht
  have hofExcept : (Run.ofExcept ((vectorPlan s.settings o t).mapError SearchError.argument)).result =
      .ok plan := mapError_eq_ok.2 hplan
  cases plan with
  | none => exact ⟨none, .disabled, Run.bind_result.2 ⟨none, hofExcept, rfl⟩⟩
  | some plan => exact ⟨_, _, Run.bind_result.2 ⟨some plan, hofExcept, rfl⟩⟩

/-- The relation of a request whose document can be built and whose tokens read back. -/
theorem relation_ok (hv : s.settings.validate = .ok ()) (hb : o.build s.compileSettings = .ok d)
    {after before : Option (PageDirection × Cursor)}
    (hafter : positionOf .forward o.paging.after = .ok after)
    (hbefore : positionOf .backward o.paging.before = .ok before) :
    ∃ v status, (s.relation o).result = .ok
      ({ index := s.settings.cluster.index, document := d
         tieBreakerField := s.settings.paging.tieBreakerField, page := pageOf o s.compileSettings
         position := before.orElse fun _ => after, vector := v }, status) := by
  obtain ⟨ho, t, ht, -⟩ := SearchOptions.build_eq_ok.1 hb
  obtain ⟨v, status, hvector⟩ := resolveHybrid_ok hv ho ht
  exact ⟨v, status, relation_eq_ok.2 ⟨_, t,
    textRelation_eq_ok.2 ⟨d, after, before, hb, ht, hafter, hbefore, rfl⟩, v, hvector, rfl⟩⟩

/-- The total of a request is the number of its matches. -/
theorem totalCount_ok {r : Relation} {status : HybridStatus} (h : (s.relation o).result = .ok (r, status))
    (m : MemoryIndex) : (r.totalCount (.ofIndex m)).result =
      .ok (m.found r.document.queryClause).length.toUInt64 := by
  rcases relation_browses h with hbrowses | ⟨-, hbrowses⟩ <;>
    exact Relation.totalCount_eq hbrowses.plain.decided m

/-- What a search gives, from the relation of its request, its total and its records. -/
theorem search_ok {r : Relation} {status : HybridStatus} {total : UInt64} {records : List SearchRecord}
    (h : (s.relation o).result = .ok (r, status)) (hc : o.countOnly = false)
    (htotal : (r.totalCount s.cluster).result = .ok total)
    (hrecords : (r.records s.cluster).result = .ok records) :
    (s.search o).result = .ok ⟨records, total, status⟩ := by
  refine Run.bind_result.2 ⟨(r, status), h, Run.bind_result.2 ⟨total, htotal, ?_⟩⟩
  dsimp only
  rw [if_neg (ne_true_of_eq_false hc)]
  exact Run.bind_result.2 ⟨records, hrecords, rfl⟩

/-! ## Pages behind tokens -/

/-- The service over an index in memory, with a provider that answers as it does at the time. -/
def onIndex (s : SearchService) (m : MemoryIndex) (provider : Provider) : SearchService :=
  { s with cluster := .ofIndex m, provider := provider }

variable {cs : CompileSettings}

theorem pageOf_first (h : o.paging.first = some n) : pageOf o cs = .first (cs.pageSize (some n)) := by
  unfold pageOf
  dsimp only
  rw [h]

theorem pageOf_last (hfirst : o.paging.first = none) (h : o.paging.last = some n) :
    pageOf o cs = .last (cs.pageSize (some n)) := by
  unfold pageOf
  dsimp only
  rw [hfirst, h]

/-- The page of a request without a size for the ends goes by its positions. -/
theorem pageOf_unsized (hfirst : o.paging.first = none) (hlast : o.paging.last = none) :
    pageOf o cs = if o.paging.before.isSome then .last (cs.pageSize o.paging.perPage)
      else if o.paging.after.isSome then .first (cs.pageSize o.paging.perPage)
      else .unpaged := by
  unfold pageOf
  dsimp only
  rw [hfirst, hlast]

theorem pageOf_resume (hp : o.paging.Ends n dir) (token : Option String) :
    pageOf (o.withPaging (o.paging.resume dir token)) cs = dir.page (cs.pageSize (some n)) := by
  cases dir with
  | forward => exact pageOf_first hp.1
  | backward => exact pageOf_last hp.1 hp.2.1

/-- A page of which only the position is given is the same page. -/
theorem pageOf_bare (hp : o.paging.Ends n dir) (token : String) :
    pageOf (o.withPaging (o.paging.bare n dir token)) cs = dir.page (cs.pageSize (some n)) := by
  cases dir with
  | forward =>
    obtain ⟨-, hlast, hbefore, -⟩ := hp
    have hnone : (o.withPaging (o.paging.bare n .forward token)).paging.before = none := hbefore
    rw [pageOf_unsized (o := o.withPaging (o.paging.bare n .forward token)) rfl hlast, hnone]
    rfl
  | backward =>
    obtain ⟨hfirst, -, -, -⟩ := hp
    rw [pageOf_unsized (o := o.withPaging (o.paging.bare n .backward token)) hfirst rfl]
    rfl

/-- Requests that lead to relations with the same total and records are answered alike. -/
theorem search_congr {p p' : PageRequest} {r r' : Relation} {t : DocType}
    (h : s.textRelation (o.withPaging p) = .ok (r, t))
    (h' : s.textRelation (o.withPaging p') = .ok (r', t))
    (htotal : ∀ v, ({ r with vector := v } : Relation).totalCount s.cluster =
      ({ r' with vector := v } : Relation).totalCount s.cluster)
    (hrecords : ∀ v, ({ r with vector := v } : Relation).records s.cluster =
      ({ r' with vector := v } : Relation).records s.cluster) :
    s.search (o.withPaging p) = s.search (o.withPaging p') := by
  have hcount : ∀ q, (o.withPaging q).countOnly = o.countOnly := fun _ => rfl
  have hhybrid : ∀ q, s.resolveHybrid (o.withPaging q) t = s.resolveHybrid o t := fun _ => rfl
  unfold search relation
  rw [h, h', hcount, hcount]
  apply Run.map_bind_congr
  intro a
  dsimp only
  rw [htotal a.1, hrecords a.1]

/-- A request that can be built leads to a relation, or to the fault of its first bad token. -/
theorem textRelation_of_build {t : DocType} (hb : o.build s.compileSettings = .ok d) (ht : o.docType = some t) :
    s.textRelation o = (do
      let after ← positionOf .forward o.paging.after
      let before ← positionOf .backward o.paging.before
      .ok ({ index := s.settings.cluster.index, document := d
             tieBreakerField := s.settings.paging.tieBreakerField, page := pageOf o s.compileSettings
             position := before.orElse fun _ => after }, t)) := by
  unfold textRelation applyPaging
  rw [mapError_eq_ok.2 hb, ok_bind, mapError_eq_ok.2 (SearchOptions.docType?_eq_ok.2 ht), ok_bind]
  cases positionOf .forward o.paging.after with
  | error e => rfl
  | ok after =>
    cases positionOf .backward o.paging.before with
    | error e => rfl
    | ok before => rfl

/-- Asked for in either way, the page behind a token is found by the same calls with the same result. -/
theorem search_bare (hb : o.build s.compileSettings = .ok d) (hp : o.paging.Ends n dir) (token : String) :
    s.search (o.withPaging (o.paging.bare n dir token)) =
      s.search (o.withPaging (o.paging.resume dir (some token))) := by
  obtain ⟨hvalid, t, ht, -⟩ := SearchOptions.build_eq_ok.1 hb
  obtain ⟨d₁, hd₁, hw₁⟩ := SearchOptions.build_withPaging hb (SearchOptions.validate_bare hvalid hp token)
  obtain ⟨d₂, hd₂, hw₂⟩ :=
    SearchOptions.build_withPaging hb (SearchOptions.validate_resume hvalid hp (some token))
  have hafter : (o.withPaging (o.paging.bare n dir token)).paging.after =
      (o.withPaging (o.paging.resume dir (some token))).paging.after := by cases dir <;> rfl
  have hbefore : (o.withPaging (o.paging.bare n dir token)).paging.before =
      (o.withPaging (o.paging.resume dir (some token))).paging.before := by cases dir <;> rfl
  have h₁ := textRelation_of_build hd₁ ht
  have h₂ := textRelation_of_build hd₂ ht
  rw [pageOf_bare hp, hafter, hbefore] at h₁
  rw [pageOf_resume hp] at h₂
  have hfault : ∀ e, s.textRelation (o.withPaging (o.paging.bare n dir token)) = .error e →
      s.textRelation (o.withPaging (o.paging.resume dir (some token))) = .error e →
      s.search (o.withPaging (o.paging.bare n dir token)) =
        s.search (o.withPaging (o.paging.resume dir (some token))) := by
    intro e h h'
    unfold search relation
    rw [h, h']
    rfl
  -- a token that does not read back is the same fault in both requests
  cases ha : positionOf .forward (o.withPaging (o.paging.resume dir (some token))).paging.after with
  | error e =>
    rw [ha] at h₁ h₂
    exact hfault e h₁ h₂
  | ok after =>
    cases hb' : positionOf .backward (o.withPaging (o.paging.resume dir (some token))).paging.before with
    | error e =>
      rw [ha, ok_bind, hb'] at h₁ h₂
      exact hfault e h₁ h₂
    | ok before =>
      rw [ha, ok_bind, hb', ok_bind] at h₁ h₂
      apply search_congr h₁ h₂
      · intro v
        exact Relation.totalCount_congr rfl (hw₁.trans hw₂.symm) s.cluster
      · intro v
        exact Relation.records_congr rfl (hw₁.trans hw₂.symm) (dir.page_ne _) s.cluster

end SearchService

end TenantSearch
