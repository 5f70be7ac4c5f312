/-
Numbered pages. A numbered page leaves out the pages before it by an offset, a walk goes on behind the
last record of the page before, and the two cut the natural order in the same places: the records of a
numbered page are those that a walk of as many steps comes to. Without an order a request is listed as
the index has its documents, and its numbered pages tile that list.
-/
import TenantSearch.Proofs.Search.Tokens

namespace TenantSearch

open Index MemoryIndex

/-! ## Windows without a page -/

namespace Relation

variable {r : Relation} {k : KeyOrder} {m : MemoryIndex} {p t : Kind} {L : List (String × Json)}
variable {n : UInt32}

theorem unpaged_recordsOf (hpage : r.page = .unpaged) (hits : List Hit) :
    r.recordsOf hits = hits.map SearchRecord.ofHit := by
  unfold recordsOf
  rw [hpage]

/-- Without page and position, what a search in an order finds is listed in natural order. -/
theorem Browses.records_unpaged (h : r.Browses k) (hpage : r.page = .unpaged) (hposition : r.position = none)
    (hsort : r.document.sort ≠ []) (hm : k.Placed p t (m.found r.document.queryClause))
    (hp : L.Perm (m.found r.document.queryClause)) (hL : L.Pairwise k.Precedes) :
    (r.records (.ofIndex m)).result = .ok (((L.drop ((r.document.offset.map UInt32.toNat).getD 0)).take
      ((r.document.size.map UInt32.toNat).getD defaultSize)).map k.record) := by
  obtain ⟨hclauses, hoffset, hsize⟩ := unpaged_window hpage hposition
  rw [if_neg hsort] at hclauses
  have hreversed : r.pagination.reversed = false := by
    unfold pagination
    rw [hpage, hposition]
    rfl
  have hkeys : r.compiled.sort.map SortKey.ofClause = k.sortKeys false := by
    rw [hclauses, KeyOrder.map_sortClauses h.follows_pagination, hreversed]
  have hne : r.compiled.sort ≠ [] := by
    intro hnil
    rw [hnil] at hkeys
    exact k.sortKeys_ne_nil _ hkeys.symm
  have hfound : m.found r.compiled.queryClause = m.found r.document.queryClause := by
    rw [h.found_compiled hm fun dir c hc => (by rw [hposition] at hc; cases hc), hposition,
      KeyOrder.filter_isBeyond_none]
  have hordered : m.ordered r.compiled = L := by
    unfold ordered
    rw [if_neg hne, hkeys, hfound, KeyOrder.sorted_sortKeys hm hp hL false]
    rfl
  rw [h.records_eq m, unpaged_recordsOf hpage, hordered, hoffset, hsize, hkeys, List.map_map]
  congr 1
  apply List.map_congr_left
  intro d hd
  have hdL : d ∈ L := List.drop_subset _ _ (List.take_subset _ _ hd)
  exact KeyOrder.ofHit_hitOf (hm.ofSortValues (hp.mem_iff.1 hdL) false)

/-- The record of a document in a list without an order. -/
def unorderedRecord (d : String × Json) : SearchRecord :=
  { id := d.1, score := some (.ofDyadic 1), source := d.2, cursor := none }

/-- Without page, position and order, what a search finds is listed as the index has it. -/
theorem Browses.records_unordered (h : r.Browses k) (hpage : r.page = .unpaged)
    (hposition : r.position = none) (hsort : r.document.sort = []) :
    (r.records (.ofIndex m)).result = .ok ((((m.found r.document.queryClause).drop
      ((r.document.offset.map UInt32.toNat).getD 0)).take
        ((r.document.size.map UInt32.toNat).getD defaultSize)).map unorderedRecord) := by
  obtain ⟨hclauses, hoffset, hsize⟩ := unpaged_window hpage hposition
  rw [if_pos hsort] at hclauses
  have hfound : m.found r.compiled.queryClause = m.found r.document.queryClause := by
    apply List.filter_congr
    intro d hd
    rw [decide_eq_decide, h.accepts_compiled]
    unfold positionFilter
    rw [hposition]
    exact and_iff_left fun c hc => by cases hc
  have hordered : m.ordered r.compiled = m.found r.document.queryClause := by
    unfold ordered
    rw [if_pos hclauses, hfound]
  rw [h.records_eq m, unpaged_recordsOf hpage, hordered, hoffset, hsize, hclauses, List.map_map]
  rfl

/-! ## Walks over an index that stays as it is -/

/-- A walk over an index that stays as it is cuts what it passes into pages. Past the end its pages
are empty. -/
theorem Windows.walk_replicate (h : r.Windows k) (hr : r.position = none) (hn : n ≠ 0)
    (hm : k.Placed p t (m.found r.document.queryClause)) (hp : L.Perm (m.found r.document.queryClause))
    (hL : L.Pairwise k.Precedes) (dir : PageDirection) : ∀ (j : Nat) (A B : List (String × Json)), dir.turn L = A ++ B →
      ∃ pages, r.walk n dir (A.getLast?.map fun d => k.position d.2) (List.replicate j m) = .ok pages ∧
        ∀ i < j, pages.getD i [] = dir.turn (((B.drop (i * n.toNat)).take n.toNat).map k.record)
  | 0, A, B, _ => ⟨[], rfl, fun i hi => absurd hi (Nat.not_lt_zero i)⟩
  | j + 1, A, B, hsplit => by
    have hpos : n.toNat ≠ 0 := fun h0 => hn (UInt32.toNat_inj.1 h0)
    have hpage := h m p t L hm hp hL dir n ((A.getLast?.map fun d => k.position d.2).map (dir, ·)) (by
      intro dir' c hc
      obtain ⟨c', hc', he⟩ := Option.map_eq_some_iff.1 hc
      obtain ⟨e, he', rfl⟩ := Option.map_eq_some_iff.1 hc'
      cases he
      have heL : e ∈ dir.turn L := hsplit ▸ List.mem_append_left B (List.mem_of_getLast? he')
      exact hm.fits e (hp.mem_iff.1 (PageDirection.mem_turn.1 heL)))
    rw [← step_eq_turnTo hr, PageDirection.cut_eq_take, SearchService.turn_filter_isBeyond hm hp hL hsplit,
      ← PageDirection.turn_map] at hpage
    rw [List.replicate_succ, walk, hpage, ok_bind, edge_records]
    by_cases hB : B = []
    · -- nothing is left, and the walk ends with an empty page
      subst hB
      rw [List.take_nil]
      refine ⟨[[]], by cases dir <;> rfl, ?_⟩
      intro i hi
      rw [List.drop_nil, List.take_nil, List.map_nil]
      cases i <;> cases dir <;> rfl
    · have htake : B.take n.toNat ≠ [] := fun hnil => (List.take_eq_nil_iff.1 hnil).elim hpos hB
      obtain ⟨e, he⟩ := Option.isSome_iff_exists.1 (List.getLast?_isSome.2 htake)
      have hlast : (A ++ B.take n.toNat).getLast? = some e := by
        rw [List.getLast?_append, he]
        rfl
      have hsplit' : dir.turn L = (A ++ B.take n.toNat) ++ B.drop n.toNat := by
        rw [List.append_assoc, List.take_append_drop, hsplit]
      obtain ⟨pages, hwalk, hpages⟩ := h.walk_replicate hr hn hm hp hL dir j (A ++ B.take n.toNat)
        (B.drop n.toNat) hsplit'
      rw [hlast, Option.map_some] at hwalk
      rw [he, Option.map_some]
      dsimp only
      rw [hwalk, ok_bind]
      refine ⟨_, rfl, ?_⟩
      rintro (_ | i) hi
      · rw [Nat.zero_mul, List.drop_zero]
        rfl
      · rw [List.getD_cons_succ, hpages i (Nat.lt_of_succ_lt_succ hi), List.drop_drop, Nat.succ_mul,
          Nat.add_comm]

end Relation

/-- Windows of one size, one after the other, are the start of the list. -/
theorem flatMap_windows {α : Type} (l : List α) (n : Nat) : ∀ j : Nat,
    ((List.range j).flatMap fun i => (l.drop (i * n)).take n) = l.take (j * n)
  | 0 => by simp
  | j + 1 => by
    rw [List.range_succ, List.flatMap_append, flatMap_windows l n j, List.flatMap_singleton, Nat.succ_mul,
      List.take_add]

/-! ## Requests -/

namespace SearchService

variable {s : SearchService} {o : SearchOptions} {d : QueryDocument} {page : UInt32}
variable {m : MemoryIndex} {p t : Kind} {L : List (String × Json)}

theorem relation_error {e : ArgumentError} (h : o.build s.compileSettings = .error e) :
    (s.relation o).result = .error (.argument e) := by
  have htext : s.textRelation o = .error (.argument e) := by
    unfold textRelation
    rw [h]
    rfl
  unfold relation
  rw [htext]
  rfl

theorem search_error {e : SearchError} (h : (s.relation o).result = .error e) :
    (s.search o).result = .error e := by
  show (Run.bind (s.relation o) _).result = _
  unfold Run.bind
  rw [h]

/-- A request without paging fields that can be built has a relation without page and position. -/
theorem relation_unpaged_ok (hv : s.settings.validate = .ok ()) (hb : o.build s.compileSettings = .ok d)
    (hk : o.paging.usesKeyset = false) : ∃ r status, (s.relation o).result = .ok (r, status) ∧
      r.document = d ∧ r.page = .unpaged ∧ r.position = none := by
  have hpositions : o.paging.after = none ∧ o.paging.before = none := by
    unfold PageRequest.usesKeyset at hk
    simp only [Bool.or_eq_false_iff, Option.isSome_eq_false_iff, Option.isNone_iff_eq_none] at hk
    exact ⟨hk.2, hk.1.2⟩
  have hafter : positionOf .forward o.paging.after = .ok none := by rw [hpositions.1]; rfl
  have hbefore : positionOf .backward o.paging.before = .ok none := by rw [hpositions.2]; rfl
  obtain ⟨v, status, hrelation⟩ := relation_ok hv hb hafter hbefore
  obtain ⟨hpage, hposition⟩ := relation_unpaged hrelation hk
  exact ⟨_, status, hrelation, rfl, hpage, hposition⟩

/-- The search for a numbered page: a denied request has nothing to list, and otherwise the records are
those of a relation in the order of the request, from behind the pages before. -/
theorem search_atPage (hv : s.settings.validate = .ok ()) (hb : o.build s.compileSettings = .ok d)
    (hk : o.paging.usesKeyset = false) (hc : o.countOnly = false) (hpage : 1 ≤ page)
    (hoffset : (page.toNat - 1) * (s.compileSettings.pageSize o.paging.perPage).toNat < 2 ^ 32)
    (provider : Provider) :
    ∃ x, ((s.onIndex m provider).search (o.atPage (some page))).result = .ok x ∧
      ((m.found d.queryClause = [] ∧ x.records = []) ∨
        ∃ r : Relation, r.Browses (s.keyOrder o) ∧ r.page = .unpaged ∧ r.position = none ∧
          r.document.queryClause = d.queryClause ∧ r.document.sort = o.sortClause.toList ∧
          (r.document.size.map UInt32.toNat).getD defaultSize =
            (s.compileSettings.pageSize o.paging.perPage).toNat ∧
          (r.document.offset.map UInt32.toNat).getD 0 =
            (page.toNat - 1) * (s.compileSettings.pageSize o.paging.perPage).toNat ∧
          (r.records (.ofIndex m)).result = .ok x.records) := by
  obtain ⟨hvalid, -⟩ := SearchOptions.build_eq_ok.1 hb
  have hne : some page ≠ some 0 := by
    rintro ⟨⟩
    exact absurd hpage (by decide)
  obtain ⟨d', hd', hw⟩ := SearchOptions.build_withPaging hb (SearchOptions.validate_atPage hvalid hne)
  obtain ⟨r, status, hrelation, rfl, hunpaged, hposition⟩ :=
    relation_unpaged_ok (s := s.onIndex m provider) hv hd' hk
  have hquery : r.document.queryClause = d.queryClause := QueryDocument.queryClause_eq hw
  obtain ⟨k, hbrowses⟩ := exists_browses hrelation
  have hsearch : ∀ records, (r.records (.ofIndex m)).result = .ok records → _ :=
    fun records => search_ok hrelation hc (totalCount_ok hrelation m)
  by_cases hdenied : r.document = .matchNone
  · have hnone : m.found r.document.queryClause = [] := by
      rw [hdenied]
      exact found_matchNone m
    exact ⟨_, hsearch [] (hbrowses.records_of_empty hnone), .inl ⟨hquery ▸ hnone, rfl⟩⟩
  · obtain ⟨hsize, hskip⟩ := (SearchOptions.build_window hd' hc hk rfl).resolve_left hdenied
    refine ⟨_, hsearch _ (hbrowses.records_eq m), .inr ⟨r, ?_, hunpaged, hposition, hquery, ?_, ?_, ?_,
      hbrowses.records_eq m⟩⟩
    · exact (relation_browses hrelation).resolve_right fun hnone => hdenied hnone.1
    · exact (SearchOptions.build_sort hd').resolve_right hdenied
    · rw [hsize]
      rfl
    · rw [hskip]
      exact pageOffset_toNat hoffset

/-- A numbered page of a request with an order is a window of its natural order. -/
theorem search_numbered (hv : s.settings.validate = .ok ()) (hb : o.build s.compileSettings = .ok d)
    (hk : o.paging.usesKeyset = false) (hc : o.countOnly = false) {c : SortClause} (hsort : o.sortClause = some c)
    (hm : (s.keyOrder o).Placed p t (m.found d.queryClause)) (hperm : L.Perm (m.found d.queryClause))
    (hL : L.Pairwise (s.keyOrder o).Precedes) (hpage : 1 ≤ page)
    (hoffset : (page.toNat - 1) * (s.compileSettings.pageSize o.paging.perPage).toNat < 2 ^ 32)
    (provider : Provider) :
    ∃ x, ((s.onIndex m provider).search (o.atPage (some page))).result = .ok x ∧
      x.records = ((L.drop ((page.toNat - 1) * (s.compileSettings.pageSize o.paging.perPage).toNat)).take
        (s.compileSettings.pageSize o.paging.perPage).toNat).map (s.keyOrder o).record := by
  obtain ⟨x, hx, ⟨hnone, hrecords⟩ | ⟨r, hbrowses, hunpaged, hposition, hquery, hclauses, hsize, hskip, hrecords⟩⟩ :=
    search_atPage (m := m) hv hb hk hc hpage hoffset provider
  · refine ⟨x, hx, ?_⟩
    obtain rfl : L = [] := List.Perm.eq_nil (hnone ▸ hperm)
    rw [hrecords, List.drop_nil, List.take_nil, List.map_nil]
  · refine ⟨x, hx, ?_⟩
    have hne : r.document.sort ≠ [] := by
      rw [hclauses, hsort]
      exact List.cons_ne_nil c []
    have hlisted := hbrowses.records_unpaged hunpaged hposition hne (hquery ▸ hm) (hquery ▸ hperm) hL
    rw [hsize, hskip] at hlisted
    exact Except.ok.inj (hrecords.symm.trans hlisted)

/-- A numbered page of a request without an order is a window of what is found. -/
theorem search_unordered (hv : s.settings.validate = .ok ()) (hb : o.build s.compileSettings = .ok d)
    (hk : o.paging.usesKeyset = false) (hc : o.countOnly = false) (hsort : o.sortClause = none)
    (hpage : 1 ≤ page)
    (hoffset : (page.toNat - 1) * (s.compileSettings.pageSize o.paging.perPage).toNat < 2 ^ 32)
    (provider : Provider) :
    ∃ x, ((s.onIndex m provider).search (o.atPage (some page))).result = .ok x ∧
      x.records = (((m.found d.queryClause).drop
        ((page.toNat - 1) * (s.compileSettings.pageSize o.paging.perPage).toNat)).take
          (s.compileSettings.pageSize o.paging.perPage).toNat).map Relation.unorderedRecord := by
  obtain ⟨x, hx, ⟨hnone, hrecords⟩ | ⟨r, hbrowses, hunpaged, hposition, hquery, hclauses, hsize, hskip, hrecords⟩⟩ :=
    search_atPage (m := m) hv hb hk hc hpage hoffset provider
  · refine ⟨x, hx, ?_⟩
    rw [hrecords, hnone, List.drop_nil, List.take_nil, List.map_nil]
  · refine ⟨x, hx, ?_⟩
    rw [hsort] at hclauses
    have hlisted := hbrowses.records_unordered (m := m) hunpaged hposition hclauses
    rw [hsize, hskip, hquery] at hlisted
    exact Except.ok.inj (hrecords.symm.trans hlisted)

/-- The numbered pages of a request without an order, one after the other, list what is found. -/
theorem search_tiles (hv : s.settings.validate = .ok ()) (hb : o.build s.compileSettings = .ok d)
    (hk : o.paging.usesKeyset = false) (hc : o.countOnly = false) (hsort : o.sortClause = none)
    (providers : Nat → Provider) {count : UInt32}
    (hcount : (count.toNat - 1) * (s.compileSettings.pageSize o.paging.perPage).toNat < 2 ^ 32) :
    ∃ xs : Nat → SearchOutcome,
      (∀ i < count.toNat, ((s.onIndex m (providers i)).search (o.atPage (some (i + 1).toUInt32))).result =
        .ok (xs i)) ∧
      ((List.range count.toNat).flatMap fun i => (xs i).records).map (fun x => (x.id, x.source)) =
        (m.found d.queryClause).take
          (count.toNat * (s.compileSettings.pageSize o.paging.perPage).toNat) := by
  have hpage : ∀ i < count.toNat, ∃ x : SearchOutcome,
      ((s.onIndex m (providers i)).search (o.atPage (some (i + 1).toUInt32))).result = .ok x ∧
        x.records = (((m.found d.queryClause).drop
          (i * (s.compileSettings.pageSize o.paging.perPage).toNat)).take
            (s.compileSettings.pageSize o.paging.perPage).toNat).map Relation.unorderedRecord := by
    intro i hi
    have hnumber : (i + 1).toUInt32.toNat = i + 1 :=
      UInt32.toNat_ofNat_of_lt' (Nat.lt_of_le_of_lt hi count.toNat_lt)
    have hfirst : 1 ≤ (i + 1).toUInt32 :=
      UInt32.le_iff_toNat_le.2 (hnumber.symm ▸ Nat.le_add_left 1 i)
    have hle : i * (s.compileSettings.pageSize o.paging.perPage).toNat ≤
        (count.toNat - 1) * (s.compileSettings.pageSize o.paging.perPage).toNat :=
      Nat.mul_le_mul_right _ (by omega)
    obtain ⟨x, hx, hrecords⟩ := search_unordered (m := m) hv hb hk hc hsort hfirst
      (by rw [hnumber]; exact Nat.lt_of_le_of_lt hle hcount) (providers i)
    rw [hnumber] at hrecords
    exact ⟨x, hx, hrecords⟩
  have : Nonempty SearchOutcome := ⟨⟨[], 0, .disabled⟩⟩
  choose! xs hxs using hpage
  refine ⟨xs, fun i hi => (hxs i hi).1, ?_⟩
  rw [← flatMap_windows, List.map_flatMap]
  apply List.flatMap_congr
  intro i hi
  rw [(hxs i (List.mem_range.1 hi)).2, List.map_map]
  exact List.map_id _

/-- Numbered pages and walks agree. A valid request that cannot be built fails alike for every page;
otherwise, with an order, a numbered page has the records of the page that a walk of as many steps
comes to, none past the end, and without an order the numbered pages list what the index finds, each
document once and as the index has them. The provider may answer each search as it likes. -/
theorem numberedPages_agree (hv : s.settings.validate = .ok ()) (hvalid : o.validate = .ok ())
    (hk : o.paging.usesKeyset = false) (hc : o.countOnly = false) (m : MemoryIndex) :
    (∃ e, (s.relation (o.atPage none)).result = .error e ∧ ∀ (provider : Provider) (page : UInt32), 1 ≤ page →
      ((s.onIndex m provider).search (o.atPage (some page))).result = .error e) ∨
    ∃ r status, (s.relation (o.atPage none)).result = .ok (r, status) ∧
      (∀ c, o.sortClause = some c → (s.keyOrder o).Orderly (m.found r.document.queryClause) →
        ∀ (provider : Provider) (page : UInt32), 1 ≤ page →
          (page.toNat - 1) * (s.compileSettings.pageSize o.paging.perPage).toNat < 2 ^ 32 →
          ∃ x, ((s.onIndex m provider).search (o.atPage (some page))).result = .ok x ∧
            ∀ steps, page.toNat ≤ steps →
              ∃ pages, r.walk (s.compileSettings.pageSize o.paging.perPage) .forward none
                  (List.replicate steps m) = .ok pages ∧
                x.records = pages.getD (page.toNat - 1) []) ∧
      (o.sortClause = none → ∀ (providers : Nat → Provider) (count : UInt32),
        (count.toNat - 1) * (s.compileSettings.pageSize o.paging.perPage).toNat < 2 ^ 32 →
        ∃ xs : Nat → SearchOutcome,
          (∀ i < count.toNat, ((s.onIndex m (providers i)).search (o.atPage (some (i + 1).toUInt32))).result =
            .ok (xs i)) ∧
          ((List.range count.toNat).flatMap fun i => (xs i).records).map (fun x => (x.id, x.source)) =
            (m.found r.document.queryClause).take
              (count.toNat * (s.compileSettings.pageSize o.paging.perPage).toNat)) := by
  have hvalid₀ : (o.atPage none).validate = .ok () :=
    SearchOptions.validate_atPage hvalid (Option.some_ne_none 0).symm
  cases hb : (o.atPage none).build s.compileSettings with
  | error e =>
    refine .inl ⟨.argument e, relation_error hb, ?_⟩
    intro provider page hpage
    have hne : some page ≠ some 0 := by
      rintro ⟨⟩
      exact absurd hpage (by decide)
    have hb' : (o.atPage (some page)).build s.compileSettings = .error e :=
      SearchOptions.build_withPaging_error (o := o.atPage none) hb hvalid₀
        (SearchOptions.validate_atPage hvalid hne)
    exact search_error (relation_error (s := s.onIndex m provider) hb')
  | ok d =>
    obtain ⟨r, status, hrelation, rfl, -, hposition⟩ := relation_unpaged_ok hv hb hk
    refine .inr ⟨r, status, hrelation, ?_, ?_⟩
    · intro c hsort ho provider page hpage hoffset
      obtain ⟨p, t, hm⟩ := ho.exists_placed
      obtain ⟨L, hperm, hL⟩ := hm.exists_order
      obtain ⟨x, hx, hrecords⟩ := search_numbered hv hb hk hc hsort hm hperm hL hpage hoffset provider
      refine ⟨x, hx, ?_⟩
      intro steps hsteps
      have hwindows : r.Windows (s.keyOrder o) := relation_windows (o := o.atPage none) hrelation
      obtain ⟨pages, hwalk, hpages⟩ := hwindows.walk_replicate hposition
        (s.compileSettings.pageSize_ne_zero o.paging.perPage) hm hperm hL .forward steps [] L rfl
      have hpos : 1 ≤ page.toNat := hpage
      exact ⟨pages, hwalk, hrecords.trans (hpages (page.toNat - 1) (by omega)).symm⟩
    · intro hsort providers count hcount
      exact search_tiles hv hb hk hc hsort providers hcount

/-- The oldest issues, two a page. -/
def issuesByTwo : SearchOptions := oldestIssues.withPaging { perPage := some 2 }

theorem numberedPages_agree_issuesByTwo :
    exampleService.settings.validate = .ok () ∧ issuesByTwo.validate = .ok () ∧
      issuesByTwo.paging.usesKeyset = false ∧ issuesByTwo.countOnly = false ∧
      ∃ x pages, ((exampleService.onIndex threeIssues exampleService.provider).search
          (issuesByTwo.atPage (some 2))).result = .ok x ∧
        oldestIssuesRelation.walk 2 .forward none (List.replicate 3 threeIssues) = .ok pages ∧
        x.records = pages.getD 1 [] := by
  have hv : exampleService.settings.validate = .ok () := rfl
  have hvalid : issuesByTwo.validate = .ok () := rfl
  refine ⟨hv, hvalid, rfl, rfl, ?_⟩
  rcases numberedPages_agree hv hvalid rfl rfl threeIssues with ⟨e, he, -⟩ | ⟨r, status, hr, hsorted, -⟩
  · cases he
  · cases hr
    have hall : (exampleService.keyOrder oldestIssues).Orderly threeIssues.documents :=
      orderly_issues (by decide)
    obtain ⟨x, hx, hwalk⟩ := hsorted ⟨"created_at", .asc, none⟩ rfl
      (hall.of_sublist (threeIssues.found_sublist _)) exampleService.provider 2 (by decide) (by decide)
    obtain ⟨pages, hpages, hrecords⟩ := hwalk 3 (by decide)
    exact ⟨x, pages, hx, hpages, hrecords⟩

end SearchService

end TenantSearch
