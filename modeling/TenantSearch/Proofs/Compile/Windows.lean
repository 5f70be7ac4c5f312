/-
Requests that differ in the part of the results they ask for. The documents built for them differ at
most in their window, so they match the same, in the same order; a page by position sets the size
itself and drops the offset, so then nothing is left of the difference.
-/
import TenantSearch.Paging.Keyset
import TenantSearch.Proofs.Compile.Narrowing

namespace TenantSearch

/-- A document without its window. -/
def QueryDocument.unwindowed (d : QueryDocument) : QueryDocument := { d with size := none, offset := none }

theorem QueryDocument.queryClause_eq {d d' : QueryDocument} (h : d'.unwindowed = d.unwindowed) :
    d'.queryClause = d.queryClause := by
  have hquery : d'.unwindowed.query = d.unwindowed.query := by rw [h]
  exact congrArg BoolExpr.clause hquery

/-- A page holds at least one record. -/
theorem CompileSettings.pageSize_ne_zero (s : CompileSettings) (requested : Option UInt32) :
    s.pageSize requested ≠ 0 := by
  unfold pageSize
  dsimp only
  by_cases hsize : requested.getD s.defaultPageSize = 0
  · rw [if_pos hsize]
    decide
  · rw [if_neg hsize]
    by_cases hmax : s.maxPageSize = 0
    · rw [if_pos hmax]
      split
      · decide
      · exact hsize
    · rw [if_neg hmax]
      split
      · exact hmax
      · exact hsize

namespace SearchOptions

variable {o : SearchOptions} {s : CompileSettings} {t : DocType} {d : QueryDocument} {p : PageRequest}

/-- The same request for another part of the results. -/
def withPaging (o : SearchOptions) (p : PageRequest) : SearchOptions := { o with paging := p }

theorem present_withPaging (e : QueryDocument) :
    ((o.withPaging p).present s t e).unwindowed = (o.present s t e).unwindowed := by
  unfold present
  by_cases hc : o.countOnly = true
  · have hc' : (o.withPaging p).countOnly = true := hc
    rw [if_pos hc, if_pos hc']
  · have hc' : ¬ (o.withPaging p).countOnly = true := hc
    rw [if_neg hc, if_neg hc']
    rfl

/-- What is built for a request is built for every other part of its results, up to the window. -/
theorem build_withPaging (h : o.build s = .ok d) (hp : (o.withPaging p).validate = .ok ()) :
    ∃ d', (o.withPaging p).build s = .ok d' ∧ d'.unwindowed = d.unwindowed := by
  obtain ⟨-, t, ht, ⟨hs, hd, rfl⟩ | ⟨hd, e, he, rfl⟩⟩ := build_eq_ok.1 h
  · exact ⟨.matchNone, build_eq_ok.2 ⟨hp, t, ht, .inl ⟨hs, hd, rfl⟩⟩, rfl⟩
  · exact ⟨_, build_eq_ok.2 ⟨hp, t, ht, .inr ⟨hd, e, he, rfl⟩⟩, present_withPaging e⟩

theorem validate_eq_ok : o.validate = .ok () ↔ ∃ t, o.docType = some t ∧
    ¬ (t.isScoped && o.searchLevel.isNone) = true ∧
    ¬ (o.paging.first.isSome && o.paging.last.isSome) = true ∧
    ¬ (o.paging.before.isSome && o.paging.after.isSome) = true ∧ o.paging.page ≠ some 0 ∧
    ¬ o.vectors.similarity.any (fun x => !x.isFinite) = true := by
  constructor
  · intro h
    obtain ⟨t, ht, h⟩ := bind_eq_ok.1 h
    refine ⟨t, docType?_eq_ok.1 ht, ?_⟩
    split at h
    · cases h
    rename_i hlevel
    split at h
    · cases h
    rename_i hends
    split at h
    · cases h
    rename_i hpositions
    split at h
    · cases h
    rename_i hpage
    split at h
    · cases h
    rename_i hsimilarity
    exact ⟨hlevel, hends, hpositions, hpage, hsimilarity⟩
  · rintro ⟨t, ht, hlevel, hends, hpositions, hpage, hsimilarity⟩
    unfold validate
    rw [docType?_eq_ok.2 ht, ok_bind, if_neg hlevel, if_neg hends, if_neg hpositions, if_neg hpage,
      if_neg hsimilarity]

/-- A valid request for documents that have rules of access names its level. -/
theorem exists_searchLevel (h : o.validate = .ok ()) (ht : o.docType = some t) (hs : t.isScoped = true) :
    ∃ l, o.searchLevel = some l := by
  obtain ⟨t', ht', hlevel, -⟩ := validate_eq_ok.1 h
  obtain rfl : t = t' := Option.some.inj (ht.symm.trans ht')
  rw [hs, Bool.true_and, Bool.not_eq_true, Option.isNone_eq_false_iff] at hlevel
  exact Option.isSome_iff_exists.1 hlevel

/-- A valid request asks for no page zero. -/
theorem page_ne_zero (h : o.validate = .ok ()) : o.paging.page ≠ some 0 := by
  obtain ⟨t, -, -, -, -, hpage, -⟩ := validate_eq_ok.1 h
  exact hpage

/-- A valid request stays valid for a part of its results that is asked for from one end and from
one position at most. -/
theorem validate_withPaging (h : o.validate = .ok ()) (hends : (p.first.isSome && p.last.isSome) = false)
    (hpositions : (p.before.isSome && p.after.isSome) = false) (hpage : p.page ≠ some 0) :
    (o.withPaging p).validate = .ok () := by
  obtain ⟨t, ht, hlevel, -, -, -, hsimilarity⟩ := validate_eq_ok.1 h
  exact validate_eq_ok.2 ⟨t, ht, hlevel, ne_true_of_eq_false hends, ne_true_of_eq_false hpositions, hpage,
    hsimilarity⟩

/-! ## Numbered pages -/

/-- The same request for another numbered page, or for none. -/
def atPage (o : SearchOptions) (page : Option UInt32) : SearchOptions :=
  o.withPaging { o.paging with page := page }

theorem validate_atPage (h : o.validate = .ok ()) {page : Option UInt32} (hpage : page ≠ some 0) :
    (o.atPage page).validate = .ok () := by
  obtain ⟨t, -, -, hends, hpositions, -⟩ := validate_eq_ok.1 h
  exact validate_withPaging h (Bool.eq_false_iff.2 hends) (Bool.eq_false_iff.2 hpositions) hpage

/-- Valid requests for different parts of the results fail alike where they fail. -/
theorem build_withPaging_error {e : ArgumentError} (h : o.build s = .error e) (hvalid : o.validate = .ok ())
    (hp : (o.withPaging p).validate = .ok ()) : (o.withPaging p).build s = .error e := by
  unfold build at h ⊢
  rw [hvalid, ok_bind] at h
  rw [hp, ok_bind]
  -- a part of the results shows in the last step only, which cannot fail
  have hmatching : ∀ t denied, (if denied = true then Except.ok QueryDocument.matchNone else do
        let d ← o.matching s t
        .ok (o.present s t d)) = .error e →
      (if denied = true then Except.ok QueryDocument.matchNone else do
        let d ← (o.withPaging p).matching s t
        .ok ((o.withPaging p).present s t d)) = .error e := by
    intro t denied h
    rw [show (o.withPaging p).matching s t = o.matching s t from rfl]
    cases denied with
    | true => exact h
    | false =>
      rw [if_neg Bool.false_ne_true] at h ⊢
      cases hm : o.matching s t with
      | ok d =>
        rw [hm] at h
        cases h
      | error e' =>
        rw [hm] at h
        exact h
  rw [show (o.withPaging p).docType? = o.docType? from rfl]
  cases ht : o.docType? with
  | error e' =>
    rw [ht] at h
    exact h
  | ok t =>
    rw [ht, ok_bind] at h
    rw [ok_bind]
    dsimp only at h ⊢
    split
    · rename_i hs
      rw [if_pos hs] at h
      rw [show Access.crossProjectDenied (o.withPaging p) = Access.crossProjectDenied o from rfl]
      cases hd : Access.crossProjectDenied o with
      | error e' =>
        rw [hd] at h
        exact h
      | ok denied =>
        rw [hd] at h
        exact hmatching t denied h
    · rename_i hs
      rw [if_neg hs] at h
      exact hmatching t false h

/-- The document of a numbered page has the size of the page and leaves out the pages before it. -/
theorem build_window (h : o.build s = .ok d) (hc : o.countOnly = false) (hk : o.paging.usesKeyset = false)
    {page : UInt32} (hpage : o.paging.page = some page) : d = .matchNone ∨
      d.size = some (s.pageSize o.paging.perPage) ∧
        d.offset = some (pageOffset page (s.pageSize o.paging.perPage)) := by
  obtain ⟨t, -, ⟨-, -, rfl⟩ | ⟨e, -, rfl⟩⟩ := build_cases h
  · exact .inl rfl
  · right
    unfold present
    rw [if_neg (ne_true_of_eq_false hc)]
    dsimp only
    rw [if_neg (ne_true_of_eq_false hk), hpage]
    exact ⟨rfl, rfl⟩

end SearchOptions

/-- What is left out before a page is the pages before it, as long as that is a number of 32 bits. -/
theorem pageOffset_toNat {page size : UInt32} (h : (page.toNat - 1) * size.toNat < 2 ^ 32) :
    (pageOffset page size).toNat = (page.toNat - 1) * size.toNat := by
  unfold pageOffset
  dsimp only
  have hlt : (page.toNat - 1) * size.toNat < 0x100000000 := h
  rw [if_pos hlt]
  exact UInt32.toNat_ofNat_of_lt' h

end TenantSearch
