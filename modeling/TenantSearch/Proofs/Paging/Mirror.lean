/-
The order of a page counted from the end mirrors the natural one. Over sources whose tie-breakers are
scalars all apart, and whose primary values are of one kind where there are any, the keys of both kinds
of pages compare as the ranks of the sources do, those of the last page with the two sides exchanged. So
each is a strict total order, with the sources that lack the primary value at the end of the one and at
the front of the other, and sorting by the one gives the reverse of sorting by the other.
-/
import TenantSearch.Proofs.Paging.Ordering

namespace TenantSearch

open Index MemoryIndex

/-- What an order asks of sources so as to tell them all apart: a scalar that breaks ties and that no
two of them share, and values of one kind in each field. The primary value may be missing. -/
structure KeyOrder.TellsApart (k : KeyOrder) (S : Set Json) : Prop where
  primary : ∃ kind, ∀ a ∈ S, ∀ v, fieldValue a k.primary = some v → kind? v = some kind
  tieBreaker : ∃ kind, ∀ a ∈ S, ∃ v, fieldValue a k.tieBreaker = some v ∧ kind? v = some kind
  apart : S.Pairwise fun a b =>
    compareValues (k.position a).tieBreaker (k.position b).tieBreaker ≠ .eq

/-! ## Keys of the first and the last page -/

namespace Pagination

variable {pg : Pagination} {k : KeyOrder}

theorem sortKeys_paginate (h : pg.Follows k) :
    MemoryIndex.sortKeys pg.paginate.toJson = .ok (k.sortKeys pg.reversed) := by
  have hsort : pg.paginate.sort = pg.sortClauses := by
    unfold paginate
    cases pg.cursor <;> rfl
  rw [sortKeys_toJson, hsort, KeyOrder.map_sortClauses h]

end Pagination

namespace KeyOrder

variable {k : KeyOrder} {S : Set Json} {p t : Kind} {a b : Json}

/-! ## Either order -/

theorem TellsApart.exists_fits (h : k.TellsApart S) : ∃ p t, ∀ a ∈ S, k.Fits p t (k.position a) := by
  obtain ⟨p, hp⟩ := h.primary
  obtain ⟨t, ht⟩ := h.tieBreaker
  refine ⟨p, t, fun a ha => ?_⟩
  obtain ⟨v, hv, hkind⟩ := ht a ha
  exact fits_position (hp a ha) hv hkind

theorem TellsApart.eq_of_compareSources (h : k.TellsApart S) (ha : a ∈ S) (hb : b ∈ S)
    (heq : compareSources a b (k.sortKeys false) = .eq) : a = b := by
  obtain ⟨p, t, hfits⟩ := h.exists_fits
  rw [compareSources_sortKeys (hfits a ha) (hfits b hb)] at heq
  by_contra hne
  exact compare_ne_of_tieBreaker (h.apart ha hb hne) heq

/-- The natural order is a strict total order of the sources that it tells apart. -/
theorem TellsApart.isStrictTotalOrder (h : k.TellsApart S) :
    IsStrictTotalOrder S fun a b => compareSources a.1 b.1 (k.sortKeys false) = .lt := by
  obtain ⟨p, t, hfits⟩ := h.exists_fits
  have hrank : ∀ a b : S, compareSources a.1 b.1 (k.sortKeys false) =
      Rank.compare k.order (k.position a.1).rank (k.position b.1).rank :=
    fun a b => compareSources_natural (hfits a.1 a.2) (hfits b.1 b.2)
  refine { trichotomous := ?_, irrefl := ?_, trans := ?_ }
  · intro a b hab hba
    rw [hrank] at hba
    refine Subtype.ext (h.eq_of_compareSources a.2 b.2 ?_)
    rw [hrank] at hab ⊢
    -- neither less than the other
    cases hcmp : Rank.compare k.order (k.position a.1).rank (k.position b.1).rank with
    | lt => exact absurd hcmp hab
    | eq => rfl
    | gt => exact absurd (Std.OrientedCmp.lt_of_gt hcmp) hba
  · intro a hlt
    have hself : Rank.compare k.order (k.position a.1).rank (k.position a.1).rank = .eq :=
      Std.ReflCmp.compare_self
    rw [hrank, hself] at hlt
    cases hlt
  · intro a b c hab hbc
    rw [hrank] at hab hbc ⊢
    exact Std.TransCmp.lt_trans hab hbc

/-- A source without the primary value comes after those that have one. -/
theorem compareSources_missing (ha : k.Fits p t (k.position a)) (hb : k.Fits p t (k.position b)) {v : Json}
    (hv : fieldValue a k.primary = some v) (hmissing : fieldValue b k.primary = none) :
    compareSources a b (k.sortKeys false) = .lt := by
  have hsa : (k.position a).sortValue = some v := hv
  have hsb : (k.position b).sortValue = none := hmissing
  rw [compareSources_sortKeys ha hb]
  unfold compare
  rw [hsa, hsb]
  rfl

/-! ## Sorting -/

/-- Sorting by the keys of the last page is sorting by those of the first, from the end. -/
theorem TellsApart.sorted_reversed (h : k.TellsApart S) {ds : List (String × Json)}
    (hds : ∀ d ∈ ds, d.2 ∈ S) (hnodup : (ds.map Prod.snd).Nodup) :
    sorted (k.sortKeys true) ds = (sorted (k.sortKeys false) ds).reverse := by
  obtain ⟨p, t, hfits⟩ := h.exists_fits
  have hfits : ∀ d ∈ ds, k.Fits p t (k.position d.2) := fun d hd => hfits d.2 (hds d hd)
  have hnatural := orderedBy_natural hfits
  -- documents of one rank would keep their order both ways, but no two have one rank
  refine sorted_flipped hnatural (orderedBy_reversed hfits) ?_
  refine (List.pairwise_map.1 hnodup).imp_of_mem fun {a b} ha hb hne heq => hne ?_
  rw [← hnatural a ha b hb] at heq
  exact h.eq_of_compareSources (hds a ha) (hds b hb) heq

/-- The order sent for a page counted from the end mirrors the natural one. A document ordered by one
clause at most is sent with keys for its first page and with keys for its last. Over sources that the
order tells apart, the former are a strict total order in which those without the primary value come
last, the latter compare any two sources the other way round, and sorting documents by the latter gives
the reverse of sorting them by the former. -/
theorem lastPage_mirrors {d : QueryDocument} {sort : Option SortClause} {tieBreaker : String}
    (hd : d.sort = sort.toList) (hm : ∀ c ∈ sort, c.missing = none)
    (hS : (KeyOrder.ofSort tieBreaker sort).TellsApart S) (first last : UInt32) :
    ∃ natural reversed,
      MemoryIndex.sortKeys ((Pagination.ofDocument d tieBreaker).first first).paginate.toJson =
        .ok natural ∧
      MemoryIndex.sortKeys ((Pagination.ofDocument d tieBreaker).last last).paginate.toJson =
        .ok reversed ∧
      IsStrictTotalOrder S (fun a b => compareSources a.1 b.1 natural = .lt) ∧
      (∀ a ∈ S, ∀ b ∈ S, (fieldValue a (KeyOrder.ofSort tieBreaker sort).primary).isSome = true →
        fieldValue b (KeyOrder.ofSort tieBreaker sort).primary = none →
        compareSources a b natural = .lt) ∧
      (∀ a ∈ S, ∀ b ∈ S, compareSources a b reversed = (compareSources a b natural).swap) ∧
      ∀ ds : List (String × Json), (∀ d ∈ ds, d.2 ∈ S) → (ds.map Prod.snd).Nodup →
        sorted reversed ds = (sorted natural ds).reverse := by
  have hfollows : (Pagination.ofDocument d tieBreaker).Follows (.ofSort tieBreaker sort) :=
    Pagination.follows_ofDocument hd hm
  have hfirst : ((Pagination.ofDocument d tieBreaker).first first).Follows (.ofSort tieBreaker sort) :=
    ⟨hfollows.primary, hfollows.tieBreaker⟩
  have hlast : ((Pagination.ofDocument d tieBreaker).last last).Follows (.ofSort tieBreaker sort) :=
    ⟨hfollows.primary, hfollows.tieBreaker⟩
  obtain ⟨p, t, hfits⟩ := hS.exists_fits
  refine ⟨_, _, Pagination.sortKeys_paginate hfirst, Pagination.sortKeys_paginate hlast,
    hS.isStrictTotalOrder, fun a ha b hb hv hmissing => ?_,
    fun a ha b hb => compareSources_reversed (hfits a ha) (hfits b hb), fun ds => hS.sorted_reversed⟩
  obtain ⟨v, hv⟩ := Option.isSome_iff_exists.1 hv
  exact compareSources_missing (hfits a ha) (hfits b hb) hv hmissing

/-- What falls due first comes first. -/
def dueFirst : SortClause := ⟨"due_date", .asc, none⟩

def allByDueDate : QueryDocument := { sort := [dueFirst] }

/-- An issue that falls due on a day, and one that never does. -/
def datedIssue : Json := .obj [("due_date", .str "2024-03-01"), ("id", .ofUInt32 7)]

def undatedIssue : Json := .obj [("id", .ofUInt32 5)]

theorem tellsApart_issues : (KeyOrder.ofSort "id" (some dueFirst)).TellsApart {datedIssue, undatedIssue} where
  primary := by
    refine ⟨.text, ?_⟩
    rintro a (rfl | rfl) v hv
    · cases hv
      rfl
    · cases hv
  tieBreaker := by
    refine ⟨.number, ?_⟩
    rintro a (rfl | rfl)
    · exact ⟨_, rfl, rfl⟩
    · exact ⟨_, rfl, rfl⟩
  apart := by
    refine Set.pairwise_pair.2 fun _ => ⟨?_, ?_⟩
    · decide +kernel
    · decide +kernel

/-- The issue without a date is last counted from the front, and first counted from the end. -/
theorem lastPage_mirrors_issues : allByDueDate.sort = [dueFirst] ∧ dueFirst.missing = none ∧
    (KeyOrder.ofSort "id" (some dueFirst)).TellsApart {datedIssue, undatedIssue} ∧
    ∃ natural reversed,
      compareSources datedIssue undatedIssue natural = .lt ∧
      compareSources datedIssue undatedIssue reversed = .gt ∧
      sorted reversed [("7", datedIssue), ("5", undatedIssue)] =
        (sorted natural [("7", datedIssue), ("5", undatedIssue)]).reverse := by
  have hsort : allByDueDate.sort = (some dueFirst).toList := rfl
  have hmissing : ∀ c ∈ some dueFirst, c.missing = none := by
    intro c hc
    cases hc
    rfl
  obtain ⟨natural, reversed, -, -, -, hmissing, hswap, hsorted⟩ :=
    lastPage_mirrors hsort hmissing tellsApart_issues 20 20
  have hlt : compareSources datedIssue undatedIssue natural = .lt :=
    hmissing datedIssue (.inl rfl) undatedIssue (.inr rfl) rfl rfl
  refine ⟨rfl, rfl, tellsApart_issues, natural, reversed, hlt, ?_, hsorted _ ?_ ?_⟩
  · rw [hswap _ (.inl rfl) _ (.inr rfl), hlt]
    rfl
  · intro d hd
    rcases List.mem_pair.1 hd with rfl | rfl
    · exact .inl rfl
    · exact .inr rfl
  · simp [datedIssue, undatedIssue]

end KeyOrder

end TenantSearch
