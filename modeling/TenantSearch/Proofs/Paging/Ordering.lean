/-
Documents in the order of a paging. When every document has a scalar that no other one shares to
break ties, and primary values of one kind where it has any, the documents have exactly one natural
order (`Orderly`). Sorting by the keys that a paging sends gives that order, or its reverse for a
page counted from the end, and the sort values that come back with a hit are those of its position.
-/
import TenantSearch.Proofs.Index.Answers
import TenantSearch.Proofs.Paging.Position

namespace TenantSearch

open Index MemoryIndex

/-- Integers that stand for a missing value among sort values. -/
def IsSentinel (v : Json) : Prop := v.asInt64? = some Int64.maxValue ∨ v.asInt64? = some Int64.minValue

namespace KeyOrder

variable {k : KeyOrder} {ds L : List (String × Json)} {p t : Kind}

/-- One document stands before another one in the natural order. -/
def Precedes (k : KeyOrder) (a b : String × Json) : Prop :=
  k.compare (k.position a.2) (k.position b.2) = .lt

/-- What an order asks of documents. -/
structure Orderly (k : KeyOrder) (ds : List (String × Json)) : Prop where
  tieBreaker : ∀ d ∈ ds, ∃ v, fieldValue d.2 k.tieBreaker = some v ∧ (kind? v).isSome
  apart : ds.Pairwise fun a b =>
    compareValues (k.position a.2).tieBreaker (k.position b.2).tieBreaker ≠ .eq
  primary : k.primary ≠ k.tieBreaker → ∃ kind, ∀ d ∈ ds, ∀ v, fieldValue d.2 k.primary = some v →
    kind? v = some kind ∧ ¬ IsSentinel v

/-- The positions of documents fit an order, and no value of their primary field stands for a
missing one. -/
structure Placed (k : KeyOrder) (p t : Kind) (ds : List (String × Json)) : Prop where
  fits : ∀ d ∈ ds, k.Fits p t (k.position d.2)
  present : k.primary ≠ k.tieBreaker → ∀ d ∈ ds, ∀ v, fieldValue d.2 k.primary = some v → ¬ IsSentinel v
  apart : ds.Pairwise fun a b => k.compare (k.position a.2) (k.position b.2) ≠ .eq

theorem position_tieBreaker {source v : Json} (h : fieldValue source k.tieBreaker = some v) :
    (k.position source).tieBreaker = v := by
  unfold position
  rw [h]
  rfl

theorem fits_position {source v : Json}
    (hp : ∀ w, fieldValue source k.primary = some w → kind? w = some p)
    (hv : fieldValue source k.tieBreaker = some v) (ht : kind? v = some t) :
    k.Fits p t (k.position source) := by
  constructor
  · exact hp
  · rw [position_tieBreaker hv]
    exact ht
  · intro hsingle
    rw [position_tieBreaker hv]
    show fieldValue source k.primary = some v
    rw [hsingle, hv]

/-- Tie-breakers that are all apart are of one kind. -/
theorem Orderly.exists_kind : ∀ {ds : List (String × Json)}, k.Orderly ds →
    ∃ t, ∀ d ∈ ds, kind? (k.position d.2).tieBreaker = some t
  | [], _ => ⟨.number, fun d hd => by cases hd⟩
  | e :: rest, h => by
    obtain ⟨v, hv, hkind⟩ := h.tieBreaker e List.mem_cons_self
    obtain ⟨t, ht⟩ := Option.isSome_iff_exists.1 hkind
    rw [← position_tieBreaker hv] at ht
    refine ⟨t, ?_⟩
    intro d hd
    rcases List.mem_cons.1 hd with rfl | hd
    · exact ht
    -- values of different kinds are not told apart, so what is apart is of one kind
    · rw [← kind?_eq_of_compareValues ((List.pairwise_cons.1 h.apart).1 d hd), ht]

theorem compare_ne_of_tieBreaker {a b : Cursor}
    (h : compareValues a.tieBreaker b.tieBreaker ≠ .eq) : k.compare a b ≠ .eq := by
  intro heq
  unfold compare at heq
  exact h (SortOrder.orient_eq_eq.1 (Ordering.then_eq_eq.1 heq).2)

/-- Over some documents each field of an order holds values of one kind. -/
structure OneKind (k : KeyOrder) (p t : Kind) (ds : List (String × Json)) : Prop where
  primary : ∀ d ∈ ds, ∀ v, fieldValue d.2 k.primary = some v → kind? v = some p
  tieBreaker : ∀ d ∈ ds, ∀ v, fieldValue d.2 k.tieBreaker = some v → kind? v = some t

theorem OneKind.of_subset {es : List (String × Json)} (h : k.OneKind p t ds) (hs : es ⊆ ds) :
    k.OneKind p t es :=
  ⟨fun d hd => h.primary d (hs hd), fun d hd => h.tieBreaker d (hs hd)⟩

theorem Orderly.placed (h : k.Orderly ds) (hk : k.OneKind p t ds) : k.Placed p t ds := by
  constructor
  · intro d hd
    obtain ⟨v, hv, -⟩ := h.tieBreaker d hd
    exact fits_position (hk.primary d hd) hv (hk.tieBreaker d hd v hv)
  · intro hne d hd v hv
    obtain ⟨kind, hprimary⟩ := h.primary hne
    exact (hprimary d hd v hv).2
  · exact h.apart.imp compare_ne_of_tieBreaker

theorem Orderly.exists_placed (h : k.Orderly ds) : ∃ p t, k.Placed p t ds := by
  obtain ⟨t, ht⟩ := h.exists_kind
  have htie : ∀ d ∈ ds, ∀ v, fieldValue d.2 k.tieBreaker = some v → kind? v = some t := by
    intro d hd v hv
    rw [← position_tieBreaker hv]
    exact ht d hd
  by_cases hk : k.primary = k.tieBreaker
  · exact ⟨t, t, h.placed ⟨hk ▸ htie, htie⟩⟩
  · obtain ⟨p, hp⟩ := h.primary hk
    exact ⟨p, t, h.placed ⟨fun d hd v hv => (hp d hd v hv).1, htie⟩⟩

theorem Placed.of_sublist {es : List (String × Json)} (h : k.Placed p t ds) (hs : es.Sublist ds) :
    k.Placed p t es :=
  ⟨fun d hd => h.fits d (hs.subset hd), fun hk d hd => h.present hk d (hs.subset hd),
    h.apart.sublist hs⟩

theorem Orderly.of_sublist {es : List (String × Json)} (h : k.Orderly ds) (hs : es.Sublist ds) :
    k.Orderly es := by
  constructor
  · intro d hd
    exact h.tieBreaker d (hs.subset hd)
  · exact h.apart.sublist hs
  · intro hk
    obtain ⟨kind, hprimary⟩ := h.primary hk
    exact ⟨kind, fun d hd => hprimary d (hs.subset hd)⟩

/-! ## Sort keys -/

/-- The keys sent for an order; for a page counted from the end they are turned round, and records
without the primary value come first. -/
def sortKeys (k : KeyOrder) (reversed : Bool) : List SortKey :=
  let order := if reversed then k.order.reversed else k.order
  if k.primary = k.tieBreaker then [⟨k.tieBreaker, order = .desc, reversed⟩]
  else [⟨k.primary, order = .desc, reversed⟩, ⟨k.tieBreaker, order = .desc, false⟩]

theorem sortKeys_ne_nil (k : KeyOrder) (reversed : Bool) : k.sortKeys reversed ≠ [] := by
  unfold sortKeys
  dsimp only
  split <;> exact List.cons_ne_nil _ _

theorem map_sortClauses {pg : Pagination} (h : pg.Follows k) :
    pg.sortClauses.map SortKey.ofClause = k.sortKeys pg.reversed := by
  unfold Pagination.sortClauses sortKeys Pagination.singleKey
  rw [h.primary, h.tieBreaker]
  by_cases hk : k.primary = k.tieBreaker <;> cases pg.reversed <;>
    simp [hk, SortKey.ofClause, Pagination.reversedPrimary, Pagination.reversedTieBreaker]

/-- One key compares two sources, its order turned round or not. -/
theorem compare_sortKey {field : String} {a b v w : Json} (ha : fieldValue a field = some v)
    (hb : fieldValue b field = some w) (reversed missingFirst : Bool) (order : SortOrder) :
    (SortKey.mk field ((if reversed then order.reversed else order) = .desc) missingFirst).compare a b =
      if reversed then (order.orient (compareValues v w)).swap else order.orient (compareValues v w) := by
  unfold SortKey.compare
  rw [ha, hb]
  cases reversed <;> cases order <;> simp [SortOrder.reversed, SortOrder.orient]

theorem compare_sortKey_missing (field : String) (a b : Json) (reversed : Bool) (order : SortOrder) :
    (SortKey.mk field ((if reversed then order.reversed else order) = .desc) reversed).compare a b =
      if reversed then (missingLast (fun v w => order.orient (compareValues v w))
        (fieldValue a field) (fieldValue b field)).swap
      else missingLast (fun v w => order.orient (compareValues v w)) (fieldValue a field)
        (fieldValue b field) := by
  cases ha : fieldValue a field with
  | none =>
    cases hb : fieldValue b field <;> cases reversed <;> simp [SortKey.compare, ha, hb, missingLast]
  | some v =>
    cases hb : fieldValue b field with
    | none => cases reversed <;> simp [SortKey.compare, ha, hb, missingLast]
    | some w => exact compare_sortKey ha hb reversed reversed order

/-- The keys compare sources as their positions are ordered, or the other way round. -/
theorem compareSources_sortKeys {a b : Json} (ha : k.Fits p t (k.position a))
    (hb : k.Fits p t (k.position b)) (reversed : Bool) :
    compareSources a b (k.sortKeys reversed) =
      if reversed then (k.compare (k.position a) (k.position b)).swap
      else k.compare (k.position a) (k.position b) := by
  obtain ⟨v, hv, hv', -⟩ := Pagination.exists_tieBreaker ha
  obtain ⟨w, hw, hw', -⟩ := Pagination.exists_tieBreaker hb
  have htie := fun missingFirst => compare_sortKey hv hw reversed missingFirst k.order
  unfold sortKeys compare
  dsimp only
  rw [hv', hw']
  by_cases hk : k.primary = k.tieBreaker
  · -- one key is sent, where the order compares the same value twice
    rw [if_pos hk, ha.single hk, hb.single hk, hv', hw', compareSources_cons, htie, missingLast]
    cases reversed <;> cases k.order.orient (compareValues v w) <;> rfl
  · have hprimary := compare_sortKey_missing k.primary a b reversed k.order
    rw [if_neg hk, compareSources_cons, hprimary, compareSources_cons, htie, compareSources,
      Ordering.then_eq]
    unfold position
    cases reversed with
    | false => rfl
    | true => exact (Ordering.swap_then _ _).symm

/-- The rank of a document. -/
def rankOf (k : KeyOrder) (d : String × Json) : Rank := (k.position d.2).rank

theorem Placed.compare_eq (h : k.Placed p t ds) {a b : String × Json} (ha : a ∈ ds) (hb : b ∈ ds) :
    k.compare (k.position a.2) (k.position b.2) = Rank.compare k.order (k.rankOf a) (k.rankOf b) :=
  compare_eq_rank (h.fits a ha) (h.fits b hb)

/-- The keys of the natural order compare as the ranks of the sources. -/
theorem compareSources_natural {a b : Json} (ha : k.Fits p t (k.position a)) (hb : k.Fits p t (k.position b)) :
    compareSources a b (k.sortKeys false) =
      Rank.compare k.order (k.position a).rank (k.position b).rank := by
  rw [compareSources_sortKeys ha hb, ← compare_eq_rank ha hb]
  rfl

theorem compareSources_reversed {a b : Json} (ha : k.Fits p t (k.position a))
    (hb : k.Fits p t (k.position b)) :
    compareSources a b (k.sortKeys true) = (compareSources a b (k.sortKeys false)).swap := by
  rw [compareSources_sortKeys ha hb, compareSources_sortKeys ha hb]
  rfl

theorem orderedBy_natural (h : ∀ d ∈ ds, k.Fits p t (k.position d.2)) :
    OrderedBy (k.sortKeys false) (Rank.compare k.order) k.rankOf ds :=
  fun a ha b hb => compareSources_natural (h a ha) (h b hb)

theorem orderedBy_reversed (h : ∀ d ∈ ds, k.Fits p t (k.position d.2)) :
    OrderedBy (k.sortKeys true) (fun x y => Rank.compare k.order y x) k.rankOf ds := by
  intro a ha b hb
  rw [compareSources_reversed (h a ha) (h b hb), orderedBy_natural h a ha b hb]
  exact Std.OrientedCmp.eq_swap.symm

/-- The natural order of placed documents, sorted by its keys: it or its reverse. -/
theorem sorted_sortKeys (h : k.Placed p t ds) (hp : L.Perm ds) (hL : L.Pairwise k.Precedes)
    (reversed : Bool) : sorted (k.sortKeys reversed) ds = if reversed then L.reverse else L := by
  have hrank : L.Pairwise fun a b => Rank.compare k.order (k.rankOf a) (k.rankOf b) = .lt :=
    hL.imp_of_mem fun {a b} ha hb hab => by
      rw [← h.compare_eq (hp.mem_iff.1 ha) (hp.mem_iff.1 hb)]
      exact hab
  cases reversed with
  | false => exact sorted_eq (orderedBy_natural h.fits) hp hrank
  | true =>
    refine sorted_eq (orderedBy_reversed h.fits) ((List.reverse_perm L).trans hp) ?_
    exact List.pairwise_reverse.2 hrank

/-- Placed documents have a natural order. -/
theorem Placed.exists_order (h : k.Placed p t ds) :
    ∃ L : List (String × Json), L.Perm ds ∧ L.Pairwise k.Precedes := by
  have hperm := sorted_perm (k.sortKeys false) ds
  have hapart : ds.Pairwise fun a b => Rank.compare k.order (k.rankOf a) (k.rankOf b) ≠ .eq :=
    h.apart.imp_of_mem fun {a b} ha hb hne => by rwa [← h.compare_eq ha hb]
  refine ⟨_, hperm, (sorted_strict (orderedBy_natural h.fits) hapart).imp_of_mem fun {a b} ha hb hab => ?_⟩
  unfold Precedes
  rwa [h.compare_eq (hperm.mem_iff.1 ha) (hperm.mem_iff.1 hb)]

/-! ## Sort values -/

theorem sentinelToNone_eq {v : Json} {kind : Kind} (hkind : kind? v = some kind) (h : ¬ IsSentinel v) :
    Cursor.sentinelToNone v = some v := by
  unfold Cursor.sentinelToNone
  cases hi : v.asInt64? with
  | none => cases v <;> first | rfl | cases hkind
  | some i =>
    have hne : ¬ (i = Int64.maxValue ∨ i = Int64.minValue) :=
      fun hor => h (hor.imp (fun he => hi.trans (congrArg some he)) fun he => hi.trans (congrArg some he))
    exact if_neg hne

theorem sentinelToNone_missing (b : Bool) :
    Cursor.sentinelToNone (if b then .ofInt64 Int64.minValue else .ofInt64 Int64.maxValue) = none := by
  cases b <;> decide

/-- The sort values of a hit tell its position. -/
theorem Placed.ofSortValues (h : k.Placed p t ds) {d : String × Json} (hd : d ∈ ds) (reversed : Bool) :
    Cursor.ofSortValues ((k.sortKeys reversed).map fun key => key.hitValue d.2) =
      some (k.position d.2) := by
  have hfits := h.fits d hd
  obtain ⟨v, hv, hv', -⟩ := Pagination.exists_tieBreaker hfits
  have htie : ∀ descending missingFirst, (SortKey.mk k.tieBreaker descending missingFirst).hitValue d.2 = v := by
    intro descending missingFirst
    unfold SortKey.hitValue
    rw [hv]
  have hposition : k.position d.2 = ⟨fieldValue d.2 k.primary, v⟩ := by
    rw [← hv']
    rfl
  rw [hposition]
  unfold sortKeys
  dsimp only
  by_cases hk : k.primary = k.tieBreaker
  · rw [if_pos hk, List.map_singleton, htie, hk, hv]
    rfl
  · rw [if_neg hk, List.map_cons, List.map_singleton, htie]
    unfold Cursor.ofSortValues SortKey.hitValue
    -- a missing value is sent as the number that stands last, which is read as missing again
    cases hx : fieldValue d.2 k.primary with
    | none =>
      simp only
      rw [sentinelToNone_missing]
    | some x =>
      simp only
      rw [sentinelToNone_eq (hfits.primary x hx) (h.present hk d hd x hx)]

end KeyOrder

end TenantSearch
