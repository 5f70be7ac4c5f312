/-
Positions and what lies beyond them. Records are ordered by a primary field, those without it last
in either direction of the order, and then by the field that breaks ties, in the same direction;
without a primary field of its own an order has the tie-breaker as its only key. Where every field
holds values of one kind this is a linear order (`Rank`), and the clause sent for a position holds of
exactly the sources that lie strictly beyond it, whether or not a record still stands there.
-/
import TenantSearch.Paging.Keyset
import TenantSearch.Proofs.Index.Clauses
import TenantSearch.Proofs.Index.Order

namespace TenantSearch

open Index

/-! ## The order of positions -/

/-- An order of values in a direction. -/
def SortOrder.orient : SortOrder → Ordering → Ordering
  | .asc, o => o
  | .desc, o => o.swap

@[simp] theorem SortOrder.orient_eq_eq {order : SortOrder} {o : Ordering} :
    order.orient o = .eq ↔ o = .eq := by
  cases order <;> simp [SortOrder.orient]

/-- An order of values that may be missing, those that are missing last. -/
def missingLast {α : Type} (cmp : α → α → Ordering) : Option α → Option α → Ordering
  | none, none => .eq
  | none, some _ => .gt
  | some _, none => .lt
  | some a, some b => cmp a b

structure KeyOrder where
  primary : String
  tieBreaker : String
  order : SortOrder
deriving DecidableEq

namespace KeyOrder

/-- The order of a sort clause; without one the tie-breaker orders from the greatest down. -/
def ofSort (tieBreaker : String) : Option SortClause → KeyOrder
  | some c => ⟨c.field, tieBreaker, c.order⟩
  | none => ⟨tieBreaker, tieBreaker, .desc⟩

/-- The position of a source. -/
def position (k : KeyOrder) (source : Json) : Cursor :=
  ⟨fieldValue source k.primary, (fieldValue source k.tieBreaker).getD .null⟩

/-- The natural order of positions. -/
def compare (k : KeyOrder) (a b : Cursor) : Ordering :=
  (missingLast (fun v w => k.order.orient (compareValues v w)) a.sortValue b.sortValue).then
    (k.order.orient (compareValues a.tieBreaker b.tieBreaker))

end KeyOrder

/-! ## Ranks -/

section

variable {α β : Type} {cmp : α → α → Ordering} {order : SortOrder}

instance [Std.TransCmp cmp] : Std.TransCmp fun a b => order.orient (cmp a b) := by
  cases order with
  | asc => exact inferInstanceAs (Std.TransCmp cmp)
  | desc =>
    -- turned round, an order is the same order with its two sides exchanged
    have hswap : (fun a b => SortOrder.desc.orient (cmp a b)) = fun a b => cmp b a :=
      funext₂ fun a b => Std.OrientedCmp.eq_swap.symm
    rw [hswap]
    infer_instance

instance [Std.OrientedCmp cmp] : Std.OrientedCmp (missingLast cmp) where
  eq_swap {a b} := by
    cases a <;> cases b <;> first | rfl | exact @Std.OrientedCmp.eq_swap _ cmp _ _ _

instance [Std.TransCmp cmp] : Std.TransCmp (missingLast cmp) where
  isLE_trans {a b c} hab hbc := by
    cases a <;> cases b <;> cases c <;> first | contradiction | rfl | skip
    exact @Std.TransCmp.isLE_trans _ cmp _ _ _ _ hab hbc

/-- Things are ordered as what is taken of them. -/
theorem transCmp_on [Std.TransCmp cmp] (f : β → α) : Std.TransCmp fun a b => cmp (f a) (f b) where
  eq_swap := Std.OrientedCmp.eq_swap
  isLE_trans := Std.TransCmp.isLE_trans

end

/-- What the order sees of a position. -/
structure Rank where
  primary : Option Scalar
  tieBreaker : Scalar

namespace Rank

def compare (order : SortOrder) (a b : Rank) : Ordering :=
  (missingLast (fun v w => order.orient (Scalar.compare v w)) a.primary b.primary).then
    (order.orient (Scalar.compare a.tieBreaker b.tieBreaker))

instance (order : SortOrder) : Std.TransCmp (compare order) := by
  have hprimary : Std.TransCmp fun a b : Rank =>
      missingLast (fun v w => order.orient (Scalar.compare v w)) a.primary b.primary :=
    transCmp_on Rank.primary
  have htie : Std.TransCmp fun a b : Rank => order.orient (Scalar.compare a.tieBreaker b.tieBreaker) :=
    @transCmp_on _ _ (fun v w => order.orient (Scalar.compare v w)) _ Rank.tieBreaker
  exact inferInstanceAs (Std.TransCmp (compareLex _ _))

end Rank

def Cursor.rank (c : Cursor) : Rank :=
  ⟨c.sortValue.bind Scalar.ofJson?, (Scalar.ofJson? c.tieBreaker).getD (.truth false)⟩

namespace KeyOrder

/-- A position whose values are of given kinds. An order of one key has one value for both. -/
structure Fits (k : KeyOrder) (primary tieBreaker : Kind) (c : Cursor) : Prop where
  primary : ∀ v, c.sortValue = some v → kind? v = some primary
  tieBreaker : kind? c.tieBreaker = some tieBreaker
  single : k.primary = k.tieBreaker → c.sortValue = some c.tieBreaker

variable {k : KeyOrder} {p t : Kind} {a b c : Cursor} {id : String} {source : Json}

theorem exists_scalar {v : Json} {kind : Kind} (h : kind? v = some kind) :
    ∃ a, Scalar.ofJson? v = some a ∧ a.kind = kind := Option.map_eq_some_iff.1 h

theorem compareValues_eq_of_kind {v w : Json} {kind : Kind} (hv : kind? v = some kind)
    (hw : kind? w = some kind) : ∃ a b, Scalar.ofJson? v = some a ∧ Scalar.ofJson? w = some b ∧
      compareValues v w = a.compare b := by
  obtain ⟨a, ha, hka⟩ := exists_scalar hv
  obtain ⟨b, hb, hkb⟩ := exists_scalar hw
  exact ⟨a, b, ha, hb, compareValues_eq ha hb (hka.trans hkb.symm)⟩

/-- Within a kind a term holds of what compares as equal to it. -/
theorem valuesEqual_iff_of_kind {v w : Json} {kind : Kind} (hv : kind? v = some kind)
    (hw : kind? w = some kind) : valuesEqual v w = true ↔ compareValues v w = .eq := by
  obtain ⟨a, ha, hka⟩ := exists_scalar hv
  obtain ⟨b, hb, hkb⟩ := exists_scalar hw
  have hk : a.kind = b.kind := hka.trans hkb.symm
  rw [valuesEqual_eq ha hb hk, compareValues_eq ha hb hk, beq_iff_eq]

/-- Positions of the same kinds are ordered as their ranks. -/
theorem compare_eq_rank (ha : k.Fits p t a) (hb : k.Fits p t b) :
    k.compare a b = Rank.compare k.order a.rank b.rank := by
  obtain ⟨x, y, hx, hy, htie⟩ := compareValues_eq_of_kind ha.tieBreaker hb.tieBreaker
  have hprimary : missingLast (fun v w => k.order.orient (compareValues v w)) a.sortValue b.sortValue =
      missingLast (fun v w => k.order.orient (Scalar.compare v w)) a.rank.primary b.rank.primary := by
    unfold Cursor.rank
    -- a value that is there is a scalar, so a rank lacks one exactly when its position does
    cases hsa : a.sortValue with
    | none =>
      cases hsb : b.sortValue with
      | none => rfl
      | some w =>
        obtain ⟨s, hs, -⟩ := exists_scalar (hb.primary w hsb)
        simp [missingLast, hs]
    | some v =>
      cases hsb : b.sortValue with
      | none =>
        obtain ⟨s, hs, -⟩ := exists_scalar (ha.primary v hsa)
        simp [missingLast, hs]
      | some w =>
        obtain ⟨s, s', hs, hs', hcmp⟩ := compareValues_eq_of_kind (ha.primary v hsa) (hb.primary w hsb)
        simp [missingLast, hs, hs', hcmp]
  unfold compare Rank.compare
  rw [hprimary, htie]
  unfold Cursor.rank
  rw [hx, hy]
  rfl

theorem compare_swap (ha : k.Fits p t a) (hb : k.Fits p t b) : k.compare a b = (k.compare b a).swap := by
  rw [compare_eq_rank ha hb, compare_eq_rank hb ha]
  exact Std.OrientedCmp.eq_swap

end KeyOrder

/-! ## What lies beyond a position -/

/-- Whether a position that compares so lies beyond another one. -/
def PageDirection.beyond : PageDirection → Ordering → Bool
  | .forward, o => o == .gt
  | .backward, o => o == .lt

theorem PageDirection.beyond_then (dir : PageDirection) (o o' : Ordering) :
    dir.beyond (o.then o') = true ↔ dir.beyond o = true ∨ (o = .eq ∧ dir.beyond o' = true) := by
  cases dir <;> cases o <;> cases o' <;> decide

/-- A paging in an order. -/
structure Pagination.Follows (p : Pagination) (k : KeyOrder) : Prop where
  primary : p.primary = ⟨k.primary, k.order, none⟩
  tieBreaker : p.tieBreaker = ⟨k.tieBreaker, k.order, none⟩

/-- A document ordered by one clause at most, which leaves missing values where they are, is paged in the
order of the clause. -/
theorem Pagination.follows_ofDocument {d : QueryDocument} {sort : Option SortClause} {tieBreaker : String}
    (hd : d.sort = sort.toList) (hm : ∀ c ∈ sort, c.missing = none) :
    (ofDocument d tieBreaker).Follows (.ofSort tieBreaker sort) := by
  unfold ofDocument
  rw [hd]
  cases sort with
  | none => exact ⟨rfl, rfl⟩
  | some c =>
    obtain ⟨field, order, missing⟩ := c
    obtain rfl := hm _ rfl
    exact ⟨rfl, rfl⟩

namespace Pagination

variable {id : String} {source : Json}

variable {p : Pagination} {k : KeyOrder} {primary tieBreaker : Kind} {c : Cursor}

theorem accepts_range_beyond {field : String} {order : SortOrder} {dir : PageDirection} {v : Json} :
    Accepts id source (.range field (beyond order dir) v) ↔
      ∃ x, fieldValue source field = some x ∧ dir.beyond (order.orient (compareValues x v)) = true := by
  have hop : ∀ x, boundHolds x (beyond order dir).name v =
      dir.beyond (order.orient (compareValues x v)) := by
    intro x
    unfold boundHolds
    generalize compareValues x v = o
    cases order <;> cases dir <;> cases o <;> rfl
  rw [Accepts, outcome_range, Except.ok.injEq, Option.any_eq_true]
  simp only [hop]

theorem accepts_exist {field : String} :
    Accepts id source (.exist field) ↔ ∃ x, fieldValue source field = some x := by
  rw [Accepts, outcome_exist, Except.ok.injEq, Option.isSome_iff_exists]

theorem accepts_not_exist {field : String} :
    Accepts id source (.not (.exist field)) ↔ fieldValue source field = none := by
  rw [accepts_not, outcome_exist, Except.ok.injEq, Option.isSome_eq_false_iff, Option.isNone_iff_eq_none]

/-- A term holds of a field with one value, of the kind of the term, when the two compare as equal. -/
theorem accepts_term_scalar {field : String} {x v : Json} {kind : Kind}
    (hf : fieldValue source field = some x) (hx : kind? x = some kind) (hv : kind? v = some kind) :
    Accepts id source (.term field v) ↔ compareValues x v = .eq := by
  -- a scalar is not a list, so the field holds this one value
  have hvalues : fieldValues source field = [x] := by
    unfold fieldValues
    rw [hf]
    cases x <;> first | rfl | cases hx
  rw [accepts_term, hvalues, ← KeyOrder.valuesEqual_iff_of_kind hx hv]
  simp

/-! ## The clause of a position -/

theorem decided_missing (field : String) : Decided (.not (.exist field)) := decided_not (decided_exist _)

theorem decided_allOf_range {d : Clause} (h : Decided d) (field : String) (op : RangeOp) (v : Json) :
    Decided (.allOf [d, .range field op v]) := by
  refine decided_allOf ?_
  simp only [List.forall_mem_cons]
  exact ⟨h, decided_range field op v, List.forall_mem_nil _⟩

theorem accepts_anyOf_pair {d e : Clause} (hd : Decided d) (he : Decided e) :
    Accepts id source (.anyOf [d, e]) ↔ Accepts id source d ∨ Accepts id source e := by
  rw [accepts_anyOf]
  · simp
  · simp only [List.forall_mem_cons]
    exact ⟨hd, he, List.forall_mem_nil _⟩

theorem accepts_anyOf_triple {d e f : Clause} (hd : Decided d) (he : Decided e) (hf : Decided f) :
    Accepts id source (.anyOf [d, e, f]) ↔
      Accepts id source d ∨ Accepts id source e ∨ Accepts id source f := by
  rw [accepts_anyOf]
  · simp
  · simp only [List.forall_mem_cons]
    exact ⟨hd, he, hf, List.forall_mem_nil _⟩

theorem accepts_allOf_pair {d e : Clause} :
    Accepts id source (.allOf [d, e]) ↔ Accepts id source d ∧ Accepts id source e := by
  rw [accepts_allOf]
  simp

theorem decided_rangeClause (p : Pagination) (c : Cursor) : Decided (p.rangeClause c) := by
  have hpair : ∀ {d e : Clause}, Decided d → Decided e → Decided (.anyOf [d, e]) := by
    intro d e hd he
    refine decided_anyOf ?_
    simp only [List.forall_mem_cons]
    exact ⟨hd, he, List.forall_mem_nil _⟩
  unfold rangeClause
  dsimp only
  split
  · exact decided_range _ _ _
  split
  · exact decided_allOf_range (decided_missing _) _ _ _
  · exact hpair (decided_allOf_range (decided_missing _) _ _ _) (decided_exist _)
  · split
    · refine decided_anyOf ?_
      simp only [List.cons_append, List.nil_append, List.forall_mem_cons]
      exact ⟨decided_range _ _ _, decided_allOf_range (decided_term _ _) _ _ _, decided_missing _,
        List.forall_mem_nil _⟩
    · exact hpair (decided_range _ _ _) (decided_allOf_range (decided_term _ _) _ _ _)

theorem exists_tieBreaker (h : k.Fits primary tieBreaker (k.position source)) :
    ∃ tie, fieldValue source k.tieBreaker = some tie ∧ (k.position source).tieBreaker = tie ∧
      kind? tie = some tieBreaker := by
  have hkind := h.tieBreaker
  unfold KeyOrder.position at hkind ⊢
  cases htie : fieldValue source k.tieBreaker with
  | none => rw [htie] at hkind; cases hkind
  | some tie => rw [htie] at hkind; exact ⟨tie, rfl, rfl, hkind⟩

/-- How a source stands to a position in the order of a paging that is not turned round. -/
def compareTo (p : Pagination) (source : Json) (c : Cursor) : Ordering :=
  let tie := p.tieBreaker.order.orient
    (compareValues ((fieldValue source p.tieBreaker.field).getD .null) c.tieBreaker)
  if p.singleKey then tie
  else (missingLast (fun v w => p.primary.order.orient (compareValues v w))
    (fieldValue source p.primary.field) c.sortValue).then tie

/-- The clause for a position holds of a source when the source stands strictly beyond it, as long as a
primary value of the source is of the kind of the one in the position. -/
theorem accepts_rangeClause_iff {tie : Json} (htie : fieldValue source p.tieBreaker.field = some tie)
    (hkinds : p.singleKey = false → ∀ x v, fieldValue source p.primary.field = some x →
      c.sortValue = some v → ∃ kind, kind? x = some kind ∧ kind? v = some kind) :
    Accepts id source (p.rangeClause c) ↔ p.direction.beyond (p.compareTo source c) = true := by
  have hrange : Accepts id source
      (.range p.tieBreaker.field (beyond p.tieBreaker.order p.direction) c.tieBreaker) ↔
        p.direction.beyond (p.tieBreaker.order.orient (compareValues tie c.tieBreaker)) = true := by
    rw [accepts_range_beyond, htie]
    simp
  unfold rangeClause compareTo
  dsimp only
  rw [htie, Option.getD_some]
  by_cases hk : p.singleKey = true
  · rw [if_pos hk, if_pos hk, hrange]
  rw [Bool.not_eq_true] at hk
  rw [hk, if_neg Bool.false_ne_true, if_neg Bool.false_ne_true, PageDirection.beyond_then]
  cases hv : c.sortValue with
  | none =>
    -- the position stands among the sources without a value, which are the last ones: behind it
    -- come more of them, and in front of it everything with a value as well
    cases hdir : p.direction with
    | forward =>
      rw [hdir] at hrange
      rw [accepts_allOf_pair, accepts_not_exist, hrange]
      cases hx : fieldValue source p.primary.field <;> simp [missingLast, PageDirection.beyond]
    | backward =>
      rw [hdir] at hrange
      rw [accepts_anyOf_pair (decided_allOf_range (decided_missing _) _ _ _) (decided_exist _),
        accepts_allOf_pair, accepts_not_exist, accepts_exist, hrange]
      cases hx : fieldValue source p.primary.field <;> simp [missingLast, PageDirection.beyond]
  | some v =>
    have hterm : ∀ x, fieldValue source p.primary.field = some x →
        (Accepts id source (.term p.primary.field v) ↔
          p.primary.order.orient (compareValues x v) = .eq) := by
      intro x hx
      obtain ⟨kind, hkx, hkv⟩ := hkinds hk x v hx hv
      rw [accepts_term_scalar hx hkx hkv, SortOrder.orient_eq_eq]
    -- a source without a value ties with no position that has one
    have hnone : fieldValue source p.primary.field = none →
        ¬ Accepts id source (.term p.primary.field v) := by
      intro hx h
      obtain ⟨x, hmem, -⟩ := accepts_term.1 h
      unfold fieldValues at hmem
      rw [hx] at hmem
      cases hmem
    cases hdir : p.direction with
    | forward =>
      rw [hdir] at hrange
      simp only [if_true, List.cons_append, List.nil_append]
      rw [accepts_anyOf_triple (decided_range _ _ _) (decided_allOf_range (decided_term _ _) _ _ _)
        (decided_missing _), accepts_allOf_pair, accepts_not_exist, accepts_range_beyond, hrange]
      cases hx : fieldValue source p.primary.field with
      | none => simp [missingLast, PageDirection.beyond]
      | some x => simp [missingLast, hterm x hx]
    | backward =>
      rw [hdir] at hrange
      simp only [reduceCtorEq, if_false]
      rw [accepts_anyOf_pair (decided_range _ _ _) (decided_allOf_range (decided_term _ _) _ _ _),
        accepts_allOf_pair, accepts_range_beyond, hrange]
      cases hx : fieldValue source p.primary.field with
      | none => simp [missingLast, PageDirection.beyond, hnone hx]
      | some x => simp [missingLast, hterm x hx]

/-- Where a paging follows an order, sources stand to a position as theirs do in that order. -/
theorem Follows.compareTo_eq (hp : p.Follows k) (hs : k.Fits primary tieBreaker (k.position source))
    (hc : k.Fits primary tieBreaker c) : p.compareTo source c = k.compare (k.position source) c := by
  obtain ⟨tie, htie, htie', -⟩ := exists_tieBreaker hs
  have hsv : (k.position source).sortValue = fieldValue source k.primary := rfl
  unfold compareTo singleKey KeyOrder.compare
  rw [hp.primary, hp.tieBreaker, htie', hsv]
  dsimp only
  rw [htie, Option.getD_some]
  by_cases hk : k.primary = k.tieBreaker
  · -- the one key is compared twice
    rw [decide_eq_true hk, if_pos rfl, hk, htie, hc.single hk, missingLast]
    cases k.order.orient (compareValues tie c.tieBreaker) <;> rfl
  · rw [decide_eq_false hk, if_neg Bool.false_ne_true]

theorem accepts_rangeClause (hp : p.Follows k) (hs : k.Fits primary tieBreaker (k.position source))
    (hc : k.Fits primary tieBreaker c) : Accepts id source (p.rangeClause c) ↔
      p.direction.beyond (k.compare (k.position source) c) = true := by
  obtain ⟨tie, htie, -, -⟩ := exists_tieBreaker hs
  rw [← hp.compareTo_eq hs hc]
  apply accepts_rangeClause_iff
  · rw [hp.tieBreaker]
    exact htie
  · intro _ x v hx hv
    rw [hp.primary] at hx
    exact ⟨primary, hs.primary x hx, hc.primary v hv⟩

end Pagination

end TenantSearch
