/-
A position cuts the order of a paging in two. The clause of the page after it holds of the sources
that sort behind the position, the clause of the page before it of those that sort in front, and what
is left has the values of the position. No record has to stand there, a position without a primary
value lies among the records without one, at the end, and the two keys may be ordered each in its own
direction.
-/
import TenantSearch.Proofs.Paging.Ordering

namespace TenantSearch

open Index MemoryIndex

/-- A position of scalars: one to break ties, and one to sort by unless it is missing. -/
structure Cursor.IsScalar (c : Cursor) : Prop where
  sortValue : ∀ v, c.sortValue = some v → (kind? v).isSome
  tieBreaker : (kind? c.tieBreaker).isSome

namespace Pagination

variable {p : Pagination} {c : Cursor} {source place x : Json} {id : String}

/-- The clause that the page after a position adds. -/
def clauseAfter (p : Pagination) (c : Cursor) : Clause := (p.after c).rangeClause c

/-- The clause that the page before a position adds. -/
def clauseBefore (p : Pagination) (c : Cursor) : Clause := (p.before c).rangeClause c

/-- The keys of the order that is not turned round. -/
def naturalKeys (p : Pagination) : List SortKey :=
  ({ p with reversed := false }).sortClauses.map SortKey.ofClause

/-- A source has the values of a position. -/
structure HasPosition (p : Pagination) (c : Cursor) (source : Json) : Prop where
  primary : p.singleKey = false → fieldValue source p.primary.field = c.sortValue
  tieBreaker : fieldValue source p.tieBreaker.field = some c.tieBreaker

/-- A source has a scalar that breaks ties, and one to sort by unless it has no value there, of the
kinds of the scalars of a position. -/
structure Comparable (p : Pagination) (c : Cursor) (source : Json) : Prop where
  primary : p.singleKey = false → ∀ x, fieldValue source p.primary.field = some x →
    (kind? x).isSome ∧ ∀ v, c.sortValue = some v → kind? x = kind? v
  tieBreaker : ∃ x, fieldValue source p.tieBreaker.field = some x ∧ (kind? x).isSome ∧
    kind? x = kind? c.tieBreaker

/-- A source lies at a position: it equals it in every key, and lacks the primary value where the
position does. -/
structure LiesAt (p : Pagination) (c : Cursor) (source : Json) : Prop where
  primary : p.singleKey = false → Option.Rel (fun x v => valuesEqual x v = true)
    (fieldValue source p.primary.field) c.sortValue
  tieBreaker : ∃ x, fieldValue source p.tieBreaker.field = some x ∧ valuesEqual x c.tieBreaker = true

/-! ## Places -/

theorem fieldValue_of_kind {field : String} (h : source.get? field = some x)
    (hk : (kind? x).isSome = true) : fieldValue source field = some x := by
  unfold fieldValue
  rw [h]
  cases x <;> first | rfl | cases hk

/-- Some source has the values of a position, whatever the documents of an index are. -/
theorem exists_hasPosition (hc : c.IsScalar) : ∃ place, p.HasPosition c place := by
  refine ⟨.obj ((p.tieBreaker.field, c.tieBreaker) ::
    (c.sortValue.map fun v => (p.primary.field, v)).toList), fun hk => ?_, ?_⟩
  · have hne : (p.primary.field == p.tieBreaker.field) = false := by
      unfold singleKey at hk
      simpa using hk
    cases hv : c.sortValue with
    | none => simp [fieldValue, Json.get?, List.lookup_cons, hne]
    | some v =>
      refine fieldValue_of_kind ?_ (hc.sortValue v hv)
      simp [Json.get?, List.lookup_cons, hne]
  · refine fieldValue_of_kind ?_ hc.tieBreaker
    simp [Json.get?]

/-! ## The order of sources -/

theorem naturalKeys_eq (hp : p.primary.missing = none) : p.naturalKeys =
    if p.singleKey then [⟨p.tieBreaker.field, p.tieBreaker.order = .desc, false⟩]
    else [⟨p.primary.field, p.primary.order = .desc, false⟩, .ofClause p.tieBreaker] := by
  have hkeys : p.naturalKeys = (if p.singleKey then
      [{ p.tieBreaker with missing := p.primary.missing }] else [p.primary, p.tieBreaker]).map
        SortKey.ofClause := rfl
  rw [hkeys]
  split <;> simp [SortKey.ofClause, hp]

/-- Sources sort against what stands at a position as they stand to the position. -/
theorem compareSources_naturalKeys (hp : p.primary.missing = none) (hpos : p.HasPosition c place)
    (htie : fieldValue source p.tieBreaker.field = some x) :
    compareSources source place p.naturalKeys = p.compareTo source c := by
  have hlast : ∀ missingFirst, compareSources source place
      [⟨p.tieBreaker.field, p.tieBreaker.order = .desc, missingFirst⟩] =
        p.tieBreaker.order.orient (compareValues x c.tieBreaker) := by
    intro missingFirst
    rw [compareSources_cons, compareSources, Ordering.then_eq]
    exact KeyOrder.compare_sortKey htie hpos.tieBreaker false missingFirst p.tieBreaker.order
  rw [naturalKeys_eq hp]
  unfold compareTo
  rw [htie, Option.getD_some]
  by_cases hk : p.singleKey = true
  · rw [if_pos hk, if_pos hk, hlast]
  · have hfirst := KeyOrder.compare_sortKey_missing p.primary.field source place false p.primary.order
    rw [hpos.primary (Bool.eq_false_iff.2 hk)] at hfirst
    rw [if_neg hk, if_neg hk, compareSources_cons]
    exact congr (congrArg _ hfirst) (hlast _)

theorem missingLast_eq_eq {α : Type} {cmp : α → α → Ordering} {a b : Option α} :
    missingLast cmp a b = .eq ↔ Option.Rel (fun x y => cmp x y = .eq) a b := by
  cases a <;> cases b <;> simp [missingLast]

theorem Comparable.exists_kind {p : Pagination} (h : p.Comparable c source) (hk : p.singleKey = false)
    {v : Json} (hx : fieldValue source p.primary.field = some x) (hv : c.sortValue = some v) :
    ∃ kind, kind? x = some kind ∧ kind? v = some kind := by
  obtain ⟨hscalar, hkind⟩ := h.primary hk x hx
  obtain ⟨kind, hkx⟩ := Option.isSome_iff_exists.1 hscalar
  exact ⟨kind, hkx, hkind v hv ▸ hkx⟩

/-- What stands at a position lies there, and nothing else does. -/
theorem compareTo_eq_eq (h : p.Comparable c source) :
    p.compareTo source c = .eq ↔ p.LiesAt c source := by
  obtain ⟨x, hx, hscalar, hkind⟩ := h.tieBreaker
  obtain ⟨kind, hkx⟩ := Option.isSome_iff_exists.1 hscalar
  have htie : p.tieBreaker.order.orient (compareValues x c.tieBreaker) = .eq ↔
      valuesEqual x c.tieBreaker = true := by
    rw [SortOrder.orient_eq_eq, KeyOrder.valuesEqual_iff_of_kind hkx (hkind ▸ hkx)]
  have hprimary : p.singleKey = false → (missingLast
      (fun v w => p.primary.order.orient (compareValues v w)) (fieldValue source p.primary.field)
        c.sortValue = .eq ↔ Option.Rel (fun x v => valuesEqual x v = true)
          (fieldValue source p.primary.field) c.sortValue) := by
    intro hk
    rw [missingLast_eq_eq]
    cases hf : fieldValue source p.primary.field with
    | none => cases c.sortValue <;> simp
    | some y =>
      cases hv : c.sortValue with
      | none => simp
      | some v =>
        obtain ⟨kind, hky, hkv⟩ := h.exists_kind hk hf hv
        simp [KeyOrder.valuesEqual_iff_of_kind hky hkv]
  unfold compareTo
  rw [hx, Option.getD_some]
  by_cases hk : p.singleKey = true
  · rw [if_pos hk, htie]
    refine ⟨fun h => ⟨fun hno => ?_, x, hx, h⟩, ?_⟩
    · rw [hk] at hno; cases hno
    · rintro ⟨-, y, hy, h⟩
      cases hx.symm.trans hy
      exact h
  · have hk' := Bool.eq_false_iff.2 hk
    rw [if_neg hk, Ordering.then_eq_eq, hprimary hk', htie]
    refine ⟨fun h => ⟨fun _ => h.1, x, hx, h.2⟩, ?_⟩
    rintro ⟨hrel, y, hy, h⟩
    cases hx.symm.trans hy
    exact ⟨hrel hk', h⟩

/-! ## Either side of a position -/

theorem accepts_clauseAfter (h : p.Comparable c source) :
    Accepts id source (p.clauseAfter c) ↔ p.compareTo source c = .gt := by
  obtain ⟨x, hx, -, -⟩ := h.tieBreaker
  have hbeyond : Accepts id source (p.clauseAfter c) ↔ _ :=
    accepts_rangeClause_iff hx fun hk _ _ => h.exists_kind hk
  exact hbeyond.trans beq_iff_eq

theorem accepts_clauseBefore (h : p.Comparable c source) :
    Accepts id source (p.clauseBefore c) ↔ p.compareTo source c = .lt := by
  obtain ⟨x, hx, -, -⟩ := h.tieBreaker
  have hbeyond : Accepts id source (p.clauseBefore c) ↔ _ :=
    accepts_rangeClause_iff hx fun hk _ _ => h.exists_kind hk
  exact hbeyond.trans beq_iff_eq

/-- The three parts into which a position divides sources. -/
def Stands (p : Pagination) (c : Cursor) (id : String) (source : Json) : Ordering → Prop
  | .lt => Accepts id source (p.clauseBefore c)
  | .eq => p.LiesAt c source
  | .gt => Accepts id source (p.clauseAfter c)

theorem stands_iff (h : p.Comparable c source) : ∀ side,
    p.Stands c id source side ↔ p.compareTo source c = side
  | .lt => accepts_clauseBefore h
  | .eq => (compareTo_eq_eq h).symm
  | .gt => accepts_clauseAfter h

/-- The clauses of the pages after and before a position cut the order of a paging that leaves missing
values last. A comparable source satisfies the one when it sorts strictly behind what stands at the
position, the other when it sorts strictly in front of it, and otherwise lies at the position. -/
theorem cursor_splits (hp : p.primary.missing = none) (hc : c.IsScalar) :
    (p.after c).paginate = { p with cursor := none }.paginate.filter (p.clauseAfter c) ∧
    (p.before c).paginate = { p with cursor := none }.paginate.filter (p.clauseBefore c) ∧
    (∃ place, p.HasPosition c place) ∧
    ∀ id source place, p.Comparable c source → p.HasPosition c place →
      (Accepts id source (p.clauseAfter c) ↔ compareSources source place p.naturalKeys = .gt) ∧
      (Accepts id source (p.clauseBefore c) ↔ compareSources source place p.naturalKeys = .lt) ∧
      (p.LiesAt c source ↔ compareSources source place p.naturalKeys = .eq) ∧
      ∃! side, p.Stands c id source side := by
  refine ⟨rfl, rfl, exists_hasPosition hc, fun id source place h hpos => ?_⟩
  obtain ⟨x, hx, -, -⟩ := h.tieBreaker
  rw [compareSources_naturalKeys hp hpos hx]
  refine ⟨accepts_clauseAfter h, accepts_clauseBefore h, (compareTo_eq_eq h).symm,
    p.compareTo source c, (stands_iff h _).2 rfl, fun side hside => ?_⟩
  exact ((stands_iff h side).1 hside).symm

/-- The heaviest first, among equals by id from the least up. -/
def heaviest : Pagination where
  document := .empty
  primary := ⟨"weight", .desc, none⟩
  tieBreaker := ⟨"id", .asc, none⟩

/-- A position among what has no weight. -/
def weightless : Cursor := ⟨none, .ofUInt32 7⟩

def lightIssue : Json := .obj [("id", .ofUInt32 9), ("weight", .ofUInt32 1)]

theorem comparable_lightIssue : heaviest.Comparable weightless lightIssue := by
  have hnumber : ∀ i, kind? (.int i) = some .number := fun _ => rfl
  constructor
  · intro _ x hx
    cases hx
    exact ⟨rfl, fun v hv => by cases hv⟩
  · exact ⟨_, rfl, rfl, (hnumber _).trans (hnumber _).symm⟩

theorem cursor_splits_lightIssue : heaviest.primary.missing = none ∧ weightless.IsScalar ∧
    heaviest.Comparable weightless lightIssue ∧
    Accepts "1" lightIssue (heaviest.clauseBefore weightless) ∧
    ¬ Accepts "1" lightIssue (heaviest.clauseAfter weightless) ∧
    ¬ heaviest.LiesAt weightless lightIssue := by
  have hscalar : weightless.IsScalar := by
    constructor
    · intro v hv
      cases hv
    · rfl
  obtain ⟨-, -, ⟨place, hplace⟩, hsplit⟩ := cursor_splits (p := heaviest) rfl hscalar
  obtain ⟨hafter, hbefore, hat, -⟩ := hsplit "1" lightIssue place comparable_lightIssue hplace
  have hfound : Accepts "1" lightIssue (heaviest.clauseBefore weightless) := by decide +kernel
  rw [hafter, hat, hbefore.1 hfound]
  exact ⟨rfl, hscalar, comparable_lightIssue, hfound, by decide, by decide⟩

end Pagination

end TenantSearch
