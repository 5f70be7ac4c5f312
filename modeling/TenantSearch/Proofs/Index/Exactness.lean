/-
Which integers the index tells apart. Integers compare as their nearest doubles: never the wrong way
round, and as equal where the two have the same one. So a set of integers is compared exactly, in itself,
in the conditions on a field and where it orders documents, just when no two of its members share their
nearest double. Two integers never do if one of them is below 2 ^ 53; beyond that neighbours do.
-/
import TenantSearch.Proofs.Index.Answers
import TenantSearch.Proofs.Index.Formulas
import TenantSearch.Proofs.Index.Integers

namespace TenantSearch

namespace Index

open MemoryIndex

variable {i j : Integer} {S : Set Integer}

/-! ## Comparisons -/

theorem value_lt_iff (i j : Integer) :
    i.toDouble.value < j.toDouble.value ↔ nearest i.val < nearest j.val := by
  have hi : i.toDouble.value.toRat = nearest i.val := Double.toRat_value_ofInt i.natAbs_val_lt
  have hj : j.toDouble.value.toRat = nearest j.val := Double.toRat_value_ofInt j.natAbs_val_lt
  rw [← Dyadic.toRat_lt_toRat_iff, hi, hj, Int.cast_lt]

/-- Integers compare as their nearest doubles. -/
theorem compareValues_int (i j : Integer) :
    compareValues (.int i) (.int j) = compare (nearest i.val) (nearest j.val) := by
  show compareNumbers i.toDouble.value j.toDouble.value = _
  unfold compareNumbers
  rcases lt_trichotomy (nearest i.val) (nearest j.val) with h | h | h
  · rw [if_pos ((value_lt_iff i j).2 h), compare_lt_iff_lt.2 h]
  · rw [if_neg (mt (value_lt_iff i j).1 h.not_lt), if_neg (mt (value_lt_iff j i).1 h.not_gt),
      compare_eq_iff_eq.2 h]
  · rw [if_neg (mt (value_lt_iff i j).1 h.not_gt), if_pos ((value_lt_iff j i).2 h), compare_gt_iff_gt.2 h]

theorem valuesEqual_int_iff (i j : Integer) :
    valuesEqual (.int i) (.int j) = true ↔ nearest i.val = nearest j.val := by
  have hcmp : valuesEqual (.int i) (.int j) = (compareValues (.int i) (.int j) == .eq) := rfl
  rw [hcmp, beq_iff_eq, compareValues_int, compare_eq_iff_eq]

theorem compareValues_int_ne_gt (h : i.val ≤ j.val) : compareValues (.int i) (.int j) ≠ .gt := by
  rw [compareValues_int, Ne, compare_gt_iff_gt, not_lt]
  exact nearest_mono h

/-- Integers that compare as equal differ by one part in 2 ^ 53 of their sizes taken together at most. -/
theorem near_of_compareValues_int (h : compareValues (.int i) (.int j) = .eq) :
    2 ^ 53 * |i.val - j.val| ≤ |i.val| + |j.val| := by
  rw [compareValues_int, compare_eq_iff_eq] at h
  have hi := nearest_near i.val
  have hj := nearest_near j.val
  calc 2 ^ 53 * |i.val - j.val| = 2 ^ 53 * |(nearest j.val - j.val) - (nearest i.val - i.val)| := by
        rw [h]
        congr 2
        ring
    _ ≤ 2 ^ 53 * (|nearest j.val - j.val| + |nearest i.val - i.val|) :=
        Int.mul_le_mul_of_nonneg_left (abs_sub _ _) (by decide)
    _ ≤ |i.val| + |j.val| := by linarith

/-! ## Conditions and documents -/

theorem accepts_range_of_value {id field : String} {source x v : Json} {op : RangeOp}
    (hx : fieldValue source field = some x) :
    Accepts id source (.range field op v) ↔ op.admits (compareValues x v) = true := by
  rw [Accepts, outcome_range, hx, Option.any_some, boundHolds_name, Except.ok.injEq]

theorem compare_key_eq_iff {a b v w : Json} {key : SortKey} (ha : fieldValue a key.field = some v)
    (hb : fieldValue b key.field = some w) : key.compare a b = .eq ↔ compareValues v w = .eq := by
  unfold SortKey.compare
  rw [ha, hb]
  dsimp only
  split
  · exact Ordering.swap_eq_eq
  · rfl

/-- Integers that the index compares exactly: as such, in the conditions on a field, and where they order
documents. A field may hold several integers, but a range asks for one. -/
structure ComparedExactly (S : Set Integer) : Prop where
  equal : ∀ i ∈ S, ∀ j ∈ S, (valuesEqual (.int i) (.int j) = true ↔ i = j)
  order : ∀ i ∈ S, ∀ j ∈ S, compareValues (.int i) (.int j) = compare i.val j.val
  term : ∀ id source field (is : List Integer), (∀ i ∈ is, i ∈ S) →
    fieldValues source field = is.map .int → ∀ j ∈ S,
    (Accepts id source (.term field (.int j)) ↔ j ∈ is)
  terms : ∀ id source field (is js : List Integer), (∀ i ∈ is, i ∈ S) → (∀ j ∈ js, j ∈ S) →
    fieldValues source field = is.map .int →
    (Accepts id source (.terms field (js.map .int)) ↔ ∃ i ∈ is, i ∈ js)
  range : ∀ id source field op, ∀ i ∈ S, ∀ j ∈ S, fieldValue source field = some (.int i) →
    (Accepts id source (.range field op (.int j)) ↔ op.admits (compare i.val j.val) = true)
  tieBreaker : ∀ a b keys, ∀ key ∈ keys, ∀ i ∈ S, ∀ j ∈ S, fieldValue a key.field = some (.int i) →
    fieldValue b key.field = some (.int j) → i ≠ j → compareSources a b keys ≠ .eq

theorem compareValues_eq_compare (h : S.InjOn fun i => nearest i.val) (hi : i ∈ S) (hj : j ∈ S) :
    compareValues (.int i) (.int j) = compare i.val j.val := by
  have hne : ∀ {i j}, i ∈ S → j ∈ S → i.val < j.val → nearest i.val < nearest j.val := by
    intro i j hi hj hlt
    refine lt_of_le_of_ne (nearest_mono hlt.le) fun heq => ?_
    rw [h hi hj heq] at hlt
    exact lt_irrefl _ hlt
  -- rounding keeps the order, and where it keeps members apart it keeps the strict order
  rw [compareValues_int]
  rcases lt_trichotomy i.val j.val with hlt | heq | hgt
  · rw [compare_lt_iff_lt.2 hlt, compare_lt_iff_lt.2 (hne hi hj hlt)]
  · rw [heq, compare_eq_iff_eq.2 rfl, compare_eq_iff_eq.2 rfl]
  · rw [compare_gt_iff_gt.2 hgt, compare_gt_iff_gt.2 (hne hj hi hgt)]

theorem ComparedExactly.of_injOn (h : S.InjOn fun i => nearest i.val) : ComparedExactly S := by
  have hequal : ∀ i ∈ S, ∀ j ∈ S, (valuesEqual (.int i) (.int j) = true ↔ i = j) :=
    fun i hi j hj => (valuesEqual_int_iff i j).trans (h.eq_iff hi hj)
  refine
    { equal := hequal
      order := fun i hi j hj => compareValues_eq_compare h hi hj
      term := fun id source field is his hfield j hj => ?_
      terms := fun id source field is js his hjs hfield => ?_
      range := fun id source field op i hi j hj hfield => ?_
      tieBreaker := fun a b keys key hkey i hi j hj ha hb hne heq => ?_ }
  · rw [accepts_term, hfield]
    simp only [List.mem_map, exists_exists_and_eq_and]
    constructor
    · rintro ⟨i, hi, heq⟩
      rwa [← (hequal i (his i hi) j hj).1 heq]
    · exact fun hmem => ⟨j, hmem, (hequal j hj j hj).2 rfl⟩
  · rw [accepts_terms, hfield]
    simp only [List.mem_map, exists_exists_and_eq_and]
    constructor
    · rintro ⟨i, hi, j, hj, heq⟩
      refine ⟨i, hi, ?_⟩
      rwa [(hequal i (his i hi) j (hjs j hj)).1 heq]
    · rintro ⟨i, hi, hmem⟩
      exact ⟨i, hi, i, hmem, (hequal i (his i hi) i (his i hi)).2 rfl⟩
  · rw [accepts_range_of_value hfield, compareValues_eq_compare h hi hj]
  · have hcmp := (compareSources_eq_iff keys).1 heq key hkey
    rw [compare_key_eq_iff ha hb, compareValues_eq_compare h hi hj, compare_eq_iff_eq] at hcmp
    exact hne (Integer.val_inj.1 hcmp)

theorem ComparedExactly.injOn (h : ComparedExactly S) : S.InjOn fun i => nearest i.val :=
  fun i hi j hj heq => (h.equal i hi j hj).1 ((valuesEqual_int_iff i j).2 heq)

/-- Integers are compared exactly just where no two have the same nearest double, which they have not
if one of them is below 2 ^ 53. Of any two the lesser never compares as the greater one, and those that
compare as equal differ by one part in 2 ^ 53 of their sizes taken together at most. -/
theorem integers_compared (S : Set Integer) :
    (ComparedExactly S ↔ S.InjOn fun i => nearest i.val) ∧
    (S.Pairwise (fun i j => i.val.natAbs < 2 ^ 53 ∨ j.val.natAbs < 2 ^ 53) → ComparedExactly S) ∧
    ∀ i j : Integer, (i.val ≤ j.val → compareValues (.int i) (.int j) ≠ .gt) ∧
      (compareValues (.int i) (.int j) = .eq → 2 ^ 53 * |i.val - j.val| ≤ |i.val| + |j.val|) := by
  refine ⟨⟨ComparedExactly.injOn, ComparedExactly.of_injOn⟩, fun hsmall => ?_,
    fun i j => ⟨compareValues_int_ne_gt, near_of_compareValues_int⟩⟩
  refine ComparedExactly.of_injOn fun i hi j hj heq => ?_
  by_contra hne
  rcases hsmall hi hj hne with hlt | hlt
  · exact hne (Integer.val_inj.1 (eq_of_nearest_eq hlt heq))
  · exact hne (Integer.val_inj.1 (eq_of_nearest_eq hlt heq.symm).symm)

/-- A small id beside one of 54 bits. -/
def smallId : Integer := .ofUInt64 7

def oddId : Integer := .ofUInt64 9007199254740993

theorem integers_compared_smallId :
    ({smallId, oddId} : Set Integer).Pairwise (fun i j => i.val.natAbs < 2 ^ 53 ∨ j.val.natAbs < 2 ^ 53) ∧
    ComparedExactly {smallId, oddId} := by
  have hsmall : smallId.val.natAbs < 2 ^ 53 := by decide
  have hpair : ({smallId, oddId} : Set Integer).Pairwise
      (fun i j => i.val.natAbs < 2 ^ 53 ∨ j.val.natAbs < 2 ^ 53) :=
    Set.pairwise_pair.2 fun _ => ⟨.inl hsmall, .inr hsmall⟩
  exact ⟨hpair, (integers_compared _).2.1 hpair⟩

/-- The id before it, which is its nearest double. -/
def evenId : Integer := .ofUInt64 9007199254740992

/-- A search for the one id finds the document of the other. -/
theorem neighbours_confused : evenId ≠ oddId ∧ valuesEqual (.int evenId) (.int oddId) = true ∧
    compareValues (.int evenId) (.int oddId) = .eq ∧
    Accepts "9007199254740993" (.obj [("id", .int oddId)]) (.term "id" (.int evenId)) ∧
    ¬ ComparedExactly Set.univ := by
  have hne : evenId ≠ oddId := by decide
  have hequal : valuesEqual (.int evenId) (.int oddId) = true := by decide +kernel
  refine ⟨hne, hequal, by decide +kernel, by decide +kernel, fun h => hne ?_⟩
  exact (h.equal _ (Set.mem_univ _) _ (Set.mem_univ _)).1 hequal

end Index

end TenantSearch
