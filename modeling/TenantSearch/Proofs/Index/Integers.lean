/-
Integers as the index compares them, which is as doubles. An integer of at most 53 bits is kept by the
conversion, and one with more bits stays beyond those; so a number below 2 ^ 53 equals the integers that
have its value, an integer below 2 ^ 53 the numbers that have its value, and an id below 2 ^ 53 no other id.
-/
import TenantSearch.Proofs.Index.Order
import TenantSearch.Proofs.Index.Rounding

namespace TenantSearch

/-! ## Doubles of integers -/

namespace Double

/-- An integer of at most 53 bits is kept as it is. -/
theorem toRat_value_ofInt_of_lt {i : Int} (h : i.natAbs < 2 ^ 53) : (ofInt i).value.toRat = i := by
  rw [toRat_value_ofInt (by omega), nearest_of_lt h]

/-- A number below 2 ^ 53 is the double of an integer only where it is the integer. -/
theorem value_ofInt_eq_iff {i : Int} {x : Dyadic} (hx : |x.toRat| < 2 ^ 53) (hi : i.natAbs < 2 ^ 64) :
    (ofInt i).value = x ↔ x.toRat = i := by
  rw [← Dyadic.toRat_inj, toRat_value_ofInt hi]
  constructor
  · intro h
    rw [← h] at hx ⊢
    have hsmall : (nearest i).natAbs < 2 ^ 53 := by
      zify
      exact_mod_cast hx
    rw [nearest_of_lt (natAbs_nearest_lt_iff.1 hsmall)]
  · intro h
    rw [h] at hx ⊢
    have hsmall : i.natAbs < 2 ^ 53 := by
      zify
      exact_mod_cast hx
    rw [nearest_of_lt hsmall]

end Double

theorem Integer.val_inj {i j : Integer} : i.val = j.val ↔ i = j := by
  rw [Integer.mk.injEq]

theorem Integer.natAbs_val_lt (i : Integer) : i.val.natAbs < 2 ^ 64 := by
  have := i.inRange
  omega

/-- The exact value of a number. -/
def Json.number? : Json → Option ℚ
  | .int i => some i.val
  | .float x => some x.value.toRat
  | _ => none

/-! ## Ids -/

namespace Index

/-- Doubles compare as equal where they have the same value. -/
theorem cmp_beq_eq (x y : Double) : (x.cmp y == .eq) = true ↔ y.value = x.value := by
  rw [beq_iff_eq, cmp_eq_compareNumbers]
  constructor
  · exact fun h => (Std.LawfulEqCmp.eq_of_compare h).symm
  · intro h
    rw [h]
    exact @Std.ReflCmp.compare_self _ compareNumbers _ _

/-- A number below 2 ^ 53 equals the integers that have its value. -/
theorem valuesEqual_int {v : Json} (hv : ∀ q, v.number? = some q → |q| < 2 ^ 53) (j : Integer) :
    valuesEqual v (.int j) = true ↔ v.number? = some (j.val : ℚ) := by
  have hj : j.val.natAbs < 2 ^ 64 := j.natAbs_val_lt
  cases v with
  | int i =>
    have hi : i.val.natAbs < 2 ^ 53 := by
      zify
      exact_mod_cast hv _ rfl
    have hvalue := Double.toRat_value_ofInt_of_lt hi
    have hsmall : |i.toDouble.value.toRat| < 2 ^ 53 := by
      show |(Double.ofInt i.val).value.toRat| < 2 ^ 53
      rw [hvalue]
      exact hv _ rfl
    refine (cmp_beq_eq i.toDouble j.toDouble).trans ((Double.value_ofInt_eq_iff hsmall hj).trans ?_)
    show (Double.ofInt i.val).value.toRat = _ ↔ _
    rw [hvalue]
    simp [Json.number?]
  | float x =>
    refine (cmp_beq_eq x j.toDouble).trans ((Double.value_ofInt_eq_iff (hv _ rfl) hj).trans ?_)
    simp [Json.number?]
  | null | bool _ | str _ | arr _ | obj _ => simp [valuesEqual, Json.asDouble?, Json.same, Json.number?]

/-- An integer below 2 ^ 53 equals the numbers that have its value, of whatever size they are. -/
theorem valuesEqual_small {j : Integer} (hj : j.val.natAbs < 2 ^ 53) (v : Json) :
    valuesEqual v (.int j) = true ↔ v.number? = some (j.val : ℚ) := by
  have hvalue : j.toDouble.value.toRat = j.val := Double.toRat_value_ofInt_of_lt hj
  cases v with
  | int i =>
    have hi : i.val.natAbs < 2 ^ 64 := i.natAbs_val_lt
    have hsmall : |j.toDouble.value.toRat| < 2 ^ 53 := by
      rw [hvalue]
      exact_mod_cast (by zify at hj; exact hj : |j.val| < 2 ^ 53)
    refine (cmp_beq_eq i.toDouble j.toDouble).trans (eq_comm.trans ?_)
    refine (Double.value_ofInt_eq_iff hsmall hi).trans ?_
    rw [hvalue]
    simp [Json.number?, eq_comm]
  | float x =>
    refine (cmp_beq_eq x j.toDouble).trans ?_
    rw [← Dyadic.toRat_inj, hvalue]
    simp [Json.number?, eq_comm]
  | null | bool _ | str _ | arr _ | obj _ => simp [valuesEqual, Json.asDouble?, Json.same, Json.number?]

theorem valuesEqual_ofUInt64_self (id : UInt64) : valuesEqual (.ofUInt64 id) (.ofUInt64 id) = true := by
  show (compareNumbers (Double.ofInt id.toNat).value (Double.ofInt id.toNat).value == .eq) = true
  exact beq_iff_eq.2 (@Std.ReflCmp.compare_self _ compareNumbers _ _)

/-- An id below 2 ^ 53 equals itself only. -/
theorem valuesEqual_ofUInt64 {a b : UInt64} (ha : a.toNat < 2 ^ 53) :
    valuesEqual (.ofUInt64 a) (.ofUInt64 b) = true ↔ a = b := by
  have hsmall : ∀ q, (Json.ofUInt64 a).number? = some q → |q| < 2 ^ 53 := by
    intro q hq
    cases hq
    show |((a.toNat : Int) : ℚ)| < 2 ^ 53
    rw [abs_of_nonneg (by positivity)]
    exact_mod_cast ha
  refine (valuesEqual_int hsmall (.ofUInt64 b)).trans ?_
  show some ((a.toNat : Int) : ℚ) = some ((b.toNat : Int) : ℚ) ↔ a = b
  rw [Option.some.injEq, Int.cast_inj, Int.natCast_inj, UInt64.toNat_inj]

end Index

end TenantSearch
