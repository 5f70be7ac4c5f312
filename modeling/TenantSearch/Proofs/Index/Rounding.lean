/-
Integers rounded to doubles. Of a natural number the first 53 bits are kept, rounded half to even, which
moves the number by no more than one part in 2 ^ 53 and not beyond the next power of two. So rounding
keeps the order, keeps every number of at most 53 bits, and gives none of these for a number of more.
-/
import TenantSearch.Number.Double
import Mathlib.Tactic

namespace TenantSearch

/-! ## Rounded quotients -/

section

variable {n m d : Nat}

theorem roundHalfEven_one (n : Nat) : roundHalfEven n 1 = n := by
  unfold roundHalfEven
  simp [Nat.mod_one]

theorem div_le_roundHalfEven (n d : Nat) : n / d ≤ roundHalfEven n d := by
  unfold roundHalfEven
  dsimp only
  split_ifs <;> omega

theorem roundHalfEven_le (n d : Nat) : roundHalfEven n d ≤ n / d + 1 := by
  unfold roundHalfEven
  dsimp only
  split_ifs <;> omega

/-- A rounded quotient is off by half of the divisor at most. -/
theorem roundHalfEven_near (hd : 0 < d) (n : Nat) :
    2 * n ≤ 2 * (roundHalfEven n d * d) + d ∧ 2 * (roundHalfEven n d * d) ≤ 2 * n + d := by
  have hdiv : n / d * d + n % d = n := Nat.div_add_mod' n d
  have hmod : n % d < d := Nat.mod_lt n hd
  have hnext : (n / d + 1) * d = n / d * d + d := Nat.succ_mul _ _
  unfold roundHalfEven
  dsimp only
  split_ifs <;> omega

theorem roundHalfEven_mono (hd : 0 < d) (h : n ≤ m) : roundHalfEven n d ≤ roundHalfEven m d := by
  rcases Nat.eq_or_lt_of_le h with rfl | hlt
  · exact Nat.le_refl _
  by_contra hgt
  -- a quotient that falls by one would bring the two numbers within half a divisor of each other
  have hstep : roundHalfEven m d * d + d ≤ roundHalfEven n d * d := by
    rw [← Nat.succ_mul]
    exact Nat.mul_le_mul_right d (Nat.not_le.1 hgt)
  have hn := (roundHalfEven_near hd n).2
  have hm := (roundHalfEven_near hd m).1
  omega

end

/-! ## Kept bits -/

/-- A natural number rounded to the 53 bits from its first one on. -/
def kept (n : Nat) : Nat := roundHalfEven n (2 ^ (n.log2 - 52)) * 2 ^ (n.log2 - 52)

section

variable {n m : Nat}

theorem kept_of_lt (h : n < 2 ^ 53) : kept n = n := by
  have hlog : n.log2 - 52 = 0 := by
    by_cases hn : n = 0
    · subst hn
      rfl
    · have := (Nat.log2_lt hn).2 h
      omega
  unfold kept
  rw [hlog, Nat.pow_zero, roundHalfEven_one, Nat.mul_one]

/-- The place of the last bit kept, for a number that has as many bits. -/
theorem exists_place (h : 2 ^ 52 ≤ n) :
    ∃ k, n.log2 = 52 + k ∧ 2 ^ 52 ≤ n / 2 ^ k ∧ n / 2 ^ k < 2 ^ 53 := by
  have hn : n ≠ 0 := by omega
  obtain ⟨k, hk⟩ := Nat.exists_eq_add_of_le ((Nat.le_log2 hn).2 h)
  refine ⟨k, hk, ?_, ?_⟩
  · rw [Nat.le_div_iff_mul_le (Nat.two_pow_pos k), ← Nat.pow_add, ← hk]
    exact Nat.log2_self_le hn
  · rw [Nat.div_lt_iff_lt_mul (Nat.two_pow_pos k), ← Nat.pow_add, Nat.add_right_comm 52 1 k, ← hk]
    exact Nat.lt_log2_self

/-- Rounding leaves a number between the powers of two around it. -/
theorem kept_bounds (hn : n ≠ 0) : 2 ^ n.log2 ≤ kept n ∧ kept n ≤ 2 ^ (n.log2 + 1) := by
  rcases Nat.lt_or_ge n (2 ^ 52) with hsmall | hlarge
  · rw [kept_of_lt (by omega)]
    exact ⟨Nat.log2_self_le hn, Nat.le_of_lt Nat.lt_log2_self⟩
  · obtain ⟨k, hk, hlow, hhigh⟩ := exists_place hlarge
    unfold kept
    rw [hk, Nat.add_sub_cancel_left, Nat.add_right_comm, Nat.pow_add, Nat.pow_add]
    constructor
    · exact Nat.mul_le_mul_right _ (hlow.trans (div_le_roundHalfEven n _))
    · exact Nat.mul_le_mul_right _ ((roundHalfEven_le n _).trans hhigh)

theorem kept_mono (h : n ≤ m) : kept n ≤ kept m := by
  by_cases hn : n = 0
  · subst hn
    exact Nat.zero_le _
  have hm : m ≠ 0 := by omega
  -- a power of two lies between numbers of different lengths; those of one length round by one unit
  rcases Nat.lt_or_ge n.log2 m.log2 with hlog | hlog
  · calc kept n ≤ 2 ^ (n.log2 + 1) := (kept_bounds hn).2
      _ ≤ 2 ^ m.log2 := Nat.pow_le_pow_right (by decide) hlog
      _ ≤ kept m := (kept_bounds hm).1
  · have hsame : m.log2 = n.log2 :=
      Nat.le_antisymm hlog ((Nat.le_log2 hm).2 ((Nat.log2_self_le hn).trans h))
    unfold kept
    rw [hsame]
    exact Nat.mul_le_mul_right _ (roundHalfEven_mono (Nat.two_pow_pos _) h)

theorem kept_lt_iff : kept n < 2 ^ 53 ↔ n < 2 ^ 53 := by
  constructor
  · intro h
    by_contra hle
    have hpow : kept (2 ^ 53) = 2 ^ 53 := by decide +kernel
    have := kept_mono (Nat.not_lt.1 hle)
    omega
  · intro h
    rwa [kept_of_lt h]

/-- Rounding is off by one part in 2 ^ 53 at most. -/
theorem kept_near (n : Nat) : 2 ^ 53 * n ≤ 2 ^ 53 * kept n + n ∧ 2 ^ 53 * kept n ≤ 2 ^ 53 * n + n := by
  rcases Nat.lt_or_ge n (2 ^ 52) with hsmall | hlarge
  · rw [kept_of_lt (by omega)]
    omega
  · obtain ⟨k, hk, hlow, -⟩ := exists_place hlarge
    have hunit : 2 ^ 52 * 2 ^ k ≤ n := (Nat.le_div_iff_mul_le (Nat.two_pow_pos k)).1 hlow
    have hnear := roundHalfEven_near (Nat.two_pow_pos k) n
    unfold kept
    rw [hk, Nat.add_sub_cancel_left]
    omega

end

/-! ## Rounding in the format of doubles -/

namespace BinaryFormat

variable {n : Nat}

theorem scale_natCast (n k : Nat) : scale n 1 k = (n, 2 ^ k) := by
  unfold scale
  rw [if_pos (Int.natCast_nonneg k), Int.toNat_natCast, Nat.one_mul, Nat.pow_eq]

theorem scale_neg_natCast (n k : Nat) : scale n 1 (-(k : Int)) = (n * 2 ^ k, 1) := by
  unfold scale
  cases k with
  | zero => simp
  | succ k => rw [if_neg (by omega), Int.neg_neg, Int.toNat_natCast, Nat.pow_eq]

/-- The last bit kept of a natural number is as many places below its first one as the significand has
bits. -/
theorem lastBit_nat (f : BinaryFormat) (h : n ≠ 0) (hmin : f.minExp + f.precision ≤ 1) :
    f.lastBit n 1 = n.log2 + 1 - f.precision := by
  have hlog : 2 ^ n.log2 ≤ n := Nat.log2_self_le h
  have hone : Nat.log2 1 = 0 := by decide
  have hfull : (scale n 1 (n.log2 - f.precision)).2 * Nat.pow 2 f.precision ≤
      (scale n 1 (n.log2 - f.precision)).1 := by
    rcases Nat.le_total f.precision n.log2 with hk | hk
    · obtain ⟨k, hk⟩ := Nat.exists_eq_add_of_le hk
      rw [show (n.log2 : Int) - f.precision = (k : Nat) by omega, scale_natCast, Nat.pow_eq,
        ← Nat.pow_add, Nat.add_comm, ← hk]
      exact hlog
    · obtain ⟨k, hk⟩ := Nat.exists_eq_add_of_le hk
      rw [show (n.log2 : Int) - f.precision = -(k : Nat) by omega, scale_neg_natCast, Nat.pow_eq,
        Nat.one_mul, hk, Nat.pow_add]
      exact Nat.mul_le_mul_right _ hlog
  unfold lastBit
  rw [hone]
  simp only [Int.natCast_zero, Int.sub_zero]
  rw [if_pos hfull, if_neg (by omega)]
  omega

/-- A number that fits the significand is kept as it is. -/
theorem round_of_lt (h : n < 2 ^ 53) : binary64.round n 1 = some (n : Dyadic) := by
  by_cases hn : n = 0
  · subst hn
    rfl
  obtain ⟨k, hk⟩ := Nat.exists_eq_add_of_lt ((Nat.log2_lt hn).2 h)
  have hlast : binary64.lastBit n 1 = -(k : Int) := by
    rw [lastBit_nat binary64 hn (by decide)]
    simp only [binary64]
    omega
  unfold round
  rw [if_neg hn, hlast]
  dsimp only
  rw [scale_neg_natCast]
  dsimp only
  rw [roundHalfEven_one, if_neg, Int.neg_neg]
  · -- the places shifted in on the left are the places of the precision
    have hshift := @Dyadic.ofIntWithPrec_shiftLeft_add n 0 k
    rw [Int.zero_add, Int.shiftLeft_eq] at hshift
    exact congrArg some hshift
  · rw [Nat.pow_eq, Nat.not_le]
    calc n * 2 ^ k < 2 ^ 53 * 2 ^ k := Nat.mul_lt_mul_of_pos_right h (Nat.two_pow_pos k)
      _ = 2 ^ (53 + k) := (Nat.pow_add 2 53 k).symm
      _ ≤ 2 ^ (binary64.maxExp - -(k : Int)).toNat := Nat.pow_le_pow_right (by decide) (by
          simp only [binary64]
          omega)

/-- A number of 64 bits is rounded to the bits kept of it. -/
theorem round_nat (h : n < 2 ^ 64) : ∃ x, binary64.round n 1 = some x ∧ x.toRat = kept n := by
  rcases Nat.lt_or_ge n (2 ^ 53) with hsmall | hlarge
  · rw [kept_of_lt hsmall]
    exact ⟨_, round_of_lt hsmall, Dyadic.toRat_natCast n⟩
  obtain ⟨k, hk, -, hhigh⟩ := exists_place (n := n) (by omega)
  have hn : n ≠ 0 := by omega
  have hlog : n.log2 < 64 := (Nat.log2_lt hn).2 h
  have hlast : binary64.lastBit n 1 = (k : Int) := by
    rw [lastBit_nat binary64 hn (by decide)]
    simp only [binary64]
    omega
  have hfits : roundHalfEven n (2 ^ k) < Nat.pow 2 (binary64.maxExp - (k : Int)).toNat := by
    calc roundHalfEven n (2 ^ k) ≤ n / 2 ^ k + 1 := roundHalfEven_le n _
      _ < 2 ^ 54 := by omega
      _ ≤ 2 ^ (binary64.maxExp - (k : Int)).toNat := Nat.pow_le_pow_right (by decide) (by
          simp only [binary64]
          omega)
  -- no number of 64 bits comes near the greatest double
  unfold round
  rw [if_neg hn, hlast]
  dsimp only
  rw [scale_natCast]
  dsimp only
  rw [if_neg (Nat.not_le.2 hfits)]
  refine ⟨_, rfl, ?_⟩
  unfold kept
  rw [Dyadic.toRat_ofIntWithPrec_eq_mul_two_pow, Int.neg_neg, zpow_natCast, hk, Nat.add_sub_cancel_left]
  norm_cast

end BinaryFormat

/-! ## Integers -/

/-- An integer rounded to the 53 bits from its first one on, which is its nearest double. -/
def nearest (i : Int) : Int := i.sign * kept i.natAbs

section

variable {i j : Int}

theorem nearest_of_nonneg (h : 0 ≤ i) : nearest i = kept i.natAbs := by
  rcases Int.lt_or_eq_of_le h with hpos | rfl
  · rw [nearest, Int.sign_eq_one_of_pos hpos, Int.one_mul]
  · rfl

theorem nearest_of_nonpos (h : i ≤ 0) : nearest i = -kept i.natAbs := by
  rcases Int.lt_or_eq_of_le h with hneg | rfl
  · rw [nearest, Int.sign_eq_neg_one_of_neg hneg, Int.neg_one_mul]
  · rfl

theorem natAbs_nearest (i : Int) : (nearest i).natAbs = kept i.natAbs := by
  rcases Int.le_total 0 i with h | h
  · rw [nearest_of_nonneg h, Int.natAbs_natCast]
  · rw [nearest_of_nonpos h, Int.natAbs_neg, Int.natAbs_natCast]

theorem nearest_of_lt (h : i.natAbs < 2 ^ 53) : nearest i = i := by
  rw [nearest, kept_of_lt h, Int.sign_mul_natAbs]

theorem natAbs_nearest_lt_iff : (nearest i).natAbs < 2 ^ 53 ↔ i.natAbs < 2 ^ 53 := by
  rw [natAbs_nearest, kept_lt_iff]

/-- An integer of at most 53 bits is the nearest double of no other. -/
theorem eq_of_nearest_eq (hi : i.natAbs < 2 ^ 53) (h : nearest i = nearest j) : i = j := by
  have hj : j.natAbs < 2 ^ 53 := by
    rw [← natAbs_nearest_lt_iff, ← h, natAbs_nearest_lt_iff]
    exact hi
  rwa [nearest_of_lt hi, nearest_of_lt hj] at h

theorem nearest_mono (h : i ≤ j) : nearest i ≤ nearest j := by
  rcases Int.le_total 0 i with hi | hi
  · rw [nearest_of_nonneg hi, nearest_of_nonneg (hi.trans h)]
    exact_mod_cast kept_mono (by omega)
  · rcases Int.le_total 0 j with hj | hj
    · rw [nearest_of_nonpos hi, nearest_of_nonneg hj]
      omega
    · rw [nearest_of_nonpos hi, nearest_of_nonpos hj]
      exact Int.neg_le_neg (by exact_mod_cast kept_mono (by omega))

theorem nearest_near (i : Int) : 2 ^ 53 * |nearest i - i| ≤ |i| := by
  obtain ⟨hlow, hhigh⟩ := kept_near i.natAbs
  have hscale : 2 ^ 53 * |nearest i - i| = |2 ^ 53 * (nearest i - i)| := by
    rw [abs_mul, abs_of_pos (by norm_num : (0 : Int) < 2 ^ 53)]
  rw [hscale, abs_le]
  rcases Int.le_total 0 i with h | h
  · rw [abs_of_nonneg h, nearest_of_nonneg h]
    omega
  · rw [abs_of_nonpos h, nearest_of_nonpos h]
    omega

end

/-- The double of an integer of 64 bits is the nearest one. -/
theorem Double.toRat_value_ofInt {i : Int} (h : i.natAbs < 2 ^ 64) :
    (ofInt i).value.toRat = nearest i := by
  obtain ⟨x, hx, hval⟩ := BinaryFormat.round_nat h
  unfold ofInt ofRatio?
  rw [hx]
  by_cases hi : i < 0
  · rw [nearest_of_nonpos (Int.le_of_lt hi)]
    by_cases hzero : x = 0
    · subst hzero
      simpa [hi, signed, value] using hval.symm
    · simp [hi, hzero, signed, value, hval]
  · rw [nearest_of_nonneg (Int.not_lt.1 hi)]
    simp [hi, signed, value, hval]

end TenantSearch
