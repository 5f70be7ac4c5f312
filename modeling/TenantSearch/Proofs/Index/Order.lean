/-
The order of indexed values. Numbers are ordered by their exact values, texts by code point, and
false stands before true; a value of one of these three kinds is a scalar. Between scalars of one
kind the comparison of the index is that of a linear order, and a term equals exactly the values
that compare as equal. Between kinds the index tells nothing apart, so a transitive order needs one
kind for each field.
-/
import TenantSearch.Index.Value
import TenantSearch.Query.Document
import Mathlib.Tactic

namespace TenantSearch.Index

inductive Kind where
  | number
  | text
  | truth
deriving DecidableEq

/-- What the comparison of the index sees of a value. -/
inductive Scalar where
  | number (x : Dyadic)
  | text (s : List Char)
  | truth (b : Bool)

/-! ## Characters and numbers -/

theorem compareChars_eq_compareLex :
    compareChars = List.compareLex (compareOn Char.toNat) := by
  funext a b
  induction a generalizing b with
  | nil => cases b <;> rfl
  | cons x a ih =>
    cases b with
    | nil => rfl
    | cons y b =>
      rw [compareChars, List.compareLex_cons_cons, ih b]
      rcases Nat.lt_trichotomy x.toNat y.toNat with h | h | h
      · simp [compareOn, h, Nat.compare_eq_lt.2 h]
      · simp [compareOn, h]
      · simp [compareOn, h, Nat.lt_asymm h, Nat.compare_eq_gt.2 h]

theorem compareBools_eq_compare : compareBools = compare := by
  funext a b
  cases a <;> cases b <;> rfl

/-- The order of two exact values. -/
def compareNumbers (x y : Dyadic) : Ordering := if x < y then .lt else if y < x then .gt else .eq

theorem compareNumbers_isLE {x y : Dyadic} : (compareNumbers x y).isLE ↔ x ≤ y := by
  unfold compareNumbers
  by_cases hxy : x < y
  · simp [hxy, Std.le_of_lt hxy]
  by_cases hyx : y < x
  · simp [hxy, hyx, Std.not_le.2 hyx]
  · simp [hxy, hyx, Std.not_lt.1 hyx]

instance : Std.OrientedCmp compareNumbers where
  eq_swap {x y} := by
    unfold compareNumbers
    by_cases hxy : x < y
    · simp [hxy, Std.not_lt.2 (Std.le_of_lt hxy)]
    · by_cases hyx : y < x <;> simp [hxy, hyx]

instance : Std.TransCmp compareNumbers where
  isLE_trans hxy hyz :=
    compareNumbers_isLE.2 (Std.le_trans (compareNumbers_isLE.1 hxy) (compareNumbers_isLE.1 hyz))

instance : Std.LawfulEqCmp compareNumbers where
  eq_of_compare {x y} h := by
    have hle : x ≤ y := compareNumbers_isLE.1 (h ▸ rfl)
    have hge : y ≤ x := compareNumbers_isLE.1 (Std.OrientedCmp.eq_symm h ▸ rfl)
    exact Std.le_antisymm hle hge

instance : Std.TransCmp compareChars := by
  rw [compareChars_eq_compareLex]
  infer_instance

instance lawfulEqCmp_toNat : Std.LawfulEqCmp (compareOn Char.toNat) where
  eq_of_compare h := Char.toNat_inj.1 (Std.LawfulEqCmp.eq_of_compare h)

instance : Std.LawfulEqCmp compareChars := by
  rw [compareChars_eq_compareLex]
  infer_instance

instance : Std.TransCmp compareBools := by
  rw [compareBools_eq_compare]
  infer_instance

instance : Std.LawfulEqCmp compareBools := by
  rw [compareBools_eq_compare]
  infer_instance

/-! ## Scalars -/

namespace Scalar

def kind : Scalar → Kind
  | .number _ => .number
  | .text _ => .text
  | .truth _ => .truth

/-- A linear order of all scalars, kind after kind. -/
def compare : Scalar → Scalar → Ordering
  | .number x, .number y => compareNumbers x y
  | .number _, _ => .lt
  | .text _, .number _ => .gt
  | .text s, .text t => compareChars s t
  | .text _, .truth _ => .lt
  | .truth a, .truth b => compareBools a b
  | .truth _, _ => .gt

theorem compare_swap : ∀ a b : Scalar, a.compare b = (b.compare a).swap
  | .number x, .number y => @Std.OrientedCmp.eq_swap _ compareNumbers _ x y
  | .text s, .text t => @Std.OrientedCmp.eq_swap _ compareChars _ s t
  | .truth a, .truth b => @Std.OrientedCmp.eq_swap _ compareBools _ a b
  | .number _, .text _ | .number _, .truth _ | .text _, .number _ | .text _, .truth _
  | .truth _, .number _ | .truth _, .text _ => rfl

instance : Std.OrientedCmp compare where
  eq_swap := compare_swap _ _

instance : Std.TransCmp compare where
  isLE_trans {a b c} hab hbc := by
    -- only within one kind is there anything to compose
    cases a <;> cases b <;> cases c <;> first | contradiction | rfl | skip
    · exact @Std.TransCmp.isLE_trans _ compareNumbers _ _ _ _ hab hbc
    · exact @Std.TransCmp.isLE_trans _ compareChars _ _ _ _ hab hbc
    · exact @Std.TransCmp.isLE_trans _ compareBools _ _ _ _ hab hbc

instance : Std.LawfulEqCmp compare where
  eq_of_compare {a b} h := by
    cases a <;> cases b <;> first | contradiction | skip
    · exact congrArg _ (@Std.LawfulEqCmp.eq_of_compare _ compareNumbers _ _ _ h)
    · exact congrArg _ (@Std.LawfulEqCmp.eq_of_compare _ compareChars _ _ _ h)
    · exact congrArg _ (@Std.LawfulEqCmp.eq_of_compare _ compareBools _ _ _ h)

def ofJson? : Json → Option Scalar
  | .int i => some (.number i.toDouble.value)
  | .float x => some (.number x.value)
  | .str s => some (.text s.toList)
  | .bool b => some (.truth b)
  | _ => none

end Scalar

/-- The kind of a scalar value; none for null, lists and objects. -/
def kind? (v : Json) : Option Kind := (Scalar.ofJson? v).map Scalar.kind

/-! ## Comparisons of one kind -/

theorem cmp_eq_compareNumbers (x y : Double) : x.cmp y = compareNumbers x.value y.value := rfl

/-- Values compare as scalars of one kind do; all others are not told apart. -/
theorem compareValues_eq_scalars (v w : Json) :
    compareValues v w = match Scalar.ofJson? v, Scalar.ofJson? w with
      | some a, some b => if a.kind = b.kind then a.compare b else .eq
      | _, _ => .eq := by
  cases v <;> cases w <;>
    simp [compareValues, Json.asDouble?, Scalar.ofJson?, Scalar.kind, Scalar.compare,
      cmp_eq_compareNumbers]

variable {v w : Json} {a b : Scalar}

theorem compareValues_eq (hv : Scalar.ofJson? v = some a) (hw : Scalar.ofJson? w = some b)
    (hk : a.kind = b.kind) : compareValues v w = a.compare b := by
  rw [compareValues_eq_scalars, hv, hw]
  exact if_pos hk

/-- Values that the index tells apart are scalars of one kind. -/
theorem kind?_eq_of_compareValues (h : compareValues v w ≠ .eq) : kind? v = kind? w := by
  rw [compareValues_eq_scalars] at h
  unfold kind?
  split at h
  · rename_i a b hv hw
    by_cases hk : a.kind = b.kind
    · rw [hv, hw, Option.map_some, Option.map_some, hk]
    · rw [if_neg hk] at h
      exact absurd rfl h
  · exact absurd rfl h

/-- A term holds of the values that compare as equal to it. -/
theorem valuesEqual_eq (hv : Scalar.ofJson? v = some a) (hw : Scalar.ofJson? w = some b)
    (hk : a.kind = b.kind) : valuesEqual v w = (a.compare b == .eq) := by
  have htext : ∀ s t : String, (s == t) = (compareChars s.toList t.toList == .eq) := by
    intro s t
    by_cases h : s = t
    · simp [h, Std.ReflCmp.compare_self]
    · have hne : compareChars s.toList t.toList ≠ .eq := by
        intro he
        exact h (String.toList_injective (Std.LawfulEqCmp.eq_of_compare he))
      simp [h, hne]
  have htruth : ∀ s t : Bool, (s == t) = (compareBools s t == .eq) := by decide
  -- scalars of two kinds are ruled out, and within a kind a term asks for what compares as equal
  cases v <;> cases w <;> cases hv <;> cases hw <;> first
    | exact absurd hk Kind.noConfusion
    | simp [valuesEqual, Json.asDouble?, Json.same, Scalar.compare, cmp_eq_compareNumbers, htext,
        htruth]

end TenantSearch.Index
