/-
Characters as octets. A text is the octets of its characters one after the other, and reading them
gives it back. An ASCII character is a single octet; the octets of all others are 128 or more, so
no sign of the JSON grammar occurs inside a character. Characters and their octets are in one order.
-/
import TenantSearch.Text.Octets
import Mathlib.Tactic

namespace TenantSearch.Octets

/-- The octets of characters. -/
def ofChars (cs : List Char) : Octets := cs.flatMap String.utf8EncodeChar

@[simp]
theorem ofChars_nil : ofChars [] = [] := rfl

theorem ofChars_cons (c : Char) (cs : List Char) :
    ofChars (c :: cs) = String.utf8EncodeChar c ++ ofChars cs := List.flatMap_cons

theorem ofChars_append (as bs : List Char) : ofChars (as ++ bs) = ofChars as ++ ofChars bs :=
  List.flatMap_append

theorem ofString_ofList (cs : List Char) : ofString (String.ofList cs) = ofChars cs := by
  unfold ofString ofChars
  rw [String.toUTF8_eq_toByteArray, String.toByteArray_ofList]
  exact List.toList_data_toByteArray

theorem ofString_eq (s : String) : ofString s = ofChars s.toList := by
  rw [← ofString_ofList, String.ofList_toList]

theorem toString?_ofString (s : String) : toString? (ofString s) = some s := by
  unfold toString? ofString
  rw [Array.toArray_toList]
  show String.fromUTF8? s.toByteArray = some s
  unfold String.fromUTF8?
  rw [dif_pos s.isValidUTF8]
  rfl

/-- Octets that are read as a text are the octets of that text. -/
theorem ofString_of_toString? {octets : Octets} {s : String} (h : toString? octets = some s) :
    ofString s = octets := by
  unfold toString? String.fromUTF8? at h
  split at h
  · cases h
    rfl
  · cases h

/-! ## Single characters -/

theorem encode_of_lt {c : Char} (h : c.toNat < 128) : String.utf8EncodeChar c = [ascii c] := by
  have hsize : c.utf8Size = 1 := by
    rw [Char.utf8Size_eq_one_iff, UInt32.le_iff_toNat_le]
    exact Nat.le_of_lt_succ h
  rw [String.utf8EncodeChar_eq_singleton hsize]
  rfl

theorem toNat_ascii {c : Char} (h : c.toNat < 128) : (ascii c).toNat = c.toNat := by
  unfold ascii
  rw [Nat.toUInt8_eq, UInt8.toNat_ofNat', Nat.mod_eq_of_lt (by omega)]

theorem le_of_mem_encode {c : Char} (h : 128 ≤ c.toNat) {b : UInt8}
    (hb : b ∈ String.utf8EncodeChar c) : 128 ≤ b := by
  -- each octet is its mark, 128 or more, and bits that leave the mark alone
  have hhigh : ∀ n, 128 ≤ n → n < 256 → 128 ≤ (UInt8.ofNat n).toNat := by
    intro n hn hlt
    rwa [UInt8.toNat_ofNat', Nat.mod_eq_of_lt hlt]
  have hval : ¬ c.val.toNat ≤ 0x7f := Nat.not_le_of_lt h
  unfold String.utf8EncodeChar at hb
  simp only [hval, ite_false] at hb
  rw [UInt8.le_iff_toNat_le]
  split at hb
  · simp only [List.mem_cons, List.not_mem_nil, or_false] at hb
    rcases hb with rfl | rfl <;> exact hhigh _ (by omega) (by omega)
  split at hb
  · simp only [List.mem_cons, List.not_mem_nil, or_false] at hb
    rcases hb with rfl | rfl | rfl <;> exact hhigh _ (by omega) (by omega)
  · simp only [List.mem_cons, List.not_mem_nil, or_false] at hb
    rcases hb with rfl | rfl | rfl | rfl <;> exact hhigh _ (by omega) (by omega)

theorem cons_lt_cons {m n : Nat} {as bs : Octets} (hm : m < 256) (hn : n < 256) :
    UInt8.ofNat m :: as < UInt8.ofNat n :: bs ↔ m < n ∨ m = n ∧ as < bs := by
  rw [List.cons_lt_cons_iff, UInt8.lt_iff_toNat_lt, ← UInt8.toNat_inj, UInt8.toNat_ofNat', UInt8.toNat_ofNat',
    Nat.mod_eq_of_lt hm, Nat.mod_eq_of_lt hn]

/-- The octets of a character come before those of a later one, whatever follows them. -/
theorem encode_append_lt {a b : Char} (h : a.toNat < b.toNat) (as bs : Octets) :
    String.utf8EncodeChar a ++ as < String.utf8EncodeChar b ++ bs := by
  have hlt : a.val.toNat < b.val.toNat := h
  have hb : b.val.toNat < 0x110000 := by
    rcases b.valid with h | h <;> omega
  unfold String.utf8EncodeChar
  simp only
  generalize a.val.toNat = x at *
  generalize b.val.toNat = y at *
  -- the bits of the octets are digits of one number, the first ones the greatest
  have hx : x / 262144 % 8 = x / 4096 / 64 ∧ x / 4096 = x / 64 / 64 := by omega
  have hy : y / 262144 % 8 = y / 4096 / 64 ∧ y / 4096 = y / 64 / 64 := by omega
  rw [hx.1, hy.1]
  split_ifs <;> simp (disch := omega) only [List.cons_append, List.nil_append, cons_lt_cons] <;> omega

theorem ofChars_map_ascii {cs : List Char} (h : ∀ c ∈ cs, c.toNat < 128) :
    ofChars cs = cs.map ascii := by
  induction cs with
  | nil => rfl
  | cons c cs ih =>
    rw [ofChars_cons, encode_of_lt (h c List.mem_cons_self),
      ih fun d hd => h d (List.mem_cons_of_mem _ hd)]
    rfl

theorem digit_lt {b : UInt8} (h : isDigit b = true) : digit b < 10 := by
  unfold isDigit at h
  rw [Bool.and_eq_true, decide_eq_true_iff, decide_eq_true_iff, UInt8.le_iff_toNat_le,
    UInt8.le_iff_toNat_le] at h
  have hhigh : b.toNat ≤ 57 := h.2
  unfold digit
  omega

end TenantSearch.Octets
