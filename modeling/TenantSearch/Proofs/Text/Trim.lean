/-
Blanks around a text and the case of its letters. Trimming takes a run of blanks off either end and
nothing else, so blanks that are added around a text are taken off again and what begins and ends without
a blank stays as it is. Lower case changes no blank and makes none, so it goes with trimming in either
order.
-/
import Mathlib
import TenantSearch.Text.Blank

namespace TenantSearch.Text

/-! ## Blanks at the ends -/

variable {a b cs k w : List Char}

theorem trimChars_append_left (ha : ∀ c ∈ a, isBlank c = true) : trimChars (a ++ cs) = trimChars cs := by
  unfold trimChars
  rw [List.dropWhile_append_of_pos ha]

theorem trimChars_append_right (hb : ∀ c ∈ b, isBlank c = true) : trimChars (cs ++ b) = trimChars cs := by
  have hreverse : ∀ c ∈ b.reverse, isBlank c = true := fun c hc => hb c (List.mem_reverse.1 hc)
  unfold trimChars
  rw [List.dropWhile_append]
  split
  · rename_i hempty
    rw [List.isEmpty_iff.1 hempty, List.dropWhile_eq_nil_iff.2 hb]
  · rw [List.reverse_append, List.dropWhile_append_of_pos hreverse]

theorem trimChars_of_no_blank (h : ∀ c ∈ cs, isBlank c = false) : trimChars cs = cs := by
  have hkept : ∀ xs : List Char, (∀ c ∈ xs, isBlank c = false) → xs.dropWhile isBlank = xs := by
    intro xs hxs
    cases xs with
    | nil => rfl
    | cons c xs => rw [List.dropWhile_cons_of_neg (by simp [hxs c List.mem_cons_self])]
  unfold trimChars
  rw [hkept cs h, hkept cs.reverse fun c hc => h c (List.mem_reverse.1 hc), List.reverse_reverse]

/-- A text is what trimming leaves of it, between two runs of blanks. -/
theorem exists_blanks (cs : List Char) : ∃ a b, cs = a ++ trimChars cs ++ b ∧
    (∀ c ∈ a, isBlank c = true) ∧ ∀ c ∈ b, isBlank c = true := by
  refine ⟨cs.takeWhile isBlank, ((cs.dropWhile isBlank).reverse.takeWhile isBlank).reverse, ?_,
    fun c hc => List.mem_takeWhile_imp hc, fun c hc => List.mem_takeWhile_imp (List.mem_reverse.1 hc)⟩
  unfold trimChars
  rw [List.append_assoc, ← List.reverse_append, List.takeWhile_append_dropWhile, List.reverse_reverse,
    List.takeWhile_append_dropWhile]

theorem trimChars_trimChars (cs : List Char) : trimChars (trimChars cs) = trimChars cs := by
  obtain ⟨a, b, hcs, ha, hb⟩ := exists_blanks cs
  have htrim := congrArg trimChars hcs
  rw [trimChars_append_right hb, trimChars_append_left ha] at htrim
  exact htrim.symm

/-- A trimmed text begins without a blank, and so does its reverse. -/
theorem dropWhile_of_trimmed (h : trimChars k = k) :
    k.dropWhile isBlank = k ∧ k.reverse.dropWhile isBlank = k.reverse := by
  have hfront : k.dropWhile isBlank = k := by
    refine (List.dropWhile_suffix _).eq_of_length_le ?_
    calc k.length = (trimChars k).length := by rw [h]
      _ = ((k.dropWhile isBlank).reverse.dropWhile isBlank).length := List.length_reverse
      _ ≤ (k.dropWhile isBlank).reverse.length := (List.dropWhile_suffix _).length_le
      _ = (k.dropWhile isBlank).length := List.length_reverse
  refine ⟨hfront, ?_⟩
  have hback := congrArg List.reverse h
  rw [trimChars, hfront, List.reverse_reverse] at hback
  exact hback

/-- What begins and ends with trimmed texts is trimmed, whatever stands between them. -/
theorem trimChars_between (hk : trimChars k = k) (hk' : k ≠ []) (hw : trimChars w = w) (hw' : w ≠ [])
    (cs : List Char) : trimChars (k ++ cs ++ w) = k ++ cs ++ w := by
  obtain ⟨hfront, -⟩ := dropWhile_of_trimmed hk
  obtain ⟨-, hback⟩ := dropWhile_of_trimmed hw
  unfold trimChars
  rw [List.append_assoc, List.dropWhile_append, hfront, if_neg (by simpa using hk'), ← List.append_assoc,
    List.reverse_append, List.dropWhile_append, hback, if_neg (by simpa using hw'), ← List.reverse_append,
    List.reverse_reverse]

theorem isBlank_of_isAsciiDigit {c : Char} (h : isAsciiDigit c = true) : isBlank c = false := by
  simp only [isAsciiDigit, Bool.and_eq_true, decide_eq_true_eq] at h
  simp only [isBlank, blankRuns, inRuns, Bool.and_eq_false_iff, Bool.or_eq_false_iff, decide_eq_false_iff_not]
  omega

/-! ## The case of letters -/

theorem isBlank_eq_false {c : Char} (h : 65 ≤ c.toNat) (h' : c.toNat ≤ 122) : isBlank c = false := by
  simp only [isBlank, blankRuns, inRuns, Bool.and_eq_false_iff, Bool.or_eq_false_iff, decide_eq_false_iff_not]
  omega

theorem isBlank_toLower (c : Char) : isBlank c.toLower = isBlank c := by
  unfold Char.toLower
  split
  · rename_i hcapital
    have hbounds : 65 ≤ c.toNat ∧ c.toNat ≤ 90 :=
      ⟨UInt32.le_iff_toNat_le.1 hcapital.1, UInt32.le_iff_toNat_le.1 hcapital.2⟩
    have hsmall : (c.val + ('a'.val - 'A'.val)).toNat = c.toNat + 32 := by
      show (c.val.toNat + 32) % 2 ^ 32 = c.val.toNat + 32
      have := c.val.toNat_lt
      have := hbounds.2
      unfold Char.toNat at this
      omega
    rw [isBlank_eq_false hbounds.1 (by omega)]
    apply isBlank_eq_false
    · show 65 ≤ (c.val + ('a'.val - 'A'.val)).toNat
      omega
    · show (c.val + ('a'.val - 'A'.val)).toNat ≤ 122
      omega
  · rfl

theorem trimChars_map_toLower (cs : List Char) :
    trimChars (cs.map Char.toLower) = (trimChars cs).map Char.toLower := by
  have hblank : isBlank ∘ Char.toLower = isBlank := funext isBlank_toLower
  unfold trimChars
  rw [List.dropWhile_map, hblank, ← List.map_reverse, List.dropWhile_map, hblank, List.map_reverse]

/-! ## Texts -/

variable {s s' t before after : String}

/-- Text of blanks alone, if anything. -/
def Blank (s : String) : Prop := ∀ c ∈ s.toList, isBlank c = true

instance (s : String) : Decidable (Blank s) :=
  decidable_of_iff (s.toList.all isBlank = true) List.all_eq_true

theorem toList_trim (s : String) : (trim s).toList = trimChars s.toList := String.toList_ofList

theorem toList_lowerAscii (s : String) : (lowerAscii s).toList = s.toList.map Char.toLower :=
  String.toList_ofList

theorem trim_trim (s : String) : trim (trim s) = trim s := by
  unfold trim
  rw [String.toList_ofList, trimChars_trimChars]

theorem trim_between_blanks (hb : Blank before) (ha : Blank after) (s : String) :
    trim (before ++ s ++ after) = trim s := by
  unfold trim
  rw [String.toList_append, String.toList_append, trimChars_append_right ha, trimChars_append_left hb]

theorem trim_of_blank (h : Blank s) : trim s = "" := by
  unfold trim
  rw [← List.append_nil s.toList, trimChars_append_left h]
  rfl

/-- Behind a trimmed text, trimming takes off the blanks at the end alone. -/
theorem exists_trim_append (hs : trim s = s) (hs' : s ≠ "") (ht : trim t ≠ "") :
    ∃ e, (∀ between, trim (s ++ between ++ t) = s ++ between ++ e) ∧ trim e = trim t ∧
      ∀ c ∈ e.toList, isBlank c = true ∨ c ∈ (trim t).toList := by
  obtain ⟨a, b, hparts, ha, hb⟩ := exists_blanks t.toList
  refine ⟨String.ofList (a ++ trimChars t.toList), ?_, ?_, ?_⟩
  · intro between
    have hchars : trimChars s.toList = s.toList := by rw [← toList_trim, hs]
    have hne : s.toList ≠ [] := fun h => hs' (String.toList_inj.1 h)
    have hne' : trimChars t.toList ≠ [] := fun h => ht (String.toList_inj.1 ((toList_trim t).trans h))
    have hbetween := trimChars_between hchars hne (trimChars_trimChars t.toList) hne' (between.toList ++ a)
    have hwhole : s.toList ++ between.toList ++ t.toList =
        s.toList ++ (between.toList ++ a) ++ trimChars t.toList ++ b := by
      conv_lhs => rw [hparts]
      simp only [List.append_assoc]
    rw [← String.toList_inj, toList_trim]
    simp only [String.toList_append, String.toList_ofList]
    rw [hwhole, trimChars_append_right hb, hbetween]
    simp only [List.append_assoc]
  · rw [← String.toList_inj, toList_trim, String.toList_ofList, trimChars_append_left ha,
      trimChars_trimChars, toList_trim]
  · intro c hc
    rw [String.toList_ofList, List.mem_append] at hc
    rw [toList_trim]
    exact hc.imp_left (ha c)

theorem trim_lowerAscii (s : String) : trim (lowerAscii s) = lowerAscii (trim s) := by
  rw [← String.toList_inj, toList_trim, toList_lowerAscii, toList_lowerAscii, toList_trim,
    trimChars_map_toLower]

theorem lowerAscii_eq_empty : lowerAscii s = "" ↔ s = "" := by
  rw [← String.toList_inj, toList_lowerAscii, ← String.toList_inj]
  exact List.map_eq_nil_iff

theorem lowerAscii_lowerAscii (s : String) : lowerAscii (lowerAscii s) = lowerAscii s := by
  rw [← String.toList_inj, toList_lowerAscii, toList_lowerAscii, List.map_map]
  exact List.map_congr_left fun c _ => c.toLower_toLower_eq_toLower

theorem lowerAscii_append (s s' : String) : lowerAscii (s ++ s') = lowerAscii s ++ lowerAscii s' := by
  rw [← String.toList_inj, String.toList_append, toList_lowerAscii, toList_lowerAscii, toList_lowerAscii,
    String.toList_append, List.map_append]

/-- What is left of a text in lower case is what is left of the text, in lower case. -/
theorem trimmed?_lowerAscii (s : String) : trimmed? (lowerAscii s) = (trimmed? s).map lowerAscii := by
  unfold trimmed?
  dsimp only
  rw [trim_lowerAscii]
  by_cases h : trim s = ""
  · rw [if_pos h, if_pos (lowerAscii_eq_empty.2 h)]
    rfl
  · rw [if_neg h, if_neg (mt lowerAscii_eq_empty.1 h)]
    rfl

theorem trimmed?_between_blanks (hb : Blank before) (ha : Blank after) (s : String) :
    trimmed? (before ++ s ++ after) = trimmed? s := by
  unfold trimmed?
  rw [trim_between_blanks hb ha]

theorem trimmed?_of_blank (h : Blank s) : trimmed? s = none := by
  unfold trimmed?
  rw [trim_of_blank h]
  rfl

end TenantSearch.Text
