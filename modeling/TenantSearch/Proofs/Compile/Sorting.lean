/-
The two ways of naming an order. A key with a direction beside it and the two as one word, the direction
behind the last underscore, name the same order, and a key alone is descending. Of each of the two texts
only the words count, not the case of their letters nor the blanks around them, and a text of blanks is
none. An order that is named is one of the table, for a type that has it.
-/
import TenantSearch.Compile.Sorting
import TenantSearch.Proofs.Text.Trim

namespace TenantSearch

open Text

/-! ## Directions -/

namespace SortOrder

variable {s s' : String} {order : SortOrder}

/-- Only the word counts for a direction. -/
theorem ofName?_congr (h : lowerAscii (trim s) = lowerAscii (trim s')) : ofName? s = ofName? s' := by
  unfold ofName?
  rw [h]

theorem ofName?_lowerAscii (s : String) : ofName? (lowerAscii s) = ofName? s :=
  ofName?_congr (by rw [trim_lowerAscii, lowerAscii_lowerAscii])

theorem word_of_ofName? (h : ofName? s = some order) :
    lowerAscii (trim s) = "asc" ∨ lowerAscii (trim s) = "desc" := by
  unfold ofName? at h
  dsimp only at h
  split at h
  · exact .inl ‹_›
  split at h
  · exact .inr ‹_›
  · cases h

theorem trim_ne_of_ofName? (h : ofName? s = some order) : trim s ≠ "" := by
  intro hempty
  rcases word_of_ofName? h with hname | hname <;> rw [hempty] at hname <;> exact absurd hname (by decide)

end SortOrder

namespace Sorting

variable {k d s before after : String} {order : SortOrder} {orderBy orderBy' sort sort' : Option String}
  {t : DocType} {clause : SortClause}

/-! ## Words -/

/-- A setting as the word that counts of it, if there is one. -/
def word (setting : Option String) : Option String := (setting.bind trimmed?).map lowerAscii

theorem word_eq (setting : Option String) : word setting = (setting.map lowerAscii).bind trimmed? := by
  cases setting with
  | none => rfl
  | some s => simp only [word, Option.bind_some, Option.map_some, trimmed?_lowerAscii]

/-- The key and the direction that two words name. -/
def ofWords : Option String → Option String → Option (String × SortOrder)
  | some key, none => some (key, .desc)
  | some key, some direction => do
    let order ← SortOrder.ofName? direction
    some (key, order)
  | none, none => none
  | none, some combined => do
    let (key, direction) ← splitAtLastUnderscore combined
    let order ← SortOrder.ofName? direction
    some (key, order)

/-- Of the settings only the words count. -/
theorem split?_eq (orderBy sort : Option String) : split? orderBy sort = ofWords (word orderBy) (word sort) := by
  unfold split? word
  cases orderBy.bind trimmed? with
  | none => cases sort.bind trimmed? <;> rfl
  | some key =>
    cases sort.bind trimmed? with
    | none => rfl
    | some direction =>
      rw [Option.map_some, Option.map_some, ofWords, SortOrder.ofName?_lowerAscii]

theorem resolve?_congr (hby : word orderBy = word orderBy') (hsort : word sort = word sort') (t : DocType) :
    resolve? orderBy sort t = resolve? orderBy' sort' t := by
  unfold resolve?
  rw [split?_eq, split?_eq, hby, hsort]

/-! ## One word -/

theorem splitAtLastUnderscore_append (k : String) (h : '_' ∉ d.toList) :
    splitAtLastUnderscore (k ++ "_" ++ d) = some (k, d) := by
  have hback : ∀ c ∈ d.toList.reverse, decide (c ≠ '_') = true := by
    intro c hc
    rw [decide_eq_true_eq]
    rintro rfl
    exact h (List.mem_reverse.1 hc)
  have hreverse : (k ++ "_" ++ d).toList.reverse = d.toList.reverse ++ '_' :: k.toList.reverse := by
    simp [String.toList_append]
  unfold splitAtLastUnderscore
  dsimp only
  rw [hreverse, List.dropWhile_append_of_pos hback, List.takeWhile_append_of_pos hback]
  simp

theorem word_of_trim_ne (h : trim s ≠ "") : word (some s) = some (lowerAscii (trim s)) := by
  unfold word trimmed?
  dsimp only [Option.bind_some]
  rw [if_neg h, Option.map_some]

theorem word_of_trimmed (hk : trim k = k) (hne : k ≠ "") : word (some k) = some (lowerAscii k) := by
  rw [word_of_trim_ne (by rwa [hk]), hk]

/-- The word for a direction names the direction. -/
theorem word_of_direction (hd : SortOrder.ofName? d = some order) :
    ∃ e, word (some d) = some e ∧ SortOrder.ofName? e = some order := by
  refine ⟨lowerAscii (trim d), word_of_trim_ne (SortOrder.trim_ne_of_ofName? hd), ?_⟩
  rw [SortOrder.ofName?_lowerAscii, ← hd]
  exact SortOrder.ofName?_congr (by rw [trim_trim])

/-- A key and a direction as one word: the key, and behind the last underscore a word for the direction.
Blanks before the direction stay inside of the word, those behind it are taken off. -/
theorem word_combined (hk : trim k = k) (hne : k ≠ "") (hd : SortOrder.ofName? d = some order) :
    ∃ e, word (some (k ++ "_" ++ d)) = some (lowerAscii k ++ "_" ++ e) ∧ '_' ∉ e.toList ∧
      SortOrder.ofName? e = some order := by
  obtain ⟨e, happend, htrim, hchars⟩ := exists_trim_append hk hne (SortOrder.trim_ne_of_ofName? hd)
  refine ⟨lowerAscii e, ?_, ?_, ?_⟩
  · have hne' : trim (k ++ "_" ++ d) ≠ "" := by
      rw [happend]
      intro h
      simpa [String.toList_append] using congrArg String.toList h
    rw [word_of_trim_ne hne', happend, lowerAscii_append, lowerAscii_append]
    rfl
  · -- an underscore is no blank and stands in neither of the words for a direction
    intro h
    rw [toList_lowerAscii] at h
    obtain ⟨c, hc, hunderscore⟩ := List.mem_map.1 h
    rcases hchars c hc with hblank | hmem
    · rw [← isBlank_toLower, hunderscore] at hblank
      cases hblank
    · have hlower : '_' ∈ (lowerAscii (trim d)).toList := by
        rw [toList_lowerAscii]
        exact List.mem_map.2 ⟨c, hmem, hunderscore⟩
      rcases SortOrder.word_of_ofName? hd with hname | hname
      all_goals
        rw [hname] at hlower
        exact absurd hlower (by decide)
  · rw [SortOrder.ofName?_lowerAscii, ← hd]
    exact SortOrder.ofName?_congr (by rw [htrim])

/-- One word names what the key and the direction name as two. -/
theorem split?_combined (hk : trim k = k) (hne : k ≠ "") (hd : SortOrder.ofName? d = some order) :
    split? none (some (k ++ "_" ++ d)) = some (lowerAscii k, order) ∧
      split? (some k) (some d) = some (lowerAscii k, order) := by
  obtain ⟨e, hcombined, he, horder⟩ := word_combined hk hne hd
  obtain ⟨e', hdirection, horder'⟩ := word_of_direction hd
  have hnone : word none = none := rfl
  constructor
  · rw [split?_eq, hnone, hcombined, ofWords, splitAtLastUnderscore_append _ he]
    simp only [horder, Option.bind_eq_bind, Option.bind_some]
  · rw [split?_eq, word_of_trimmed hk hne, hdirection, ofWords]
    simp only [horder', Option.bind_eq_bind, Option.bind_some]

/-- A key alone is descending. -/
theorem split?_alone (hk : trim k = k) (hne : k ≠ "") :
    split? (some k) none = split? none (some (k ++ "_desc")) := by
  have hdesc : SortOrder.ofName? "desc" = some .desc := by decide
  have hone : k ++ "_desc" = k ++ "_" ++ "desc" := by
    rw [String.append_assoc]
    rfl
  rw [hone, (split?_combined hk hne hdesc).1, split?_eq, word_of_trimmed hk hne]
  rfl

theorem resolve?_of_split? (h : split? orderBy sort = split? orderBy' sort') (t : DocType) :
    resolve? orderBy sort t = resolve? orderBy' sort' t := by
  unfold resolve?
  rw [h]

/-! ## What is named -/

theorem word_between_blanks (hb : Blank before) (ha : Blank after) (s : String) :
    word (some (before ++ s ++ after)) = word (some s) := by
  unfold word
  rw [Option.bind_some, trimmed?_between_blanks hb ha, Option.bind_some]

theorem word_of_blank (h : Blank s) : word (some s) = word none := by
  unfold word
  rw [Option.bind_some, trimmed?_of_blank h]
  rfl

/-- An order is on a field of the table that is there for the type, and says nothing of documents
without the field. -/
theorem resolve?_listed (h : resolve? orderBy sort t = some clause) :
    clause.missing = none ∧ ∃ key ∈ keys, clause.field = key.field ∧ t ∈ key.docTypes := by
  unfold resolve? at h
  obtain ⟨⟨name, order⟩, -, h⟩ := Option.bind_eq_some_iff.1 h
  obtain ⟨key, hkey, h⟩ := Option.bind_eq_some_iff.1 h
  split at h
  · rename_i htype
    cases h
    exact ⟨rfl, key, List.mem_of_find?_eq_some hkey, rfl, List.contains_iff_mem.1 htype⟩
  · cases h

/-- Two settings name an order as the one word they make, a key alone as the word with `desc` behind it.
Neither the case of letters nor blanks around a setting matter, a blank setting is none, and what is
named is an order on a field that the table has for the type. -/
theorem resolve_syntaxes_agree (hk : trim k = k) (hne : k ≠ "") (hd : SortOrder.ofName? d = some order)
    (t : DocType) :
    resolve? (some k) (some d) t = resolve? none (some (k ++ "_" ++ d)) t ∧
    resolve? (some k) none t = resolve? none (some (k ++ "_desc")) t ∧
    (∀ orderBy orderBy' sort sort' : Option String, orderBy.map lowerAscii = orderBy'.map lowerAscii →
      sort.map lowerAscii = sort'.map lowerAscii → resolve? orderBy sort t = resolve? orderBy' sort' t) ∧
    (∀ before after s setting, Blank before → Blank after →
      resolve? (some (before ++ s ++ after)) setting t = resolve? (some s) setting t ∧
      resolve? setting (some (before ++ s ++ after)) t = resolve? setting (some s) t) ∧
    (∀ s setting, Blank s →
      resolve? (some s) setting t = resolve? none setting t ∧
      resolve? setting (some s) t = resolve? setting none t) ∧
    ∀ orderBy sort clause, resolve? orderBy sort t = some clause →
      clause.missing = none ∧ ∃ key ∈ keys, clause.field = key.field ∧ t ∈ key.docTypes := by
  obtain ⟨hone, htwo⟩ := split?_combined hk hne hd
  refine ⟨resolve?_of_split? (htwo.trans hone.symm) t, resolve?_of_split? (split?_alone hk hne) t,
    ?_, ?_, ?_, ?_⟩
  · intro orderBy orderBy' sort sort' hby hsort
    exact resolve?_congr (by rw [word_eq, word_eq, hby]) (by rw [word_eq, word_eq, hsort]) t
  · intro before after s setting hb ha
    have hword := word_between_blanks hb ha s
    exact ⟨resolve?_congr hword rfl t, resolve?_congr rfl hword t⟩
  · intro s setting hblank
    have hword := word_of_blank hblank
    exact ⟨resolve?_congr hword rfl t, resolve?_congr rfl hword t⟩
  · intro orderBy sort clause h
    exact resolve?_listed h

/-- The key and the direction with letters in either case, the direction between blanks, and a blank key. -/
theorem resolve_syntaxes_agree_milestoneDue :
    trim "Milestone_Due" = "Milestone_Due" ∧ SortOrder.ofName? " ASC\t" = some .asc ∧
    resolve? (some "Milestone_Due") (some " ASC\t") .issue =
      resolve? none (some "Milestone_Due_ ASC\t") .issue ∧
    resolve? (some "MILESTONE_DUE") none .issue = resolve? (some "Milestone_Due") none .issue ∧
    resolve? (some " \t") (some "milestone_due_asc") .issue = resolve? none (some "milestone_due_asc") .issue ∧
    resolve? none (some "milestone_due_asc") .issue = some ⟨"milestone_due_date", .asc, none⟩ := by
  have hk : trim "Milestone_Due" = "Milestone_Due" := by decide
  have hd : SortOrder.ofName? " ASC\t" = some .asc := by decide
  have hblank : Blank " \t" := by decide
  obtain ⟨hone, -, hcase, -, habsent, -⟩ := resolve_syntaxes_agree hk (by decide) hd .issue
  exact ⟨hk, hd, hone, hcase _ _ none none (by decide) rfl, (habsent _ _ hblank).1, by decide⟩

end Sorting

end TenantSearch
