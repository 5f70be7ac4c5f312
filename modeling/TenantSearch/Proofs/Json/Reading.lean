/-
What the reader makes of a text. A value that is read weighs no more than the octets it is read of,
blanks, repeated keys and needless escapes included; the members of its objects are in order, and its
lists and objects are nested no deeper than the reader allows. So a value without floating-point
numbers has a compact text no longer than the text that was read, and one that reads back.
-/
import TenantSearch.Proofs.Json.Weights

namespace TenantSearch.Json

open Octets

/-- A value without floating-point numbers. -/
inductive FloatFree : Json → Prop where
  | null : FloatFree .null
  | bool (b : Bool) : FloatFree (.bool b)
  | int (i : Integer) : FloatFree (.int i)
  | str (s : String) : FloatFree (.str s)
  | arr {items : List Json} (h : ∀ v ∈ items, FloatFree v) : FloatFree (.arr items)
  | obj {fields : List (String × Json)} (h : ∀ f ∈ fields, FloatFree f.2) : FloatFree (.obj fields)

/-! ## Members in order -/

theorem keyBefore_trans : ∀ {as bs cs : List Char}, keyBefore as bs = true → keyBefore bs cs = true →
    keyBefore as cs = true
  | _, [], [], _, h | _, _ :: _, [], _, h => by cases h
  | [], [], _ :: _, _, _ | [], _ :: _, _ :: _, _, _ => rfl
  | _ :: _, [], _ :: _, h, _ => by cases h
  | a :: as, b :: bs, c :: cs, hab, hbc => by
    simp only [keyBefore, Bool.or_eq_true, Bool.and_eq_true, decide_eq_true_eq, beq_iff_eq] at hab hbc ⊢
    rcases hab with hab | ⟨rfl, hab⟩ <;> rcases hbc with hbc | ⟨rfl, hbc⟩
    · exact .inl (Nat.lt_trans hab hbc)
    · exact .inl hab
    · exact .inl hbc
    · exact .inr ⟨rfl, keyBefore_trans hab hbc⟩

/-- Of two different keys one comes before the other. -/
theorem keyBefore_of_not : ∀ {as bs : List Char}, as ≠ bs → ¬ keyBefore as bs = true → keyBefore bs as = true
  | [], [], hne, _ => absurd rfl hne
  | [], _ :: _, _, h => absurd rfl h
  | _ :: _, [], _, _ => rfl
  | a :: as, b :: bs, hne, h => by
    simp only [keyBefore, Bool.or_eq_true, Bool.and_eq_true, decide_eq_true_eq, beq_iff_eq, not_or] at h ⊢
    rcases Nat.lt_trichotomy b.toNat a.toNat with hlt | heq | hgt
    · exact .inl hlt
    · obtain rfl := Char.toNat_inj.1 heq
      have htail : as ≠ bs := fun he => hne (he ▸ rfl)
      exact .inr ⟨rfl, keyBefore_of_not htail fun hb => h.2 ⟨rfl, hb⟩⟩
    · exact absurd hgt h.1

theorem ofChars_lt_of_keyBefore : ∀ {as bs : List Char}, keyBefore as bs = true → ofChars as < ofChars bs
  | [], [], h | _ :: _, [], h => by cases h
  | [], b :: bs, _ => by
    obtain ⟨o, os, ho⟩ := List.exists_cons_of_ne_nil (String.utf8EncodeChar_ne_nil (c := b))
    rw [ofChars_cons, ho]
    exact List.nil_lt_cons _ _
  | a :: as, b :: bs, h => by
    rw [ofChars_cons, ofChars_cons]
    rcases Bool.or_eq_true_iff.1 h with hlt | heq
    · exact encode_append_lt (of_decide_eq_true hlt) _ _
    · obtain ⟨hab, hbefore⟩ := Bool.and_eq_true_iff.1 heq
      obtain rfl := beq_iff_eq.1 hab
      exact List.append_left_lt (ofChars_lt_of_keyBefore hbefore)

/-- The order of keys is that of their octets. -/
theorem keyBefore_iff {s t : String} :
    keyBefore s.toList t.toList = true ↔ ofString s < ofString t := by
  rw [ofString_eq, ofString_eq]
  refine ⟨ofChars_lt_of_keyBefore, fun hlt => ?_⟩
  by_contra hbefore
  have hne : s.toList ≠ t.toList := by
    intro he
    rw [he] at hlt
    exact List.lt_irrefl _ hlt
  exact List.lt_asymm hlt (ofChars_lt_of_keyBefore (keyBefore_of_not hne hbefore))

variable {key : String} {value : Json} {fields : List (String × Json)}

/-- The members of an object in order. -/
def Ordered (fields : List (String × Json)) : Prop :=
  fields.Pairwise fun a b => keyBefore a.1.toList b.1.toList = true

theorem mem_insertField {f : String × Json} (h : f ∈ insertField key value fields) :
    f = (key, value) ∨ f ∈ fields := by
  induction fields with
  | nil => exact .inl (List.mem_singleton.1 h)
  | cons e rest ih =>
    obtain ⟨k, v⟩ := e
    rw [insertField] at h
    split at h
    · exact (List.mem_cons.1 h).imp_right (List.mem_cons_of_mem _)
    split at h
    · exact List.mem_cons.1 h
    · rcases List.mem_cons.1 h with rfl | h
      · exact .inr List.mem_cons_self
      · exact (ih h).imp_right (List.mem_cons_of_mem _)

theorem Ordered.insertField (h : Ordered fields) : Ordered (insertField key value fields) := by
  induction fields with
  | nil => exact List.pairwise_singleton _ _
  | cons e rest ih =>
    obtain ⟨k, v⟩ := e
    obtain ⟨hhead, hrest⟩ := List.pairwise_cons.1 h
    rw [Json.insertField]
    split
    · rename_i hkey
      subst hkey
      exact List.pairwise_cons.2 ⟨hhead, hrest⟩
    split
    · rename_i hbefore
      refine List.pairwise_cons.2 ⟨?_, h⟩
      rintro f hf
      rcases List.mem_cons.1 hf with rfl | hf
      · exact hbefore
      · exact keyBefore_trans hbefore (hhead f hf)
    · rename_i hkey hbefore
      refine List.pairwise_cons.2 ⟨?_, ih hrest⟩
      intro f hf
      rcases mem_insertField hf with rfl | hf
      · exact keyBefore_of_not (fun he => hkey (String.toList_injective he)) hbefore
      · exact hhead f hf

theorem fieldsWeight_insertField : fieldsWeight (insertField key value fields) ≤
    fieldWeight (key, value) + 1 + fieldsWeight fields := by
  induction fields with
  | nil => exact le_rfl
  | cons e rest ih =>
    obtain ⟨k, v⟩ := e
    rw [insertField]
    split
    · show fieldWeight (key, value) + 1 + fieldsWeight rest ≤
        fieldWeight (key, value) + 1 + (fieldWeight (k, v) + 1 + fieldsWeight rest)
      omega
    split
    · exact le_rfl
    · show fieldWeight (k, v) + 1 + fieldsWeight (insertField key value rest) ≤
        fieldWeight (key, value) + 1 + (fieldWeight (k, v) + 1 + fieldsWeight rest)
      omega

/-- An object built member by member has some of the members, in order. -/
theorem object_spec (fields : List (String × Json)) : ∃ fs, object fields = .obj fs ∧ Ordered fs ∧
    fs ⊆ fields ∧ fieldsWeight fs ≤ fieldsWeight fields := by
  have hfold : ∀ acc, Ordered acc →
      Ordered (fields.foldl (fun acc e => insertField e.1 e.2 acc) acc) ∧
      (∀ f ∈ fields.foldl (fun acc e => insertField e.1 e.2 acc) acc, f ∈ fields ∨ f ∈ acc) ∧
      fieldsWeight (fields.foldl (fun acc e => insertField e.1 e.2 acc) acc) ≤
        fieldsWeight fields + fieldsWeight acc := by
    induction fields with
    | nil =>
      intro acc hacc
      exact ⟨hacc, fun f hf => .inr hf, (Nat.zero_add _).ge⟩
    | cons e rest ih =>
      intro acc hacc
      obtain ⟨hordered, hmem, hweight⟩ := ih (insertField e.1 e.2 acc) hacc.insertField
      refine ⟨hordered, ?_, ?_⟩
      · intro f hf
        rcases hmem f hf with hf | hf
        · exact .inl (List.mem_cons_of_mem _ hf)
        · refine (mem_insertField hf).imp_left ?_
          rintro rfl
          exact List.mem_cons_self
      · have hinsert : fieldsWeight (insertField e.1 e.2 acc) ≤ fieldWeight e + 1 + fieldsWeight acc :=
          fieldsWeight_insertField
        refine hweight.trans ?_
        show fieldsWeight rest + _ ≤ fieldWeight e + 1 + fieldsWeight rest + fieldsWeight acc
        omega
  obtain ⟨hordered, hmem, hweight⟩ := hfold [] .nil
  refine ⟨_, rfl, hordered, ?_, hweight⟩
  intro f hf
  exact (hmem f hf).resolve_right List.not_mem_nil

/-! ## Values -/

namespace Reader

variable {fuel depth : Nat} {s r : Octets} {v : Json} {items : List Json}

theorem skipBlank_le (s : Octets) : (skipBlank s).length ≤ s.length := length_dropWhile_le isBlank s

/-- What the readers of values do with so many steps: what they read weighs no more than the octets
they read it of, and is ordered and nested as the text of an exact value is. The octets of a member
start behind its opening quote. -/
structure ReadsWithin (fuel : Nat) : Prop where
  value : ∀ {depth s v r}, readValue fuel depth s = .ok (v, r) →
    r.length + v.weight ≤ s.length ∧ (v.FloatFree → Exact (depth - 1) v)
  items : ∀ {depth first s items r}, readItems fuel depth first s = .ok (items, r) →
    r.length + (if first then max 1 (itemsWeight items) else 1 + itemsWeight items) ≤ s.length ∧
      ∀ v ∈ items, v.FloatFree → Exact (depth - 1) v
  fields : ∀ {depth first s fields r}, readFields fuel depth first s = .ok (fields, r) →
    r.length + (if first then max 1 (fieldsWeight fields) else 1 + fieldsWeight fields) ≤ s.length ∧
      ∀ f ∈ fields, f.2.FloatFree → Exact (depth - 1) f.2
  field : ∀ {depth s fields r}, readField fuel depth s = .ok (fields, r) →
    r.length + max 1 (fieldsWeight fields) ≤ s.length + 1 ∧ ∀ f ∈ fields, f.2.FloatFree → Exact (depth - 1) f.2

theorem exact_arr (h : ∀ v ∈ items, v.FloatFree → Exact (depth - 1 - 1) v) (hdepth : ¬ depth ≤ 1)
    (hfree : (Json.arr items).FloatFree) : Exact (depth - 1) (.arr items) := by
  obtain ⟨n, rfl⟩ : ∃ n, depth = n + 2 := ⟨depth - 2, by omega⟩
  cases hfree with
  | arr hitems => exact .arr fun v hv => h v hv (hitems v hv)

theorem exact_object {fields : List (String × Json)} (h : ∀ f ∈ fields, f.2.FloatFree → Exact (depth - 1 - 1) f.2)
    (hdepth : ¬ depth ≤ 1) (hfree : (object fields).FloatFree) : Exact (depth - 1) (object fields) := by
  obtain ⟨n, rfl⟩ : ∃ n, depth = n + 2 := ⟨depth - 2, by omega⟩
  obtain ⟨fs, hobject, hordered, hsub, -⟩ := object_spec fields
  rw [hobject] at hfree ⊢
  cases hfree with
  | obj hfields => exact .obj hordered fun f hf => h f (hsub hf) (hfields f hf)

theorem exact_number (h : IsNumber v) (hfree : v.FloatFree) {n : Nat} : Exact n v := by
  cases h with
  | int i => exact .int i
  | float x => cases hfree

/-- A value by its first octet. -/
theorem ReadsWithin.value_step (h : ReadsWithin fuel) (hread : readValue (fuel + 1) depth s = .ok (v, r)) :
    r.length + v.weight ≤ s.length ∧ (v.FloatFree → Exact (depth - 1) v) := by
  have hblank := skipBlank_le s
  rw [readValue] at hread
  split at hread
  · cases hread
  rename_i b s' hs
  rw [hs, List.length_cons] at hblank
  split at hread
  · obtain ⟨rfl, hlength⟩ := readWord_length hread
    simp only [List.length_cons, List.length_nil] at hlength
    exact ⟨show _ + 4 ≤ _ by omega, fun _ => .null⟩
  split at hread
  · obtain ⟨rfl, hlength⟩ := readWord_length hread
    simp only [List.length_cons, List.length_nil] at hlength
    exact ⟨show _ + 4 ≤ _ by omega, fun _ => .bool true⟩
  split at hread
  · obtain ⟨rfl, hlength⟩ := readWord_length hread
    simp only [List.length_cons, List.length_nil] at hlength
    exact ⟨show _ + 5 ≤ _ by omega, fun _ => .bool false⟩
  split at hread
  · obtain ⟨hlength, hnumber⟩ := readNumber_le hread
    rw [Bool.toNat_true] at hlength
    exact ⟨by omega, fun hfree => exact_number hnumber hfree⟩
  split at hread
  · obtain ⟨hlength, hnumber⟩ := readNumber_le hread
    rw [Bool.toNat_false, List.length_cons] at hlength
    exact ⟨by omega, fun hfree => exact_number hnumber hfree⟩
  split at hread
  · obtain ⟨⟨text, rest⟩, hstring, hread⟩ := bind_eq_ok.1 hread
    cases hread
    have hlength := readString_le hstring
    exact ⟨show _ + (ofChars (quote text)).length ≤ _ by omega, fun _ => .str text⟩
  split at hread
  · split at hread
    · cases hread
    rename_i hdepth
    obtain ⟨⟨items, rest⟩, hitems, hread⟩ := bind_eq_ok.1 hread
    cases hread
    obtain ⟨hlength, hexact⟩ := h.items hitems
    rw [if_pos rfl] at hlength
    exact ⟨show _ + (1 + max 1 (itemsWeight items)) ≤ _ by omega, exact_arr hexact hdepth⟩
  split at hread
  · split at hread
    · cases hread
    rename_i hdepth
    obtain ⟨⟨fields, rest⟩, hfields, hread⟩ := bind_eq_ok.1 hread
    cases hread
    obtain ⟨hlength, hexact⟩ := h.fields hfields
    rw [if_pos rfl] at hlength
    obtain ⟨fs, hobject, -, -, hweight⟩ := object_spec fields
    refine ⟨?_, exact_object hexact hdepth⟩
    rw [hobject]
    show _ + (1 + max 1 (fieldsWeight fs)) ≤ _
    omega
  · cases hread

/-- An item in front of others. -/
theorem ReadsWithin.items_cons (h : ReadsWithin fuel) {s' : Octets}
    (hvalue : readValue fuel depth s = .ok (v, s')) (hitems : readItems fuel depth false s' = .ok (items, r)) :
    r.length + itemsWeight (v :: items) ≤ s.length ∧ ∀ w ∈ v :: items, w.FloatFree → Exact (depth - 1) w := by
  obtain ⟨hv, hexact⟩ := h.value hvalue
  obtain ⟨hmore, hall⟩ := h.items hitems
  rw [if_neg Bool.false_ne_true] at hmore
  refine ⟨?_, List.forall_mem_cons.2 ⟨hexact, hall⟩⟩
  show r.length + (v.weight + 1 + itemsWeight items) ≤ s.length
  omega

theorem itemsWeight_cons_pos (v : Json) (items : List Json) : 1 ≤ itemsWeight (v :: items) := by
  show 1 ≤ v.weight + 1 + itemsWeight items
  omega

theorem ReadsWithin.items_step (h : ReadsWithin fuel) {first : Bool}
    (hread : readItems (fuel + 1) depth first s = .ok (items, r)) :
    r.length + (if first then max 1 (itemsWeight items) else 1 + itemsWeight items) ≤ s.length ∧
      ∀ v ∈ items, v.FloatFree → Exact (depth - 1) v := by
  have hblank := skipBlank_le s
  rw [readItems] at hread
  split at hread
  · cases hread
  rename_i b s' hs
  rw [hs, List.length_cons] at hblank
  split at hread
  · cases hread
    refine ⟨?_, List.forall_mem_nil _⟩
    show r.length + (if first then 1 else 1) ≤ s.length
    rw [ite_self]
    omega
  split at hread
  · rename_i hfirst
    obtain ⟨⟨v, s''⟩, hvalue, hread⟩ := bind_eq_ok.1 hread
    obtain ⟨⟨more, r'⟩, hmore, hread⟩ := bind_eq_ok.1 hread
    cases hread
    obtain ⟨hlength, hexact⟩ := h.items_cons hvalue hmore
    have hpos := itemsWeight_cons_pos v more
    rw [List.length_cons] at hlength
    rw [if_pos hfirst]
    exact ⟨by omega, hexact⟩
  rename_i hfirst
  split at hread
  · have hblank' := skipBlank_le s'
    split at hread
    · cases hread
    · cases hread
    · rename_i hs' _
      obtain ⟨⟨v, s''⟩, hvalue, hread⟩ := bind_eq_ok.1 hread
      obtain ⟨⟨more, r'⟩, hmore, hread⟩ := bind_eq_ok.1 hread
      cases hread
      obtain ⟨hlength, hexact⟩ := h.items_cons hvalue hmore
      rw [if_neg hfirst]
      exact ⟨by omega, hexact⟩
  · cases hread

theorem ReadsWithin.fields_step (h : ReadsWithin fuel) {first : Bool} {fields : List (String × Json)}
    (hread : readFields (fuel + 1) depth first s = .ok (fields, r)) :
    r.length + (if first then max 1 (fieldsWeight fields) else 1 + fieldsWeight fields) ≤ s.length ∧
      ∀ f ∈ fields, f.2.FloatFree → Exact (depth - 1) f.2 := by
  have hblank := skipBlank_le s
  rw [readFields] at hread
  split at hread
  · cases hread
  rename_i b s' hs
  rw [hs, List.length_cons] at hblank
  split at hread
  · cases hread
    refine ⟨?_, List.forall_mem_nil _⟩
    show r.length + (if first then 1 else 1) ≤ s.length
    rw [ite_self]
    omega
  split at hread
  · rename_i hfirst
    split at hread
    · obtain ⟨hlength, hexact⟩ := h.field hread
      rw [if_pos hfirst]
      exact ⟨by omega, hexact⟩
    · cases hread
  rename_i hfirst
  split at hread
  · have hblank' := skipBlank_le s'
    split at hread
    · cases hread
    · rename_i s'' hs'
      rw [hs', List.length_cons] at hblank'
      obtain ⟨hlength, hexact⟩ := h.field hread
      rw [if_neg hfirst]
      exact ⟨by omega, hexact⟩
    · cases hread
    · cases hread
  · cases hread

theorem ReadsWithin.field_step (h : ReadsWithin fuel) {fields : List (String × Json)}
    (hread : readField (fuel + 1) depth s = .ok (fields, r)) :
    r.length + max 1 (fieldsWeight fields) ≤ s.length + 1 ∧
      ∀ f ∈ fields, f.2.FloatFree → Exact (depth - 1) f.2 := by
  rw [readField] at hread
  obtain ⟨⟨key, s'⟩, hkey, hread⟩ := bind_eq_ok.1 hread
  have hblank := skipBlank_le s'
  have hquote := readString_le hkey
  dsimp only at hread
  split at hread
  · cases hread
  · rename_i s'' hs'
    rw [hs', List.length_cons] at hblank
    obtain ⟨⟨v, rest⟩, hvalue, hread⟩ := bind_eq_ok.1 hread
    obtain ⟨⟨more, r'⟩, hmore, hread⟩ := bind_eq_ok.1 hread
    cases hread
    obtain ⟨hv, hexact⟩ := h.value hvalue
    obtain ⟨hlength, hall⟩ := h.fields hmore
    dsimp only at hlength
    rw [if_neg Bool.false_ne_true] at hlength
    refine ⟨?_, List.forall_mem_cons.2 ⟨hexact, hall⟩⟩
    show r'.length + max 1 ((ofChars (quote key)).length + 1 + v.weight + 1 + fieldsWeight more) ≤ s.length + 1
    omega
  · cases hread

/-- Whatever is read, in however many steps. -/
theorem readsWithin (fuel : Nat) : ReadsWithin fuel := by
  induction fuel with
  | zero =>
    constructor
    · intro depth s v r h
      rw [readValue] at h
      cases h
    · intro depth first s items r h
      rw [readItems] at h
      cases h
    · intro depth first s fields r h
      rw [readFields] at h
      cases h
    · intro depth s fields r h
      rw [readField] at h
      cases h
  | succ fuel ih => exact ⟨ih.value_step, ih.items_step, ih.fields_step, ih.field_step⟩

end Reader

/-- A value without floating-point numbers that is read of a text has a compact text that is no longer,
and is nested no deeper than the reader allows. -/
theorem exact_of_ofOctets {s : Octets} {v : Json} (h : ofOctets s = .ok v) (hfree : v.FloatFree) :
    Exact 127 v ∧ (ofString v.text).length ≤ s.length := by
  unfold ofOctets at h
  split at h
  · rename_i hdocument
    cases h
    unfold Reader.readDocument at hdocument
    obtain ⟨⟨v, rest⟩, hvalue, hdocument⟩ := bind_eq_ok.1 hdocument
    obtain ⟨hlength, hexact⟩ := (Reader.readsWithin _).value hvalue
    dsimp only at hdocument
    split at hdocument
    · cases hdocument
      have hexact := hexact hfree
      refine ⟨hexact, ?_⟩
      rw [text, ofString_ofList, ← weight_eq_length hexact]
      omega
    · cases hdocument
  · cases h

end TenantSearch.Json
