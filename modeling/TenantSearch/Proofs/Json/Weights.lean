/-
How much text a value stands for. The weight of a value is the number of octets of its compact text,
except that doubles, whose text may be longer than what was read, weigh nothing. The numbers and the
strings that are read weigh no more than the octets they were read of: digits have no leading zeros,
and every escape is at least as long as the one that is written for the same character.
-/
import TenantSearch.Proofs.Json.RoundTrip

namespace TenantSearch.Json

open Octets Reader

mutual

/-- The octets of the compact text of a value, not counting doubles. -/
def weight : Json → Nat
  | .null => 4
  | .bool true => 4
  | .bool false => 5
  | .int i => (ofChars (toString i.val).toList).length
  | .float _ => 0
  | .str s => (ofChars (quote s)).length
  | .arr items => 1 + max 1 (itemsWeight items)
  | .obj fields => 1 + max 1 (fieldsWeight fields)
termination_by structural v => v

/-- Items, each with the sign behind it. -/
def itemsWeight : List Json → Nat
  | [] => 0
  | v :: rest => weight v + 1 + itemsWeight rest
termination_by structural v => v

/-- Members, each with the sign behind it. -/
def fieldsWeight : List (String × Json) → Nat
  | [] => 0
  | f :: rest => fieldWeight f + 1 + fieldsWeight rest
termination_by structural v => v

def fieldWeight : String × Json → Nat
  | (key, v) => (ofChars (quote key)).length + 1 + weight v
termination_by structural v => v

end

/-! ## Compact text -/

theorem length_ofChars_cons {c : Char} (h : c.toNat < 128) (cs : List Char) :
    (ofChars (c :: cs)).length = (ofChars cs).length + 1 := by
  rw [ofChars_cons, encode_of_lt h]
  rfl

theorem length_ofChars_append (as bs : List Char) :
    (ofChars (as ++ bs)).length = (ofChars as).length + (ofChars bs).length := by
  rw [ofChars_append, List.length_append]

theorem length_moreItems {items : List Json} (h : ∀ v ∈ items, v.weight = (ofChars v.chars).length) :
    (ofChars (moreItemsChars items)).length = itemsWeight items + 1 := by
  induction items with
  | nil => rfl
  | cons v items ih =>
    have hrest := ih fun w hw => h w (List.mem_cons_of_mem _ hw)
    show (ofChars (',' :: (v.chars ++ moreItemsChars items))).length = v.weight + 1 + itemsWeight items + 1
    rw [length_ofChars_cons (by decide), length_ofChars_append, hrest, h v List.mem_cons_self]
    omega

theorem length_field {f : String × Json} (h : f.2.weight = (ofChars f.2.chars).length) :
    (ofChars (fieldChars f)).length = fieldWeight f := by
  obtain ⟨key, v⟩ := f
  have hv : v.weight = (ofChars v.chars).length := h
  show (ofChars (quote key ++ ':' :: v.chars)).length = (ofChars (quote key)).length + 1 + v.weight
  rw [length_ofChars_append, length_ofChars_cons (by decide), hv]
  omega

theorem length_moreFields {fields : List (String × Json)}
    (h : ∀ f ∈ fields, f.2.weight = (ofChars f.2.chars).length) :
    (ofChars (moreFieldsChars fields)).length = fieldsWeight fields + 1 := by
  induction fields with
  | nil => rfl
  | cons f fields ih =>
    have hrest := ih fun g hg => h g (List.mem_cons_of_mem _ hg)
    show (ofChars (',' :: (fieldChars f ++ moreFieldsChars fields))).length =
      fieldWeight f + 1 + fieldsWeight fields + 1
    rw [length_ofChars_cons (by decide), length_ofChars_append, hrest, length_field (h f List.mem_cons_self)]
    omega

/-- A value without floating-point numbers weighs its compact text. -/
theorem weight_eq_length {n : Nat} {v : Json} (h : Exact n v) : v.weight = (ofChars v.chars).length := by
  induction h with
  | null => rfl
  | bool b => cases b <;> rfl
  | int i => rfl
  | str s => rfl
  | @arr n items h ih =>
    cases items with
    | nil => rfl
    | cons v items =>
      obtain ⟨hv, hmore⟩ := List.forall_mem_cons.1 ih
      show 1 + max 1 (v.weight + 1 + itemsWeight items) = (ofChars ('[' :: (v.chars ++ moreItemsChars items))).length
      rw [length_ofChars_cons (by decide), length_ofChars_append, length_moreItems hmore, hv]
      omega
  | @obj n fields ho h ih =>
    cases fields with
    | nil => rfl
    | cons f fields =>
      obtain ⟨hf, hmore⟩ := List.forall_mem_cons.1 ih
      show 1 + max 1 (fieldWeight f + 1 + fieldsWeight fields) =
        (ofChars ('{' :: (fieldChars f ++ moreFieldsChars fields))).length
      rw [length_ofChars_cons (by decide), length_ofChars_append, length_moreFields hmore, length_field hf]
      omega

namespace Reader

variable {s r : Octets} {v : Json}

/-! ## Numbers -/

/-- A number, of either kind. -/
inductive IsNumber : Json → Prop where
  | int (i : Integer) : IsNumber (.int i)
  | float (x : Double) : IsNumber (.float x)

/-- A digit behind others makes a number no more than one digit longer. -/
theorem length_numeral_step (n : Nat) {d : Nat} (hd : d < 10) :
    (numeral (n * 10 + d)).length ≤ (numeral n).length + 1 := by
  unfold numeral
  rw [List.length_map, List.length_map]
  by_cases hn : n = 0
  · rw [hn, Nat.zero_mul, Nat.zero_add, Nat.toDigits_of_lt_base hd]
    exact Nat.le_add_left 1 _
  · have hdiv : (n * 10 + d) / 10 = n := by omega
    rw [Nat.toDigits_of_base_le (by decide) (by omega), hdiv, List.length_append]
    rfl

/-- A significand has no more digits than are taken for it. -/
theorem takeSignificand_le {acc total n : Nat} (h : takeSignificand acc s = (total, n, r)) :
    r.length ≤ s.length ∧ (numeral total).length + r.length ≤ (numeral acc).length + s.length := by
  induction s generalizing acc n with
  | nil =>
    cases h
    exact ⟨le_rfl, le_rfl⟩
  | cons b s ih =>
    rw [takeSignificand] at h
    split at h
    · rename_i hdigit
      rw [Bool.and_eq_true] at hdigit
      generalize hmore : takeSignificand (acc * 10 + digit b) s = taken at h
      obtain ⟨total', n', r'⟩ := taken
      cases h
      obtain ⟨hle, hdigits⟩ := ih hmore
      have hstep := length_numeral_step acc (digit_lt hdigit.1)
      rw [List.length_cons]
      omega
    · cases h
      exact ⟨le_rfl, le_rfl⟩

theorem length_dropWhile_le (p : UInt8 → Bool) (s : Octets) : (s.dropWhile p).length ≤ s.length :=
  (List.dropWhile_sublist p).length_le

theorem takeExponent_le {acc n : Nat} (h : takeExponent acc s = .ok (n, r)) : r.length ≤ s.length := by
  induction s generalizing acc with
  | nil =>
    cases h
    exact le_rfl
  | cons b s ih =>
    rw [takeExponent] at h
    split at h
    · split at h
      · exact Nat.le_succ_of_le (ih h)
      · cases h
    · cases h
      exact le_rfl

theorem takeExponent_error_le {acc : Nat} (h : takeExponent acc s = .error r) : r.length ≤ s.length := by
  induction s generalizing acc with
  | nil => cases h
  | cons b s ih =>
    rw [takeExponent] at h
    split at h
    · split at h
      · exact Nat.le_succ_of_le (ih h)
      · cases h
        exact Nat.le_succ _
    · cases h

theorem scaled_le {negative : Bool} {m : Nat} {e : Int} (h : scaled negative m e s = .ok (v, r)) :
    r.length + v.weight ≤ s.length ∧ IsNumber v := by
  unfold scaled at h
  split at h
  · cases h
    exact ⟨le_rfl, .float _⟩
  · cases h

theorem readExponent_le {negative : Bool} {m : Nat} {e : Int} (h : readExponent negative m e s = .ok (v, r)) :
    r.length + v.weight ≤ s.length ∧ IsNumber v := by
  unfold readExponent at h
  split at h
  rename_i down s' hsign
  -- a sign in front of the exponent only makes what is left shorter
  have hle : s'.length ≤ s.length := by
    split at hsign
    · cases hsign
      exact Nat.le_succ _
    · cases hsign
      exact Nat.le_succ _
    · cases hsign
      exact le_rfl
  cases s' with
  | nil => cases h
  | cons b s' =>
    rw [List.length_cons] at hle
    dsimp only at h
    split at h
    · split at h
      · rename_i n rest hexponent
        have hrest := takeExponent_le hexponent
        obtain ⟨hscaled, hnumber⟩ := scaled_le h
        exact ⟨by omega, hnumber⟩
      · rename_i rest hexponent
        have hrest := takeExponent_error_le hexponent
        have hdrop := length_dropWhile_le Octets.isDigit rest
        split at h
        · cases h
        · cases h
          exact ⟨show _ + 0 ≤ _ by omega, .float _⟩
    · cases h

theorem readScale_le {negative : Bool} {m : Nat} {e : Int} (h : readScale negative m e s = .ok (v, r)) :
    r.length + v.weight ≤ s.length ∧ IsNumber v := by
  unfold readScale at h
  split at h
  · exact (readExponent_le h).imp_left Nat.le_succ_of_le
  · exact (readExponent_le h).imp_left Nat.le_succ_of_le
  · exact scaled_le h

theorem readPlaces_le {negative : Bool} {m : Nat} {e : Int} (h : readPlaces negative m e s = .ok (v, r)) :
    r.length + v.weight ≤ s.length ∧ IsNumber v := by
  unfold readPlaces at h
  split at h
  rename_i significand n rest htake
  have hle := (takeSignificand_le htake).1
  split at h
  · obtain ⟨hscale, hnumber⟩ := readScale_le h
    have hdrop := length_dropWhile_le Octets.isDigit rest
    exact ⟨by omega, hnumber⟩
  · split at h
    · split at h <;> cases h
    · exact (readScale_le h).imp_left fun hscale => hscale.trans hle

theorem weight_negative {n : Nat} {i : Integer} (h : Integer.ofInt? (-n) = some i) (hn : n ≠ 0) :
    (Json.int i).weight = (numeral n).length + 1 := by
  unfold Integer.ofInt? at h
  split at h
  · rename_i hrange
    cases h
    obtain ⟨n, rfl⟩ := Nat.exists_eq_succ_of_ne_zero hn
    exact congrArg List.length (chars_negSucc (n := n) (h := hrange))
  · cases h

theorem weight_natural {n : Nat} {i : Integer} (h : Integer.ofInt? n = some i) :
    (Json.int i).weight = (numeral n).length := by
  unfold Integer.ofInt? at h
  split at h
  · rename_i hrange
    cases h
    exact congrArg List.length (chars_ofNat (n := n) (h := hrange))
  · cases h

/-- An integer weighs its digits and its sign. -/
theorem readTail_le {negative : Bool} {n : Nat} (h : readTail negative n s = .ok (v, r)) :
    r.length + v.weight ≤ s.length + (numeral n).length + negative.toNat ∧ IsNumber v := by
  have hfloat : ∀ x, s.length + (Json.float x).weight ≤ s.length + (numeral n).length + negative.toNat :=
    fun x => Nat.le_add_right_of_le (Nat.le_add_right _ _)
  unfold readTail at h
  split at h
  · obtain ⟨hplaces, hnumber⟩ := readPlaces_le h
    rw [List.length_cons]
    exact ⟨by omega, hnumber⟩
  · obtain ⟨hexponent, hnumber⟩ := readExponent_le h
    rw [List.length_cons]
    exact ⟨by omega, hnumber⟩
  · obtain ⟨hexponent, hnumber⟩ := readExponent_le h
    rw [List.length_cons]
    exact ⟨by omega, hnumber⟩
  · cases negative with
    | true =>
      rw [if_pos rfl] at h
      split at h
      · cases h
        exact ⟨hfloat _, .float _⟩
      · rename_i hn
        split at h
        · rename_i i hi
          cases h
          rw [weight_negative hi hn]
          exact ⟨(Nat.add_assoc _ _ _).ge, .int i⟩
        · cases h
          exact ⟨hfloat _, .float _⟩
    | false =>
      rw [if_neg Bool.false_ne_true] at h
      split at h
      · rename_i i hi
        cases h
        rw [weight_natural hi]
        exact ⟨le_rfl, .int i⟩
      · cases h
        exact ⟨hfloat _, .float _⟩

/-- A number weighs no more than its digits and its sign. -/
theorem readNumber_le {negative : Bool} (h : readNumber negative s = .ok (v, r)) :
    r.length + v.weight ≤ s.length + negative.toNat ∧ IsNumber v := by
  cases s with
  | nil => cases h
  | cons b s =>
    rw [readNumber] at h
    rw [List.length_cons]
    split at h
    · split at h
      · cases h
      · have hone : (numeral 0).length = 1 := rfl
        obtain ⟨htail, hnumber⟩ := readTail_le h
        exact ⟨by omega, hnumber⟩
    · split at h
      · rename_i hdigit
        split at h
        rename_i significand n rest htake
        obtain ⟨hle, hdigits⟩ := takeSignificand_le htake
        have hone : (numeral (digit b)).length = 1 := by
          unfold numeral
          rw [Nat.toDigits_of_lt_base (digit_lt hdigit)]
          rfl
        split at h
        · -- with more digits than fit, the number is a double
          have hdrop := length_dropWhile_le Octets.isDigit rest
          split at h
          · rename_i r' hrest
            obtain ⟨hplaces, hnumber⟩ := readPlaces_le h
            rw [hrest, List.length_cons] at hdrop
            exact ⟨by omega, hnumber⟩
          · obtain ⟨hscale, hnumber⟩ := readScale_le h
            exact ⟨by omega, hnumber⟩
        · obtain ⟨htail, hnumber⟩ := readTail_le h
          exact ⟨by omega, hnumber⟩
      · cases h

/-! ## Strings -/

/-- The octets that an octet of a string is written with. -/
def octetWeight (b : UInt8) : Nat :=
  if b = 34 ∨ b = 92 ∨ b = 8 ∨ b = 12 ∨ b = 10 ∨ b = 13 ∨ b = 9 then 2 else if b < 32 then 6 else 1

def octetsWeight (os : Octets) : Nat := (os.map octetWeight).sum

theorem octetsWeight_append (os os' : Octets) :
    octetsWeight (os ++ os') = octetsWeight os + octetsWeight os' := by
  unfold octetsWeight
  rw [List.map_append, List.sum_append]

theorem octetsWeight_cons (b : UInt8) (os : Octets) :
    octetsWeight (b :: os) = octetWeight b + octetsWeight os := List.sum_cons

/-- A plain octet stands for itself. -/
theorem octetWeight_plain {b : UInt8} (hquote : b ≠ 34) (hslash : b ≠ 92) (hcontrol : ¬ b < 32) :
    octetWeight b = 1 := by
  have hne : ∀ d : UInt8, d < 32 → b ≠ d := fun d hd he => hcontrol (he ▸ hd)
  unfold octetWeight
  simp [hquote, hslash, hne 8 (by decide), hne 12 (by decide), hne 10 (by decide), hne 13 (by decide),
    hne 9 (by decide), hcontrol]

/-- A character is written with the octets that its own octets are written with. -/
theorem length_escapeChar (c : Char) :
    (ofChars (escapeChar c)).length = octetsWeight (String.utf8EncodeChar c) := by
  by_cases h : c.toNat < 128
  · have hall : ∀ n < 128, (ofChars (escapeChar (Char.ofNat n))).length =
        octetsWeight (String.utf8EncodeChar (Char.ofNat n)) := by decide +kernel
    have hc := hall c.toNat h
    rwa [Char.ofNat_toNat] at hc
  · have hne : ∀ d : Char, d.toNat < 128 → c ≠ d := fun d hd he => h (he ▸ hd)
    have hquote := hne '"' (by decide)
    have hslash := hne '\\' (by decide)
    have hcontrol : ¬ c.toNat < 32 := by omega
    have hplain : ∀ os : Octets, (∀ b ∈ os, b ≠ 34 ∧ b ≠ 92 ∧ ¬ b < 32) → octetsWeight os = os.length := by
      intro os hos
      induction os with
      | nil => rfl
      | cons b os ih =>
        obtain ⟨⟨hb34, hb92, hb32⟩, hos⟩ := List.forall_mem_cons.1 hos
        rw [octetsWeight_cons, octetWeight_plain hb34 hb92 hb32, ih hos, List.length_cons]
        omega
    rw [escapeChar_plain hquote hslash hcontrol, ofChars_cons, ofChars_nil, List.append_nil,
      hplain _ (plain_of_mem_encode hquote hslash hcontrol)]

theorem length_escaped (cs : List Char) :
    (ofChars (cs.flatMap escapeChar)).length = octetsWeight (ofChars cs) := by
  induction cs with
  | nil => rfl
  | cons c cs ih =>
    rw [List.flatMap_cons, length_ofChars_append, ih, length_escapeChar, ofChars_cons, octetsWeight_append]

theorem length_escapeChar_le (c : Char) : (ofChars (escapeChar c)).length ≤ 6 := by
  by_cases h : c.toNat < 128
  · have hall : ∀ n < 128, (ofChars (escapeChar (Char.ofNat n))).length ≤ 6 := by decide +kernel
    have hc := hall c.toNat h
    rwa [Char.ofNat_toNat] at hc
  · have hne : ∀ d : Char, d.toNat < 128 → c ≠ d := fun d hd he => h (he ▸ hd)
    rw [escapeChar_plain (hne _ (by decide)) (hne _ (by decide)) (by omega), ofChars_cons, ofChars_nil,
      List.append_nil, String.length_utf8EncodeChar]
    exact (Char.utf8Size_le_four c).trans (by decide)

/-- No character is written with more than six octets, as many as an escape by number has. -/
theorem octetsWeight_utf8_le (code : Nat) : octetsWeight (utf8 code) ≤ 6 := by
  have hoctets : utf8 code = String.utf8EncodeChar (Char.ofNat code) := by
    unfold utf8
    rw [ofString_eq, String.toList_singleton, ofChars_cons, ofChars_nil, List.append_nil]
  rw [hoctets, ← length_escapeChar]
  exact length_escapeChar_le _

variable {os : Octets}

theorem readHex_length {n : Nat} (h : readHex s = .ok (n, r)) : r.length + 4 = s.length := by
  unfold readHex at h
  split at h
  · split at h
    · cases h
      rfl
    · cases h
  · cases h

theorem readLowSurrogate_le {high : Nat} (h : readLowSurrogate high s = .ok (os, r)) :
    r.length + octetsWeight os ≤ s.length := by
  unfold readLowSurrogate at h
  split at h
  · cases h
  · cases h
  · obtain ⟨⟨low, rest⟩, hhex, h⟩ := bind_eq_ok.1 h
    have hlength := readHex_length hhex
    dsimp only at h
    split at h
    · cases h
    · have hsix := octetsWeight_utf8_le ((high - 0xD800) * 1024 + (low - 0xDC00) + 0x10000)
      generalize utf8 ((high - 0xD800) * 1024 + (low - 0xDC00) + 0x10000) = octets at h hsix
      cases h
      rw [List.length_cons, List.length_cons]
      omega
  · cases h
  · cases h

/-- An escape, with its backslash, is no shorter than what is written for it. -/
theorem readEscape_le (h : readEscape s = .ok (os, r)) : r.length + octetsWeight os ≤ s.length + 1 := by
  cases s with
  | nil => cases h
  | cons b s =>
    have htwo : ∀ b' : UInt8, octetWeight b' ≤ 2 → r.length + octetsWeight [b'] ≤ r.length + 1 + 1 := by
      intro b' hb
      show r.length + (octetWeight b' + 0) ≤ _
      omega
    rw [readEscape] at h
    split at h
    · rename_i hb
      cases h
      refine htwo b ?_
      rcases hb with rfl | rfl | rfl <;> decide
    split at h
    · cases h
      exact htwo 8 (by decide)
    split at h
    · cases h
      exact htwo 12 (by decide)
    split at h
    · cases h
      exact htwo 10 (by decide)
    split at h
    · cases h
      exact htwo 13 (by decide)
    split at h
    · cases h
      exact htwo 9 (by decide)
    split at h
    · obtain ⟨⟨code, rest⟩, hhex, h⟩ := bind_eq_ok.1 h
      have hlength := readHex_length hhex
      dsimp only at h
      rw [List.length_cons]
      split at h
      · cases h
      split at h
      · have hlow := readLowSurrogate_le h
        omega
      · cases h
        have hsix := octetsWeight_utf8_le code
        omega
    · cases h

/-- The octets of a string are written with no more octets than they are read of. -/
theorem readQuoted_le {fuel : Nat} (h : readQuoted fuel s = .ok (os, r)) :
    r.length + octetsWeight os + 1 ≤ s.length := by
  induction fuel generalizing s os with
  | zero => cases h
  | succ fuel ih =>
    cases s with
    | nil => cases h
    | cons b s =>
      rw [readQuoted] at h
      rw [List.length_cons]
      split at h
      · cases h
        exact le_rfl
      rename_i hquote
      split at h
      · obtain ⟨⟨octets, s'⟩, hescape, h⟩ := bind_eq_ok.1 h
        obtain ⟨⟨more, r'⟩, hmore, h⟩ := bind_eq_ok.1 h
        cases h
        have hhead := readEscape_le hescape
        have hrest := ih hmore
        rw [octetsWeight_append]
        omega
      rename_i hslash
      split at h
      · cases h
      rename_i hcontrol
      obtain ⟨⟨more, r'⟩, hmore, h⟩ := bind_eq_ok.1 h
      cases h
      have hrest := ih hmore
      rw [octetsWeight_cons, octetWeight_plain hquote hslash hcontrol]
      omega

/-- A string is written with no more octets than it is read of. -/
theorem readString_le {text : String} (h : readString s = .ok (text, r)) :
    r.length + (ofChars (quote text)).length ≤ s.length + 1 := by
  unfold readString at h
  obtain ⟨⟨octets, rest⟩, hquoted, h⟩ := bind_eq_ok.1 h
  dsimp only at h
  split at h
  · rename_i hdecoded
    cases h
    have hle := readQuoted_le hquoted
    have hoctets := ofString_of_toString? hdecoded
    rw [ofString_eq] at hoctets
    rw [ofChars_quote, List.length_cons, List.length_append, length_escaped, hoctets, List.length_singleton]
    omega
  · cases h

theorem readWord_length {word : List UInt8} {value : Json} (h : readWord value word s = .ok (v, r)) :
    v = value ∧ r.length + word.length = s.length := by
  induction word generalizing s with
  | nil =>
    cases h
    exact ⟨rfl, rfl⟩
  | cons e word ih =>
    cases s with
    | nil => cases h
    | cons b s =>
      rw [readWord] at h
      split at h
      · obtain ⟨hv, hlength⟩ := ih h
        refine ⟨hv, ?_⟩
        rw [List.length_cons, List.length_cons]
        omega
      · cases h

end Reader

end TenantSearch.Json
