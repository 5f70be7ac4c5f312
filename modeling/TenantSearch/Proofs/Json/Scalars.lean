/-
Numbers and strings read back. The digits of an integer give its value as long as it fits 64 bits,
and end where a sign between values stands. A character of a string is escaped or stands for itself;
no octet of an unescaped one is a quote, a backslash or a control character, so the closing quote is
where the reader finds it.
-/
import TenantSearch.Json.Reader
import TenantSearch.Json.Writer
import TenantSearch.Proofs.Results
import TenantSearch.Proofs.Text.Utf8

namespace TenantSearch.Json.Reader

open Octets

/-- What can follow a value in compact text: nothing, or one of the signs between values. -/
inductive Boundary : Octets → Prop where
  | done : Boundary []
  | comma (s : Octets) : Boundary (44 :: s)
  | bracket (s : Octets) : Boundary (93 :: s)
  | brace (s : Octets) : Boundary (125 :: s)

/-! ## Numbers -/

theorem startsWithDigit_boundary {rest : Octets} (h : Boundary rest) : startsWithDigit rest = false := by
  cases h <;> rfl

theorem toNat_bounds {c : Char} (h : c.isDigit = true) : 48 ≤ c.toNat ∧ c.toNat ≤ 57 :=
  Char.isDigit_iff_toNat.1 h

theorem isDigit_ascii {c : Char} (h : c.isDigit = true) : Octets.isDigit (ascii c) = true := by
  obtain ⟨hlow, hhigh⟩ := toNat_bounds h
  unfold Octets.isDigit
  rw [Bool.and_eq_true, decide_eq_true_iff, decide_eq_true_iff, UInt8.le_iff_toNat_le,
    UInt8.le_iff_toNat_le, toNat_ascii (by omega)]
  exact ⟨hlow, hhigh⟩

theorem digit_ascii {c : Char} (h : c.isDigit = true) : digit (ascii c) = c.toNat - '0'.toNat := by
  obtain ⟨-, hhigh⟩ := toNat_bounds h
  unfold digit
  rw [toNat_ascii (by omega)]
  rfl

/-- Digits of a number that fits are all taken. -/
theorem takeSignificand_digits {rest : Octets} (hrest : startsWithDigit rest = false) :
    ∀ {cs : List Char} {acc : Nat}, (∀ c ∈ cs, c.isDigit = true) →
      Nat.ofDigitChars 10 cs acc < 0x10000000000000000 →
      takeSignificand acc (cs.map ascii ++ rest) = (Nat.ofDigitChars 10 cs acc, cs.length, rest) := by
  intro cs
  induction cs with
  | nil =>
    intro acc _ _
    cases rest with
    | nil => rfl
    | cons b s =>
      have hb : Octets.isDigit b = false := hrest
      rw [List.map_nil, List.nil_append, takeSignificand, hb]
      rfl
  | cons c cs ih =>
    intro acc hdigits hlt
    have hc := hdigits c List.mem_cons_self
    rw [Nat.ofDigitChars_cons] at hlt ⊢
    -- the value so far is no greater than the value of all the digits
    have hfits : acc * 10 + digit (ascii c) < 0x10000000000000000 := by
      rw [digit_ascii hc]
      rw [Nat.ofDigitChars_eq_ofDigitChars_zero] at hlt
      have hpos : 1 ≤ 10 ^ cs.length := Nat.one_le_pow _ _ (by decide)
      nlinarith
    rw [List.map_cons, List.cons_append, takeSignificand, isDigit_ascii hc]
    simp only [hfits, decide_true, Bool.and_self, if_true]
    rw [digit_ascii hc, Nat.mul_comm, ih (fun d hd => hdigits d (List.mem_cons_of_mem _ hd)) hlt]
    rfl

/-- A number has no leading zero unless it is zero. -/
theorem exists_toDigits {n : Nat} (hn : n ≠ 0) :
    ∃ c cs, Nat.toDigits 10 n = c :: cs ∧ c.isDigit = true ∧ c ≠ '0' := by
  induction n using Nat.strongRecOn with
  | _ n ih =>
    by_cases h : n < 10
    · refine ⟨n.digitChar, [], Nat.toDigits_of_lt_base h, ?_, ?_⟩ <;> interval_cases n <;>
        first | decide | contradiction
    · obtain ⟨c, cs, hcs, hc⟩ := ih (n / 10) (by omega) (by omega)
      refine ⟨c, cs ++ [(n % 10).digitChar], ?_, hc⟩
      rw [Nat.toDigits_of_base_le (by decide) (by omega), hcs, List.cons_append]

/-- The octets of a number. -/
def numeral (n : Nat) : Octets := (Nat.toDigits 10 n).map ascii

theorem readNumber_numeral (negative : Bool) {n : Nat} (hn : n < 0x10000000000000000) {rest : Octets}
    (hrest : Boundary rest) : readNumber negative (numeral n ++ rest) = readTail negative n rest := by
  have hstop := startsWithDigit_boundary hrest
  by_cases h : n = 0
  · subst h
    show (if startsWithDigit rest then _ else readTail negative 0 rest) = _
    rw [hstop]
    rfl
  · obtain ⟨c, cs, hcs, hc, hne⟩ := exists_toDigits h
    -- the first digit is read apart from the others
    have hvalue : Nat.ofDigitChars 10 cs (c.toNat - '0'.toNat) = n := by
      have hall : Nat.ofDigitChars 10 (c :: cs) 0 = n := hcs ▸ Nat.ofDigitChars_ten_toDigits
      rwa [Nat.ofDigitChars_cons, Nat.mul_zero, Nat.zero_add] at hall
    have hdigits : ∀ d ∈ cs, d.isDigit = true := fun d hd =>
      Nat.isDigit_of_mem_toDigits (by decide) (by decide) (hcs ▸ List.mem_cons_of_mem _ hd)
    have hzero : ascii c ≠ 48 := by
      intro he
      have hnat := toNat_ascii (c := c) (by have := toNat_bounds hc; omega)
      rw [he] at hnat
      exact hne (Char.toNat_inj.1 hnat.symm)
    have htake := takeSignificand_digits hstop hdigits (hvalue ▸ hn)
    unfold numeral
    rw [hcs, List.map_cons, List.cons_append, readNumber, if_neg hzero, isDigit_ascii hc, if_pos rfl,
      digit_ascii hc, htake]
    dsimp only
    rw [hstop, hvalue]
    rfl

theorem readTail_boundary (negative : Bool) (n : Nat) {rest : Octets} (hrest : Boundary rest) {i : Integer}
    (hi : i.val = if negative then -(n : Int) else n) (hn : negative = true → n ≠ 0) :
    readTail negative n rest = .ok (.int i, rest) := by
  have hof : Integer.ofInt? i.val = some i := dif_pos i.inRange
  rw [hi] at hof
  cases negative with
  | true =>
    rw [if_pos rfl] at hof
    cases hrest <;> simp [readTail, hn rfl, hof]
  | false =>
    rw [if_neg Bool.false_ne_true] at hof
    cases hrest <;> simp [readTail, hof]

/-! ## Strings -/

variable {fuel : Nat} {s more rest : Octets}

theorem readQuoted_escape {e os : Octets} (he : readEscape (e ++ s) = .ok (os, s))
    (h : readQuoted fuel s = .ok (more, rest)) :
    readQuoted (fuel + 1) (92 :: (e ++ s)) = .ok (os ++ more, rest) := by
  rw [readQuoted, if_neg (by decide), if_pos rfl, he]
  show (readQuoted fuel s >>= fun x => _) = _
  rw [h]
  rfl

theorem readQuoted_plain {os : Octets} (hos : ∀ b ∈ os, b ≠ 34 ∧ b ≠ 92 ∧ ¬ b < 32)
    (h : readQuoted fuel s = .ok (more, rest)) :
    readQuoted (fuel + os.length) (os ++ s) = .ok (os ++ more, rest) := by
  induction os with
  | nil => exact h
  | cons b os ih =>
    obtain ⟨hquote, hslash, hcontrol⟩ := hos b List.mem_cons_self
    have hrest := ih fun b hb => hos b (List.mem_cons_of_mem _ hb)
    rw [List.length_cons, ← Nat.add_assoc, List.cons_append, readQuoted, if_neg hquote, if_neg hslash,
      if_neg hcontrol, hrest]
    rfl

theorem hexDigit?_hexDigit {n : Nat} (h : n < 16) : hexDigit? (ascii (hexDigit n)) = some n := by
  revert n
  decide

theorem toNat_hexDigit {n : Nat} (h : n < 16) : (hexDigit n).toNat < 128 := by
  revert n
  decide

theorem utf8_toNat (c : Char) : utf8 c.toNat = String.utf8EncodeChar c := by
  unfold utf8
  rw [Char.ofNat_toNat, ofString_eq]
  show ofChars (String.singleton c).toList = _
  rw [String.toList_singleton, ofChars_cons, ofChars_nil, List.append_nil]

/-- A control character by its number. -/
theorem readEscape_control {c : Char} (hc : c.toNat < 32) (s : Octets) :
    readEscape (ofChars ['u', '0', '0', hexDigit (c.toNat / 16), hexDigit (c.toNat % 16)] ++ s) =
      .ok (String.utf8EncodeChar c, s) := by
  have hhigh : c.toNat / 16 < 16 := by omega
  have hlow : c.toNat % 16 < 16 := Nat.mod_lt _ (by decide)
  have hoctets : ofChars ['u', '0', '0', hexDigit (c.toNat / 16), hexDigit (c.toNat % 16)] =
      [117, 48, 48, ascii (hexDigit (c.toNat / 16)), ascii (hexDigit (c.toNat % 16))] := by
    rw [ofChars_map_ascii]
    · rfl
    · intro d hd
      simp only [List.mem_cons, List.not_mem_nil, or_false] at hd
      rcases hd with rfl | rfl | rfl | rfl | rfl
      · decide
      · decide
      · decide
      · exact toNat_hexDigit hhigh
      · exact toNat_hexDigit hlow
  have hcode : 0 * 4096 + 0 * 256 + c.toNat / 16 * 16 + c.toNat % 16 = c.toNat := by omega
  have hhex : readHex (48 :: 48 :: ascii (hexDigit (c.toNat / 16)) ::
      ascii (hexDigit (c.toNat % 16)) :: s) = .ok (c.toNat, s) := by
    have hzero : hexDigit? 48 = some 0 := by decide
    rw [readHex, hzero, hexDigit?_hexDigit hhigh, hexDigit?_hexDigit hlow]
    dsimp only
    rw [hcode]
  rw [hoctets]
  show (readHex (48 :: 48 :: _ :: _ :: s) >>= fun x => _) = _
  rw [hhex, ok_bind]
  dsimp only
  rw [if_neg (by omega), if_neg (by omega), utf8_toNat]

/-- Other characters stand for themselves. -/
theorem escapeChar_plain {c : Char} (hquote : c ≠ '"') (hslash : c ≠ '\\') (hcontrol : ¬ c.toNat < 32) :
    escapeChar c = [c] := by
  have hne : ∀ d : Char, d.toNat < 32 → c ≠ d := fun d hd he => hcontrol (he ▸ hd)
  unfold escapeChar
  rw [if_neg hquote, if_neg hslash, if_neg (hne _ (by decide)), if_neg (hne _ (by decide)),
    if_neg (hne _ (by decide)), if_neg (hne _ (by decide)), if_neg (hne _ (by decide)), if_neg hcontrol]

theorem plain_of_mem_encode {c : Char} (hquote : c ≠ '"') (hslash : c ≠ '\\') (hcontrol : ¬ c.toNat < 32) :
    ∀ b ∈ String.utf8EncodeChar c, b ≠ 34 ∧ b ≠ 92 ∧ ¬ b < 32 := by
  intro b hb
  by_cases h : c.toNat < 128
  · rw [encode_of_lt h, List.mem_singleton] at hb
    subst hb
    have hnat := toNat_ascii h
    refine ⟨?_, ?_, ?_⟩
    · intro he
      rw [he] at hnat
      exact hquote (Char.toNat_inj.1 hnat.symm)
    · intro he
      rw [he] at hnat
      exact hslash (Char.toNat_inj.1 hnat.symm)
    · intro hlt
      rw [UInt8.lt_iff_toNat_lt, hnat] at hlt
      exact hcontrol hlt
  · -- no octet of a longer character is below 128
    have hle := le_of_mem_encode (Nat.le_of_not_lt h) hb
    rw [UInt8.le_iff_toNat_le] at hle
    refine ⟨?_, ?_, ?_⟩
    · rintro rfl
      exact absurd hle (by decide)
    · rintro rfl
      exact absurd hle (by decide)
    · intro hlt
      rw [UInt8.lt_iff_toNat_lt] at hlt
      exact absurd (Nat.le_trans hle (Nat.le_of_lt hlt)) (by decide)

/-- A character of a string, escaped or not, reads back in at most as many steps as it has octets. -/
theorem exists_steps_char (c : Char) : ∃ steps, steps ≤ (ofChars (escapeChar c)).length ∧
    ∀ {fuel : Nat} {s more rest : Octets}, readQuoted fuel s = .ok (more, rest) →
      readQuoted (fuel + steps) (ofChars (escapeChar c) ++ s) =
        .ok (String.utf8EncodeChar c ++ more, rest) := by
  -- an escape is read in one step, however many octets it has
  have hescape : ∀ {e : Octets}, ofChars (escapeChar c) = 92 :: e →
      (∀ s, readEscape (e ++ s) = .ok (String.utf8EncodeChar c, s)) →
      ∃ steps, steps ≤ (ofChars (escapeChar c)).length ∧
        ∀ {fuel : Nat} {s more rest : Octets}, readQuoted fuel s = .ok (more, rest) →
          readQuoted (fuel + steps) (ofChars (escapeChar c) ++ s) =
            .ok (String.utf8EncodeChar c ++ more, rest) := by
    intro e he hread
    refine ⟨1, ?_, ?_⟩
    · rw [he, List.length_cons]
      omega
    · intro fuel s more rest h
      rw [he]
      exact readQuoted_escape (hread s) h
  by_cases hquote : c = '"'
  · subst hquote
    exact hescape (e := [34]) (by decide) fun s => rfl
  by_cases hslash : c = '\\'
  · subst hslash
    exact hescape (e := [92]) (by decide) fun s => rfl
  by_cases hcontrol : c.toNat < 32
  · by_cases hback : c = '\x08'
    · subst hback
      exact hescape (e := [98]) (by decide) fun s => rfl
    by_cases hfeed : c = '\x0c'
    · subst hfeed
      exact hescape (e := [102]) (by decide) fun s => rfl
    by_cases hline : c = '\n'
    · subst hline
      exact hescape (e := [110]) (by decide) fun s => rfl
    by_cases hreturn : c = '\r'
    · subst hreturn
      exact hescape (e := [114]) (by decide) fun s => rfl
    by_cases htab : c = '\t'
    · subst htab
      exact hescape (e := [116]) (by decide) fun s => rfl
    refine hescape ?_ (readEscape_control hcontrol)
    unfold escapeChar
    rw [if_neg hquote, if_neg hslash, if_neg hback, if_neg hfeed, if_neg hline, if_neg hreturn,
      if_neg htab, if_pos hcontrol, ofChars_cons]
    rfl
  · have hoctets : ofChars (escapeChar c) = String.utf8EncodeChar c := by
      rw [escapeChar_plain hquote hslash hcontrol, ofChars_cons, ofChars_nil, List.append_nil]
    rw [hoctets]
    exact ⟨_, le_rfl, readQuoted_plain (plain_of_mem_encode hquote hslash hcontrol)⟩

/-- The characters of a string read back, up to its closing quote. -/
theorem readQuoted_escaped (cs : List Char) (rest : Octets) {fuel : Nat}
    (hfuel : (ofChars (cs.flatMap escapeChar)).length < fuel) :
    readQuoted fuel (ofChars (cs.flatMap escapeChar) ++ 34 :: rest) = .ok (ofChars cs, rest) := by
  induction cs generalizing fuel with
  | nil =>
    obtain ⟨fuel, rfl⟩ := Nat.exists_eq_succ_of_ne_zero (Nat.ne_of_gt hfuel)
    rfl
  | cons c cs ih =>
    obtain ⟨steps, hsteps, hread⟩ := exists_steps_char c
    rw [List.flatMap_cons, ofChars_append, List.length_append] at hfuel
    obtain ⟨fuel', rfl⟩ : ∃ fuel', fuel = fuel' + steps := ⟨fuel - steps, by omega⟩
    rw [List.flatMap_cons, ofChars_append, List.append_assoc, hread (ih (by omega)), ofChars_cons]

theorem readString_quoted (text : String) (rest : Octets) :
    readString (ofChars (text.toList.flatMap escapeChar) ++ 34 :: rest) = .ok (text, rest) := by
  unfold readString
  rw [readQuoted_escaped _ _ (by rw [List.length_append, List.length_cons]; omega), ok_bind,
    ← ofString_eq]
  dsimp only
  rw [toString?_ofString]

end TenantSearch.Json.Reader
