/-
Compact text reads back. A value without floating-point numbers whose objects are ordered is what
the reader makes of its compact text, as long as its lists and objects are not nested too deep. The
reader takes the text of a value and leaves what follows it, so the text of a list is read item by
item; every step takes at least one octet, so there are as many as the text has.
-/
import TenantSearch.Proofs.Json.Scalars

namespace TenantSearch.Json

/-! ## Ordered objects -/

theorem keyBefore_asymm : ∀ {as bs : List Char}, keyBefore as bs = true →
    keyBefore bs as = false ∧ as ≠ bs
  | [], [], h => by cases h
  | [], _ :: _, _ => ⟨rfl, fun he => by cases he⟩
  | _ :: _, [], h => by cases h
  | a :: as, b :: bs, h => by
    unfold keyBefore at h
    rcases Bool.or_eq_true_iff.1 h with hlt | heq
    · have hlt := of_decide_eq_true hlt
      constructor
      · have hne : b ≠ a := by
          rintro rfl
          exact Nat.lt_irrefl _ hlt
        unfold keyBefore
        simp [Nat.lt_asymm hlt, hne]
      · intro he
        cases he
        exact Nat.lt_irrefl _ hlt
    · obtain ⟨hab, hbefore⟩ := Bool.and_eq_true_iff.1 heq
      obtain rfl := beq_iff_eq.1 hab
      obtain ⟨hafter, hne⟩ := keyBefore_asymm hbefore
      refine ⟨?_, fun he => hne (List.cons_inj_right a |>.1 he)⟩
      unfold keyBefore
      simp [hafter]

theorem insertField_last {key : String} {value : Json} {fields : List (String × Json)}
    (h : ∀ f ∈ fields, keyBefore f.1.toList key.toList = true) :
    insertField key value fields = fields ++ [(key, value)] := by
  induction fields with
  | nil => rfl
  | cons f rest ih =>
    obtain ⟨k, v⟩ := f
    obtain ⟨hbefore, hne⟩ := keyBefore_asymm (h (k, v) List.mem_cons_self)
    have hkey : key ≠ k := fun he => hne (congrArg String.toList he.symm)
    rw [insertField, if_neg hkey, if_neg (by rw [hbefore]; exact Bool.false_ne_true),
      ih fun f hf => h f (List.mem_cons_of_mem _ hf)]
    rfl

/-- An object with its members in order is built as it is. -/
theorem object_of_ordered {fields : List (String × Json)}
    (h : fields.Pairwise fun a b => keyBefore a.1.toList b.1.toList = true) :
    object fields = .obj fields := by
  have hfold : ∀ acc : List (String × Json),
      (acc ++ fields).Pairwise (fun a b => keyBefore a.1.toList b.1.toList = true) →
      fields.foldl (fun acc e => insertField e.1 e.2 acc) acc = acc ++ fields := by
    clear h
    -- each member goes behind those already there
    induction fields with
    | nil => exact fun acc _ => (List.append_nil acc).symm
    | cons f rest ih =>
      intro acc hacc
      have hlast : insertField f.1 f.2 acc = acc ++ [f] := insertField_last fun g hg =>
        (List.pairwise_append.1 hacc).2.2 g hg f List.mem_cons_self
      rw [List.foldl_cons, hlast, ih (acc ++ [f]), List.append_assoc]
      · rfl
      · rwa [List.append_assoc]
  exact congrArg Json.obj (hfold [] h)

/-! ## Values -/

/-- A value without floating-point numbers, the members of its objects in order, in which at most
so many lists and objects stand inside each other. -/
inductive Exact : Nat → Json → Prop where
  | null {n : Nat} : Exact n .null
  | bool {n : Nat} (b : Bool) : Exact n (.bool b)
  | int {n : Nat} (i : Integer) : Exact n (.int i)
  | str {n : Nat} (s : String) : Exact n (.str s)
  | arr {n : Nat} {items : List Json} (h : ∀ v ∈ items, Exact n v) : Exact (n + 1) (.arr items)
  | obj {n : Nat} {fields : List (String × Json)}
      (ho : fields.Pairwise fun a b => keyBefore a.1.toList b.1.toList = true)
      (h : ∀ f ∈ fields, Exact n f.2) : Exact (n + 1) (.obj fields)

namespace Reader

open Octets

variable {fuel depth : Nat} {rest s : Octets}

/-- The text of a value reads back, whatever follows it. -/
def Reads (depth : Nat) (v : Json) : Prop :=
  ∀ (fuel : Nat) (rest : Octets), (ofChars v.chars).length ≤ fuel → Boundary rest →
    readValue fuel depth (ofChars v.chars ++ rest) = .ok (v, rest)

theorem skipBlank_cons {b : UInt8} (h : isBlank b = false) : skipBlank (b :: s) = b :: s := by
  unfold skipBlank
  rw [List.dropWhile_cons, h]
  rfl

/-- The first octet of a number in front of a digit. -/
theorem digit_bounds {c : Char} (h : c.isDigit = true) :
    isBlank (ascii c) = false ∧ ascii c ≠ 110 ∧ ascii c ≠ 116 ∧ ascii c ≠ 102 ∧ ascii c ≠ 45 ∧
      ascii c ≠ 93 := by
  obtain ⟨hlow, hhigh⟩ := toNat_bounds h
  have hnat := toNat_ascii (c := c) (by omega)
  have hne : ∀ b : UInt8, b.toNat < 48 ∨ 57 < b.toNat → ascii c ≠ b := by
    rintro b hb rfl
    omega
  refine ⟨?_, hne _ (by decide), hne _ (by decide), hne _ (by decide), hne _ (by decide),
    hne _ (by decide)⟩
  unfold isBlank
  simp [hne 32 (by decide), hne 10 (by decide), hne 9 (by decide), hne 13 (by decide)]

theorem ofChars_toDigits (n : Nat) : ofChars (Nat.toDigits 10 n) = numeral n :=
  ofChars_map_ascii fun c hc => by
    have hbounds := toNat_bounds (Nat.isDigit_of_mem_toDigits (by decide) (by decide) hc)
    omega

theorem exists_fuel {b : UInt8} (h : (b :: s).length ≤ fuel) : ∃ n, fuel = n + 1 :=
  Nat.exists_eq_succ_of_ne_zero (Nat.ne_of_gt (Nat.lt_of_lt_of_le (Nat.succ_pos _) h))

theorem reads_null : Reads depth .null := by
  intro fuel rest hfuel _
  have hchars : ofChars Json.null.chars = [110, 117, 108, 108] := by decide
  rw [hchars] at hfuel ⊢
  obtain ⟨fuel, rfl⟩ := exists_fuel hfuel
  rw [List.cons_append, readValue, skipBlank_cons (by decide)]
  rfl

theorem reads_bool (b : Bool) : Reads depth (.bool b) := by
  intro fuel rest hfuel _
  cases b with
  | true =>
    have hchars : ofChars (Json.bool true).chars = [116, 114, 117, 101] := by decide
    rw [hchars] at hfuel ⊢
    obtain ⟨fuel, rfl⟩ := exists_fuel hfuel
    rw [List.cons_append, readValue, skipBlank_cons (by decide)]
    rfl
  | false =>
    have hchars : ofChars (Json.bool false).chars = [102, 97, 108, 115, 101] := by decide
    rw [hchars] at hfuel ⊢
    obtain ⟨fuel, rfl⟩ := exists_fuel hfuel
    rw [List.cons_append, readValue, skipBlank_cons (by decide)]
    rfl

/-- The octets of a quoted string. -/
theorem ofChars_quote (text : String) :
    ofChars (quote text) = 34 :: (ofChars (text.toList.flatMap escapeChar) ++ [34]) := by
  unfold quote
  rw [ofChars_cons, ofChars_append]
  rfl

theorem reads_str (text : String) : Reads depth (.str text) := by
  intro fuel rest hfuel _
  have hchars : ofChars (Json.str text).chars = ofChars (quote text) := rfl
  rw [hchars, ofChars_quote] at hfuel ⊢
  obtain ⟨fuel, rfl⟩ := exists_fuel hfuel
  rw [List.cons_append, List.append_assoc, readValue, skipBlank_cons (by decide)]
  dsimp only
  rw [if_neg (by decide), if_neg (by decide), if_neg (by decide), if_neg (by decide),
    if_neg (by decide), if_pos rfl]
  show (readString (_ ++ 34 :: rest) >>= fun x => _) = _
  rw [readString_quoted]
  rfl

theorem chars_ofNat {n : Nat} {h : -0x8000000000000000 ≤ Int.ofNat n ∧ Int.ofNat n < 0x10000000000000000} :
    ofChars (Json.int ⟨.ofNat n, h⟩).chars = numeral n := by
  show ofChars (Int.repr (Int.ofNat n)).toList = _
  rw [Int.repr, Nat.toList_repr, ofChars_toDigits]

theorem chars_negSucc {n : Nat}
    {h : -0x8000000000000000 ≤ Int.negSucc n ∧ Int.negSucc n < 0x10000000000000000} :
    ofChars (Json.int ⟨.negSucc n, h⟩).chars = 45 :: numeral (n + 1) := by
  show ofChars (Int.repr (Int.negSucc n)).toList = _
  rw [Int.repr, String.toList_append, Nat.toList_repr, ofChars_append, ofChars_toDigits]
  rfl

theorem exists_numeral (n : Nat) : ∃ c s, numeral n = ascii c :: s ∧ c.isDigit = true := by
  obtain ⟨c, cs, hcs⟩ := List.exists_cons_of_ne_nil (Nat.toDigits_ne_nil (n := n) (b := 10))
  refine ⟨c, cs.map ascii, ?_, ?_⟩
  · rw [numeral, hcs, List.map_cons]
  · exact Nat.isDigit_of_mem_toDigits (by decide) (by decide) (hcs ▸ List.mem_cons_self)

theorem reads_int (i : Integer) : Reads depth (.int i) := by
  intro fuel rest hfuel hrest
  obtain ⟨val, hlow, hhigh⟩ := i
  cases val with
  | ofNat n =>
    obtain ⟨c, s, hhead, hc⟩ := exists_numeral n
    obtain ⟨hblank, h110, h116, h102, h45, -⟩ := digit_bounds hc
    have hn : n < 0x10000000000000000 := Int.ofNat_lt.1 hhigh
    have hnumber := readNumber_numeral false hn hrest
    rw [hhead] at hnumber
    rw [chars_ofNat, hhead] at hfuel ⊢
    obtain ⟨fuel, rfl⟩ := exists_fuel hfuel
    rw [List.cons_append, readValue, skipBlank_cons hblank]
    dsimp only
    rw [if_neg h110, if_neg h116, if_neg h102, if_neg h45, isDigit_ascii hc, if_pos rfl]
    exact hnumber.trans (readTail_boundary false n hrest rfl fun h => by cases h)
  | negSucc n =>
    rw [chars_negSucc] at hfuel ⊢
    obtain ⟨fuel, rfl⟩ := exists_fuel hfuel
    rw [List.cons_append, readValue, skipBlank_cons (by decide)]
    dsimp only
    rw [if_neg (by decide), if_neg (by decide), if_neg (by decide), if_pos rfl,
      readNumber_numeral true (by omega) hrest]
    exact readTail_boundary true (n + 1) hrest rfl fun _ => Nat.succ_ne_zero n

/-- The first octet of a value is no blank and closes nothing. -/
theorem exists_head {n : Nat} {v : Json} (h : Exact n v) :
    ∃ b s, ofChars v.chars = b :: s ∧ isBlank b = false ∧ b ≠ 93 := by
  cases h with
  | null => exact ⟨110, _, rfl, by decide, by decide⟩
  | bool b =>
    cases b with
    | true => exact ⟨116, _, rfl, by decide, by decide⟩
    | false => exact ⟨102, _, rfl, by decide, by decide⟩
  | int i =>
    obtain ⟨val, hrange⟩ := i
    cases val with
    | ofNat n =>
      obtain ⟨c, s, hhead, hc⟩ := exists_numeral n
      obtain ⟨hblank, -, -, -, -, hclose⟩ := digit_bounds hc
      exact ⟨ascii c, s, chars_ofNat.trans hhead, hblank, hclose⟩
    | negSucc n => exact ⟨45, _, chars_negSucc, by decide, by decide⟩
  | str text => exact ⟨34, _, rfl, by decide, by decide⟩
  | arr h => exact ⟨91, _, rfl, by decide, by decide⟩
  | obj ho h => exact ⟨123, _, rfl, by decide, by decide⟩

theorem boundary_moreItems (items : List Json) (rest : Octets) :
    Boundary (ofChars (moreItemsChars items) ++ rest) := by
  cases items with
  | nil => exact .bracket rest
  | cons v items => exact .comma _

theorem readItems_comma {b : UInt8} {v : Json} {r : Octets} {more : List Json}
    (hblank : isBlank b = false) (hclose : b ≠ 93) (hv : readValue fuel depth (b :: s) = .ok (v, r))
    (hmore : readItems fuel depth false r = .ok (more, rest)) :
    readItems (fuel + 1) depth false (44 :: b :: s) = .ok (v :: more, rest) := by
  rw [readItems, skipBlank_cons (by decide)]
  dsimp only
  rw [if_neg (by decide), if_neg Bool.false_ne_true, if_pos rfl, skipBlank_cons hblank]
  split
  · contradiction
  · rename_i he
    exact absurd (List.cons.inj he).1 hclose
  · rw [hv, ok_bind, hmore]
    rfl

theorem readItems_first {b : UInt8} {v : Json} {r : Octets} {more : List Json}
    (hblank : isBlank b = false) (hclose : b ≠ 93) (hv : readValue fuel depth (b :: s) = .ok (v, r))
    (hmore : readItems fuel depth false r = .ok (more, rest)) :
    readItems (fuel + 1) depth true (b :: s) = .ok (v :: more, rest) := by
  rw [readItems, skipBlank_cons hblank]
  dsimp only
  rw [if_neg hclose, if_pos rfl, hv, ok_bind, hmore]
  rfl

/-- The items of a list behind the first one, up to the closing bracket. -/
theorem readItems_more {n : Nat} {items : List Json} (hexact : ∀ v ∈ items, Exact n v)
    (hreads : ∀ v ∈ items, Reads depth v) (hfuel : (ofChars (moreItemsChars items)).length ≤ fuel) :
    readItems fuel depth false (ofChars (moreItemsChars items) ++ rest) = .ok (items, rest) := by
  induction items generalizing fuel with
  | nil =>
    have hchars : ofChars (moreItemsChars []) = [93] := by decide
    rw [hchars] at hfuel ⊢
    obtain ⟨fuel, rfl⟩ := exists_fuel hfuel
    rw [List.cons_append, readItems, skipBlank_cons (by decide)]
    rfl
  | cons v items ih =>
    obtain ⟨b, s, hhead, hblank, hclose⟩ := exists_head (hexact v List.mem_cons_self)
    have hchars : ofChars (moreItemsChars (v :: items)) =
        44 :: (ofChars v.chars ++ ofChars (moreItemsChars items)) := by
      show ofChars (',' :: (v.chars ++ moreItemsChars items)) = _
      rw [ofChars_cons, ofChars_append]
      rfl
    rw [hchars] at hfuel ⊢
    obtain ⟨fuel, rfl⟩ := exists_fuel hfuel
    rw [List.length_cons, List.length_append] at hfuel
    have hvalue := hreads v List.mem_cons_self fuel _ (by omega) (boundary_moreItems items rest)
    have hmore : readItems fuel depth false _ = _ := ih (fun w hw => hexact w (List.mem_cons_of_mem _ hw))
      (fun w hw => hreads w (List.mem_cons_of_mem _ hw)) (by omega)
    rw [hhead] at hvalue
    rw [hhead, List.cons_append, List.append_assoc]
    exact readItems_comma hblank hclose hvalue hmore

theorem readItems_all {n : Nat} {items : List Json} (hexact : ∀ v ∈ items, Exact n v)
    (hreads : ∀ v ∈ items, Reads depth v) (hfuel : (ofChars (itemsChars items)).length ≤ fuel) :
    readItems fuel depth true (ofChars (itemsChars items) ++ rest) = .ok (items, rest) := by
  cases items with
  | nil =>
    have hchars : ofChars (itemsChars []) = [93] := by decide
    rw [hchars] at hfuel ⊢
    obtain ⟨fuel, rfl⟩ := exists_fuel hfuel
    rw [List.cons_append, readItems, skipBlank_cons (by decide)]
    rfl
  | cons v items =>
    obtain ⟨b, s, hhead, hblank, hclose⟩ := exists_head (hexact v List.mem_cons_self)
    have hchars : ofChars (itemsChars (v :: items)) =
        ofChars v.chars ++ ofChars (moreItemsChars items) := ofChars_append _ _
    rw [hchars, hhead, List.cons_append] at hfuel
    obtain ⟨fuel, rfl⟩ := exists_fuel hfuel
    rw [← List.cons_append, ← hhead, List.length_append] at hfuel
    -- the first item spends no step on a comma; the octets on either side pay for it
    have hvpos : 0 < (ofChars v.chars).length := hhead ▸ Nat.succ_pos _
    have hmpos : 0 < (ofChars (moreItemsChars items)).length := by
      cases items <;> exact Nat.succ_pos _
    have hvalue := hreads v List.mem_cons_self fuel _ (by omega) (boundary_moreItems items rest)
    have hmore : readItems fuel depth false (_ ++ rest) = _ :=
      readItems_more (fun w hw => hexact w (List.mem_cons_of_mem _ hw))
        (fun w hw => hreads w (List.mem_cons_of_mem _ hw)) (by omega)
    rw [hhead] at hvalue
    rw [hchars, hhead, List.append_assoc]
    exact readItems_first hblank hclose hvalue hmore

/-- A member behind the opening quote of its key. -/
theorem readField_of (key : String) {v : Json} {more : List (String × Json)} (hreads : Reads depth v)
    (hboundary : Boundary s) (hfuel : (ofChars v.chars).length ≤ fuel)
    (hmore : readFields fuel depth false s = .ok (more, rest)) :
    readField (fuel + 1) depth (ofChars (key.toList.flatMap escapeChar) ++
      34 :: 58 :: (ofChars v.chars ++ s)) = .ok ((key, v) :: more, rest) := by
  rw [readField, readString_quoted, ok_bind]
  dsimp only
  rw [skipBlank_cons (by decide)]
  show (readValue fuel depth (ofChars v.chars ++ s) >>= fun x => _) = _
  rw [hreads fuel s hfuel hboundary, ok_bind, hmore]
  rfl

/-- The octets of a member in front of others. -/
theorem ofChars_field (f : String × Json) (cs : List Char) :
    ofChars (fieldChars f ++ cs) = 34 :: (ofChars (f.1.toList.flatMap escapeChar) ++
      34 :: 58 :: (ofChars f.2.chars ++ ofChars cs)) := by
  obtain ⟨key, v⟩ := f
  show ofChars ((quote key ++ ':' :: v.chars) ++ cs) = _
  rw [List.append_assoc, List.cons_append, ofChars_append, ofChars_quote, ofChars_cons, ofChars_append,
    List.cons_append, List.append_assoc]
  rfl

theorem boundary_moreFields (fields : List (String × Json)) (rest : Octets) :
    Boundary (ofChars (moreFieldsChars fields) ++ rest) := by
  cases fields with
  | nil => exact .brace rest
  | cons f fields => exact .comma _

/-- The members of an object behind the first one, up to the closing brace. -/
theorem readFields_more {fields : List (String × Json)} (hreads : ∀ f ∈ fields, Reads depth f.2)
    (hfuel : (ofChars (moreFieldsChars fields)).length ≤ fuel) :
    readFields fuel depth false (ofChars (moreFieldsChars fields) ++ rest) = .ok (fields, rest) := by
  induction fields generalizing fuel with
  | nil =>
    have hchars : ofChars (moreFieldsChars []) = [125] := by decide
    rw [hchars] at hfuel ⊢
    obtain ⟨fuel, rfl⟩ := exists_fuel hfuel
    rw [List.cons_append, readFields, skipBlank_cons (by decide)]
    rfl
  | cons f fields ih =>
    have hchars : ofChars (moreFieldsChars (f :: fields)) = 44 :: 34 ::
        (ofChars (f.1.toList.flatMap escapeChar) ++
          34 :: 58 :: (ofChars f.2.chars ++ ofChars (moreFieldsChars fields))) := by
      show ofChars (',' :: (fieldChars f ++ moreFieldsChars fields)) = _
      rw [ofChars_cons, ofChars_field]
      rfl
    rw [hchars] at hfuel ⊢
    obtain ⟨fuel, rfl⟩ : ∃ n, fuel = n + 2 := ⟨fuel - 2, by
      simp only [List.length_cons, List.length_append] at hfuel
      omega⟩
    simp only [List.length_cons, List.length_append] at hfuel
    have hmore : readFields fuel depth false (_ ++ rest) = _ :=
      ih (fun g hg => hreads g (List.mem_cons_of_mem _ hg)) (by omega)
    have hfield := readField_of f.1 (hreads f List.mem_cons_self)
      (boundary_moreFields fields rest) (by omega) hmore
    rw [List.cons_append, List.cons_append, List.append_assoc, List.cons_append, List.cons_append,
      List.append_assoc, readFields, skipBlank_cons (by decide)]
    dsimp only
    rw [if_neg (by decide), if_neg Bool.false_ne_true, if_pos rfl, skipBlank_cons (by decide)]
    exact hfield

theorem readFields_all {fields : List (String × Json)} (hreads : ∀ f ∈ fields, Reads depth f.2)
    (hfuel : (ofChars (fieldsChars fields)).length ≤ fuel) :
    readFields fuel depth true (ofChars (fieldsChars fields) ++ rest) = .ok (fields, rest) := by
  cases fields with
  | nil =>
    have hchars : ofChars (fieldsChars []) = [125] := by decide
    rw [hchars] at hfuel ⊢
    obtain ⟨fuel, rfl⟩ := exists_fuel hfuel
    rw [List.cons_append, readFields, skipBlank_cons (by decide)]
    rfl
  | cons f fields =>
    have hchars : ofChars (fieldsChars (f :: fields)) = 34 ::
        (ofChars (f.1.toList.flatMap escapeChar) ++
          34 :: 58 :: (ofChars f.2.chars ++ ofChars (moreFieldsChars fields))) := ofChars_field f _
    rw [hchars] at hfuel ⊢
    obtain ⟨fuel, rfl⟩ : ∃ n, fuel = n + 2 := ⟨fuel - 2, by
      simp only [List.length_cons, List.length_append] at hfuel
      omega⟩
    simp only [List.length_cons, List.length_append] at hfuel
    have hmore : readFields fuel depth false (_ ++ rest) = _ :=
      readFields_more (fun g hg => hreads g (List.mem_cons_of_mem _ hg)) (by omega)
    have hfield := readField_of f.1 (hreads f List.mem_cons_self)
      (boundary_moreFields fields rest) (by omega) hmore
    rw [List.cons_append, List.append_assoc, List.cons_append, List.cons_append, List.append_assoc,
      readFields, skipBlank_cons (by decide)]
    dsimp only
    rw [if_neg (by decide), if_pos rfl, if_pos rfl]
    exact hfield

/-- The text of an exact value reads back where its lists and objects may still be opened. -/
theorem reads_of_exact {n : Nat} {v : Json} (h : Exact n v) : ∀ {depth : Nat}, n < depth → Reads depth v := by
  -- the depth changes with every list and object, so the induction is for all of them
  induction h with
  | null => exact fun _ => reads_null
  | bool b => exact fun _ => reads_bool b
  | int i => exact fun _ => reads_int i
  | str text => exact fun _ => reads_str text
  | @arr n items h ih =>
    intro depth hdepth fuel rest hfuel _
    have hchars : ofChars (Json.arr items).chars = 91 :: ofChars (itemsChars items) := rfl
    rw [hchars] at hfuel ⊢
    obtain ⟨fuel, rfl⟩ := exists_fuel hfuel
    have hitems : readItems fuel (depth - 1) true (_ ++ rest) = _ :=
      readItems_all h (fun v hv => ih v hv (by omega)) (Nat.le_of_succ_le_succ hfuel)
    rw [List.cons_append, readValue, skipBlank_cons (by decide)]
    dsimp only
    rw [if_neg (by decide), if_neg (by decide), if_neg (by decide), if_neg (by decide),
      if_neg (by decide), if_neg (by decide), if_pos rfl, if_neg (by omega), hitems]
    rfl
  | @obj n fields ho h ih =>
    intro depth hdepth fuel rest hfuel _
    have hchars : ofChars (Json.obj fields).chars = 123 :: ofChars (fieldsChars fields) := rfl
    rw [hchars] at hfuel ⊢
    obtain ⟨fuel, rfl⟩ := exists_fuel hfuel
    have hfields : readFields fuel (depth - 1) true (_ ++ rest) = _ :=
      readFields_all (fun f hf => ih f hf (by omega)) (Nat.le_of_succ_le_succ hfuel)
    rw [List.cons_append, readValue, skipBlank_cons (by decide)]
    dsimp only
    rw [if_neg (by decide), if_neg (by decide), if_neg (by decide), if_neg (by decide),
      if_neg (by decide), if_neg (by decide), if_neg (by decide), if_pos rfl, if_neg (by omega),
      hfields, ok_bind, object_of_ordered ho]

end Reader

/-- The compact text of an exact value reads back. -/
theorem ofOctets_text {n : Nat} {v : Json} (h : Exact n v) (hn : n < 128) :
    ofOctets (Octets.ofString v.text) = .ok v := by
  have hoctets : Octets.ofString v.text = Octets.ofChars v.chars := Octets.ofString_ofList _
  have hread := Reader.reads_of_exact h hn (3 * (Octets.ofChars v.chars).length + 3) [] (by omega) .done
  have hdocument : Reader.readDocument (Octets.ofChars v.chars) = .ok v := by
    rw [List.append_nil] at hread
    unfold Reader.readDocument Reader.depthLimit
    rw [hread]
    rfl
  unfold ofOctets
  rw [hoctets, hdocument]

end TenantSearch.Json
