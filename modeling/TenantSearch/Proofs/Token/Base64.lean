/-
Octets written in sixty-four symbols read back as the same octets. A group of three octets gives four
symbols; a last group of one or two gives two or three, with nothing left over in the last of them.
The other way round, only the written form of some octets is read: no padding, and nothing left over.
-/
import TenantSearch.Paging.Base64
import TenantSearch.Proofs.Results

namespace TenantSearch.Base64

/-! ## Symbols -/

theorem value?_symbol {n : Nat} (h : n < 64) : value? (symbol n) = some n := by
  have hall : ∀ n < 64, value? (symbol n) = some n := by decide
  exact hall n h

theorem symbol_ne_pad {n : Nat} (h : n < 64) : symbol n ≠ pad := by
  have hall : ∀ n < 64, symbol n ≠ pad := by decide
  exact hall n h

theorem read_symbol {n : Nat} (h : n < 64) (offset : Nat) : read (symbol n) offset = .ok n := by
  unfold read
  rw [value?_symbol h]

theorem readGroup_symbols (offset : Nat) :
    ∀ (ns : List Nat) (i : Nat), (∀ n ∈ ns, n < 64) →
      readGroup offset (ns.map symbol) i none = .ok (ns, none)
  | [], _, _ => rfl
  | n :: ns, i, h => by
    have hn := h n List.mem_cons_self
    rw [List.map_cons, readGroup, if_neg (symbol_ne_pad hn)]
    dsimp only
    rw [read_symbol hn, ok_bind,
      readGroup_symbols offset ns (i + 1) fun m hm => h m (List.mem_cons_of_mem _ hm)]
    rfl

/-! ## Groups -/

theorem octet_eq {a : UInt8} {n : Nat} (h : n = a.toNat) : n.toUInt8 = a := by
  rw [h]
  exact UInt8.ofNat_toNat

theorem decodeGroup_one (offset : Nat) (a : UInt8) : decodeGroup offset (encode [a]) = .ok [a] := by
  have ha := a.toNat_lt
  have hread := readGroup_symbols offset [a.toNat / 4, a.toNat % 4 * 16] 0 (by simp; omega)
  have hleft : a.toNat % 4 * 16 % 16 = 0 := by omega
  rw [List.map_cons, List.map_singleton] at hread
  unfold decodeGroup
  rw [encode, hread, ok_bind]
  simp only [Option.isSome_none, Bool.false_eq_true, if_false, hleft, ne_eq, not_true_eq_false]
  rw [octet_eq (a := a) (by omega)]

theorem decodeGroup_two (offset : Nat) (a b : UInt8) :
    decodeGroup offset (encode [a, b]) = .ok [a, b] := by
  have ha := a.toNat_lt
  have hb := b.toNat_lt
  have hread := readGroup_symbols offset
    [a.toNat / 4, a.toNat % 4 * 16 + b.toNat / 16, b.toNat % 16 * 4] 0 (by simp; omega)
  have hleft : b.toNat % 16 * 4 % 4 = 0 := by omega
  simp only [List.map_cons, List.map_nil] at hread
  unfold decodeGroup
  rw [encode, hread, ok_bind]
  simp only [Option.isSome_none, Bool.false_eq_true, if_false, hleft, ne_eq, not_true_eq_false]
  rw [octet_eq (a := a) (by omega), octet_eq (a := b) (by omega)]

theorem decodeGroup_three (offset : Nat) (a b c : UInt8) :
    decodeGroup offset (encode [a, b, c]) = .ok [a, b, c] := by
  have ha := a.toNat_lt
  have hb := b.toNat_lt
  have hc := c.toNat_lt
  have hread := readGroup_symbols offset
    [a.toNat / 4, a.toNat % 4 * 16 + b.toNat / 16, b.toNat % 16 * 4 + c.toNat / 64, c.toNat % 64] 0
    (by simp; omega)
  simp only [List.map_cons, List.map_nil] at hread
  unfold decodeGroup
  rw [encode, encode, hread, ok_bind]
  simp only [Option.isSome_none, Bool.false_eq_true, if_false]
  rw [octet_eq (a := a) (by omega), octet_eq (a := b) (by omega), octet_eq (a := c) (by omega)]

/-! ## Whole texts -/

theorem encode_ne_nil {os : Octets} (h : os ≠ []) : encode os ≠ [] := by
  match os, h with
  | [_], _ | [_, _], _ | _ :: _ :: _ :: _, _ => exact List.cons_ne_nil _ _

/-- Groups of four symbols are read one after the other, the last of them as a last group. -/
theorem decodeFrom_encode : ∀ (offset : Nat) (os : Octets), os ≠ [] → decodeFrom offset (encode os) = .ok os
  | offset, [a], _ => decodeGroup_one offset a
  | offset, [a, b], _ => decodeGroup_two offset a b
  | offset, [a, b, c], _ => decodeGroup_three offset a b c
  | offset, a :: b :: c :: d :: rest, _ => by
    have ha := a.toNat_lt
    have hb := b.toNat_lt
    have hc := c.toNat_lt
    have hrest := decodeFrom_encode (offset + 4) (d :: rest) (List.cons_ne_nil _ _)
    obtain ⟨e, more, he⟩ := List.exists_cons_of_ne_nil (encode_ne_nil (List.cons_ne_nil d rest))
    rw [he] at hrest
    rw [encode, he, decodeFrom, read_symbol (by omega), ok_bind, read_symbol (by omega), ok_bind,
      read_symbol (by omega), ok_bind, read_symbol (by omega), ok_bind, hrest, ok_bind,
      octet_eq (a := a) (by omega), octet_eq (a := b) (by omega), octet_eq (a := c) (by omega)]

/-- Four symbols for three octets, and two or three for the octets that are left over. -/
theorem length_encode : ∀ os : Octets, (encode os).length = (4 * os.length + 2) / 3
  | [] | [_] | [_, _] => by simp only [encode, List.length_cons, List.length_nil]
  | a :: b :: c :: rest => by
    have hrest := length_encode rest
    simp only [encode, List.length_cons]
    omega

/-- More octets have no shorter text. -/
theorem length_encode_mono {os ps : Octets} (h : os.length ≤ ps.length) :
    (encode os).length ≤ (encode ps).length := by
  rw [length_encode, length_encode]
  exact Nat.div_le_div_right (by omega)

/-- A bound on the text is one on the octets. -/
theorem length_encode_le_iff {os : Octets} (k : Nat) : (encode os).length ≤ 4 * k ↔ os.length ≤ 3 * k := by
  rw [length_encode]
  omega

/-- What is written is read back. -/
theorem decode_encode (os : Octets) : decode (encode os) = .ok os := by
  cases os with
  | nil => rfl
  | cons a rest =>
    -- no number of octets gives a text with one symbol in its last group
    have hlength : (encode (a :: rest)).length % 4 ≠ 1 := by
      rw [length_encode]
      omega
    unfold decode
    cases hlast : (encode (a :: rest)).getLast? with
    | none => exact absurd (List.getLast?_eq_none_iff.1 hlast) (encode_ne_nil (List.cons_ne_nil a rest))
    | some b =>
      dsimp only
      rw [if_neg fun h => hlength h.1]
      exact decodeFrom_encode 0 (a :: rest) (List.cons_ne_nil a rest)

/-- Every octet written is a letter, a digit, the dash or the underscore. -/
theorem mem_encode : ∀ {os : Octets} {b : UInt8}, b ∈ encode os → ∃ n < 64, b = symbol n
  | [], _, h => by cases h
  | [a], b, h => by
    have ha := a.toNat_lt
    simp only [encode, List.mem_cons, List.not_mem_nil, or_false] at h
    rcases h with rfl | rfl
    · exact ⟨_, by omega, rfl⟩
    · exact ⟨_, by omega, rfl⟩
  | [a, a'], b, h => by
    have ha := a.toNat_lt
    have ha' := a'.toNat_lt
    simp only [encode, List.mem_cons, List.not_mem_nil, or_false] at h
    rcases h with rfl | rfl | rfl
    · exact ⟨_, by omega, rfl⟩
    · exact ⟨_, by omega, rfl⟩
    · exact ⟨_, by omega, rfl⟩
  | a :: a' :: c :: rest, b, h => by
    have ha := a.toNat_lt
    have ha' := a'.toNat_lt
    have hc := c.toNat_lt
    simp only [encode, List.mem_cons] at h
    rcases h with rfl | rfl | rfl | rfl | h
    · exact ⟨_, by omega, rfl⟩
    · exact ⟨_, by omega, rfl⟩
    · exact ⟨_, by omega, rfl⟩
    · exact ⟨_, by omega, rfl⟩
    · exact mem_encode h

/-! ## What is read -/

theorem symbol_of_value? {b : UInt8} {n : Nat} (h : value? b = some n) : n < 64 ∧ symbol n = b := by
  have hall : ∀ m < 256, (value? (UInt8.ofNat m)).all (fun n =>
      decide (n < 64 ∧ symbol n = UInt8.ofNat m)) = true := by decide +kernel
  have hb := hall b.toNat b.toNat_lt
  rw [UInt8.ofNat_toNat, h] at hb
  exact of_decide_eq_true hb

theorem symbol_of_read {b : UInt8} {offset n : Nat} (h : read b offset = .ok n) : n < 64 ∧ symbol n = b := by
  unfold read at h
  split at h
  · rename_i hvalue
    cases h
    exact symbol_of_value? hvalue
  · cases h

/-- Once there is padding in a group, it is kept. -/
theorem readGroup_padded {offset : Nat} {group : Octets} {i place : Nat} {values : List Nat}
    {padding : Option Nat} (h : readGroup offset group i (some place) = .ok (values, padding)) :
    padding.isSome := by
  induction group generalizing i place with
  | nil =>
    cases h
    rfl
  | cons b rest ih =>
    rw [readGroup] at h
    split at h
    · split at h
      · cases h
      · exact ih h
    · cases h

/-- A group without padding is read symbol by symbol. -/
theorem symbols_of_readGroup {offset : Nat} {group : Octets} {i : Nat} {values : List Nat}
    (h : readGroup offset group i none = .ok (values, none)) :
    values.map symbol = group ∧ ∀ n ∈ values, n < 64 := by
  induction group generalizing i values with
  | nil =>
    cases h
    exact ⟨rfl, List.forall_mem_nil _⟩
  | cons b rest ih =>
    rw [readGroup] at h
    split at h
    · split at h
      · cases h
      · exact absurd (readGroup_padded h) Bool.false_ne_true
    · dsimp only at h
      obtain ⟨n, hn, h⟩ := bind_eq_ok.1 h
      obtain ⟨⟨more, padding⟩, hmore, h⟩ := bind_eq_ok.1 h
      cases h
      obtain ⟨hlt, hsymbol⟩ := symbol_of_read hn
      obtain ⟨hrest, hall⟩ := ih hmore
      rw [List.map_cons, hsymbol, hrest]
      exact ⟨rfl, List.forall_mem_cons.2 ⟨hlt, hall⟩⟩

theorem toNat_octet {n : Nat} (h : n < 256) : n.toUInt8.toNat = n := by
  rw [Nat.toUInt8_eq, UInt8.toNat_ofNat', Nat.mod_eq_of_lt h]

/-- Two symbols without bits left over are the written form of the octet read of them. -/
theorem encode_pair {a b : Nat} (ha : a < 64) (hb : b < 64) (hleft : b % 16 = 0) :
    encode [(a * 4 + b / 16).toUInt8] = [symbol a, symbol b] := by
  have hfirst : (a * 4 + b / 16) / 4 = a := by omega
  have hsecond : (a * 4 + b / 16) % 4 * 16 = b := by omega
  rw [encode, toNat_octet (by omega), hfirst, hsecond]

/-- Three symbols without bits left over are the written form of the two octets read of them. -/
theorem encode_triple {a b c : Nat} (ha : a < 64) (hb : b < 64) (hc : c < 64) (hleft : c % 4 = 0) :
    encode [(a * 4 + b / 16).toUInt8, (b % 16 * 16 + c / 4).toUInt8] = [symbol a, symbol b, symbol c] := by
  have hfirst : (a * 4 + b / 16) / 4 = a := by omega
  have hsecond : (a * 4 + b / 16) % 4 * 16 + (b % 16 * 16 + c / 4) / 16 = b := by omega
  have hthird : (b % 16 * 16 + c / 4) % 16 * 4 = c := by omega
  rw [encode, toNat_octet (by omega), toNat_octet (by omega), hfirst, hsecond, hthird]

/-- Four symbols are the written form of the three octets read of them. -/
theorem encode_quad {a b c d : Nat} (ha : a < 64) (hb : b < 64) (hc : c < 64) (hd : d < 64) (rest : Octets) :
    encode ((a * 4 + b / 16).toUInt8 :: (b % 16 * 16 + c / 4).toUInt8 :: (c % 4 * 64 + d).toUInt8 :: rest) =
      symbol a :: symbol b :: symbol c :: symbol d :: encode rest := by
  have hfirst : (a * 4 + b / 16) / 4 = a := by omega
  have hsecond : (a * 4 + b / 16) % 4 * 16 + (b % 16 * 16 + c / 4) / 16 = b := by omega
  have hthird : (b % 16 * 16 + c / 4) % 16 * 4 + (c % 4 * 64 + d) / 64 = c := by omega
  have hfourth : (c % 4 * 64 + d) % 64 = d := by omega
  rw [encode, toNat_octet (by omega), toNat_octet (by omega), toNat_octet (by omega), hfirst, hsecond,
    hthird, hfourth]

/-- A last group is the written form of the octets read of it. -/
theorem encode_of_decodeGroup {offset : Nat} {group os : Octets} (h : decodeGroup offset group = .ok os)
    (hlength : group.length ≤ 4) : encode os = group := by
  unfold decodeGroup at h
  obtain ⟨⟨values, padding⟩, hread, h⟩ := bind_eq_ok.1 h
  dsimp only at h
  split at h
  · split at h
    · rename_i hempty
      cases h
      rw [Bool.and_eq_true, List.isEmpty_iff] at hempty
      exact hempty.2.symm
    · cases h
  · cases h
  · rename_i a b rest
    split at h
    · cases h
    rename_i hpadding
    rw [Bool.not_eq_true, Option.isSome_eq_false_iff, Option.isNone_iff_eq_none] at hpadding
    rw [hpadding] at hread
    obtain ⟨rfl, hlt⟩ := symbols_of_readGroup hread
    rw [List.length_map] at hlength
    have ha : a < 64 := hlt a List.mem_cons_self
    have hb : b < 64 := hlt b (List.mem_cons_of_mem _ List.mem_cons_self)
    -- bits that are left over are refused, so the last symbol is made of the last octet alone
    match rest, hlt with
    | [], _ =>
      dsimp only at h
      split at h
      · cases h
      · rename_i hleft
        cases h
        exact encode_pair ha hb (by omega)
    | [c], hlt =>
      have hc : c < 64 := hlt c (by simp)
      dsimp only at h
      split at h
      · cases h
      · rename_i hleft
        cases h
        exact encode_triple ha hb hc (by omega)
    | c :: d :: more, hlt =>
      have hmore : more = [] := by
        simp only [List.length_cons] at hlength
        exact List.length_eq_zero_iff.1 (by omega)
      subst hmore
      cases h
      exact encode_quad ha hb (hlt c (by simp)) (hlt d (by simp)) []

/-- Groups of four symbols and a last group are the written form of the octets read of them. -/
theorem encode_of_decodeFrom : ∀ {s os : Octets} {offset : Nat}, decodeFrom offset s = .ok os → encode os = s
  | [], os, offset, h | [_], os, offset, h | [_, _], os, offset, h | [_, _, _], os, offset, h
  | [_, _, _, _], os, offset, h => by
    have hgroup : decodeGroup offset _ = .ok os := h
    exact encode_of_decodeGroup hgroup (by simp)
  | x :: y :: z :: w :: e :: rest, os, offset, h => by
    rw [decodeFrom] at h
    obtain ⟨a, ha, h⟩ := bind_eq_ok.1 h
    obtain ⟨b, hb, h⟩ := bind_eq_ok.1 h
    obtain ⟨c, hc, h⟩ := bind_eq_ok.1 h
    obtain ⟨d, hd, h⟩ := bind_eq_ok.1 h
    obtain ⟨more, hmore, h⟩ := bind_eq_ok.1 h
    cases h
    obtain ⟨ha, hx⟩ := symbol_of_read ha
    obtain ⟨hb, hy⟩ := symbol_of_read hb
    obtain ⟨hc, hz⟩ := symbol_of_read hc
    obtain ⟨hd, hw⟩ := symbol_of_read hd
    rw [encode_quad ha hb hc hd, hx, hy, hz, hw, encode_of_decodeFrom hmore]

/-- Only the written form of some octets is read. -/
theorem encode_of_decode {s os : Octets} (h : decode s = .ok os) : encode os = s := by
  unfold decode at h
  split at h
  · split at h
    · cases h
    · exact encode_of_decodeFrom h
  · rename_i hlast
    cases h
    exact (List.getLast?_eq_none_iff.1 hlast).symm

end TenantSearch.Base64
