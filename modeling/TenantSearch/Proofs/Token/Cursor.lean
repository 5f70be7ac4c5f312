/-
Tokens read back. The token of a position is text of the base-64 alphabet without blanks, so what is
read of it is the text of the pair, and the position itself when the values of the pair are exact and
the token is no longer than what is read.
-/
import TenantSearch.Paging.Cursor
import TenantSearch.Proofs.Json.RoundTrip
import TenantSearch.Proofs.Token.Base64

namespace TenantSearch

namespace Text

theorem trimChars_of_not_blank {cs : List Char} (h : ∀ c ∈ cs, isBlank c = false) :
    trimChars cs = cs := by
  have hdrop : ∀ ds : List Char, (∀ c ∈ ds, isBlank c = false) → ds.dropWhile isBlank = ds := by
    intro ds hds
    cases ds with
    | nil => rfl
    | cons d ds =>
      rw [List.dropWhile_cons, hds d List.mem_cons_self]
      rfl
  unfold trimChars
  rw [hdrop cs h, hdrop cs.reverse fun c hc => h c (List.mem_reverse.1 hc), List.reverse_reverse]

end Text

namespace Json

theorem isNull_iff {v : Json} : v.isNull = true ↔ v = .null := by
  cases v <;> simp [isNull]

theorem ofOctets_nil : ofOctets [] = .error (.at .endInValue [] 0) := by
  unfold ofOctets Reader.readDocument
  rw [Reader.readValue]
  rfl

end Json

namespace Cursor

open Octets

variable {c : Cursor} {n : Nat}

/-- The characters of a token. -/
def tokenChars (c : Cursor) : List Char := c.tokenOctets.map fun b => Char.ofNat b.toNat

theorem plain_of_mem_tokenChars {x : Char} (h : x ∈ c.tokenChars) :
    Text.isBlank x = false ∧ x.toNat < 128 := by
  have hsymbol : ∀ n < 64, Text.isBlank (Char.ofNat (Base64.symbol n).toNat) = false ∧
      (Char.ofNat (Base64.symbol n).toNat).toNat < 128 := by decide
  obtain ⟨b, hb, rfl⟩ := List.mem_map.1 h
  obtain ⟨n, hn, rfl⟩ := Base64.mem_encode hb
  exact hsymbol n hn

theorem ascii_ofNat {b : UInt8} (h : b ∈ c.tokenOctets) : ascii (Char.ofNat b.toNat) = b := by
  have hsymbol : ∀ n < 64, ascii (Char.ofNat (Base64.symbol n).toNat) = Base64.symbol n := by decide
  obtain ⟨n, hn, rfl⟩ := Base64.mem_encode h
  exact hsymbol n hn

theorem ofString_encode (c : Cursor) : ofString c.encode = c.tokenOctets := by
  have hchars : ofString c.encode = ofChars c.tokenChars := ofString_ofList _
  rw [hchars, ofChars_map_ascii fun x hx => (plain_of_mem_tokenChars hx).2]
  unfold tokenChars
  rw [List.map_map]
  exact (List.map_congr_left fun b hb => ascii_ofNat hb).trans (List.map_id _)

/-- The octets of a token, written and trimmed. -/
theorem ofString_trim_encode (c : Cursor) : ofString (Text.trim c.encode) = c.tokenOctets := by
  have hchars : c.encode.toList = c.tokenChars := String.toList_ofList
  unfold Text.trim
  rw [hchars, Text.trimChars_of_not_blank fun x hx => (plain_of_mem_tokenChars hx).1]
  exact ofString_encode c

theorem tokenOctets_ne_nil (c : Cursor) : c.tokenOctets ≠ [] := by
  have hpair : ofString c.pairJson.text = ofChars ('[' :: Json.itemsChars [c.sortValue.getD .null, c.tieBreaker]) :=
    ofString_ofList _
  refine Base64.encode_ne_nil ?_
  rw [hpair, ofChars_cons]
  exact fun h => String.utf8EncodeChar_ne_nil (List.append_eq_nil_iff.1 h).1

/-- A token is read as the pair that it is the text of. -/
theorem decode_of_pair {token : String} {octets : Octets} {v : Json}
    (hoctets : Base64.decode (ofString (Text.trim token)) = .ok octets) (hv : Json.ofOctets octets = .ok v)
    (hlen : (ofString (Text.trim token)).length ≤ maxTokenLength) : decode token = ofPair v := by
  -- no octets are read of an empty text, and no value of those
  have hne : (ofString (Text.trim token)).isEmpty = false := by
    cases htoken : ofString (Text.trim token) with
    | nil =>
      rw [htoken] at hoctets
      cases hoctets
      rw [Json.ofOctets_nil] at hv
      cases hv
    | cons b s => rfl
  unfold decode
  dsimp only
  rw [hne, if_neg Bool.false_ne_true, if_neg (Nat.not_lt.2 hlen), hoctets]
  show ((Json.ofOctets octets).mapError CursorError.json >>= fun v => _) = _
  rw [hv]
  rfl

/-- What is read of a token is the pair it was made of. -/
theorem decode_encode (h : Json.Exact n c.pairJson) (hn : n < 128)
    (hlen : c.tokenOctets.length ≤ maxTokenLength) : decode c.encode = ofPair c.pairJson := by
  have hoctets : Base64.decode (ofString (Text.trim c.encode)) = .ok (ofString c.pairJson.text) := by
    rw [ofString_trim_encode]
    exact Base64.decode_encode _
  rw [← ofString_trim_encode] at hlen
  exact decode_of_pair hoctets (Json.ofOctets_text h hn) hlen

/-- A position as it is read: a value that is null is missing. -/
def nullMissing (c : Cursor) : Cursor := ⟨c.sortValue.bind nonNull?, c.tieBreaker⟩

/-- A pair is a position unless the value that breaks ties is null. -/
theorem ofPair_pairJson (c : Cursor) :
    ofPair c.pairJson = if c.tieBreaker.isNull then .error .shape else .ok c.nullMissing := by
  obtain ⟨sortValue, tieBreaker⟩ := c
  have hnonNull : nonNull? (sortValue.getD .null) = sortValue.bind nonNull? := by
    cases sortValue <;> rfl
  unfold pairJson nullMissing
  dsimp only
  rw [← hnonNull]
  cases tieBreaker <;> rfl

/-- The values of a position. -/
def values (c : Cursor) : List Json := c.sortValue.toList ++ [c.tieBreaker]

theorem forall_mem_values {p : Json → Prop} :
    (∀ v ∈ c.values, p v) ↔ (∀ v, c.sortValue = some v → p v) ∧ p c.tieBreaker := by
  unfold values
  rw [List.forall_mem_append, List.forall_mem_singleton]
  refine and_congr_left fun _ => forall_congr' fun v => ?_
  rw [Option.mem_toList]

/-- What null and the values of a position have in common, both values of its pair have. -/
theorem forall_mem_pair {p : Json → Prop} (hnull : p .null) (h : ∀ v ∈ c.values, p v) :
    ∀ v ∈ [c.sortValue.getD .null, c.tieBreaker], p v := by
  obtain ⟨hsort, htie⟩ := forall_mem_values.1 h
  intro v hv
  rcases List.mem_pair.1 hv with rfl | rfl
  · cases hs : c.sortValue with
    | none => exact hnull
    | some v => exact hsort v hs
  · exact htie

theorem exact_pairJson (h : ∀ v ∈ c.values, Json.Exact n v) : Json.Exact (n + 1) c.pairJson :=
  .arr (forall_mem_pair .null h)

/-- A position of exact values reads back as it is. -/
theorem decode_encode_exact (hsort : ∀ v, c.sortValue = some v → Json.Exact n v ∧ v ≠ .null)
    (htie : Json.Exact n c.tieBreaker) (hnull : c.tieBreaker ≠ .null) (hn : n < 127)
    (hlen : c.tokenOctets.length ≤ maxTokenLength) : decode c.encode = .ok c := by
  have hpair := exact_pairJson (forall_mem_values.2 ⟨fun v hv => (hsort v hv).1, htie⟩)
  have htieBreaker : ¬ c.tieBreaker.isNull = true := fun h => hnull (Json.isNull_iff.1 h)
  have hmissing : c.nullMissing = c := by
    obtain ⟨sortValue, tieBreaker⟩ := c
    cases sortValue with
    | none => rfl
    | some v =>
      have hne := (hsort v rfl).2
      cases v <;> first | rfl | exact absurd rfl hne
  rw [decode_encode hpair (by omega) hlen, ofPair_pairJson, if_neg htieBreaker, hmissing]

/-- A longer token is refused. -/
theorem decode_encode_tooLong (hlen : maxTokenLength < c.tokenOctets.length) :
    decode c.encode = .error (.tooLong c.tokenOctets.length) := by
  have hne : c.tokenOctets.isEmpty = false := List.isEmpty_eq_false_iff.2 c.tokenOctets_ne_nil
  unfold decode
  rw [ofString_trim_encode]
  dsimp only
  rw [hne, if_neg Bool.false_ne_true, if_pos hlen]

end Cursor

end TenantSearch
