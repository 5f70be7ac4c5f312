/-
Tokens that are made again. The token of a position reads back unless its pair is too long to be read
or has no value that breaks ties. A token that is read, whatever blanks, escapes and repeated keys it
hides, stands for a position whose own token is no longer and reads back as the same position: a
service can hand out a token of its own for any token that it accepts.
-/
import TenantSearch.Proofs.Json.Reading
import TenantSearch.Proofs.Token.Cursor

namespace TenantSearch.Cursor

open Octets

variable {c : Cursor} {token : String}

theorem tokenOctets_le_iff :
    c.tokenOctets.length ≤ maxTokenLength ↔ (ofString c.pairJson.text).length ≤ 3072 :=
  Base64.length_encode_le_iff 1024

/-- What is read of the token of a position. -/
theorem decode_encode_eq (h : ∀ v ∈ c.values, Json.Exact 126 v) :
    decode c.encode =
      if 3072 < (ofString c.pairJson.text).length then .error (.tooLong c.tokenOctets.length)
      else if c.tieBreaker.isNull then .error .shape
      else .ok c.nullMissing := by
  split
  · rename_i hlong
    exact decode_encode_tooLong (Nat.lt_of_not_le fun hle => Nat.not_le_of_lt hlong (tokenOctets_le_iff.1 hle))
  · rename_i hshort
    have hlength := tokenOctets_le_iff.2 (Nat.le_of_not_lt hshort)
    rw [decode_encode (exact_pairJson h) (by decide) hlength, ofPair_pairJson]

/-- The octets that a token was made of, and the pair that they hold. -/
theorem exists_pair_of_decode (h : decode token = .ok c) :
    ∃ octets v, Base64.decode (ofString (Text.trim token)) = .ok octets ∧ Json.ofOctets octets = .ok v ∧
      ofPair v = .ok c ∧ (ofString (Text.trim token)).length ≤ maxTokenLength := by
  unfold decode at h
  dsimp only at h
  split at h
  · cases h
  split at h
  · cases h
  rename_i hlength
  obtain ⟨octets, hoctets, h⟩ := bind_eq_ok.1 h
  obtain ⟨v, hv, h⟩ := bind_eq_ok.1 h
  exact ⟨octets, v, mapError_eq_ok.1 hoctets, mapError_eq_ok.1 hv, h, Nat.le_of_not_lt hlength⟩

theorem getD_nonNull? (v : Json) : (nonNull? v).getD .null = v := by
  cases v <;> rfl

/-- A position that is read is made of the pair again. -/
theorem pairJson_of_ofPair {v : Json} (h : ofPair v = .ok c) : c.pairJson = v := by
  unfold ofPair at h
  split at h
  · cases h
  · cases h
    unfold pairJson
    dsimp only
    rw [getD_nonNull?]
  · cases h

theorem floatFree_pairJson (h : ∀ v ∈ c.values, v.FloatFree) : c.pairJson.FloatFree :=
  .arr (forall_mem_pair .null h)

/-- A position that is read of a token has a token that is no longer, and that is read as the position. -/
theorem encode_of_decode (h : decode token = .ok c) (hfree : ∀ v ∈ c.values, v.FloatFree) :
    (ofString c.encode).length ≤ (ofString (Text.trim token)).length ∧ decode c.encode = .ok c := by
  obtain ⟨octets, v, hoctets, hv, hpair, hlength⟩ := exists_pair_of_decode h
  obtain rfl := pairJson_of_ofPair hpair
  obtain ⟨hexact, htext⟩ := Json.exact_of_ofOctets hv (floatFree_pairJson hfree)
  -- the trimmed token is the text of the octets that were read, which are no fewer than those of the pair
  have htoken : c.tokenOctets.length ≤ (ofString (Text.trim token)).length := by
    rw [← Base64.encode_of_decode hoctets]
    exact Base64.length_encode_mono htext
  refine ⟨?_, ?_⟩
  · rw [ofString_encode]
    exact htoken
  · rw [decode_encode hexact (by decide) (Nat.le_trans htoken hlength)]
    exact hpair

/-- The token of a position without floating-point numbers, the members of its objects in order and at
most 126 lists and objects inside each other, is read exactly when the value that breaks ties is not
null and the pair has at most 3072 octets; the position that is read is the one that was written, a
null value as a missing one, and any other token is refused for its length or its shape. A position
without floating-point numbers that is read of any token has a token no longer than that one was
without the blanks around it, and the token is read as the same position. -/
theorem token_roundTrip :
    (∀ c : Cursor, (∀ v ∈ c.values, Json.Exact 126 v) →
      (∀ d, decode c.encode = .ok d ↔
        (c.tieBreaker ≠ .null ∧ (ofString c.pairJson.text).length ≤ 3072) ∧ d = c.nullMissing) ∧
      (¬ (c.tieBreaker ≠ .null ∧ (ofString c.pairJson.text).length ≤ 3072) →
        decode c.encode = .error .shape ∨
          decode c.encode = .error (.tooLong (ofString c.encode).length))) ∧
    ∀ (token : String) (c : Cursor), decode token = .ok c → (∀ v ∈ c.values, v.FloatFree) →
      (ofString c.encode).length ≤ (ofString (Text.trim token)).length ∧ decode c.encode = .ok c := by
  refine ⟨fun c hexact => ?_, fun token c h hfree => encode_of_decode h hfree⟩
  rw [decode_encode_eq hexact, ofString_encode]
  split_ifs with hlong hnull
  · have hrefused : ¬ (c.tieBreaker ≠ .null ∧ (ofString c.pairJson.text).length ≤ 3072) :=
      fun h => Nat.not_le_of_lt hlong h.2
    exact ⟨fun d => ⟨nofun, fun h => absurd h.1 hrefused⟩, fun _ => .inr rfl⟩
  · have hrefused : ¬ (c.tieBreaker ≠ .null ∧ (ofString c.pairJson.text).length ≤ 3072) :=
      fun h => h.1 (Json.isNull_iff.1 hnull)
    exact ⟨fun d => ⟨nofun, fun h => absurd h.1 hrefused⟩, fun _ => .inl rfl⟩
  · have hread : c.tieBreaker ≠ .null ∧ (ofString c.pairJson.text).length ≤ 3072 :=
      ⟨fun h => hnull (Json.isNull_iff.2 h), Nat.le_of_not_lt hlong⟩
    refine ⟨fun d => ⟨fun h => ⟨hread, ?_⟩, ?_⟩, absurd hread⟩
    · cases h
      rfl
    · rintro ⟨-, rfl⟩
      rfl

/-- A null value is read as a missing one, and a token with blanks around it as the same position. -/
theorem token_roundTrip_blanks :
    decode (Cursor.mk (some .null) (.str "k")).encode = .ok ⟨none, .str "k"⟩ ∧
    decode " W251bGwsImsiXQ\n" = .ok ⟨none, .str "k"⟩ ∧
    (ofString (Cursor.mk none (.str "k")).encode).length ≤ (ofString (Text.trim " W251bGwsImsiXQ\n")).length ∧
    decode (Cursor.mk none (.str "k")).encode = .ok ⟨none, .str "k"⟩ := by
  have hnull : ∀ v ∈ (Cursor.mk (some .null) (.str "k")).values, Json.Exact 126 v :=
    forall_mem_values.2 ⟨fun v hv => Option.some.inj hv ▸ .null, .str _⟩
  have hshort : (ofString (Cursor.mk (some .null) (.str "k")).pairJson.text).length ≤ 3072 := by decide
  have hfree : ∀ v ∈ (Cursor.mk none (.str "k")).values, v.FloatFree :=
    forall_mem_values.2 ⟨nofun, .str _⟩
  have hoctets : Base64.decode (ofString (Text.trim " W251bGwsImsiXQ\n")) =
      .ok (ofString (Cursor.mk (some .null) (.str "k")).pairJson.text) := rfl
  have hread : decode " W251bGwsImsiXQ\n" = .ok ⟨none, .str "k"⟩ :=
    decode_of_pair hoctets (Json.ofOctets_text (exact_pairJson hnull) (by decide)) (by decide)
  exact ⟨((token_roundTrip.1 _ hnull).1 _).2 ⟨⟨nofun, hshort⟩, rfl⟩, hread, token_roundTrip.2 _ _ hread hfree⟩

end TenantSearch.Cursor
