/-
Queries that refer to a document. Such a query is, between blanks, the sign of its type and digits behind
it whose value fits 64 bits, zeros ahead included, and nothing else is one: no sign before the digits, no
digits of other scripts, no greater number. A reference adds one condition, on the number, which holds of the
documents with that number; it is matched in one way and never by vectors. All other text adds a clause
without such a condition in it, however deep.
-/
import TenantSearch.Proofs.Compile.FreeText
import TenantSearch.Proofs.Index.Integers

namespace TenantSearch

open Index

/-! ## Values inside of others -/

/-- A value is another one, or stands in one of its items or members. -/
inductive Json.Occurs (c : Json) : Json → Prop where
  | self : Occurs c c
  | item {v : Json} {items : List Json} : v ∈ items → Occurs c v → Occurs c (.arr items)
  | member {f : String × Json} {fields : List (String × Json)} : f ∈ fields → Occurs c f.2 →
      Occurs c (.obj fields)

namespace Json

variable {c v : Json}

/-- Nothing stands in a value without items and members but itself. -/
@[simp]
theorem occurs_scalar (harr : ∀ items, v ≠ .arr items) (hobj : ∀ fields, v ≠ .obj fields) :
    Occurs c v ↔ c = v := by
  constructor
  · rintro (_ | _ | _)
    · rfl
    · exact absurd rfl (harr _)
    · exact absurd rfl (hobj _)
  · rintro rfl
    exact .self

@[simp]
theorem occurs_arr {items : List Json} :
    Occurs c (.arr items) ↔ c = .arr items ∨ ∃ v ∈ items, Occurs c v := by
  constructor
  · rintro (_ | ⟨hv, h⟩)
    · exact .inl rfl
    · exact .inr ⟨_, hv, h⟩
  · rintro (rfl | ⟨v, hv, h⟩)
    · exact .self
    · exact .item hv h

@[simp]
theorem occurs_obj {fields : List (String × Json)} :
    Occurs c (.obj fields) ↔ c = .obj fields ∨ ∃ f ∈ fields, Occurs c f.2 := by
  constructor
  · rintro (_ | _ | ⟨hf, h⟩)
    · exact .inl rfl
    · exact .inr ⟨_, hf, h⟩
  · rintro (rfl | ⟨f, hf, h⟩)
    · exact .self
    · exact .member hf h

end Json

namespace FullText

variable {o : SearchOptions} {t : DocType} {query : String} {fields : List String} {n : UInt64}
variable {cs : List Char}

/-! ## The grammar -/

/-- The value of digits, the last one counting ones. -/
def decimalValue (digits : List Char) : Nat :=
  Nat.ofDigits 10 (digits.reverse.map fun c => c.toNat - 48)

/-- A query that refers to a document of a type by its number. -/
def RefersTo (t : DocType) (query : String) (n : UInt64) : Prop :=
  ∃ before sign digits after, query.toList = before ++ sign :: digits ++ after ∧
    (∀ c ∈ before, Text.isBlank c = true) ∧ (∀ c ∈ after, Text.isBlank c = true) ∧
    t.referenceSign? = some sign ∧ digits ≠ [] ∧ (∀ c ∈ digits, Text.isAsciiDigit c = true) ∧
    decimalValue digits = n.toNat

/-- Reading digits one after the other comes to their value. -/
theorem foldl_digits (cs : List Char) :
    cs.foldl (fun acc c => acc * 10 + (c.toNat - 48)) 0 = decimalValue cs := by
  unfold decimalValue
  rw [Nat.ofDigits_eq_foldr, List.foldr_map, List.foldr_reverse]
  congr 1
  funext acc c
  simp only [Nat.cast_id]
  ring

/-- Digits are read where there are any, nothing else stands among them and their value fits. -/
theorem digitsValue?_eq_some : digitsValue? cs = some n ↔
    cs ≠ [] ∧ (∀ c ∈ cs, Text.isAsciiDigit c = true) ∧ decimalValue cs = n.toNat := by
  have hform : (cs.isEmpty || !cs.all Text.isAsciiDigit) = true ↔
      ¬ (cs ≠ [] ∧ ∀ c ∈ cs, Text.isAsciiDigit c = true) := by
    rw [Bool.or_eq_true, List.isEmpty_iff, Bool.not_eq_true', ← Bool.not_eq_true, List.all_eq_true]
    tauto
  unfold digitsValue?
  rw [foldl_digits]
  dsimp only
  by_cases h : cs ≠ [] ∧ ∀ c ∈ cs, Text.isAsciiDigit c = true
  · rw [if_neg (mt hform.1 (not_not.2 h)), ← and_assoc, and_iff_right h]
    have hlt := n.toNat_lt
    split
    · rename_i hfits
      rw [Option.some.injEq, ← UInt64.toNat_inj, Nat.toUInt64_eq, UInt64.toNat_ofNat', Nat.mod_eq_of_lt hfits]
    · simp
      omega
  · rw [if_pos (hform.2 h), ← and_assoc]
    simp [h]

theorem isBlank_of_referenceSign? {sign : Char} (h : t.referenceSign? = some sign) :
    Text.isBlank sign = false := by
  cases t <;> cases h <;> rfl

/-- The references of a type are read, and nothing else is read as one. -/
theorem reference?_eq_some : reference? query t = some n ↔ RefersTo t query n := by
  constructor
  · intro h
    unfold reference? at h
    split at h
    · rename_i sign c digits hsign hchars
      split at h
      · rename_i hc
        subst hc
        obtain ⟨hne, hdigits, hvalue⟩ := digitsValue?_eq_some.1 h
        obtain ⟨before, after, hparts, hbefore, hafter⟩ := Text.exists_blanks query.toList
        rw [hchars] at hparts
        exact ⟨before, c, digits, after, hparts, hbefore, hafter, hsign, hne, hdigits, hvalue⟩
      · cases h
    · cases h
  · rintro ⟨before, sign, digits, after, hparts, hbefore, hafter, hsign, hne, hdigits, hvalue⟩
    have hblanks : ∀ c ∈ sign :: digits, Text.isBlank c = false :=
      List.forall_mem_cons.2 ⟨isBlank_of_referenceSign? hsign, fun c hc => Text.isBlank_of_isAsciiDigit (hdigits c hc)⟩
    have hchars : Text.trimChars query.toList = sign :: digits := by
      rw [hparts, Text.trimChars_append_right hafter, Text.trimChars_append_left hbefore,
        Text.trimChars_of_no_blank hblanks]
    unfold reference?
    rw [hsign, hchars]
    dsimp only
    rw [if_pos rfl, digitsValue?_eq_some]
    exact ⟨hne, hdigits, hvalue⟩

/-! ## What a query adds -/

/-- The condition on the number holds of the sources that have the number, among others or alone. -/
theorem accepts_number (hn : n.toNat < 2 ^ 53) (id : String) (source : Json) :
    Accepts id source (.term "iid" (.ofUInt64 n)) ↔
      ∃ v ∈ fieldValues source "iid", v.number? = some (n.toNat : ℚ) := by
  have hsmall : (Integer.ofUInt64 n).val.natAbs < 2 ^ 53 := hn
  rw [accepts_term]
  refine exists_congr fun v => and_congr_right fun _ => (valuesEqual_small hsmall v).trans ?_
  rfl

theorem hybridEligible_reference (h : reference? o.query t = some n) (enabled : Bool) (minChars : Nat) :
    hybridEligible o t enabled minChars = false := by
  unfold hybridEligible
  simp [h]

theorem not_occurs_textClause (query : String) (fields : List String) (multiMatch : Bool) (v : Json) :
    ¬ Json.Occurs (Clause.term "iid" v) (textClause query fields multiMatch) := by
  unfold textClause
  split
  · simp [Clause.simpleQuery, Clause.term, Json.ofStrings]
  · simp [Clause.anyOf, BoolExpr.clause, BoolExpr.toJson, BoolExpr.toFields, BoolExpr.listMember,
      Clause.multiMatch, Clause.phrase, Clause.term, Json.ofStrings, Json.ofUInt32]

/-- Text that is no reference adds one clause, with no condition on the number in it. -/
theorem exists_clause_of_no_reference (h : reference? o.query t = none) (d : QueryDocument)
    (multiMatch : Bool) : ∃ c, (byFullText d o t multiMatch).query = d.query.addMust c ∧
      ∀ v, ¬ Json.Occurs (Clause.term "iid" v) c := by
  by_cases hblank : Text.trim o.query = ""
  · refine ⟨.matchAll, ?_, fun v => ?_⟩
    · rw [byFullText_blank hblank]
      rfl
    · simp [Clause.matchAll, Clause.term]
  · refine ⟨textClause (Text.trim o.query) (textFields o t) multiMatch, ?_, not_occurs_textClause _ _ _⟩
    rw [byFullText_text hblank h]
    rfl

/-- References are recognised by their grammar. For a reference one condition on the number is added, which
holds of the sources that have the number; the request never qualifies for vectors, and the strategies for
free text make no difference to it. Any other text adds one clause that has no such condition in it. -/
theorem references_exact (t : DocType) :
    (∀ query n, reference? query t = some n ↔ RefersTo t query n) ∧
    (∀ (o : SearchOptions) n, RefersTo t o.query n →
      (∀ d multiMatch, byFullText d o t multiMatch = d.must (.term "iid" (.ofUInt64 n))) ∧
      (n.toNat < 2 ^ 53 → ∀ id source,
        (Accepts id source (.term "iid" (.ofUInt64 n)) ↔
          ∃ v ∈ fieldValues source "iid", v.number? = some (n.toNat : ℚ)) ∧
        ∀ i : Integer, source.get? "iid" = some (.int i) →
          (Accepts id source (.term "iid" (.ofUInt64 n)) ↔ i.val = n.toNat)) ∧
      (∀ enabled minChars, hybridEligible o t enabled minChars = false) ∧
      (o.docType = some t → ∀ s : CompileSettings,
        o.build { s with multiMatch := false } = o.build { s with multiMatch := true })) ∧
    ∀ o : SearchOptions, (∀ n, ¬ RefersTo t o.query n) → ∀ d multiMatch, ∃ c,
      (byFullText d o t multiMatch).query = d.query.addMust c ∧
        ∀ v, ¬ Json.Occurs (Clause.term "iid" v) c := by
  refine ⟨fun _ _ => reference?_eq_some, fun o n hrefers => ?_, fun o hno d multiMatch => ?_⟩
  · have h := reference?_eq_some.2 hrefers
    refine ⟨byFullText_reference h, fun hn id source => ⟨accepts_number hn id source, fun i hi => ?_⟩,
      hybridEligible_reference h, fun ht s => ?_⟩
    · have hvalues : fieldValues source "iid" = [.int i] := by
        unfold fieldValues fieldValue
        rw [hi]
      rw [accepts_number hn, hvalues]
      simp only [List.mem_singleton, exists_eq_left, Json.number?, Option.some.injEq]
      exact_mod_cast Iff.rfl
    · exact SearchOptions.build_oneWay (.reference ht h) s false true
  · refine exists_clause_of_no_reference ?_ d multiMatch
    exact Option.eq_none_iff_forall_not_mem.2 fun n hn => hno n (reference?_eq_some.1 hn)

/-- An issue with a number. -/
def numbered (i : Integer) : Json := .obj [("iid", .int i), ("type", .str "issue")]

/-- Blanks around a reference and zeros in it do not matter; with a plus it is text. -/
theorem references_exact_zerosAhead :
    RefersTo .issue "\t#0042\u3000" 42 ∧
      byFullText .empty { query := "\t#0042\u3000" } .issue true =
        QueryDocument.empty.must (.term "iid" (.ofUInt64 42)) ∧
      Accepts "1" (numbered ⟨42, by decide⟩) (.term "iid" (.ofUInt64 42)) ∧
      ¬ Accepts "2" (numbered ⟨7, by decide⟩) (.term "iid" (.ofUInt64 42)) ∧
      hybridEligible { query := "\t#0042\u3000" } .issue true 0 = false ∧
    (∀ n, ¬ RefersTo .issue "#+42" n) ∧
      ∃ c, (byFullText .empty { query := "#+42" } .issue true).query = BoolExpr.addMust {} c ∧
        ∀ v, ¬ Json.Occurs (Clause.term "iid" v) c := by
  obtain ⟨hgrammar, hreference, htext⟩ := references_exact .issue
  have hrefers : RefersTo .issue "\t#0042\u3000" 42 := (hgrammar _ _).1 (by decide)
  have hno : ∀ n, ¬ RefersTo .issue "#+42" n := by
    intro n h
    have hread : reference? "#+42" .issue = none := by decide
    rw [(hgrammar _ n).2 h] at hread
    cases hread
  obtain ⟨hadds, hholds, hhybrid, -⟩ := hreference { query := "\t#0042\u3000" } 42 hrefers
  refine ⟨hrefers, hadds _ _, ?_, ?_, hhybrid _ _, hno, htext { query := "#+42" } hno .empty true⟩
  · exact ((hholds (by decide) "1" (numbered ⟨42, by decide⟩)).2 _ rfl).2 rfl
  · exact fun h => absurd (((hholds (by decide) "2" (numbered ⟨7, by decide⟩)).2 _ rfl).1 h) (by decide)

end FullText

end TenantSearch
