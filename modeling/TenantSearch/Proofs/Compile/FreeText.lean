/-
The ways of matching free text. Text matched in one way is found where all of its words are; matched in
several ways at once it is found where any word is or where the phrase stands, which asks for less. The
switch between the two is read by the text clause alone and every other condition of a document stays what
it is, so turning it off only narrows what is found. Blank text, references and text with operators are
matched in one way in any case.
-/
import TenantSearch.Proofs.Compile.Narrowing
import TenantSearch.Proofs.Index.Formulas
import TenantSearch.Proofs.Text.Trim

namespace TenantSearch

open Index

/-- Words that are all in a text are any of its words, since without a word neither holds. -/
theorem Index.wordsMatch_any {words : List (List Char)} {text : List Char}
    (h : wordsMatch words text true = true) : wordsMatch words text false = true := by
  cases words with
  | nil => cases h
  | cons word words =>
    simp only [wordsMatch, if_true, List.all_cons, Bool.and_eq_true] at h
    simp only [wordsMatch, Bool.false_eq_true, if_false, List.any_cons, h.2.1, Bool.true_or, h.1, Bool.and_self]

namespace FullText

variable {o : SearchOptions} {t : DocType} {query : String} {fields : List String} {multiMatch : Bool}
variable {id : String} {source : Json}

/-! ## The query of a request -/

theorem reference?_trim (query : String) (t : DocType) :
    reference? (Text.trim query) t = reference? query t := by
  unfold reference?
  rw [Text.toList_trim, Text.trimChars_trimChars]

/-- Blanks around a query make no difference to its operators, none of which is a blank. -/
theorem isAdvancedSyntax_trim (query : String) :
    isAdvancedSyntax (Text.trim query) = isAdvancedSyntax query := by
  have hnone : operators.all (fun c => !Text.isBlank c) = true := by decide
  have hblank : ∀ cs : List Char, (∀ c ∈ cs, Text.isBlank c = true) →
      cs.any (fun c => operators.contains c) = false := by
    intro cs hcs
    rw [List.any_eq_false]
    intro c hc hoperator
    have hno := List.all_eq_true.1 hnone c (List.contains_iff_mem.1 hoperator)
    rw [hcs c hc] at hno
    cases hno
  obtain ⟨a, b, hparts, ha, hb⟩ := Text.exists_blanks query.toList
  unfold isAdvancedSyntax
  rw [Text.toList_trim]
  conv_rhs => rw [hparts]
  rw [List.any_append, List.any_append, hblank a ha, hblank b hb, Bool.false_or, Bool.or_false]

/-! What is added for a query: for blank text, for a reference and for any other text. -/

theorem byFullText_blank (h : Text.trim o.query = "") (t : DocType) (d : QueryDocument) (multiMatch : Bool) :
    byFullText d o t multiMatch = { d with trackScores := true }.must .matchAll := if_pos h

theorem byFullText_reference {n : UInt64} (h : reference? o.query t = some n) (d : QueryDocument)
    (multiMatch : Bool) : byFullText d o t multiMatch = d.must (.term "iid" (.ofUInt64 n)) := by
  have htext : Text.trim o.query ≠ "" := by
    intro hblank
    rw [← reference?_trim, hblank] at h
    unfold reference? at h
    split at h
    · rename_i hchars
      cases hchars
    · cases h
  unfold byFullText
  dsimp only
  rw [if_neg htext, reference?_trim, h]

theorem byFullText_text (hblank : Text.trim o.query ≠ "") (h : reference? o.query t = none)
    (d : QueryDocument) (multiMatch : Bool) : byFullText d o t multiMatch =
      d.must (textClause (Text.trim o.query) (textFields o t) multiMatch) := by
  unfold byFullText
  dsimp only
  rw [if_neg hblank, reference?_trim, h]

/-! ## One way and several -/

theorem textClause_off (query : String) (fields : List String) :
    textClause query fields false = .simpleQuery query fields := by
  unfold textClause
  rw [Bool.not_false, Bool.or_true, if_pos rfl]

theorem textClause_advanced (h : isAdvancedSyntax query = true) (fields : List String) (multiMatch : Bool) :
    textClause query fields multiMatch = .simpleQuery query fields := by
  unfold textClause
  rw [h, Bool.true_or, if_pos rfl]

/-- Matched in one way, text is found where all of its words are. -/
theorem hasValue_textClause_off (query : String) (fields : List String) :
    HasValue (textClause query fields false) fun source =>
      wordsMatch (queryWords query.toList) (boostedText source fields) true := by
  rw [textClause_off]
  exact hasValue_simpleQuery query fields

/-- Matched in several ways, text is found where any of its words is, where all are or where it stands as a
phrase. -/
theorem hasValue_textClause_on (h : isAdvancedSyntax query = false) (fields : List String) :
    HasValue (textClause query fields true) fun source =>
      wordsMatch (queryWords query.toList) (boostedText source fields) false ||
        (wordsMatch (queryWords query.toList) (boostedText source fields) true ||
          hasInfix (Text.lower query.toList) (boostedText source fields)) := by
  let ways : List Formula := [.condition (.multiMatch query fields "or"),
    .condition (.multiMatch query fields "and"), .condition (.phrase query fields)]
  have hclause : textClause query fields true = .anyOf (ways.map Formula.clause) := by
    unfold textClause
    rw [h]
    rfl
  have hways : HasValue (.anyOf (ways.map Formula.clause)) fun source => ways.any (Formula.holds source) :=
    .anyOf fun f _ => f.hasValue
  intro id source
  rw [hclause, hways id source]
  simp [ways, Formula.holds, Condition.holds]

/-- Text is found in several ways wherever it is found in one. -/
theorem accepts_textClause_on (h : Accepts id source (textClause query fields false)) :
    Accepts id source (textClause query fields true) := by
  cases hsyntax : isAdvancedSyntax query with
  | true =>
    rw [textClause_advanced hsyntax] at h ⊢
    exact h
  | false =>
    have hwords := wordsMatch_any ((hasValue_textClause_off query fields).accepts_iff.1 h)
    rw [(hasValue_textClause_on hsyntax fields).accepts_iff, hwords, Bool.true_or]

/-- The text of a request is found in several ways wherever it is found in one. -/
theorem accepts_byFullText_on (h : Accepts id source (byFullText .empty o t false).queryClause) :
    Accepts id source (byFullText .empty o t true).queryClause := by
  by_cases hblank : Text.trim o.query = ""
  · rw [byFullText_blank hblank] at h ⊢
    exact h
  cases hreference : reference? o.query t with
  | some n =>
    rw [byFullText_reference hreference] at h ⊢
    exact h
  | none =>
    rw [byFullText_text hblank hreference, QueryDocument.Plain.empty.accepts_must] at h ⊢
    exact ⟨h.1, accepts_textClause_on h.2⟩

/-- A request that matches its text in one way, whatever a deployment allows. -/
inductive OneWay (o : SearchOptions) : Prop where
  | blank (h : Text.Blank o.query)
  | reference {t : DocType} {n : UInt64} (ht : o.docType = some t) (h : reference? o.query t = some n)
  | advanced (h : isAdvancedSyntax o.query = true)
  | off (h : o.flags.multiMatch = false)

theorem OneWay.byFullText_eq (h : OneWay o) (ht : o.docType = some t) (d : QueryDocument) (b b' : Bool) :
    byFullText d o t (b && o.flags.multiMatch) = byFullText d o t (b' && o.flags.multiMatch) := by
  cases h with
  | blank h => rw [byFullText_blank (Text.trim_of_blank h), byFullText_blank (Text.trim_of_blank h)]
  | reference ht' h =>
    obtain rfl := Option.some.inj (ht.symm.trans ht')
    rw [byFullText_reference h, byFullText_reference h]
  | advanced h =>
    unfold byFullText
    simp only [textClause_advanced ((isAdvancedSyntax_trim o.query).trans h)]
  | off h => rw [h, Bool.and_false, Bool.and_false]

end FullText

/-! ## The switch of a deployment -/

namespace SearchOptions

open FullText QueryDocument

/-- The switch is read by free text alone. Whether it is on or off, a request fails alike, or compiles to
the same document, or to the same conditions on top of those for its text. -/
theorem build_multiMatch (o : SearchOptions) (s : CompileSettings) :
    (∃ r, ∀ b, o.build { s with multiMatch := b } = r) ∨
      ∃ t rest, o.docType = some t ∧ Adds rest ∧ ∀ b, o.build { s with multiMatch := b } =
        .ok (o.present s t (rest (byFullText .empty o t (b && o.flags.multiMatch)))) := by
  cases hvalid : o.validate with
  | error e => exact .inl ⟨.error e, fun _ => bind_eq_error hvalid⟩
  | ok _ =>
  cases ht : o.docType with
  | none =>
    unfold validate docType? at hvalid
    rw [ht] at hvalid
    cases hvalid
  | some t =>
  have hrest : AddsOrFails fun d => Access.apply (Facets.byType d o t) o t >>= fun d =>
      Facets.apply d o.facets t :=
    ((Access.addsOrFails_apply o t).bind (Facets.addsOrFails_apply o.facets t)).after
      (Facets.adds_byType .nothing o t)
  simp only [build_eq hvalid ht]
  rcases (if t.isScoped then Access.crossProjectDenied o else .ok false) with e | denied
  · exact .inl ⟨.error e, fun _ => rfl⟩
  cases denied with
  | true => exact .inl ⟨.ok .matchNone, fun _ => rfl⟩
  | false =>
    rcases hrest with ⟨e, hfail⟩ | ⟨rest, hadds, hok⟩
    · refine .inl ⟨.error e, fun b => ?_⟩
      have hmatching : o.matching { s with multiMatch := b } t = .error e := hfail _
      rw [ok_bind, if_neg Bool.false_ne_true, hmatching]
      rfl
    · refine .inr ⟨t, rest, rfl, hadds, fun b => ?_⟩
      have hmatching : o.matching { s with multiMatch := b } t =
          .ok (rest (byFullText .empty o t (b && o.flags.multiMatch))) := hok _
      rw [ok_bind, if_neg Bool.false_ne_true, hmatching]
      rfl

/-- What is found with the strategy off is found with it on. -/
theorem accepts_present_multiMatch {o : SearchOptions} {s : CompileSettings} {t : DocType}
    {rest : QueryDocument → QueryDocument} {id : String} {source : Json} (hadds : Adds rest)
    (h : Accepts id source
      (o.present s t (rest (byFullText .empty o t (false && o.flags.multiMatch)))).queryClause) :
    Accepts id source
      (o.present s t (rest (byFullText .empty o t (true && o.flags.multiMatch)))).queryClause := by
  have hquery : ∀ d, (o.present s t d).queryClause = d.queryClause := fun d =>
    congrArg BoolExpr.clause (present_query d)
  have hplain : ∀ b, (byFullText .empty o t b).Plain := fun b => (adds_byFullText o t b).plain .empty
  rw [hquery, hadds.accepts_iff (hplain _)] at h ⊢
  refine ⟨?_, h.2⟩
  cases hflag : o.flags.multiMatch with
  | true =>
    rw [hflag] at h
    exact accepts_byFullText_on h.1
  | false =>
    rw [hflag] at h
    exact h.1

/-- A request that matches its text in one way compiles to the same with the strategy on and off. -/
theorem build_oneWay {o : SearchOptions} (h : OneWay o) (s : CompileSettings) (b b' : Bool) :
    o.build { s with multiMatch := b } = o.build { s with multiMatch := b' } := by
  rcases build_multiMatch o s with ⟨r, hsame⟩ | ⟨t, rest, ht, -, hbuild⟩
  · exact (hsame b).trans (hsame b').symm
  · rw [hbuild, hbuild, h.byFullText_eq ht .empty b b']

/-- Turning the strategy off only narrows what is found. A request fails alike with the strategy off and
on, or compiles in both cases, and what the document without it finds the document with it finds too. The
two documents are the same where the text is blank, a reference or has operators, and where the request
itself turns the strategy off. -/
theorem multiMatch_off_narrows (o : SearchOptions) (s : CompileSettings) :
    ((∃ e, o.build { s with multiMatch := false } = .error e ∧
        o.build { s with multiMatch := true } = .error e) ∨
      ∃ off on, o.build { s with multiMatch := false } = .ok off ∧
        o.build { s with multiMatch := true } = .ok on ∧
        ∀ id source, Accepts id source off.queryClause → Accepts id source on.queryClause) ∧
    (OneWay o → o.build { s with multiMatch := false } = o.build { s with multiMatch := true }) := by
  refine ⟨?_, fun hone => build_oneWay hone s false true⟩
  rcases build_multiMatch o s with ⟨r, hsame⟩ | ⟨t, rest, -, hadds, hbuild⟩
  · cases r with
    | error e => exact .inl ⟨e, hsame false, hsame true⟩
    | ok d => exact .inr ⟨d, d, hsame false, hsame true, fun _ _ h => h⟩
  · exact .inr ⟨_, _, hbuild false, hbuild true, fun _ _ => accepts_present_multiMatch hadds⟩

/-- Two words that an anonymous user looks for in all issues. -/
def loginSlow : SearchOptions := { searchLevel := some .global, docType := some .issue, query := "login slow" }

def publicTitle (title : String) : Json :=
  .obj [("confidential", .bool false), ("title", .str title), ("type", .str "issue"),
    ("visibility_level", .ofUInt32 20)]

/-- A title with both words is found either way, a title with one of them where the strategy is on; and a
reference compiles to the same document. -/
theorem multiMatch_off_narrows_loginSlow :
    (∃ off on, loginSlow.build { multiMatch := false } = .ok off ∧ loginSlow.build {} = .ok on ∧
      Accepts "1" (publicTitle "Slow page after login") off.queryClause ∧
      Accepts "1" (publicTitle "Slow page after login") on.queryClause ∧
      ¬ Accepts "2" (publicTitle "Login fails") off.queryClause ∧
      Accepts "2" (publicTitle "Login fails") on.queryClause) ∧
    OneWay { loginSlow with query := " #42" } ∧
    SearchOptions.build { loginSlow with query := " #42" } { multiMatch := false } =
      SearchOptions.build { loginSlow with query := " #42" } {} := by
  have hreference : OneWay { loginSlow with query := " #42" } := .reference (t := .issue) (n := 42) rfl (by decide)
  refine ⟨?_, hreference, (multiMatch_off_narrows { loginSlow with query := " #42" } {}).2 hreference⟩
  rcases (multiMatch_off_narrows loginSlow {}).1 with ⟨e, he, -⟩ | ⟨off, on, hoff, hon, hnarrows⟩
  · cases he
  cases hoff
  cases hon
  refine ⟨_, _, rfl, rfl, ?_, hnarrows _ _ ?_, ?_, ?_⟩ <;> decide +kernel

end SearchOptions

end TenantSearch
