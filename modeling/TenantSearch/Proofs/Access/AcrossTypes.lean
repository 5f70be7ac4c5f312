/-
Searches without the condition on the type find documents of every type, and the rules of access are
those of the type that is asked for. A document keeps the rules of its own type when these ask for
nothing more (`DocType.Covers`). In every other case there is a search, even an anonymous one, that finds
a document against the rules of the type of the document.
-/
import TenantSearch.Proofs.Access.Rules

namespace TenantSearch

open Index

/-- The rules for one type ask of a document all that those for another one do: both live in the same
scope, and what can be confidential or hidden in the other can be so in the one. -/
structure DocType.Covers (t own : DocType) : Prop where
  scope : t.scope = own.scope
  confidentiality : own.hasConfidentiality = true → t.hasConfidentiality = true
  hidden : own.hasHidden = true → t.hasHidden = true

namespace Access

variable {o : SearchOptions} {s : CompileSettings} {t own : DocType} {d : QueryDocument}
variable {id : String} {source : Json} {user : Option CurrentUser} {u : CurrentUser}
variable {feature : Option Feature}

/-- A source passes the rules of membership, confidential and hidden documents for a type. -/
structure KeepsRules (o : SearchOptions) (own : DocType) (id : String) (source : Json) : Prop where
  membership : Accepts id source (byMembership .empty o own).queryClause
  confidentiality : Accepts id source (byConfidentiality .empty o own).queryClause
  notHidden : Accepts id source (byNotHidden .empty o own).queryClause

/-! ## Types that cover another one -/

/-- What admits a source of a type depends on the scope of the type only. -/
theorem Admits.of_scope (hs : t.scope = own.scope) (h : Admits user t feature source) :
    Admits user own feature source := by
  have hvisibility : t.visibilityField = own.visibilityField := by
    unfold DocType.visibilityField
    rw [hs]
  have hmembership : t.membershipField = own.membershipField := by
    unfold DocType.membershipField
    rw [hs]
  have hids : ∀ u role, memberIds u t role = memberIds u own role := by
    intro u role
    unfold memberIds
    rw [hs]
  rcases h with ⟨l, hl, hc, hf⟩ | ⟨u, i, hu, hi, hc, hf⟩ | ⟨u, g, hu, hg, hf, hfree⟩
  · exact .visible l hl (hvisibility ▸ hc) hf
  · exact .direct u i hu (hids u _ ▸ hi) (hmembership ▸ hc) hf
  · exact .above u g hu hg hf (hvisibility ▸ hfree)

theorem Reader.of_scope (hs : t.scope = own.scope) (h : Reader Carries u t source) :
    Reader Carries u own source := by
  rcases h with h | h | ⟨p, ht, hp, hrole, h⟩ | ⟨g, hg, hrole, h⟩
  · exact .author h
  · exact .assignee h
  · exact .project p (hs ▸ ht) hp hrole h
  · exact .above g hg hrole h

theorem KeepsRules.of_covers (hc : t.Covers own) (h : KeepsRules o t id source) :
    KeepsRules o own id source := by
  constructor
  · rw [accepts_byMembership]
    intro ha
    obtain ⟨feature, hf, hadmits⟩ := accepts_byMembership.1 h.membership ha
    exact ⟨feature, hf, hadmits.of_scope hc.scope⟩
  · rw [accepts_byConfidentiality]
    intro hown
    refine (accepts_byConfidentiality.1 h.confidentiality (hc.confidentiality hown)).imp_right ?_
    rintro ⟨u, hu, hall | hall | ⟨hyes, hreader⟩⟩
    · exact ⟨u, hu, .inl hall⟩
    · exact ⟨u, hu, .inr (.inl hall)⟩
    · exact ⟨u, hu, .inr (.inr ⟨hyes, hreader.of_scope hc.scope⟩)⟩
  · rw [accepts_byNotHidden]
    exact fun hown => accepts_byNotHidden.1 h.notHidden (hc.hidden hown)

/-- What a search for a scoped type finds keeps the rules of that type, of whichever type it is. -/
theorem keepsRules_of_build (hb : o.build s = .ok d) (ht : o.docType = some t) (hs : t.isScoped = true)
    (h : Accepts id source d.queryClause) : KeepsRules o t id source := by
  rcases SearchOptions.accepts_build hb ht with ⟨-, -, hnone⟩ | ⟨hd, access, facets, ha, -, hacc⟩
  · exact absurd h (hnone id source)
  obtain ⟨level, scope, -, -, hrules⟩ := accepts_apply ha hs (hd hs)
  obtain ⟨-, hmember, -, hconfidential, hhidden⟩ := (hrules id source).1 ((hacc id source).1 h).2.2.1
  exact ⟨hmember, hconfidential, hhidden⟩

/-! ## Types that do not -/

/-- An anonymous search everywhere, as for one type, without the condition on the type. -/
def anyType (t : DocType) : SearchOptions :=
  { docType := some t, searchLevel := some .global, skipTypeFilter := true }

/-- A document of one type that is private, confidential and hidden wherever another type does not
ask. -/
def strayDocument (t own : DocType) : Json :=
  .obj [("confidential", .bool !t.hasConfidentiality), ("hidden", .bool !t.hasHidden),
    ("namespace_visibility_level", .ofUInt64 (if t.scope = .group then 20 else 0)),
    ("type", .str own.name), ("visibility_level", .ofUInt64 (if t.scope = .project then 20 else 0))]

/-- The document is public for the types in the scope of the type that is asked for, and for no other. -/
theorem strayDocument_public {t' : DocType} (hs : t'.isScoped = true) :
    Carries (strayDocument t own) t'.visibilityField (.ofUInt64 Visibility.pub.stored) ↔
      t.scope = t'.scope := by
  have hvalue : ∀ p : Prop, [Decidable p] → ((∃ x ∈ [Json.ofUInt64 (if p then 20 else 0)],
      valuesEqual x (.ofUInt64 Visibility.pub.stored) = true) ↔ p) := by
    intro p _
    have hpub : valuesEqual (.ofUInt64 20) (.ofUInt64 Visibility.pub.stored) = true := by decide +kernel
    have hpriv : valuesEqual (.ofUInt64 0) (.ofUInt64 Visibility.pub.stored) = false := by decide +kernel
    by_cases hp : p <;> simp [hp, hpub, hpriv]
  unfold DocType.visibilityField
  cases hscope : t'.scope with
  | group => exact hvalue (t.scope = .group)
  | project => exact hvalue (t.scope = .project)
  | unscoped =>
    unfold DocType.isScoped at hs
    rw [hscope] at hs
    cases hs

theorem facets_none (t : DocType) : Facets.apply .empty {} t = .ok .empty := by
  cases t <;> rfl

theorem accepts_byFullText_blank {multiMatch : Bool} (h : Text.trim o.query = "") :
    Accepts id source (FullText.byFullText .empty o t multiMatch).queryClause := by
  have hplain := (QueryDocument.Adds.nothing.trackScores true).plain .empty
  unfold FullText.byFullText
  dsimp only
  rw [if_pos h, hplain.accepts_must]
  exact ⟨rfl, rfl⟩

/-- The search finds the document: as far as the type that is asked for tells, it is public. -/
theorem accepts_strayDocument (t own : DocType) (id : String) : ∃ d, (anyType t).build {} = .ok d ∧
    Accepts id (strayDocument t own) d.queryClause := by
  obtain ⟨d, hd⟩ : ∃ d, (anyType t).build {} = .ok d := by cases t <;> exact ⟨_, rfl⟩
  refine ⟨d, hd, ?_⟩
  have hblank : Text.trim "" = "" := by decide
  rcases SearchOptions.accepts_build hd rfl with ⟨-, hdenied, -⟩ | ⟨hno, access, facets, ha, hf, hacc⟩
  · cases hdenied
  obtain rfl : facets = .empty := Except.ok.inj (hf.symm.trans (facets_none t))
  refine (hacc id _).2 ⟨accepts_byFullText_blank hblank, rfl, ?_, rfl⟩
  by_cases hs : t.isScoped = true
  swap
  · unfold apply at ha
    rw [Bool.not_eq_true] at hs
    rw [hs] at ha
    cases ha
    exact QueryDocument.Plain.accepts_empty
  obtain ⟨level, scope, -, hscope, hrules⟩ := accepts_apply ha hs (hno hs)
  cases hscope
  refine (hrules id _).2 ⟨rfl, ?_, fun _ => rfl, ?_, ?_⟩
  · rw [accepts_byMembership]
    have hpub : Carries (strayDocument t own) t.visibilityField _ := (strayDocument_public hs).2 rfl
    exact fun _ => ⟨none, List.mem_singleton_self _, .visible .pub (List.mem_singleton_self _) hpub trivial⟩
  · rw [accepts_byConfidentiality]
    intro hc
    refine .inl ⟨.bool !t.hasConfidentiality, List.mem_singleton_self _, ?_⟩
    rw [hc]
    rfl
  · rw [accepts_byNotHidden]
    rintro hh - ⟨x, hx, he⟩
    obtain rfl := List.mem_singleton.1 hx
    rw [hh] at he
    cases he

theorem not_keepsRules_strayDocument (hown : own.isScoped = true) (hc : ¬ t.Covers own) :
    ¬ KeepsRules (anyType t) own id (strayDocument t own) := by
  intro h
  apply hc
  constructor
  · obtain ⟨feature, hf, hadmits⟩ := accepts_byMembership.1 h.membership rfl
    obtain rfl := List.mem_singleton.1 hf
    rcases hadmits with ⟨l, hl, hcarries, -⟩ | ⟨u, _, hu, -⟩ | ⟨u, _, hu, -⟩
    · obtain rfl := List.mem_singleton.1 hl
      exact (strayDocument_public hown).1 hcarries
    · cases hu
    · cases hu
  · intro hconfidential
    obtain ⟨x, hx, he⟩ | ⟨u, hu, -⟩ := accepts_byConfidentiality.1 h.confidentiality hconfidential
    · obtain rfl := List.mem_singleton.1 hx
      by_contra ht
      rw [Bool.not_eq_true] at ht
      rw [ht] at he
      cases he
    · cases hu
  · intro hhidden
    have hnot := accepts_byNotHidden.1 h.notHidden hhidden rfl
    by_contra ht
    rw [Bool.not_eq_true] at ht
    refine hnot ⟨.bool !t.hasHidden, List.mem_singleton_self _, ?_⟩
    rw [ht]
    rfl

/-- Without the condition on the type, the documents that a search for one type finds keep the rules of
another type, their own, exactly when the one covers the other. -/
theorem keepsRules_iff_covers (t own : DocType) (hown : own.isScoped = true) :
    (∀ (o : SearchOptions) (s : CompileSettings) (d : QueryDocument) (id : String) (source : Json),
      o.docType = some t → o.skipTypeFilter = true → o.build s = .ok d →
      fieldValue source "type" = some (.str own.name) → Accepts id source d.queryClause →
        KeepsRules o own id source) ↔ t.Covers own := by
  constructor
  · intro h
    by_contra hc
    obtain ⟨d, hd, hacc⟩ := accepts_strayDocument t own ""
    exact not_keepsRules_strayDocument hown hc (h _ _ d "" _ rfl rfl hd rfl hacc)
  · intro hc o s d id source ht _ hb _ hacc
    have hs : t.isScoped = true := by
      unfold DocType.isScoped at hown ⊢
      rw [hc.scope]
      exact hown
    exact (keepsRules_of_build hb ht hs hacc).of_covers hc

def visibleIssue (confidential : Bool) : Json :=
  .obj [("confidential", .bool confidential), ("type", .str "issue"),
    ("visibility_level", .int ⟨20, by decide⟩)]

theorem keepsRules_iff_covers_workItems : DocType.issue.isScoped = true ∧
    ∃ d, (anyType .workItem).build {} = .ok d ∧ Accepts "1" (visibleIssue false) d.queryClause ∧
      KeepsRules (anyType .workItem) .issue "1" (visibleIssue false) := by
  have hcovers : DocType.workItem.Covers .issue := ⟨rfl, fun h => h, fun h => h⟩
  obtain ⟨d, hd⟩ : ∃ d, (anyType .workItem).build {} = .ok d := ⟨_, rfl⟩
  have hfound : Accepts "1" (visibleIssue false) d.queryClause := by
    cases hd
    decide +kernel
  exact ⟨rfl, d, hd, hfound, (keepsRules_iff_covers .workItem .issue rfl).2 hcovers _ _ d "1" _ rfl rfl hd
    rfl hfound⟩

/-- An anonymous search as for notes finds a confidential issue, which only its readers may find. -/
theorem noteSearch_finds_confidentialIssue : ∃ d, (anyType .note).build {} = .ok d ∧
    Accepts "1" (visibleIssue true) d.queryClause ∧
      ¬ KeepsRules (anyType .note) .issue "1" (visibleIssue true) := by
  obtain ⟨d, hd⟩ : ∃ d, (anyType .note).build {} = .ok d := ⟨_, rfl⟩
  refine ⟨d, hd, ?_, fun h => ?_⟩
  · cases hd
    decide +kernel
  · have hno : ¬ Accepts "1" (visibleIssue true)
        (byConfidentiality .empty (anyType .note) .issue).queryClause := by decide +kernel
    exact hno h.confidentiality

end Access

end TenantSearch
