/-
The policy on what the fields of a source hold exactly. To the index two values are the same when they
are as doubles, so beyond 2 ^ 53 it may take one id for another. Truth values, visibilities and the
settings of features are always told apart. Ids are where those that a request names are below 2 ^ 53, or
the numbers of the source are; there what the index takes for readable is readable.
-/
import TenantSearch.Proofs.Compile.Facets

namespace TenantSearch

open Index

/-! ## The ids of a request -/

/-- The ids that a user comes with. -/
inductive CurrentUser.Names (u : CurrentUser) : Id → Prop where
  | own : u.Names u.id
  | project (p : ProjectMembership) : p ∈ u.projects → u.Names p.projectId
  | group (g : GroupMembership) : g ∈ u.groups → u.Names g.groupId

/-- The ids that the fields of a source are compared with: those of the projects searched, and those
that the user comes with. -/
inductive SearchOptions.Names (o : SearchOptions) : Id → Prop where
  | searched (i : Id) : o.searchLevel = some .project → i ∈ o.projectIds → o.Names i
  | user (u : CurrentUser) (i : Id) : o.currentUser = some u → u.Names i → o.Names i

namespace Access

variable {source : Json} {field : String} {user : Option CurrentUser} {u : CurrentUser} {t : DocType}
variable {role : AccessLevel} {feature : Option Feature} {o : SearchOptions} {i : Id}

/-! ## Exact values -/

/-- The exact view: one of the values of a field is the value itself, or the same number, as an integer or
not. -/
def Holds (source : Json) (field : String) (v : Json) : Prop :=
  ∃ x ∈ fieldValues source field, x = v ∨ ∃ q, x.number? = some q ∧ v.number? = some q

/-- An id is below 2 ^ 53, or the numbers of a source are. Then the index takes no other number of the
source for the id. -/
def KeptApart (source : Json) (i : Id) : Prop := i.toNat < 2 ^ 53 ∨ SmallNumbers source

theorem carries_bool_iff_holds {b : Bool} :
    Carries source field (.bool b) ↔ Holds source field (.bool b) := by
  simp [Carries, Holds, valuesEqual_bool, Json.number?]

theorem holds_id_iff : Holds source field (.ofUInt64 i) ↔
    ∃ x ∈ fieldValues source field, x.number? = some (i.toNat : ℚ) := by
  have hnumber : (Json.ofUInt64 i).number? = some (i.toNat : ℚ) := rfl
  refine exists_congr fun x => and_congr_right fun _ => ?_
  rw [hnumber]
  constructor
  · rintro (rfl | ⟨q, hq, hi⟩)
    · exact hnumber
    · rw [hq, hi]
  · exact fun hq => .inr ⟨_, hq, rfl⟩

theorem carriesId_iff_holds (hi : KeptApart source i) :
    CarriesId source field i ↔ Holds source field (.ofUInt64 i) := by
  rw [holds_id_iff]
  refine exists_congr fun x => and_congr_right fun hx => ?_
  rcases hi with hsmall | hsmall
  · exact valuesEqual_small (j := .ofUInt64 i) hsmall x
  · exact valuesEqual_int (hsmall field x hx) (.ofUInt64 i)

theorem KeptApart.visibility (l : Visibility) : KeptApart source l.stored :=
  .inl (by cases l <;> decide)

theorem KeptApart.featureAccess (l : FeatureAccess) : KeptApart source l.stored :=
  .inl (by cases l <;> decide)

/-! ## The policy on exact values -/

theorem FeatureAt.exact {levels : List FeatureAccess} (h : FeatureAt Carries source levels feature) :
    FeatureAt Holds source levels feature := by
  cases feature with
  | none => trivial
  | some f =>
    obtain ⟨l, hl, hc⟩ := h
    exact ⟨l, hl, (carriesId_iff_holds (.featureAccess l)).1 hc⟩

theorem MemberOf.exact (hu : ∀ i, u.Names i → KeptApart source i) (h : MemberOf Carries u t role source) :
    MemberOf Holds u t role source := by
  rcases h with ⟨p, ht, hp, hrole, hc⟩ | ⟨g, ht, hg, hrole, hc⟩ | ⟨g, hg, hrole, hne, hunder⟩
  · exact .project p ht hp hrole ((carriesId_iff_holds (hu _ (.project p hp))).1 hc)
  · exact .group g ht hg hrole ((carriesId_iff_holds (hu _ (.group g hg))).1 hc)
  · exact .above g hg hrole hne hunder

theorem Opened.exact (huser : ∀ u, user = some u → ∀ i, u.Names i → KeptApart source i)
    (h : Opened Carries user t feature source) : Opened Holds user t feature source := by
  rcases h with ⟨hc, hf⟩ | ⟨u, hu, hext, hc, hf⟩ | ⟨u, hu, hm, hf⟩
  · exact .pub ((carriesId_iff_holds (.visibility .pub)).1 hc) hf.exact
  · exact .internal u hu hext ((carriesId_iff_holds (.visibility .internal)).1 hc) hf.exact
  · exact .member u hu (hm.exact (huser u hu)) hf.exact

theorem Reader.exact (hu : ∀ i, u.Names i → KeptApart source i) (h : Reader Carries u t source) :
    Reader Holds u t source := by
  rcases h with hc | hc | ⟨p, ht, hp, hrole, hc⟩ | ⟨g, hg, hrole, hunder⟩
  · exact .author ((carriesId_iff_holds (hu _ .own)).1 hc)
  · exact .assignee ((carriesId_iff_holds (hu _ .own)).1 hc)
  · exact .project p ht hp hrole ((carriesId_iff_holds (hu _ (.project p hp))).1 hc)
  · exact .above g hg hrole hunder

theorem InScope.exact (ho : ∀ i, o.Names i → KeptApart source i) (h : InScope Carries o source) :
    InScope Holds o source := by
  unfold InScope at h ⊢
  split at h
  · rename_i hl
    obtain ⟨i, hi, hc⟩ := h
    exact ⟨i, hi, (carriesId_iff_holds (ho i (.searched i hl hi))).1 hc⟩
  · exact h
  · trivial

/-- Where the ids of a request are told apart, a source that is readable to the index is readable. -/
theorem Readable.exact (ho : ∀ i, o.Names i → KeptApart source i) (h : Readable Carries o t source) :
    Readable Holds o t source := by
  have huser : ∀ u, o.currentUser = some u → ∀ i, u.Names i → KeptApart source i :=
    fun u hu i hi => ho i (.user u i hu hi)
  refine ⟨h.allowed, h.docType, h.scope.exact ho, fun ha => ?_, fun hp ht hi => ?_, fun ht => ?_, ?_⟩
  · rcases h.opened ha with ⟨f, hf, hopened⟩ | ⟨hnone, hopened⟩
    · exact .inl ⟨f, hf, hopened.exact huser⟩
    · exact .inr ⟨hnone, hopened.exact huser⟩
  · exact (h.notArchived hp ht hi).imp_left carries_bool_iff_holds.1
  · rcases h.confidential ht with hc | ⟨u, hu, hall | hall | ⟨hc, hreader⟩⟩
    · exact .inl (carries_bool_iff_holds.1 hc)
    · exact .inr ⟨u, hu, .inl hall⟩
    · exact .inr ⟨u, hu, .inr (.inl hall)⟩
    · exact .inr ⟨u, hu, .inr (.inr ⟨carries_bool_iff_holds.1 hc, hreader.exact (huser u hu)⟩)⟩
  · rw [← carries_bool_iff_holds]
    exact h.notHidden

end Access

end TenantSearch
