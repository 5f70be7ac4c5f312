/-
What the facets of a request mean, type by type. A facet is read off the values that a source has for a
field: numbers by value, texts as they are, a label that ends in `::*` as all labels of its scope. The
clauses compiled for a type of documents hold of a source exactly when every facet of that type does,
as long as the numbers of the source are small enough for doubles to keep them apart. What is asked
for by other facets has no effect.
-/
import TenantSearch.Proofs.Compile.Steps
import TenantSearch.Proofs.Access.Policy
import TenantSearch.Proofs.Index.Integers

namespace TenantSearch

open Index QueryDocument

/-! ## Values of a source -/

/-- The numbers of a source are less than 2 ^ 53, so that a double keeps them apart. -/
def SmallNumbers (source : Json) : Prop :=
  ∀ field, ∀ x ∈ fieldValues source field, ∀ q, x.number? = some q → |q| < 2 ^ 53

/-- The numbers of an object are small where those of each member are. -/
theorem smallNumbers_obj {fs : List (String × Json)} (h : ∀ e ∈ fs, ∀ x ∈ fieldValues (.obj [e]) e.1,
    ∀ q, x.number? = some q → |q| < 2 ^ 53) : SmallNumbers (.obj fs) := by
  intro field x hx
  have hget : Json.get? (.obj fs) field = fs.lookup field := rfl
  cases hv : fs.lookup field with
  | none =>
    unfold fieldValues fieldValue at hx
    rw [hget, hv] at hx
    cases hx
  | some v =>
    obtain ⟨before, after, hfs, -⟩ := List.lookup_eq_some_iff.1 hv
    have hmember : Json.get? (.obj [(field, v)]) field = some v := by simp [Json.get?]
    have hsame : fieldValues (.obj [(field, v)]) field = fieldValues (.obj fs) field := by
      unfold fieldValues fieldValue
      rw [hget, hv, hmember]
    exact h (field, v) (by simp [hfs]) x (hsame ▸ hx)

/-- One of the values of a field is a number, as an integer or not. -/
def HasNumber (source : Json) (field : String) (i : Int) : Prop :=
  ∃ x ∈ fieldValues source field, x.number? = some (i : ℚ)

/-- One of the values of a field is a text. -/
def HasText (source : Json) (field : String) (s : String) : Prop := .str s ∈ fieldValues source field

/-- A field is missing, null or an empty list. -/
def Absent (source : Json) (field : String) : Prop :=
  source.get? field = none ∨ source.get? field = some .null ∨ source.get? field = some (.arr [])

/-- A label is what is asked for: any label of a scope, or the one label. -/
inductive LabelFits (wanted label : String) : Prop where
  | scoped (scope : String) : wanted = scope ++ "::*" → (scope ++ "::").toList <+: label.toList →
      LabelFits wanted label
  | equal : (∀ scope, wanted ≠ scope ++ "::*") → label = wanted → LabelFits wanted label

def HasLabel (source : Json) (wanted : String) : Prop :=
  ∃ label, HasText source "label_names" label ∧ LabelFits wanted label

/-! ## Facets -/

/-- A single value, if one is asked for, and not another one. -/
def Matches {α : Type} (p : α → Prop) (value notValue : Option α) : Prop :=
  (∀ a, value = some a → p a) ∧ ∀ a, notValue = some a → ¬ p a

/-- Some value of a list, unless the list is empty, and no value of another one. -/
def Chooses {α : Type} (p : α → Prop) (values notValues : List α) : Prop :=
  (values ≠ [] → ∃ a ∈ values, p a) ∧ ∀ a ∈ notValues, ¬ p a

def Wildcard.Holds (source : Json) (field : String) : Option Wildcard → Prop
  | some .absent => Absent source field
  | some .any => ¬ Absent source field
  | none => True

/-- What a facet asks of a source. -/
def Facet.Holds (f : Facets) (source : Json) : Facet → Prop
  | .author => Matches (fun i : Id => HasNumber source "author_id" i.toNat) f.authorId f.notAuthorId
  | .assignees => (∀ i ∈ f.assigneeIds, HasNumber source "assignee_id" i.toNat) ∧
      Chooses (fun i : Id => HasNumber source "assignee_id" i.toNat) f.orAssigneeIds f.notAssigneeIds ∧
      Wildcard.Holds source "assignee_id" f.assigneeWildcard
  | .labels => (∀ l ∈ f.labelNames, HasLabel source l) ∧
      Chooses (HasLabel source) f.orLabelNames f.notLabelNames ∧
      Wildcard.Holds source "label_names" f.labelWildcard
  | .milestone => Chooses (HasText source "milestone_title") f.milestoneTitles f.notMilestoneTitles ∧
      Wildcard.Holds source "milestone_title" f.milestoneWildcard
  | .weight => Matches (fun w : Int64 => HasNumber source "weight" w.toInt) f.weight f.notWeight ∧
      Wildcard.Holds source "weight" f.weightWildcard
  | .health => Chooses (fun h : HealthStatus => HasNumber source "health_status" h.stored.toNat)
      f.healthStatus f.notHealthStatus ∧ Wildcard.Holds source "health_status" f.healthStatusWildcard
  | .state => ∀ s, f.state = some s → s ≠ .all → HasText source "state" s.name
  | .confidential => ∀ b, f.confidential = some b → .bool b ∈ fieldValues source "confidential"
  | .branches => Chooses (HasText source "source_branch") f.sourceBranches f.notSourceBranches ∧
      Chooses (HasText source "target_branch") f.targetBranches f.notTargetBranches
  | .workItemType => Chooses (fun i : Id => HasNumber source "work_item_type_id" i.toNat)
      f.workItemTypeIds f.notWorkItemTypeIds
  | .languages => f.languages ≠ [] → ∃ s ∈ f.languages, HasText source "language" s

/-- The facets that documents of a type have, apart from dates. -/
def Facet.supported : DocType → List Facet
  | .issue => [.author, .assignees, .labels, .milestone, .weight, .health, .state, .confidential]
  | .workItem =>
    [.author, .assignees, .labels, .milestone, .weight, .health, .state, .confidential, .workItemType]
  | .mergeRequest => [.author, .assignees, .labels, .milestone, .state, .branches]
  | .epic => [.author, .labels, .health, .state, .confidential]
  | .note => [.author]
  | .milestone => [.state]
  | .blob => [.languages]
  | .project | .user | .wikiBlob | .commit => []

/-! ## What a step means -/

/-- A step adds conditions that ask one thing of a source. -/
structure QueryDocument.Means (g : QueryDocument → QueryDocument) (p : Json → Prop) : Prop where
  adds : Adds g
  accepts : ∀ id source, SmallNumbers source → (Accepts id source (g .empty).queryClause ↔ p source)

namespace QueryDocument.Means

variable {f g : QueryDocument → QueryDocument} {p q : Json → Prop} {c : Clause} {α : Type}

theorem congr (h : Means g p) (hpq : ∀ source, p source ↔ q source) : Means g q :=
  ⟨h.adds, fun id source hs => (h.accepts id source hs).trans (hpq source)⟩

theorem nothing : Means (fun d => d) fun _ => True :=
  ⟨.nothing, fun _ _ _ => iff_of_true Plain.accepts_empty trivial⟩

theorem filter (hc : Decided c)
    (h : ∀ id source, SmallNumbers source → (Accepts id source c ↔ p source)) :
    Means (fun d => d.filter c) p := by
  refine ⟨.filter .nothing hc, fun id source hs => ?_⟩
  rw [Plain.empty.accepts_filter, and_iff_right Plain.accepts_empty, h id source hs]

theorem mustNot (hc : Decided c)
    (h : ∀ id source, SmallNumbers source → (Accepts id source c ↔ p source)) :
    Means (fun d => d.mustNot c) fun source => ¬ p source := by
  refine ⟨.mustNot .nothing hc, fun id source hs => ?_⟩
  rw [Plain.empty.accepts_mustNot, and_iff_right Plain.accepts_empty, hc.outcome_false_iff,
    h id source hs]

theorem comp (hf : Means f p) (hg : Means g q) :
    Means (fun d => g (f d)) fun source => p source ∧ q source := by
  refine ⟨hf.adds.comp hg.adds, fun id source hs => ?_⟩
  rw [hg.adds.accepts_iff (hf.adds.plain .empty), hf.accepts id source hs, hg.accepts id source hs]

/-- A step for each of some things asks for all of them. -/
theorem foldl {h : QueryDocument → α → QueryDocument} {r : α → Json → Prop}
    (hh : ∀ a, Means (fun d => h d a) (r a)) : ∀ as : List α,
      Means (fun d => as.foldl h d) fun source => ∀ a ∈ as, r a source
  | [] => nothing.congr fun source => by simp
  | a :: as => ((hh a).comp (foldl hh as)).congr fun source => by rw [List.forall_mem_cons]

end QueryDocument.Means

/-! ## Terms -/

/-- The values looked for in a field stand for something that a source has or not. -/
def Denotes {α : Type} (field : String) (value : α → Json) (p : Json → α → Prop) : Prop :=
  ∀ source, SmallNumbers source → ∀ a, (Access.Carries source field (value a) ↔ p source a)

theorem denotes_int {α : Type} (field : String) (j : α → Integer) :
    Denotes field (fun a => .int (j a)) fun source a => HasNumber source field (j a).val := by
  intro source hs a
  refine exists_congr fun x => and_congr_right fun hx => ?_
  exact valuesEqual_int (hs field x hx) (j a)

theorem denotes_id (field : String) :
    Denotes field Json.ofUInt64 fun source i => HasNumber source field i.toNat :=
  denotes_int field Integer.ofUInt64

theorem denotes_text (field : String) :
    Denotes field Json.str fun source s => HasText source field s := fun _ _ _ => Access.carries_str

theorem denotes_truth (field : String) :
    Denotes field Json.bool fun source b => .bool b ∈ fieldValues source field := by
  intro source _ b
  simp [Access.Carries, Access.valuesEqual_bool]

section

variable {α : Type} {field : String} {value : α → Json} {p : Json → α → Prop}

theorem means_term (hv : Denotes field value p) (a : α) :
    Means (fun d => d.filter (.term field (value a))) fun source => p source a :=
  .filter (decided_term _ _) fun _ source hs => Access.accepts_term_iff.trans (hv source hs a)

theorem means_notTerm (hv : Denotes field value p) (a : α) :
    Means (fun d => d.mustNot (.term field (value a))) fun source => ¬ p source a :=
  .mustNot (decided_term _ _) fun _ source hs => Access.accepts_term_iff.trans (hv source hs a)

theorem accepts_terms_iff (hv : Denotes field value p) (as : List α) (id : String) (source : Json)
    (hs : SmallNumbers source) :
    Accepts id source (.terms field (as.map value)) ↔ ∃ a ∈ as, p source a := by
  rw [Access.accepts_terms_map]
  simp only [hv source hs]

theorem means_filterTerms (hv : Denotes field value p) (as : List α) :
    Means (fun d => Facets.filterTerms d field (as.map value))
      fun source => as ≠ [] → ∃ a ∈ as, p source a := by
  cases as with
  | nil => exact Means.nothing.congr fun source => by simp
  | cons a as =>
    refine (Means.filter (decided_terms _ _) (accepts_terms_iff hv (a :: as))).congr fun source => ?_
    simp

theorem means_excludeTerms (hv : Denotes field value p) (as : List α) :
    Means (fun d => Facets.excludeTerms d field (as.map value))
      fun source => ∀ a ∈ as, ¬ p source a := by
  cases as with
  | nil => exact Means.nothing.congr fun source => by simp
  | cons a as =>
    refine (Means.mustNot (decided_terms _ _) (accepts_terms_iff hv (a :: as))).congr fun source => ?_
    simp only [not_exists, not_and]

theorem means_chooses (hv : Denotes field value p) (as bs : List α) :
    Means (fun d => Facets.excludeTerms (Facets.filterTerms d field (as.map value)) field (bs.map value))
      fun source => Chooses (p source) as bs :=
  (means_filterTerms hv as).comp (means_excludeTerms hv bs)

theorem means_byTerm (hv : Denotes field value p) (a b : Option α) :
    Means (fun d => Facets.byTerm d field (a.map value) (b.map value))
      fun source => Matches (p source) a b := by
  unfold Facets.byTerm Matches
  cases a <;> cases b
  · exact Means.nothing.congr fun source => by simp
  · exact (means_notTerm hv _).congr fun source => by simp
  · exact (means_term hv _).congr fun source => by simp
  · exact ((means_term hv _).comp (means_notTerm hv _)).congr fun source => by simp

end

theorem fieldValue_eq_none {source : Json} {field : String} :
    fieldValue source field = none ↔ Absent source field := by
  unfold fieldValue Absent
  split <;> simp_all

theorem means_byWildcard (field : String) (w : Option Wildcard) :
    Means (fun d => Facets.byWildcard d field w) fun source => Wildcard.Holds source field w := by
  have hexist : ∀ id source, SmallNumbers source →
      (Accepts id source (.exist field) ↔ ¬ Absent source field) := by
    intro id source _
    rw [Accepts, outcome_exist, Except.ok.injEq, ← fieldValue_eq_none, Option.isSome_iff_ne_none]
  rcases w with _ | _ | _
  · exact .nothing
  · exact (Means.mustNot (decided_exist field) hexist).congr fun source => not_not
  · exact .filter (decided_exist field) hexist

/-! ## Labels -/

theorem labelFits_scoped_iff {wanted label : String} {scope : List Char}
    (h : wanted.toList.reverse = '*' :: ':' :: ':' :: scope) :
    LabelFits wanted label ↔ scope.reverse ++ [':', ':'] <+: label.toList := by
  have hchars : wanted.toList = scope.reverse ++ [':', ':', '*'] := by
    rw [← List.reverse_reverse wanted.toList, h]
    simp
  have hwanted : wanted = String.ofList scope.reverse ++ "::*" := by
    apply String.toList_injective
    rw [hchars, String.toList_append, String.toList_ofList]
    rfl
  constructor
  · rintro (⟨scope', hscope, hprefix⟩ | ⟨hno, -⟩)
    · obtain rfl : scope' = String.ofList scope.reverse :=
        (String.append_left_inj _).1 (hscope.symm.trans hwanted)
      rwa [String.toList_append, String.toList_ofList] at hprefix
    · exact absurd hwanted (hno _)
  · intro hprefix
    refine .scoped _ hwanted ?_
    rwa [String.toList_append, String.toList_ofList]

theorem labelFits_plain_iff {wanted label : String}
    (h : ∀ scope, wanted.toList.reverse ≠ '*' :: ':' :: ':' :: scope) :
    LabelFits wanted label ↔ label = wanted := by
  have hno : ∀ scope, wanted ≠ scope ++ "::*" := by
    rintro scope rfl
    apply h scope.toList.reverse
    rw [String.toList_append, List.reverse_append]
    rfl
  constructor
  · rintro (⟨scope, hscope, -⟩ | ⟨-, heq⟩)
    · exact absurd hscope (hno scope)
    · exact heq
  · exact .equal hno

theorem accepts_labelClause {id : String} {source : Json} (wanted : String) (hs : SmallNumbers source) :
    Accepts id source (Facets.labelClause wanted) ↔ HasLabel source wanted := by
  unfold Facets.labelClause HasLabel
  split
  · rename_i scope h
    simp only [labelFits_scoped_iff h]
    rw [accepts_startsWith, String.toList_ofList]
    rfl
  · rename_i h
    simp only [labelFits_plain_iff fun scope heq => h scope heq]
    rw [Access.accepts_term_iff, denotes_text "label_names" source hs]
    simp

theorem means_labels (wanted : List String) :
    Means (fun d => wanted.foldl (fun d label => d.filter (Facets.labelClause label)) d)
      fun source => ∀ label ∈ wanted, HasLabel source label :=
  .foldl (fun label => .filter (Facets.decided_labelClause label)
    fun _ _ => accepts_labelClause label) wanted

theorem means_notLabels (wanted : List String) :
    Means (fun d => wanted.foldl (fun d label => d.mustNot (Facets.labelClause label)) d)
      fun source => ∀ label ∈ wanted, ¬ HasLabel source label :=
  .foldl (fun label => .mustNot (Facets.decided_labelClause label)
    fun _ _ => accepts_labelClause label) wanted

theorem means_anyLabel (wanted : List String) :
    Means (fun d => if wanted.isEmpty then d else d.filter (.anyOf (wanted.map Facets.labelClause)))
      fun source => wanted ≠ [] → ∃ label ∈ wanted, HasLabel source label := by
  have hdecided := Facets.decided_labelClauses wanted
  have hany : ∀ id source, SmallNumbers source →
      (Accepts id source (.anyOf (wanted.map Facets.labelClause)) ↔
        ∃ label ∈ wanted, HasLabel source label) := by
    intro id source hs
    rw [accepts_anyOf hdecided]
    simp only [List.mem_map, exists_exists_and_eq_and, accepts_labelClause _ hs]
  cases wanted with
  | nil => exact Means.nothing.congr fun source => by simp
  | cons label wanted =>
    refine (Means.filter (decided_anyOf hdecided) hany).congr fun source => ?_
    simp

/-! ## The facets of a type -/

theorem Facet.means (f : Facets) (x : Facet) : Means (fun d => x.add d f) fun source => x.Holds f source := by
  cases x with
  | author => exact means_byTerm (denotes_id "author_id") f.authorId f.notAuthorId
  | assignees =>
    have hid := denotes_id "assignee_id"
    have hall : Means (fun d => f.assigneeIds.foldl
        (fun d i => d.filter (.term "assignee_id" (.ofUInt64 i))) d) _ :=
      .foldl (means_term hid) f.assigneeIds
    exact ((hall.comp (means_chooses hid f.orAssigneeIds f.notAssigneeIds)).comp
      (means_byWildcard "assignee_id" f.assigneeWildcard)).congr fun source => and_assoc
  | labels =>
    have hchoice := (means_anyLabel f.orLabelNames).comp (means_notLabels f.notLabelNames)
    exact (((means_labels f.labelNames).comp hchoice).comp
      (means_byWildcard "label_names" f.labelWildcard)).congr fun source => and_assoc
  | milestone =>
    exact (means_chooses (denotes_text "milestone_title") f.milestoneTitles f.notMilestoneTitles).comp
      (means_byWildcard "milestone_title" f.milestoneWildcard)
  | weight =>
    exact (means_byTerm (denotes_int "weight" Integer.ofInt64) f.weight f.notWeight).comp
      (means_byWildcard "weight" f.weightWildcard)
  | health =>
    have hstored := denotes_int "health_status" fun h : HealthStatus => .ofUInt64 h.stored
    exact (means_chooses hstored f.healthStatus f.notHealthStatus).comp
      (means_byWildcard "health_status" f.healthStatusWildcard)
  | state =>
    show Means (fun d => Facets.byState d f) fun source =>
      ∀ s, f.state = some s → s ≠ .all → HasText source "state" s.name
    unfold Facets.byState
    rcases f.state with _ | state
    · exact Means.nothing.congr fun source => by simp
    · have hterm := means_term (denotes_text "state") state.name
      cases state with
      | all => exact Means.nothing.congr fun source => by simp
      | opened | closed | merged | locked => exact hterm.congr fun source => by simp
  | confidential =>
    show Means (fun d => Facets.byConfidential d f) fun source =>
      ∀ b, f.confidential = some b → .bool b ∈ fieldValues source "confidential"
    unfold Facets.byConfidential
    cases f.confidential with
    | none => exact Means.nothing.congr fun source => by simp
    | some b => exact (means_term (denotes_truth "confidential") b).congr fun source => by simp
  | branches =>
    exact (means_chooses (denotes_text "source_branch") f.sourceBranches f.notSourceBranches).comp
      (means_chooses (denotes_text "target_branch") f.targetBranches f.notTargetBranches)
  | workItemType =>
    exact means_chooses (denotes_id "work_item_type_id") f.workItemTypeIds f.notWorkItemTypeIds
  | languages => exact means_filterTerms (denotes_text "language") f.languages

/-- A request without bounds on dates. -/
structure Facets.Undated (f : Facets) : Prop where
  created : f.created = {}
  updated : f.updated = {}
  closed : f.closed = {}
  due : f.due = {}

namespace Facets

variable {f : Facets} {t : DocType}

theorem Undated.byDates (h : f.Undated) (d : QueryDocument) : Facets.byDates d f = .ok d := by
  unfold Facets.byDates
  rw [h.created, h.updated, h.closed, h.due]
  rfl

/-- The facets of a type are added one after the other. -/
theorem apply_eq_foldl (h : f.Undated) (t : DocType) (d : QueryDocument) :
    apply d f t = .ok ((Facet.supported t).foldl (fun d x => x.add d f) d) := by
  cases t <;> first | exact h.byDates _ | rfl

/-- The facets of a request without bounds on dates compile for every type of documents, and what they
compile to holds of a source exactly when every facet that documents of the type have does. -/
theorem apply_means (h : f.Undated) (t : DocType) : ∃ d, apply .empty f t = .ok d ∧
    ∀ id source, SmallNumbers source →
      (Accepts id source d.queryClause ↔ ∀ x ∈ Facet.supported t, x.Holds f source) :=
  ⟨_, apply_eq_foldl h t .empty, (Means.foldl (Facet.means f) (Facet.supported t)).accepts⟩

/-- Work of a priority, not assigned to one user, and due in some milestone. The branch and the
language are no facets of issues. -/
def urgentWork : Facets where
  labelNames := ["priority::*"]
  notAssigneeIds := [7]
  milestoneWildcard := some .any
  weight := some (-3)
  sourceBranches := ["main"]
  languages := ["rust"]

def urgentIssue : Json :=
  .obj [("assignee_id", .arr [.int ⟨5, by decide⟩, .int ⟨6, by decide⟩]),
    ("label_names", .arr [.str "bug", .str "priority::high"]), ("milestone_title", .str "next"),
    ("weight", .int ⟨-3, by decide⟩)]

theorem smallNumbers_urgentIssue : SmallNumbers urgentIssue := by
  have hsmall : ((5 : ℚ) < 2 ^ 53 ∧ (6 : ℚ) < 2 ^ 53) ∧ (3 : ℚ) < 2 ^ 53 := by norm_num
  apply smallNumbers_obj
  simpa [fieldValues, fieldValue, Json.get?, Json.number?] using hsmall

theorem apply_means_urgentIssue : urgentWork.Undated ∧ SmallNumbers urgentIssue ∧
    ∃ d, apply .empty urgentWork .issue = .ok d ∧ Accepts "1" urgentIssue d.queryClause ∧
      ∀ x ∈ Facet.supported .issue, x.Holds urgentWork urgentIssue := by
  have hundated : urgentWork.Undated := ⟨rfl, rfl, rfl, rfl⟩
  obtain ⟨d, hd, hmeans⟩ := apply_means hundated .issue
  have hfound : Accepts "1" urgentIssue d.queryClause := by
    cases hd
    decide +kernel
  exact ⟨hundated, smallNumbers_urgentIssue, d, hd, hfound,
    (hmeans "1" urgentIssue smallNumbers_urgentIssue).1 hfound⟩

end Facets

end TenantSearch
