/-
The access policy on one source, stated without clauses: in which scope it lies, what opens it to a
user (its visibility, or a membership with role enough), who reads it when it is confidential, and
whether it is hidden. The clauses on one field say just what the policy asks of the field.

The policy does not say when a field has a value: it is stated over a view of the fields. A field may
hold several values. To the index it carries a value when one of them is the same to it, which compares
numbers as doubles.
-/
import TenantSearch.Proofs.Compile.Narrowing

namespace TenantSearch.Access

open Index

/-! ## Fields of a source -/

/-- Which values the fields of a source have. -/
abbrev View := Json → String → Json → Prop

/-- The view of the index: one of the values of a field is the same to it. -/
def Carries (source : Json) (field : String) (v : Json) : Prop :=
  ∃ x ∈ fieldValues source field, valuesEqual x v = true

abbrev CarriesId (source : Json) (field : String) (id : Id) : Prop :=
  Carries source field (.ofUInt64 id)

/-- The group of a path, or the project in it, holds the source: the source's path begins with it. -/
def Under (source : Json) (path : Path) : Prop :=
  ∃ s, .str s ∈ fieldValues source "traversal_ids" ∧ (traversalPath path).toList <+: s.toList

abbrev UnderAny (source : Json) (paths : List Path) : Prop := ∃ path ∈ paths, Under source path

/-- The feature of a source stands at one of some settings. Without a feature nothing is asked. -/
def FeatureAt (view : View) (source : Json) (levels : List FeatureAccess) : Option Feature → Prop
  | some f => ∃ l ∈ levels, view source f.accessField (.ofUInt64 l.stored)
  | none => True

/-! ## The policy -/

/-- The role that reads a feature where only members may; without a feature every member does. -/
def memberRole (feature : Option Feature) : AccessLevel := (feature.map Feature.minimumRole).getD .guest

/-- A user belongs to the project of a source, or to its group for documents of groups, or to a
group at or above its path, with at least a role. -/
inductive MemberOf (view : View) (u : CurrentUser) (t : DocType) (role : AccessLevel)
    (source : Json) : Prop where
  | project (p : ProjectMembership) : t.scope ≠ .group → p ∈ u.projects → p.accessLevel.atLeast role →
      view source "project_id" (.ofUInt64 p.projectId) → MemberOf view u t role source
  | group (g : GroupMembership) : t.scope = .group → g ∈ u.groups → g.accessLevel.atLeast role →
      view source "namespace_id" (.ofUInt64 g.groupId) → MemberOf view u t role source
  | above (g : GroupMembership) : g ∈ u.groups → g.accessLevel.atLeast role → g.traversalIds ≠ [] →
      Under source g.traversalIds → MemberOf view u t role source

/-- What opens a source for a feature, or without one: public visibility, internal visibility for
a user who is not external, or membership with the role that the feature asks for. -/
inductive Opened (view : View) (user : Option CurrentUser) (t : DocType) (feature : Option Feature)
    (source : Json) : Prop where
  | pub : view source t.visibilityField (.ofUInt64 Visibility.pub.stored) →
      FeatureAt view source [.enabled] feature → Opened view user t feature source
  | internal (u : CurrentUser) : user = some u → u.external = false →
      view source t.visibilityField (.ofUInt64 Visibility.internal.stored) →
      FeatureAt view source [.enabled] feature → Opened view user t feature source
  | member (u : CurrentUser) : user = some u → MemberOf view u t (memberRole feature) source →
      FeatureAt view source [.enabled, .priv] feature → Opened view user t feature source

/-- Who reads a confidential source of a type: its author, its assignees, and who is at least a
reporter of its project or of a group at or above its path. -/
inductive Reader (view : View) (u : CurrentUser) (t : DocType) (source : Json) : Prop where
  | author : view source "author_id" (.ofUInt64 u.id) → Reader view u t source
  | assignee : view source "assignee_id" (.ofUInt64 u.id) → Reader view u t source
  | project (p : ProjectMembership) : t.scope = .project → p ∈ u.projects →
      p.accessLevel.atLeast .reporter → view source "project_id" (.ofUInt64 p.projectId) →
      Reader view u t source
  | above (g : GroupMembership) : g ∈ u.groups → g.accessLevel.atLeast .reporter →
      Under source g.traversalIds → Reader view u t source

/-- The source lies in the scope that the request names. -/
def InScope (view : View) (o : SearchOptions) (source : Json) : Prop :=
  match o.searchLevel with
  | some .project => ∃ id ∈ o.projectIds, view source "project_id" (.ofUInt64 id)
  | some .group => ∃ g ∈ o.groupIds, ∃ path, o.groupPaths.lookup g = some path ∧ path ≠ [] ∧
      Under source path
  | _ => True

/-- The acting user may read a source as a document of a type. -/
structure Readable (view : View) (o : SearchOptions) (t : DocType) (source : Json) : Prop where
  /-- Searching more than projects is not denied. -/
  allowed : crossProjectDenied o = .ok false
  docType : .str t.name ∈ fieldValues source "type"
  scope : InScope view o source
  opened : o.isAdmin = false → (∃ f ∈ o.features, Opened view o.currentUser t (some f) source) ∨
    (o.features = [] ∧ Opened view o.currentUser t none source)
  notArchived : o.searchLevel ≠ some .project → t.hasArchived = true → o.includeArchived = false →
    view source "archived" (.bool false) ∨ fieldValue source "archived" = none
  confidential : t.hasConfidentiality = true → view source "confidential" (.bool false) ∨
    ∃ u, o.currentUser = some u ∧ (u.canReadAllResources = true ∨ u.canReadAllConfidential = true ∨
      (view source "confidential" (.bool true) ∧ Reader view u t source))
  notHidden : t.hasHidden = true → o.isAdmin = false → ¬ view source "hidden" (.bool true)

/-! ## Paths as texts -/

theorem traversalPath_nil : (traversalPath []).toList = [] := rfl

theorem toList_foldl_append (parts : List String) :
    ∀ s : String, (parts.foldl (· ++ ·) s).toList = s.toList ++ parts.flatMap String.toList := by
  induction parts with
  | nil => intro s; exact (List.append_nil _).symm
  | cons p rest ih =>
    intro s
    rw [List.foldl_cons, ih, String.toList_append, List.flatMap_cons, List.append_assoc]

theorem traversalPath_cons (i : Id) (path : Path) :
    (traversalPath (i :: path)).toList =
      Nat.toDigits 10 i.toNat ++ '-' :: (traversalPath path).toList := by
  have hjoin : ∀ parts : List String, (String.join parts).toList = parts.flatMap String.toList :=
    fun parts => toList_foldl_append parts ""
  unfold traversalPath
  rw [hjoin, hjoin, List.map_cons, List.flatMap_cons, String.toList_append]
  rw [show toString i.toNat = i.toNat.repr from rfl, Nat.toList_repr]
  simp

/-- Two texts of digits with the same end are the same up to it. -/
theorem prefix_of_digits {sep : Char} :
    ∀ {as bs xs ys : List Char}, sep ∉ as → sep ∉ bs → as ++ sep :: xs <+: bs ++ sep :: ys →
      as = bs ∧ xs <+: ys
  | [], [], _, _, _, _, h => ⟨rfl, (List.cons_prefix_cons.1 h).2⟩
  | [], b :: _, _, _, _, hb, h => absurd (List.cons_prefix_cons.1 h).1 fun he => hb (he ▸ List.mem_cons_self)
  | a :: _, [], _, _, ha, _, h => absurd (List.cons_prefix_cons.1 h).1 fun he => ha (he ▸ List.mem_cons_self)
  | a :: as, b :: bs, _, _, ha, hb, h => by
    obtain ⟨rfl, hrest⟩ := List.cons_prefix_cons.1 h
    have ha' : sep ∉ as := fun hm => ha (List.mem_cons_of_mem _ hm)
    have hb' : sep ∉ bs := fun hm => hb (List.mem_cons_of_mem _ hm)
    obtain ⟨rfl, hend⟩ := prefix_of_digits ha' hb' hrest
    exact ⟨rfl, hend⟩

theorem dash_not_mem_digits (n : Nat) : '-' ∉ Nat.toDigits 10 n := fun h => by
  have hdigit := Nat.isDigit_of_mem_toDigits (by decide) (by decide) h
  exact absurd hdigit (by decide)

/-- The indexed path of a group begins with that of another one exactly when the other is the group
itself or one above it. -/
theorem traversalPath_prefix_iff :
    ∀ {p q : Path}, (traversalPath p).toList <+: (traversalPath q).toList ↔ p <+: q
  | [], q => by
    rw [traversalPath_nil]
    exact ⟨fun _ => List.nil_prefix, fun _ => List.nil_prefix⟩
  | i :: p, [] => by
    rw [traversalPath_nil, traversalPath_cons, List.prefix_nil, List.prefix_nil]
    simp
  | i :: p, j :: q => by
    rw [traversalPath_cons, traversalPath_cons, List.cons_prefix_cons, ← traversalPath_prefix_iff]
    -- the dash ends an id, so the path of group 1 does not begin that of group 12
    constructor
    · intro h
      obtain ⟨hd, h⟩ := prefix_of_digits (dash_not_mem_digits _) (dash_not_mem_digits _) h
      have hn : i.toNat = j.toNat := by
        rw [← Nat.ofDigitChars_ten_toDigits (n := i.toNat), hd, Nat.ofDigitChars_ten_toDigits]
      exact ⟨UInt64.toNat_inj.1 hn, h⟩
    · rintro ⟨rfl, h⟩
      rw [List.prefix_append_right_inj, List.cons_prefix_cons]
      exact ⟨rfl, h⟩

/-- Where sources keep the path of their group, a source lies under exactly that group and those
above it. -/
theorem under_iff_ancestor {source : Json} {p q : Path}
    (h : fieldValues source "traversal_ids" = [.str (traversalPath q)]) :
    Under source p ↔ p <+: q := by
  unfold Under
  rw [h]
  constructor
  · rintro ⟨s, hs, hp⟩
    obtain rfl := Json.str.inj (List.mem_singleton.1 hs)
    exact traversalPath_prefix_iff.1 hp
  · intro hp
    exact ⟨_, List.mem_singleton_self _, traversalPath_prefix_iff.2 hp⟩

theorem groupPath_eq_ok {o : SearchOptions} {g : Id} {path : Path} (h : groupPath o g = .ok path) :
    o.groupPaths.lookup g = some path ∧ path ≠ [] := by
  unfold groupPath at h
  split at h
  · cases h
  · cases h
  · rename_i path' hne hl
    cases h
    exact ⟨hl, hne⟩

/-! ## What clauses on fields say -/

section Clauses

variable {id : String} {source : Json}

theorem accepts_term_iff {field : String} {v : Json} :
    Accepts id source (.term field v) ↔ Carries source field v := accepts_term

theorem accepts_terms_map {α : Type} {field : String} {as : List α} {f : α → Json} :
    Accepts id source (.terms field (as.map f)) ↔ ∃ a ∈ as, Carries source field (f a) := by
  rw [accepts_terms]
  constructor
  · rintro ⟨x, hx, v, hv, he⟩
    obtain ⟨a, ha, rfl⟩ := List.mem_map.1 hv
    exact ⟨a, ha, x, hx, he⟩
  · rintro ⟨a, ha, x, hx, he⟩
    exact ⟨x, hx, f a, List.mem_map_of_mem ha, he⟩

/-- To the index a text is the same as itself only. -/
theorem valuesEqual_str {x : Json} {s : String} : valuesEqual x (.str s) = true ↔ x = .str s := by
  cases x <;> simp [valuesEqual, Json.asDouble?, Json.same]

/-- A truth value is too. -/
theorem valuesEqual_bool {x : Json} {b : Bool} : valuesEqual x (.bool b) = true ↔ x = .bool b := by
  cases x <;> simp [valuesEqual, Json.asDouble?, Json.same]

theorem carries_str {field s : String} :
    Carries source field (.str s) ↔ .str s ∈ fieldValues source field := by
  simp [Carries, valuesEqual_str]

theorem accepts_pathClause {path : Path} : Accepts id source (pathClause path) ↔ Under source path :=
  accepts_startsWith

theorem exists_accepts_pathClause {paths : List Path} :
    (∃ c ∈ paths.map pathClause, Accepts id source c) ↔ UnderAny source paths := by
  simp only [List.mem_map, exists_exists_and_eq_and, accepts_pathClause]

theorem accepts_paths {paths : List Path} :
    Accepts id source (.anyOfFlat (paths.map pathClause)) ↔ UnderAny source paths := by
  rw [accepts_anyOfFlat (decided_pathClauses paths), exists_accepts_pathClause]

/-! ## Scope -/

variable {o : SearchOptions} {t : DocType}

theorem inScope_of_clause {e e' : QueryDocument} (hs : bySearchLevel e o t = .ok e')
    (h : ∀ c ∈ e'.query.filter, Accepts id source c) : InScope Carries o source := by
  unfold InScope
  rcases bySearchLevel_cases hs with ⟨hl, -⟩ | ⟨hl, rfl⟩ | ⟨hl, paths, hp, rfl⟩
  · rw [hl]; trivial
  · rw [hl]
    exact accepts_terms_map.1 (h _ (List.mem_append_right _ (List.mem_singleton_self _)))
  · rw [hl]
    obtain ⟨path, hpath, hu⟩ := accepts_paths.1 (h _ (List.mem_append_right _ (List.mem_singleton_self _)))
    obtain ⟨g, hg, hgp⟩ := exists_of_mem_mapM hp hpath
    obtain ⟨hl, hne⟩ := groupPath_eq_ok hgp
    exact ⟨g, hg, path, hl, hne, hu⟩

end Clauses

end TenantSearch.Access
