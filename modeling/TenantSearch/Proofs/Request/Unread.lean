/-
What a request may hold beside its settings. A member under a key that no field has is passed over, at
the top and in every record inside of a request, and so decides neither what is decoded nor which fault
is met first. Null under the key of a setting that may be absent stores what is there before anything is
stored, so it is the same as no member.
-/
import Mathlib.Data.List.Find
import TenantSearch.Proofs.Request.Dates

namespace TenantSearch

/-! ## Edits of values -/

namespace Json

/-- An object with a member set. A value that is no object stays as it is. -/
def addMember (key : String) (value : Json) : Json → Json
  | .obj ms => .obj (insertField key value ms)
  | v => v

/-- A list with the item at an index changed, if it has one there. -/
def editItem (i : Nat) (f : Json → Json) : Json → Json
  | .arr xs => .arr (xs.modify i f)
  | v => v

theorem isNull_addMember (key : String) (value v : Json) : (addMember key value v).isNull = v.isNull := by
  cases v <;> rfl

theorem any_insertField (key k : String) (value : Json) (ms : List (String × Json)) :
    (insertField key value ms).any (fun m => m.1 == k) = (key == k || ms.any fun m => m.1 == k) := by
  induction ms with
  | nil => rfl
  | cons m ms ih =>
    rw [insertField]
    split
    · rename_i h
      simp [h]
    split
    · rfl
    · rw [List.any_cons, List.any_cons, ih]
      exact Bool.or_left_comm ..

end Json

namespace Decode

variable {σ β : Type} {P : σ → Prop} {fields : List (Field Json σ)} {g : Field Json σ}
  {key name : String} {value v v' : Json} {f : Json → Json} {decode : Json → Except DecodeError β}
  {ms : List (String × Json)} {start : σ}

/-- A record with what stands for one of its fields changed: the member with the key of the field in an
object, the item at the place of the field in a list. -/
def editField (fields : List (Field Json σ)) (key : String) (f : Json → Json) : Json → Json
  | .obj ms => .obj (ms.map fun m => if m.1 = key then (m.1, f m.2) else m)
  | .arr xs => .arr (xs.modify (fields.findIdx fun g => g.key == key) f)
  | v => v

theorem isNull_editField (fields : List (Field Json σ)) (key : String) (f : Json → Json) (v : Json) :
    (editField fields key f v).isNull = v.isNull := by
  cases v <;> rfl

/-! ## Members that store nothing -/

/-- A member that changes no record of which `P` holds. -/
def Inert (fields : List (Field Json σ)) (P : σ → Prop) (m : String × Json) : Prop :=
  ∀ ms st, P st → storeMembers fields (m :: ms) st = storeMembers fields ms st

theorem inert_of_unknown (hkey : ∀ g ∈ fields, g.key ≠ key) : Inert fields P (key, value) := by
  intro ms st _
  have hnone : fields.find? (fun g => g.key == key) = none :=
    List.find?_eq_none.2 fun g hg => by simpa using hkey g hg
  rw [storeMembers, hnone]
  rfl

theorem inert_of_store (h : ∀ g ∈ fields, g.key = key → ∀ st, P st → g.store value st = .ok st) :
    Inert fields P (key, value) := by
  intro ms st hst
  rw [storeMembers]
  split
  · rename_i g hfind
    have hkey : g.key = key := by simpa using List.find?_some hfind
    rw [h g (List.mem_of_find?_eq_some hfind) hkey st hst]
    rfl
  · rfl

/-- A member that stores nothing may be set among others. The other fields keep `P` until its turn comes. -/
theorem storeMembers_insertField (hkeeps : ∀ g ∈ fields, g.key ≠ key → g.Keeps P)
    (hvalue : Inert fields P (key, value)) : ∀ {ms : List (String × Json)} {st : σ},
    (∀ v, (key, v) ∈ ms → Inert fields P (key, v)) → P st →
    storeMembers fields (Json.insertField key value ms) st = storeMembers fields ms st
  | [], st, _, hst => hvalue [] st hst
  | (k, v) :: ms, st, hold, hst => by
    rw [Json.insertField]
    split
    · rename_i hsame
      subst hsame
      rw [hvalue ms st hst, hold v List.mem_cons_self ms st hst]
    split
    · exact hvalue _ st hst
    rename_i hne _
    have hrest : ∀ {st}, P st →
        storeMembers fields (Json.insertField key value ms) st = storeMembers fields ms st :=
      storeMembers_insertField hkeeps hvalue fun v hv => hold v (List.mem_cons_of_mem _ hv)
    rw [storeMembers, storeMembers]
    split
    · rename_i g hfind
      have hkey : g.key = k := by simpa using List.find?_some hfind
      have hg : g.Keeps P := hkeeps g (List.mem_of_find?_eq_some hfind) (hkey ▸ Ne.symm hne)
      cases hstore : g.store v st with
      | error e => rfl
      | ok st' => exact hrest (hg v st st' hstore hst)
    · exact hrest hst

theorem missing?_insertField (hkey : ∀ g ∈ fields, g.presence = .required → g.key ≠ key) :
    missing? fields (Json.insertField key value ms) = missing? fields ms := by
  unfold missing?
  congr 1
  refine List.find?_congr fun g hg => ?_
  rw [Json.any_insertField]
  by_cases hrequired : g.presence = .required
  · have hne : (key == g.key) = false := by simpa using (hkey g hg hrequired).symm
    rw [hne, Bool.false_or]
  · rw [beq_false_of_ne hrequired]
    rfl

/-- A record is decoded the same with a member that no field has. -/
theorem record_addMember (hkey : key ∉ fields.map Field.key) (v : Json) :
    record name fields start (Json.addMember key value v) = record name fields start v := by
  have hkeys : ∀ g ∈ fields, g.key ≠ key := fun g hg h => hkey (List.mem_map.2 ⟨g, hg, h⟩)
  cases v with
  | obj ms =>
    show (storeMembers fields (Json.insertField key value ms) start >>= _) = _
    rw [storeMembers_insertField (P := fun _ => True) (fun _ _ _ _ _ _ _ _ => trivial)
      (inert_of_unknown hkeys) (fun _ _ => inert_of_unknown hkeys) trivial,
      missing?_insertField fun g hg _ => hkeys g hg]
    rfl
  | _ => rfl

/-! ## Records inside of records -/

theorem list_editItem (h : ∀ x, decode (f x) = decode x) (i : Nat) (v : Json) :
    list decode (Json.editItem i f v) = list decode v := by
  have hitems : ∀ (xs : List Json) (i : Nat), (xs.modify i f).mapM decode = xs.mapM decode := by
    intro xs
    induction xs with
    | nil => intro i; rw [List.modify_nil]
    | cons x xs ih =>
      rintro (_ | i)
      · rw [List.modify_zero_cons, List.mapM_cons, List.mapM_cons, h]
      · rw [List.modify_succ_cons, List.mapM_cons, List.mapM_cons, ih]
  cases v with
  | arr xs => exact hitems xs i
  | _ => rfl

theorem optional_congr (hdecode : decode v = decode v') (hnull : v.isNull = v'.isNull) :
    optional decode v = optional decode v' := by
  have hreads : ∀ v : Json, optional decode v = if v.isNull then .ok none else (decode v).map some := by
    intro v
    cases v <;> rfl
  rw [hreads, hreads, hdecode, hnull]

/-- A field stores the same of two values that decode to the same. -/
theorem store_congr {presence : Presence} {set : β → σ → σ} (h : ∀ x, decode (f x) = decode x) (x : Json)
    (st : σ) : (field key presence decode set).store (f x) st = (field key presence decode set).store x st := by
  unfold field
  dsimp only
  rw [h]

theorem storeMembers_editField (hfind : fields.find? (fun g => g.key == key) = some g)
    (hg : ∀ x st, g.store (f x) st = g.store x st) (ms : List (String × Json)) (st : σ) :
    storeMembers fields (ms.map fun m => if m.1 = key then (m.1, f m.2) else m) st =
      storeMembers fields ms st := by
  induction ms generalizing st with
  | nil => rfl
  | cons m ms ih =>
    obtain ⟨k, v⟩ := m
    rw [List.map_cons]
    dsimp only
    split
    · rename_i hsame
      subst hsame
      simp only [storeMembers, hfind, hg, ih]
    · simp only [storeMembers, ih]

theorem storeItems_editField {size : Nat} (hg : ∀ x st, g.store (f x) st = g.store x st) :
    ∀ {fields : List (Field Json σ)} (xs : List Json) (index : Nat) (st : σ),
    fields.find? (fun g => g.key == key) = some g →
    storeItems name size fields (xs.modify (fields.findIdx fun g => g.key == key) f) index st =
      storeItems name size fields xs index st
  | _, [], _, _, _ => by rw [List.modify_nil]
  | [], _ :: _, _, _, hfind => by cases hfind
  | g' :: fields, x :: xs, index, st, hfind => by
    rw [List.find?_cons] at hfind
    rw [List.findIdx_cons]
    cases hkey : g'.key == key with
    | true =>
      rw [hkey] at hfind
      cases hfind
      rw [cond_true, List.modify_zero_cons, storeItems, storeItems, hg]
    | false =>
      rw [hkey] at hfind
      rw [cond_false, List.modify_succ_cons, storeItems, storeItems]
      simp only [storeItems_editField hg xs _ _ hfind]

/-- A record is decoded the same with a value of a field changed to one that stores the same. -/
theorem record_editField (hfind : fields.find? (fun g => g.key == key) = some g)
    (hg : ∀ x st, g.store (f x) st = g.store x st) (v : Json) :
    record name fields start (editField fields key f v) = record name fields start v := by
  cases v with
  | obj ms =>
    have hmissing : missing? fields (ms.map fun m => if m.1 = key then (m.1, f m.2) else m) =
        missing? fields ms := by
      unfold missing?
      congr 2
      funext g
      rw [List.any_map]
      congr 3
      funext m
      dsimp only [Function.comp]
      split <;> rfl
    show (storeMembers fields (ms.map fun m => if m.1 = key then (m.1, f m.2) else m) start >>= _) = _
    rw [storeMembers_editField hfind hg, hmissing]
    rfl
  | arr xs => exact storeItems_editField hg xs 0 start hfind
  | _ => rfl

end Decode

/-! ## Places of a request -/

open Decode

variable {key : String} {value : Json}

namespace CurrentUser

variable {f : Json → Json}

theorem decode_editProject (h : ∀ x, ProjectMembership.decode (f x) = ProjectMembership.decode x) (i : Nat)
    (v : Json) : decode (editField fields "projects" (Json.editItem i f) v) = decode v :=
  record_editField rfl (store_congr (list_editItem h i)) v

theorem decode_editGroup (h : ∀ x, GroupMembership.decode (f x) = GroupMembership.decode x) (i : Nat)
    (v : Json) : decode (editField fields "groups" (Json.editItem i f) v) = decode v :=
  record_editField rfl (store_congr (list_editItem h i)) v

end CurrentUser

namespace SearchOptions

variable {β : Type} {decode' : Json → Except DecodeError β} {o : SearchOptions} {f : Json → Json} {v : Json}

/-- The records of a request: the request itself, the acting user, a membership of theirs in a project or
in a group, and the flags. -/
inductive Place where
  | request
  | user
  | project (index : Nat)
  | group (index : Nat)
  | flags

/-- The keys of the fields of a record. -/
def Place.keys : Place → List String
  | .request => schema.map Field.key
  | .user => CurrentUser.fields.map Field.key
  | .project _ => ProjectMembership.fields.map Field.key
  | .group _ => GroupMembership.fields.map Field.key
  | .flags => SearchFlags.fields.map Field.key

/-- A request with the record at a place changed, if there is one. -/
def Place.edit (f : Json → Json) : Place → Json → Json
  | .request => f
  | .user => editField schema "current_user" f
  | .project i => editField schema "current_user" (editField CurrentUser.fields "projects" (Json.editItem i f))
  | .group i => editField schema "current_user" (editField CurrentUser.fields "groups" (Json.editItem i f))
  | .flags => editField schema "flags" f

example : (Place.project 1).edit (Json.addMember "x" .null)
    (.obj [("current_user", .obj [("projects", .arr [.obj [], .obj []])])]) =
    .obj [("current_user", .obj [("projects", .arr [.obj [], .obj [("x", .null)]])])] := rfl

theorem decode_editUser (h : ∀ x, CurrentUser.decode (f x) = CurrentUser.decode x)
    (hnull : ∀ x, (f x).isNull = x.isNull) (v : Json) :
    decode (editField schema "current_user" f v) = decode v :=
  record_editField rfl (store_congr fun x => optional_congr (h x) (hnull x)) v

/-- A member under a key that no field of its record has is passed over. -/
theorem decode_edit (place : Place) (hkey : key ∉ place.keys) (v : Json) :
    decode (place.edit (Json.addMember key value) v) = decode v := by
  cases place with
  | request => exact record_addMember hkey v
  | user => exact decode_editUser (record_addMember hkey) (Json.isNull_addMember key value) v
  | project i =>
    exact decode_editUser (CurrentUser.decode_editProject (record_addMember hkey) i) (isNull_editField _ _ _) v
  | group i =>
    exact decode_editUser (CurrentUser.decode_editGroup (record_addMember hkey) i) (isNull_editField _ _ _) v
  | flags => exact record_editField rfl (store_congr (record_addMember hkey)) v

/-! ## Settings that may be absent -/

/-- The settings that a request may lack, in order, and whether a request has them. -/
def settings : List (String × (SearchOptions → Bool)) :=
  [("current_user", fun o => o.currentUser.isSome),
    ("search_level", fun o => o.searchLevel.isSome),
    ("doc_type", fun o => o.docType.isSome),
    ("order_by", fun o => o.orderBy.isSome),
    ("sort", fun o => o.sort.isSome),
    ("page", fun o => o.paging.page.isSome),
    ("per_page", fun o => o.paging.perPage.isSome),
    ("first", fun o => o.paging.first.isSome),
    ("last", fun o => o.paging.last.isSome),
    ("before", fun o => o.paging.before.isSome),
    ("after", fun o => o.paging.after.isSome),
    ("author_id", fun o => o.facets.authorId.isSome),
    ("not_author_id", fun o => o.facets.notAuthorId.isSome),
    ("assignee_wildcard", fun o => o.facets.assigneeWildcard.isSome),
    ("label_wildcard", fun o => o.facets.labelWildcard.isSome),
    ("milestone_wildcard", fun o => o.facets.milestoneWildcard.isSome),
    ("weight", fun o => o.facets.weight.isSome),
    ("not_weight", fun o => o.facets.notWeight.isSome),
    ("weight_wildcard", fun o => o.facets.weightWildcard.isSome),
    ("health_status_wildcard", fun o => o.facets.healthStatusWildcard.isSome),
    ("state", fun o => o.facets.state.isSome),
    ("confidential", fun o => o.facets.confidential.isSome),
    ("created_after", fun o => o.facets.created.after.isSome),
    ("created_before", fun o => o.facets.created.before.isSome),
    ("updated_after", fun o => o.facets.updated.after.isSome),
    ("updated_before", fun o => o.facets.updated.before.isSome),
    ("closed_after", fun o => o.facets.closed.after.isSome),
    ("closed_before", fun o => o.facets.closed.before.isSome),
    ("due_after", fun o => o.facets.due.after.isSome),
    ("due_before", fun o => o.facets.due.before.isSome),
    ("hybrid_similarity", fun o => o.vectors.similarity.isSome),
    ("vectors_supported", fun o => o.vectors.backend.isSome),
    ("embedding_field", fun o => o.vectors.field.isSome)]

def settingKeys : List String := settings.map Prod.fst

/-- The settings that a request may lack are those that null can be given for. -/
theorem settingKeys_eq : settingKeys = (schema.filter fun g => (g.store .null {}).isOk).map Field.key := rfl

/-- A request without the setting of a key, if there is such a setting. -/
def Lacks (key : String) (o : SearchOptions) : Prop :=
  ∀ given, settings.lookup key = some given → given o = false

/-- Which of the settings but one are there. -/
def othersGiven (key : String) (o : SearchOptions) : List Bool :=
  (settings.filter (·.1 ≠ key)).map (·.2 o)

theorem lacks_of_othersGiven {key' : String} {o' : SearchOptions} (hne : key' ≠ key)
    (h : othersGiven key o' = othersGiven key o) (ho : Lacks key' o) : Lacks key' o' := by
  intro given hgiven
  obtain ⟨l₁, l₂, hsettings, -⟩ := List.lookup_eq_some_iff.1 hgiven
  have hmem : (key', given) ∈ settings.filter (·.1 ≠ key) := by
    rw [List.mem_filter, hsettings]
    simpa using hne
  exact (List.map_inj_left.1 h _ hmem).trans (ho given hgiven)

/-- A field that stores one setting at most: the others stay as they are, and null is no change where the
setting is absent. -/
structure StoresOne (g : Field Json SearchOptions) : Prop where
  others : ∀ key, g.key ≠ key → g.Keeps (Lacks key)
  null : g.key ∈ settingKeys → ∀ o, Lacks g.key o → g.store .null o = .ok o

theorem keeps_others {set : β → SearchOptions → SearchOptions}
    (h : ∀ x o, othersGiven key (set x o) = othersGiven key o) (key' : String) (hne : key ≠ key') :
    (entry key decode' set).Keeps (Lacks key') :=
  keeps_field fun _ x o _ ho => lacks_of_othersGiven hne.symm (h x o) ho

theorem storesOne_entry {set : β → SearchOptions → SearchOptions} (hkey : key ∉ settingKeys)
    (h : ∀ x o, othersGiven key (set x o) = othersGiven key o) : StoresOne (entry key decode' set) :=
  ⟨keeps_others h, fun hmem => absurd hmem hkey⟩

theorem storesOne_optional {set : Option β → SearchOptions → SearchOptions} {get : SearchOptions → Option β}
    (hget : settings.lookup key = some fun o => (get o).isSome) (hset : ∀ o, set (get o) o = o)
    (h : ∀ x o, othersGiven key (set x o) = othersGiven key o) :
    StoresOne (entry key (optional decode') set) := by
  refine ⟨keeps_others h, ?_⟩
  intro _ o ho
  have hnone : get o = none := Option.isNone_iff_eq_none.1 (by simpa using ho _ hget)
  show Except.ok (set none o) = .ok o
  rw [← hnone, hset]

theorem storesOne_schema : ∀ g ∈ schema, StoresOne g := by
  simp only [schema, List.forall_mem_append]
  refine ⟨⟨⟨?_, ?_⟩, ?_⟩, ?_⟩
  all_goals
    repeat
      refine List.forall_mem_cons.2 ⟨?_, ?_⟩
      · first
        | exact storesOne_optional rfl (fun _ => rfl) fun _ _ => rfl
        | exact storesOne_entry (by decide) fun _ _ => rfl
    exact List.forall_mem_nil _

theorem inert_null (hkey : key ∈ settingKeys) : Inert schema (Lacks key) (key, .null) := by
  refine inert_of_store fun g hg hsame o ho => ?_
  subst hsame
  exact (storesOne_schema g hg).null hkey o ho

theorem presence_schema : ∀ g ∈ schema, g.presence = .defaulted := by
  decide

/-- Null for a setting that is absent leaves it absent. -/
theorem decode_addMember_null (hkey : key ∈ settingKeys) (habsent : v.get? key = none) :
    decode (Json.addMember key .null v) = decode v := by
  cases v with
  | obj ms =>
    have hstart : Lacks key {} := by
      intro given hgiven
      obtain ⟨l₁, l₂, hsettings, -⟩ := List.lookup_eq_some_iff.1 hgiven
      have hnone : ∀ e ∈ settings, e.2 {} = false := by decide
      exact hnone (key, given) (by simp [hsettings])
    have hold : ∀ value, (key, value) ∈ ms → Inert schema (Lacks key) (key, value) := by
      intro value hmem
      have hne := List.lookup_eq_none_iff.1 habsent _ hmem
      simp at hne
    have hrequired : ∀ g ∈ schema, g.presence = .required → g.key ≠ key := by
      intro g hg hpresence
      rw [presence_schema g hg] at hpresence
      cases hpresence
    show (storeMembers schema (Json.insertField key .null ms) {} >>= _) = _
    rw [storeMembers_insertField (fun g hg => (storesOne_schema g hg).others key) (inert_null hkey) hold hstart,
      missing?_insertField hrequired]
    rfl
  | _ => rfl

/-- What a value denotes as a request, and the fault it is refused with, stay the same with a member that
no field of its record has, and with null for a setting that is absent. -/
theorem ofJson_addMember (v : Json) :
    (∀ (place : Place) (key : String) (value : Json), key ∉ place.keys →
      ofJson (place.edit (Json.addMember key value) v) = ofJson v) ∧
    ∀ key ∈ settingKeys, v.get? key = none → ofJson (Json.addMember key .null v) = ofJson v := by
  constructor
  · intro place key value hkey
    unfold ofJson
    rw [decode_edit place hkey]
  · intro key hkey habsent
    unfold ofJson
    rw [decode_addMember_null hkey habsent]

/-- A membership with a member more, and a bound of a date that is null. -/
theorem ofJson_addMember_nickname :
    let v : Json := .obj [("current_user", .obj [("id", .int ⟨1, by decide⟩), ("projects", .arr [
      .obj [("access_level", .str "reporter"), ("project_id", .int ⟨7, by decide⟩)]])]),
      ("doc_type", .str "user")]
    (ofJson v).isOk ∧ "nickname" ∉ (Place.project 0).keys ∧
    ofJson ((Place.project 0).edit (Json.addMember "nickname" (.arr [])) v) = ofJson v ∧
    "created_after" ∈ settingKeys ∧ v.get? "created_after" = none ∧
    ofJson (Json.addMember "created_after" .null v) = ofJson v := by
  intro v
  have hkey : "nickname" ∉ (Place.project 0).keys := by decide
  have hsetting : "created_after" ∈ settingKeys := by decide
  have habsent : v.get? "created_after" = none := rfl
  exact ⟨rfl, hkey, (ofJson_addMember v).1 (.project 0) "nickname" (.arr []) hkey, hsetting, habsent,
    (ofJson_addMember v).2 "created_after" hsetting habsent⟩

end SearchOptions

end TenantSearch
