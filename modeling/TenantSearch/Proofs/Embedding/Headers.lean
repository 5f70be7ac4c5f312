/-
The headers of a request to a provider. The credential is set first, then the configured headers in the
order of their keys, and a name does not depend on case. So the greatest of the keys that are one name
decides what it is set to, and the credential stays where no key is its name. Headers are refused for the
credential, or else for the first key that cannot be set. All this is within the limits of headers: no
name is too long, and the names together leave room to set each of them.
-/
import Mathlib
import TenantSearch.Embedding.Provider
import TenantSearch.Proofs.Json.Reading
import TenantSearch.Proofs.Json.RoundTrip
import TenantSearch.Proofs.Results

namespace TenantSearch

namespace Http

/-! ## Names and values -/

section

variable {s : String} {c : Char}

/-- A token: one letter, digit or sign or more. -/
structure IsToken (s : String) : Prop where
  nonempty : s ≠ ""
  chars : ∀ c ∈ s.toList, c.isAlphanum = true ∨ c ∈ tokenSigns

/-- A value holds tabs, and characters from the blank on but the one for deletion. -/
def IsValue (s : String) : Prop := ∀ c ∈ s.toList, c = '\t' ∨ ' ' ≤ c ∧ c ≠ '\x7f'

theorem isTokenChar_iff : isTokenChar c = true ↔ c.isAlphanum = true ∨ c ∈ tokenSigns := by
  simp only [isTokenChar, Text.isAsciiDigit, Char.isAlphanum, Char.isAlpha, Char.isUpper, Char.isLower,
    Char.isDigit, Bool.or_eq_true, Bool.and_eq_true, decide_eq_true_eq, List.contains_iff_mem, ge_iff_le,
    UInt32.le_iff_toNat_le]
  show (((48 ≤ c.toNat ∧ c.toNat ≤ 57) ∨ 65 ≤ c.toNat ∧ c.toNat ≤ 90) ∨ 97 ≤ c.toNat ∧ c.toNat ≤ 122) ∨ _ ↔
    ((65 ≤ c.toNat ∧ c.toNat ≤ 90 ∨ 97 ≤ c.toNat ∧ c.toNat ≤ 122) ∨ 48 ≤ c.toNat ∧ c.toNat ≤ 57) ∨ _
  tauto

theorem isValueChar_iff : isValueChar c = true ↔ c = '\t' ∨ ' ' ≤ c ∧ c ≠ '\x7f' := by
  have hdelete : c.toNat ≠ 127 ↔ c ≠ '\x7f' := not_congr (Char.toNat_inj (c := c) (d := '\x7f'))
  simp only [isValueChar, Bool.or_eq_true, Bool.and_eq_true, decide_eq_true_eq, hdelete]
  rfl

theorem isToken_iff : IsToken s ↔ (s ≠ "" && s.toList.all isTokenChar) = true := by
  simp only [Bool.and_eq_true, decide_eq_true_eq, List.all_eq_true, isTokenChar_iff]
  exact ⟨fun h => ⟨h.nonempty, h.chars⟩, fun h => ⟨h.1, h.2⟩⟩

theorem isValue_iff : IsValue s ↔ s.toList.all isValueChar = true := by
  simp only [List.all_eq_true, isValueChar_iff]
  rfl

instance : DecidablePred IsToken := fun _ => decidable_of_iff _ isToken_iff.symm

instance : DecidablePred IsValue := fun _ => decidable_of_iff _ isValue_iff.symm

/-- A token that is not too long is a name. -/
theorem headerName_of_token (h : IsToken s) (hshort : s.length ≤ maxNameLength) :
    headerName s = .ok (Text.lowerAscii s) := by
  have hs := isToken_iff.1 h
  rw [Bool.and_eq_true] at hs
  unfold headerName
  rw [hs.1, hs.2, decide_eq_true hshort]
  rfl

theorem headerName_of_not (h : ¬ IsToken s) : headerName s = .error .badName := by
  refine if_neg fun hs => h (isToken_iff.2 ?_)
  simp only [Bool.and_eq_true] at hs ⊢
  exact ⟨hs.1.1, hs.2⟩

theorem headerValue_of_value (h : IsValue s) : headerValue s = .ok s := if_pos (isValue_iff.1 h)

theorem headerValue_of_not (h : ¬ IsValue s) : headerValue s = .error .badValue :=
  if_neg fun hs => h (isValue_iff.2 hs)

end

/-! ## Setting -/

namespace Headers

variable {h : Headers} {name key value : String}

theorem lookup_cons (e : String × String) (h : Headers) :
    List.lookup key (e :: h) = if key = e.1 then some e.2 else h.lookup key := by
  obtain ⟨n, v⟩ := e
  by_cases hk : key = n
  · simp [hk]
  · simp [List.lookup_cons, hk, beq_eq_false_iff_ne.2 hk]

theorem lookup_set : (h.set name value).lookup key = if key = name then some value else h.lookup key := by
  induction h with
  | nil => exact lookup_cons (name, value) []
  | cons e rest ih =>
    obtain ⟨n, v⟩ := e
    rw [set]
    split
    · rename_i hn
      subst hn
      rw [lookup_cons, lookup_cons]
      split <;> rfl
    split
    · rw [lookup_cons]
    · rename_i hn _
      rw [lookup_cons, lookup_cons, ih]
      split_ifs with hkey hname hname
      · exact absurd (hname.symm.trans hkey) hn
      all_goals rfl

theorem mem_names_set : key ∈ (h.set name value).map Prod.fst ↔ key = name ∨ key ∈ h.map Prod.fst := by
  induction h with
  | nil => simp [set]
  | cons e rest ih =>
    obtain ⟨n, v⟩ := e
    rw [set]
    split
    · rename_i hn
      subst hn
      simp
    split
    · simp
    · simp only [List.map_cons, List.mem_cons, ih]
      tauto

/-- A header as a member of an object. -/
def member (e : String × String) : String × Json := (e.1, .str e.2)

/-- Headers in the order of their names. -/
def Ordered (h : Headers) : Prop := Json.Ordered (h.map member)

theorem map_member_set : (h.set name value).map member = Json.insertField name (.str value) (h.map member) := by
  induction h with
  | nil => rfl
  | cons e rest ih =>
    obtain ⟨n, v⟩ := e
    rw [set, List.map_cons, member, Json.insertField]
    split
    · rfl
    split
    · rfl
    · rw [← ih]
      rfl

theorem Ordered.set (ho : h.Ordered) : (h.set name value).Ordered := by
  rw [Ordered, map_member_set]
  exact Json.Ordered.insertField ho

theorem Ordered.nodup (ho : h.Ordered) : (h.map Prod.fst).Nodup := by
  have hnames : (h.map Prod.fst).Pairwise fun a b => Json.keyBefore a.toList b.toList = true :=
    List.pairwise_map.2 (List.pairwise_map.1 ho)
  exact hnames.imp fun hbefore he => (Json.keyBefore_asymm hbefore).2 (congrArg String.toList he)

/-- Where every name occurs once, the headers are what is looked up of them. -/
theorem mem_iff_lookup (hn : (h.map Prod.fst).Nodup) : (name, value) ∈ h ↔ h.lookup name = some value := by
  induction h with
  | nil => simp
  | cons e rest ih =>
    obtain ⟨hnew, hrest⟩ := List.nodup_cons.1 hn
    rw [lookup_cons, List.mem_cons, ih hrest]
    split
    · rename_i hname
      subst hname
      have hnone : rest.lookup e.1 ≠ some value := fun hv =>
        hnew (List.mem_map.2 ⟨_, (ih hrest).2 hv, rfl⟩)
      simp [Prod.ext_iff, hnone, eq_comm]
    · rename_i hname
      simp [Prod.ext_iff, hname]

end Headers

end Http

namespace Embedding

open Http

variable {h h' : Headers} {entry : String × Json} {defaults rest : List (String × Json)} {raw : String}
  {e : EmbeddingError}

/-! ## One header -/

/-- A configured header that can be set to a text: its name and its text are those of a header. -/
structure Settable (entry : String × Json) (raw : String) : Prop where
  text : entry.2 = .str raw
  name : IsToken entry.1
  value : IsValue raw

/-- What is wrong with a configured header. -/
inductive Offence (entry : String × Json) : EmbeddingError → Prop where
  | notText (h : ∀ raw, entry.2 ≠ .str raw) : Offence entry headerNotText
  | badName {raw : String} (htext : entry.2 = .str raw) (h : ¬ IsToken entry.1) : Offence entry (.header .badName)
  | badValue {raw : String} (htext : entry.2 = .str raw) (hname : IsToken entry.1) (h : ¬ IsValue raw) :
      Offence entry (.header .badValue)

theorem settable_or_offence (entry : String × Json) : (∃ raw, Settable entry raw) ∨ ∃ e, Offence entry e := by
  by_cases htext : ∃ raw, entry.2 = .str raw
  · obtain ⟨raw, htext⟩ := htext
    by_cases hname : IsToken entry.1
    · by_cases hvalue : IsValue raw
      · exact .inl ⟨raw, htext, hname, hvalue⟩
      · exact .inr ⟨_, .badValue htext hname hvalue⟩
    · exact .inr ⟨_, .badName htext hname⟩
  · exact .inr ⟨_, .notText fun raw hraw => htext ⟨raw, hraw⟩⟩

theorem Settable.not_offence (hs : Settable entry raw) : ¬ Offence entry e := by
  rintro (hno | ⟨-, hname⟩ | ⟨htext, -, hvalue⟩)
  · exact hno raw hs.text
  · exact hname hs.name
  · obtain rfl := Json.str.inj (htext.symm.trans hs.text)
    exact hvalue hs.value

theorem Settable.setHeader (hs : Settable entry raw) (hshort : entry.1.length ≤ maxNameLength) :
    setHeader h entry = .ok (h.set (Text.lowerAscii entry.1) raw) := by
  unfold Embedding.setHeader
  rw [hs.text]
  simp only [headerName_of_token hs.name hshort, headerValue_of_value hs.value, Except.mapError, ok_bind]

theorem Offence.setHeader (ho : Offence entry e) (hshort : entry.1.length ≤ maxNameLength) :
    setHeader h entry = .error e := by
  unfold Embedding.setHeader
  cases ho with
  | notText hno =>
    split
    · rename_i raw hraw
      exact absurd hraw (hno raw)
    · rfl
  | badName htext hname =>
    rw [htext]
    simp only [headerName_of_not hname]
    rfl
  | badValue htext hname hvalue =>
    rw [htext]
    simp only [headerName_of_token hname hshort, headerValue_of_not hvalue]
    rfl

theorem setHeader_eq_ok (hshort : entry.1.length ≤ maxNameLength) : setHeader h entry = .ok h' ↔
    ∃ raw, Settable entry raw ∧ h.set (Text.lowerAscii entry.1) raw = h' := by
  constructor
  · intro hset
    rcases settable_or_offence entry with ⟨raw, hs⟩ | ⟨e, ho⟩
    · rw [hs.setHeader hshort] at hset
      exact ⟨raw, hs, Except.ok.inj hset⟩
    · rw [ho.setHeader hshort] at hset
      cases hset
  · rintro ⟨raw, hs, rfl⟩
    exact hs.setHeader hshort

theorem setHeader_eq_error (hshort : entry.1.length ≤ maxNameLength) :
    setHeader h entry = .error e ↔ Offence entry e := by
  constructor
  · intro hset
    rcases settable_or_offence entry with ⟨raw, hs⟩ | ⟨e', ho⟩
    · rw [hs.setHeader hshort] at hset
      cases hset
    · rw [ho.setHeader hshort] at hset
      cases hset
      exact ho
  · exact fun ho => ho.setHeader hshort

/-! ## All headers -/

/-- No key is too long for a name. -/
def ShortKeys (defaults : List (String × Json)) : Prop := ∀ entry ∈ defaults, entry.1.length ≤ maxNameLength

theorem lt_of_ordered_cons (ho : Json.Ordered (entry :: rest)) :
    ∀ other ∈ rest, Octets.ofString entry.1 < Octets.ofString other.1 := fun other hother =>
  Json.keyBefore_iff.1 ((List.pairwise_cons.1 ho).1 other hother)

/-- What a name is set to: the value of the greatest of the keys that are the name, or what it was set to
before where no key is. -/
inductive SetOver (h : Headers) (defaults : List (String × Json)) (name : String) : String → Prop where
  | byKey {key value : String} (mem : (key, .str value) ∈ defaults) (same : Text.lowerAscii key = name)
      (greatest : ∀ other ∈ defaults, Text.lowerAscii other.1 = name →
        Octets.ofString other.1 ≤ Octets.ofString key) : SetOver h defaults name value
  | kept {value : String} (unset : ∀ other ∈ defaults, Text.lowerAscii other.1 ≠ name)
      (was : h.lookup name = some value) : SetOver h defaults name value

theorem setOver_nil {name value : String} : SetOver h [] name value ↔ h.lookup name = some value := by
  constructor
  · rintro (⟨mem, -, -⟩ | ⟨-, was⟩)
    · cases mem
    · exact was
  · exact .kept (List.forall_mem_nil _)

/-- Setting the least key and then the others is setting them all: where another key has its name, that
key is greater and decides. -/
theorem setOver_cons {name value : String} (ho : Json.Ordered (entry :: rest)) (htext : entry.2 = .str raw) :
    SetOver h (entry :: rest) name value ↔
      SetOver (h.set (Text.lowerAscii entry.1) raw) rest name value := by
  have hbefore := lt_of_ordered_cons ho
  constructor
  · rintro (⟨mem, same, greatest⟩ | ⟨unset, was⟩)
    · rcases List.mem_cons.1 mem with heq | mem
      · subst heq
        obtain rfl := Json.str.inj htext
        refine .kept (fun other hother hsame => ?_) ?_
        · exact greatest other (List.mem_cons_of_mem _ hother) hsame (hbefore other hother)
        · rw [Headers.lookup_set, if_pos same.symm]
      · exact .byKey mem same fun other hother => greatest other (List.mem_cons_of_mem _ hother)
    · obtain ⟨hentry, unset⟩ := List.forall_mem_cons.1 unset
      exact .kept unset (by rwa [Headers.lookup_set, if_neg (Ne.symm hentry)])
  · rintro (⟨mem, same, greatest⟩ | ⟨unset, was⟩)
    · refine .byKey (List.mem_cons_of_mem _ mem) same (List.forall_mem_cons.2 ⟨fun _ => ?_, greatest⟩)
      exact List.le_of_lt (hbefore _ mem)
    · rw [Headers.lookup_set] at was
      split at was
      · rename_i hname
        obtain rfl := Option.some.inj was
        have mem : (entry.1, Json.str raw) ∈ entry :: rest := by
          rw [← htext]
          exact List.mem_cons_self
        refine .byKey mem hname.symm (List.forall_mem_cons.2 ⟨fun _ => List.le_refl _, ?_⟩)
        exact fun other hother hsame => absurd hsame (unset other hother)
      · rename_i hname
        exact .kept (List.forall_mem_cons.2 ⟨Ne.symm hname, unset⟩) was

/-- What headers are after configured ones are set. -/
structure Sets (h : Headers) (defaults : List (String × Json)) (h' : Headers) : Prop where
  ordered : h.Ordered → h'.Ordered
  names : ∀ name, name ∈ h'.map Prod.fst ↔
    name ∈ h.map Prod.fst ∨ ∃ entry ∈ defaults, Text.lowerAscii entry.1 = name
  values : ∀ name value, h'.lookup name = some value ↔ SetOver h defaults name value

theorem foldlM_setHeader_ok : ∀ {defaults : List (String × Json)} {h h' : Headers},
    Json.Ordered defaults → ShortKeys defaults → defaults.foldlM setHeader h = .ok h' → Sets h defaults h'
  | [], h, h', _, _, hrun => by
    cases hrun
    exact ⟨id, by simp, fun name value => setOver_nil.symm⟩
  | entry :: rest, h, h', ho, hshort, hrun => by
    obtain ⟨hentry, hrest⟩ := List.forall_mem_cons.1 hshort
    rw [List.foldlM_cons] at hrun
    obtain ⟨h₁, hset, hrun⟩ := bind_eq_ok.1 hrun
    obtain ⟨raw, hs, rfl⟩ := (setHeader_eq_ok hentry).1 hset
    obtain ⟨ordered, names, values⟩ := foldlM_setHeader_ok (List.pairwise_cons.1 ho).2 hrest hrun
    refine ⟨fun hh => ordered hh.set, fun name => ?_, fun name value => ?_⟩
    · rw [names, Headers.mem_names_set, List.exists_mem_cons_iff]
      tauto
    · rw [values, setOver_cons ho hs.text]

/-- The fault of the least key that cannot be set. -/
def FirstOffence (defaults : List (String × Json)) (e : EmbeddingError) : Prop :=
  ∃ entry ∈ defaults, Offence entry e ∧
    ∀ other ∈ defaults, Octets.ofString other.1 < Octets.ofString entry.1 → ∃ raw, Settable other raw

theorem firstOffence_cons_of_settable (hs : Settable entry raw) :
    FirstOffence (entry :: rest) e ↔ FirstOffence rest e := by
  constructor
  · rintro ⟨found, hfound, ho, hless⟩
    rcases List.mem_cons.1 hfound with rfl | hfound
    · exact absurd ho hs.not_offence
    · exact ⟨found, hfound, ho, fun other hother => hless other (List.mem_cons_of_mem _ hother)⟩
  · rintro ⟨found, hfound, ho, hless⟩
    exact ⟨found, List.mem_cons_of_mem _ hfound, ho, List.forall_mem_cons.2 ⟨fun _ => ⟨raw, hs⟩, hless⟩⟩

theorem firstOffence_cons_of_offence {e' : EmbeddingError} (hordered : Json.Ordered (entry :: rest))
    (ho : Offence entry e') : FirstOffence (entry :: rest) e ↔ Offence entry e := by
  have hbefore := lt_of_ordered_cons hordered
  constructor
  · rintro ⟨found, hfound, hfault, hless⟩
    rcases List.mem_cons.1 hfound with rfl | hfound
    · exact hfault
    · obtain ⟨raw, hs⟩ := hless entry List.mem_cons_self (hbefore found hfound)
      exact absurd ho hs.not_offence
  · intro hfault
    refine ⟨entry, List.mem_cons_self, hfault, List.forall_mem_cons.2 ⟨fun hlt => ?_, fun other hother hlt => ?_⟩⟩
    · exact absurd hlt (List.lt_irrefl _)
    · exact absurd hlt (List.lt_asymm (hbefore other hother))

theorem foldlM_setHeader_eq_error : ∀ {defaults : List (String × Json)} {h : Headers},
    Json.Ordered defaults → ShortKeys defaults →
      (defaults.foldlM setHeader h = .error e ↔ FirstOffence defaults e)
  | [], h, _, _ => by
    constructor
    · intro hrun
      cases hrun
    · rintro ⟨entry, hentry, -⟩
      cases hentry
  | entry :: rest, h, hordered, hshort => by
    obtain ⟨hentry, hrest⟩ := List.forall_mem_cons.1 hshort
    rw [List.foldlM_cons]
    rcases settable_or_offence entry with ⟨raw, hs⟩ | ⟨e', ho⟩
    · rw [hs.setHeader hentry, ok_bind, foldlM_setHeader_eq_error (List.pairwise_cons.1 hordered).2 hrest,
        firstOffence_cons_of_settable hs]
    · rw [firstOffence_cons_of_offence hordered ho, bind_eq_error (ho.setHeader hentry),
        ← setHeader_eq_error hentry (h := h), ho.setHeader hentry]

theorem exists_foldlM_setHeader : ∀ {defaults : List (String × Json)} {h : Headers},
    ShortKeys defaults →
      ((∃ h', defaults.foldlM setHeader h = .ok h') ↔ ∀ entry ∈ defaults, ∃ raw, Settable entry raw)
  | [], h, _ => ⟨fun _ => List.forall_mem_nil _, fun _ => ⟨h, rfl⟩⟩
  | entry :: rest, h, hshort => by
    obtain ⟨hentry, hrest⟩ := List.forall_mem_cons.1 hshort
    rw [List.foldlM_cons, List.forall_mem_cons]
    constructor
    · rintro ⟨h', hrun⟩
      obtain ⟨h₁, hset, hrun⟩ := bind_eq_ok.1 hrun
      obtain ⟨raw, hs, -⟩ := (setHeader_eq_ok hentry).1 hset
      exact ⟨⟨raw, hs⟩, (exists_foldlM_setHeader hrest).1 ⟨h', hrun⟩⟩
    · rintro ⟨⟨raw, hs⟩, hall⟩
      rw [hs.setHeader hentry, ok_bind]
      exact (exists_foldlM_setHeader hrest).2 hall

/-! ## The credential -/

/-- The headers with the credential alone. -/
def credential (apiKey : String) : Headers := [("authorization", "Bearer " ++ apiKey)]

theorem authHeaders_of_value {apiKey : String} (hvalue : IsValue ("Bearer " ++ apiKey)) :
    authHeaders apiKey defaults = defaults.foldlM setHeader (credential apiKey) := by
  unfold authHeaders
  rw [headerValue_of_value hvalue]
  rfl

theorem authHeaders_of_not {apiKey : String} (hvalue : ¬ IsValue ("Bearer " ++ apiKey)) :
    authHeaders apiKey defaults = .error (.header .badValue) := by
  unfold authHeaders
  rw [headerValue_of_not hvalue]
  rfl

theorem ordered_credential (apiKey : String) : (credential apiKey).Ordered := List.pairwise_singleton _ _

theorem authHeaders_sets {apiKey : String} (hordered : Json.Ordered defaults) (hshort : ShortKeys defaults)
    (hrun : authHeaders apiKey defaults = .ok h) :
    (h.map Prod.fst).Nodup ∧ Sets (credential apiKey) defaults h := by
  by_cases hvalue : IsValue ("Bearer " ++ apiKey)
  · rw [authHeaders_of_value hvalue] at hrun
    have hsets := foldlM_setHeader_ok hordered hshort hrun
    exact ⟨(hsets.ordered (ordered_credential apiKey)).nodup, hsets⟩
  · rw [authHeaders_of_not hvalue] at hrun
    cases hrun

/-! ## Limits -/

/-- The names of the credential and of configured headers, each once. -/
def namesOf (defaults : List (String × Json)) : List String :=
  ("authorization" :: defaults.map fun entry => Text.lowerAscii entry.1).dedup

theorem mem_namesOf {name : String} : name ∈ namesOf defaults ↔
    name = "authorization" ∨ ∃ entry ∈ defaults, Text.lowerAscii entry.1 = name := by
  simp [namesOf]

/-- Configured headers are within the limits of headers: none of the names is too long, and all of them
leave room. -/
structure WithinLimits (defaults : List (String × Json)) : Prop where
  short : ShortKeys defaults
  room : (namesOf defaults).length < Headers.maxNames

/-- Once the first of the configured headers are set there is room for the next one. -/
theorem WithinLimits.hasRoom {apiKey : String} {before after : List (String × Json)}
    (hlimits : WithinLimits (before ++ entry :: after)) (hordered : Json.Ordered (before ++ entry :: after))
    (hrun : authHeaders apiKey before = .ok h) : h.HasRoom := by
  have hshort : ShortKeys before := fun e he => hlimits.short e (List.mem_append_left _ he)
  obtain ⟨hnodup, hsets⟩ := authHeaders_sets (List.pairwise_append.1 hordered).1 hshort hrun
  have hsubset : h.map Prod.fst ⊆ namesOf (before ++ entry :: after) := by
    intro name hname
    rw [hsets.names, credential, List.map_singleton, List.mem_singleton] at hname
    refine mem_namesOf.2 (hname.imp_right ?_)
    rintro ⟨e, he, hsame⟩
    exact ⟨e, List.mem_append_left _ he, hsame⟩
  calc h.length = (h.map Prod.fst).length := (List.length_map ..).symm
    _ ≤ (namesOf (before ++ entry :: after)).length := (hnodup.subperm hsubset).length_le
    _ < Headers.maxNames := hlimits.room

/-- Headers have a fixed precedence. They are made exactly when the credential is a value and every
configured header can be set. Then each of their names occurs once, and is set to the value of the greatest
key that has it, the credential where none has. Otherwise the fault is that of the credential, or else of
the least key that cannot be set. There always is room for the header that is to be set next. -/
theorem authHeaders_precedence (apiKey : String) (hordered : Json.Ordered defaults)
    (hlimits : WithinLimits defaults) :
    ((∃ h, authHeaders apiKey defaults = .ok h) ↔
      IsValue ("Bearer " ++ apiKey) ∧ ∀ entry ∈ defaults, ∃ raw, Settable entry raw) ∧
    (∀ h, authHeaders apiKey defaults = .ok h →
      (h.map Prod.fst).Nodup ∧
      (∀ name, name ∈ h.map Prod.fst ↔
        name = "authorization" ∨ ∃ entry ∈ defaults, Text.lowerAscii entry.1 = name) ∧
      ∀ name value, (name, value) ∈ h ↔ SetOver (credential apiKey) defaults name value) ∧
    (∀ e, authHeaders apiKey defaults = .error e ↔
      ¬ IsValue ("Bearer " ++ apiKey) ∧ e = .header .badValue ∨
      IsValue ("Bearer " ++ apiKey) ∧ FirstOffence defaults e) ∧
    ∀ before entry after h, defaults = before ++ entry :: after → authHeaders apiKey before = .ok h →
      h.HasRoom := by
  refine ⟨?_, fun h hrun => ?_, fun e => ?_, ?_⟩
  · by_cases hvalue : IsValue ("Bearer " ++ apiKey)
    · rw [authHeaders_of_value hvalue, exists_foldlM_setHeader hlimits.short]
      exact ⟨fun hall => ⟨hvalue, hall⟩, And.right⟩
    · rw [authHeaders_of_not hvalue]
      simp [hvalue]
  · obtain ⟨hnodup, hsets⟩ := authHeaders_sets hordered hlimits.short hrun
    refine ⟨hnodup, fun name => ?_, fun name value => ?_⟩
    · rw [hsets.names, credential, List.map_singleton, List.mem_singleton]
    · rw [Headers.mem_iff_lookup hnodup, hsets.values]
  · by_cases hvalue : IsValue ("Bearer " ++ apiKey)
    · rw [authHeaders_of_value hvalue, foldlM_setHeader_eq_error hordered hlimits.short]
      simp [hvalue]
    · rw [authHeaders_of_not hvalue]
      simp [hvalue, eq_comm]
  · rintro before entry after h rfl hrun
    exact hlimits.hasRoom hordered hrun

/-- Three headers with two names, one of them that of the credential. -/
def repeated : List (String × Json) :=
  [("Authorization", .str "Basic a"), ("X-Tag", .str "b"), ("x-tag", .str "c")]

theorem authHeaders_precedence_repeated :
    (∃ h, authHeaders "key" repeated = .ok h ∧ (h.map Prod.fst).Nodup ∧
      ("authorization", "Basic a") ∈ h ∧ ("x-tag", "c") ∈ h) ∧
    authHeaders "k\ney" repeated = .error (.header .badValue) := by
  have hordered : Json.Ordered repeated := by
    unfold Json.Ordered repeated
    decide
  have hall : ∀ entry ∈ repeated, ∃ raw, Settable entry raw := by
    simp only [repeated, List.forall_mem_cons]
    exact ⟨⟨_, rfl, by decide, by decide⟩, ⟨_, rfl, by decide, by decide⟩, ⟨_, rfl, by decide, by decide⟩,
      List.forall_mem_nil _⟩
  have hauthorization : SetOver (credential "key") repeated "authorization" "Basic a" := by
    refine .byKey List.mem_cons_self (by decide) ?_
    simp only [repeated, List.forall_mem_cons]
    decide
  have htag : SetOver (credential "key") repeated "x-tag" "c" := by
    refine .byKey (List.mem_cons_of_mem _ (List.mem_cons_of_mem _ List.mem_cons_self)) (by decide) ?_
    simp only [repeated, List.forall_mem_cons]
    decide
  have hlimits : WithinLimits repeated := by
    refine ⟨?_, by decide⟩
    unfold ShortKeys
    decide
  obtain ⟨hok, hset, -, -⟩ := authHeaders_precedence "key" hordered hlimits
  obtain ⟨-, -, hfault, -⟩ := authHeaders_precedence "k\ney" hordered hlimits
  obtain ⟨h, hh⟩ := hok.2 ⟨by decide, hall⟩
  obtain ⟨hnodup, -, hmem⟩ := hset h hh
  exact ⟨⟨h, hh, hnodup, (hmem _ _).2 hauthorization, (hmem _ _).2 htag⟩, (hfault _).2 (.inl ⟨by decide, rfl⟩)⟩

end Embedding

end TenantSearch
