/-
Dates of requests. A date is read with four digits for its year and with an offset of whole minutes
within a day, so every date that was read has a text, and compiling the facets of a decoded request never
fails on one. What holds of a decoded record is carried through its fields, one store at a time.
-/
import TenantSearch.Proofs.Results
import TenantSearch.Proofs.Text.Utf8
import TenantSearch.Request.Decode
import TenantSearch.Compile.Facets

namespace TenantSearch

/-! ## Dates that were read -/

namespace Timestamp

/-- A date that can be written. -/
def HasText (t : Timestamp) : Prop := ∃ s, t.text = .ok s

theorem hasText_of_bounds {t : Timestamp} (hyear : 0 ≤ t.date.year ∧ t.date.year ≤ 9999)
    (hhour : t.offset.natAbs / 3600 ≤ 23) (hsecond : t.offset.natAbs % 60 = 0) : t.HasText := by
  unfold HasText text
  rw [if_neg (by omega), if_neg (by omega), if_neg (by omega)]
  exact ⟨_, rfl⟩

/-- What some digits add to a number read before them. -/
theorem readDigits_lt {part : Part} : ∀ {n acc m : Nat} {s rest : Octets},
    readDigits part n acc s = .ok (m, rest) → m < (acc + 1) * 10 ^ n
  | 0, acc, m, s, rest, h => by
    cases h
    omega
  | n + 1, acc, m, [], rest, h => by cases h
  | n + 1, acc, m, b :: s, rest, h => by
    rw [readDigits] at h
    split at h
    · rename_i hb
      have hdigit := Octets.digit_lt hb
      calc m < (acc * 10 + Octets.digit b + 1) * 10 ^ n := readDigits_lt h
        _ ≤ ((acc + 1) * 10) * 10 ^ n := Nat.mul_le_mul_right _ (by omega)
        _ = (acc + 1) * 10 ^ (n + 1) := by rw [Nat.mul_assoc, Nat.pow_succ']
    · cases h

/-- An offset is read in whole minutes of less than a day. -/
theorem readOffset_bounds {s rest : Octets} {offset : Int} (h : readOffset s = .ok (offset, rest)) :
    offset.natAbs / 3600 ≤ 23 ∧ offset.natAbs % 60 = 0 := by
  cases s with
  | nil => cases h
  | cons b s =>
    rw [readOffset] at h
    split at h
    · cases h
      decide
    split at h
    swap
    · cases h
    obtain ⟨⟨hours, s₁⟩, -, h⟩ := bind_eq_ok.1 h
    dsimp only at h
    split at h
    · cases h
    obtain ⟨s₂, -, h⟩ := bind_eq_ok.1 h
    obtain ⟨⟨minutes, s₃⟩, -, h⟩ := bind_eq_ok.1 h
    dsimp only at h
    split at h
    · cases h
    cases h
    split <;> omega

theorem check_eq_ok {t t' : Timestamp} (h : check t = .ok t') :
    t'.date.year = t.date.year ∧ t'.offset = t.offset := by
  unfold check at h
  split at h
  · cases h
  split at h
  · cases h
  split at h
  · cases h
  split at h
  · cases h
  split at h
  · cases h
  split at h
  · dsimp only at h
    split at h
    · cases h
      exact ⟨rfl, rfl⟩
    · cases h
  · cases h
    exact ⟨rfl, rfl⟩

/-- Every date that is read can be written. -/
theorem hasText_of_ofOctets {s : Octets} {t : Timestamp} (h : ofOctets s = .ok t) : t.HasText := by
  obtain ⟨⟨year, s₁⟩, hyear, h⟩ := bind_eq_ok.1 h
  obtain ⟨s₂, -, h⟩ := bind_eq_ok.1 h
  obtain ⟨⟨month, s₃⟩, -, h⟩ := bind_eq_ok.1 h
  obtain ⟨s₄, -, h⟩ := bind_eq_ok.1 h
  obtain ⟨⟨day, s₅⟩, -, h⟩ := bind_eq_ok.1 h
  rcases s₅ with - | ⟨separator, s₆⟩
  · cases h
  obtain ⟨s₆', -, h⟩ := bind_eq_ok.1 h
  obtain ⟨⟨hour, s₇⟩, -, h⟩ := bind_eq_ok.1 h
  obtain ⟨s₈, -, h⟩ := bind_eq_ok.1 h
  obtain ⟨⟨minute, s₉⟩, -, h⟩ := bind_eq_ok.1 h
  obtain ⟨s₁₀, -, h⟩ := bind_eq_ok.1 h
  obtain ⟨⟨second, s₁₁⟩, -, h⟩ := bind_eq_ok.1 h
  obtain ⟨⟨nano, s₁₂⟩, -, h⟩ := bind_eq_ok.1 h
  obtain ⟨⟨offset, s₁₃⟩, hoffset, h⟩ := bind_eq_ok.1 h
  dsimp only at h
  split at h
  · cases h
  obtain ⟨hkept, hsame⟩ := check_eq_ok h
  have hdigits := readDigits_lt hyear
  obtain ⟨hhour, hminute⟩ := readOffset_bounds hoffset
  apply hasText_of_bounds
  · rw [hkept]
    dsimp only
    omega
  · rw [hsame]
    exact hhour
  · rw [hsame]
    exact hminute

end Timestamp

/-! ## Records -/

namespace Decode

variable {α β σ : Type} {P : σ → Prop} {fields : List (Field α σ)}

/-- Storing a value of a field keeps what holds of a record. -/
def Field.Keeps (P : σ → Prop) (f : Field α σ) : Prop :=
  ∀ v st st', f.store v st = .ok st' → P st → P st'

theorem keeps_field {key : String} {presence : Presence} {decode : α → Except DecodeError β}
    {set : β → σ → σ} (h : ∀ v x st, decode v = .ok x → P st → P (set x st)) :
    (field key presence decode set).Keeps P := by
  intro v st st' hstore hst
  obtain ⟨x, hx, rfl⟩ : ∃ x, decode v = .ok x ∧ set x st = st' := by
    unfold field at hstore
    dsimp only at hstore
    cases hd : decode v with
    | error e =>
      rw [hd] at hstore
      cases hstore
    | ok x =>
      rw [hd] at hstore
      cases hstore
      exact ⟨x, rfl, rfl⟩
  exact h v x st hx hst

variable [Readable α]

theorem storeMembers_keeps (hf : ∀ f ∈ fields, f.Keeps P) : ∀ {ms : List (String × α)} {st st' : σ},
    storeMembers fields ms st = .ok st' → P st → P st'
  | [], st, st', h, hst => by
    cases h
    exact hst
  | (key, v) :: ms, st, st', h, hst => by
    rw [storeMembers] at h
    split at h
    · rename_i f hfind
      obtain ⟨st₁, hstore, h⟩ := bind_eq_ok.1 h
      exact storeMembers_keeps hf h (hf f (List.mem_of_find?_eq_some hfind) v st st₁ hstore hst)
    split at h
    · exact storeMembers_keeps hf h hst
    · cases h

theorem storeItems_keeps {name : String} {size : Nat} : ∀ {fields : List (Field α σ)} {vs : List α}
    {index : Nat} {st st' : σ}, (∀ f ∈ fields, f.Keeps P) →
    storeItems name size fields vs index st = .ok st' → P st → P st'
  | [], extra, index, st, st', _, h, hst => by
    rw [storeItems] at h
    split at h
    · cases h
      exact hst
    · cases h
  | f :: fields, [], index, st, st', hf, h, hst => by
    rw [storeItems] at h
    split at h
    · exact storeItems_keeps (fun f' hf' => hf f' (List.mem_cons_of_mem _ hf')) h hst
    · cases h
  | f :: fields, v :: vs, index, st, st', hf, h, hst => by
    rw [storeItems] at h
    obtain ⟨st₁, hstore, h⟩ := bind_eq_ok.1 h
    exact storeItems_keeps (fun f' hf' => hf f' (List.mem_cons_of_mem _ hf')) h
      (hf f List.mem_cons_self v st st₁ hstore hst)

/-- What holds of the record with every field left out, and is kept by every field, holds of what is
decoded. -/
theorem record_keeps {name : String} {start st : σ} {v : α} (hf : ∀ f ∈ fields, f.Keeps P)
    (hstart : P start) (h : record name fields start v = .ok st) : P st := by
  unfold record at h
  split at h
  · obtain ⟨st₁, hmembers, h⟩ := bind_eq_ok.1 h
    split at h
    · cases h
    · cases h
      exact storeMembers_keeps hf hmembers hstart
  · exact storeItems_keeps hf h hstart
  · cases h

theorem hasText_of_timestamp {v : α} {t : Timestamp} (h : timestamp v = .ok t) : t.HasText := by
  unfold timestamp at h
  split at h
  · exact Timestamp.hasText_of_ofOctets (mapError_eq_ok.1 h)
  · cases h

theorem optional_eq_some {decode : α → Except DecodeError β} {v : α} {x : β}
    (h : optional decode v = .ok (some x)) : decode v = .ok x := by
  unfold optional at h
  split at h
  · cases h
  · cases hd : decode v with
    | error e =>
      rw [hd] at h
      cases h
    | ok y =>
      rw [hd] at h
      cases h
      rfl

end Decode

/-! ## Dates of a request -/

open Decode

/-- The bounds of a window can be written. -/
def Window.Dated (w : Window) : Prop :=
  (∀ t, w.after = some t → t.HasText) ∧ ∀ t, w.before = some t → t.HasText

/-- All the windows of dates of a request. -/
def Facets.windows (f : Facets) : List Window := [f.created, f.updated, f.closed, f.due]

def SearchOptions.Dated (o : SearchOptions) : Prop := ∀ w ∈ o.facets.windows, w.Dated

namespace SearchOptions

variable {β : Type} {key : String} {decode' : Json → Except DecodeError β}

/-- A field that leaves the windows alone. -/
theorem keeps_entry {set : β → SearchOptions → SearchOptions}
    (h : ∀ x o, (set x o).facets.windows = o.facets.windows) :
    (entry key decode' set).Keeps Dated :=
  keeps_field fun _ x o _ ho => by
    unfold Dated
    rw [h x o]
    exact ho

theorem keeps_dates {stem : String} {get : Facets → Window} {set : Window → Facets → Facets}
    (hget : ∀ f, get f ∈ f.windows)
    (hset : ∀ w f, ∀ w' ∈ (set w f).windows, w' = w ∨ w' ∈ f.windows) :
    ∀ f ∈ dates stem get set, f.Keeps Dated := by
  have hkeeps : ∀ (o : SearchOptions) (w : Window), o.Dated → w.Dated →
      ({ o with facets := set w o.facets } : SearchOptions).Dated := by
    intro o w ho hw w' hw'
    rcases hset w o.facets w' hw' with rfl | hold
    · exact hw
    · exact ho w' hold
  have hread : ∀ {v : Json} {x : Option Timestamp}, optional timestamp v = .ok x →
      ∀ t, x = some t → t.HasText := by
    rintro v _ hx t rfl
    exact hasText_of_timestamp (optional_eq_some hx)
  refine List.forall_mem_cons.2 ⟨?_, List.forall_mem_singleton.2 ?_⟩
  · exact keeps_field fun v x o hx ho => hkeeps o _ ho ⟨hread hx, (ho _ (hget o.facets)).2⟩
  · exact keeps_field fun v x o hx ho => hkeeps o _ ho ⟨(ho _ (hget o.facets)).1, hread hx⟩

theorem keeps_dateFields : ∀ f ∈ dateFields, f.Keeps Dated := by
  intro f hf
  simp only [dateFields, List.mem_append, or_assoc] at hf
  rcases hf with hf | hf | hf | hf
  all_goals
    refine keeps_dates ?_ ?_ f hf
    · intro f
      simp [Facets.windows]
    · intro w f w'
      simp only [Facets.windows, List.mem_cons, List.not_mem_nil, or_false]
      tauto

theorem keeps_schema : ∀ f ∈ schema, f.Keeps Dated := by
  have hrequest : ∀ f ∈ requestFields, f.Keeps Dated := by
    repeat refine List.forall_mem_cons.2 ⟨keeps_entry fun _ _ => rfl, ?_⟩
    exact List.forall_mem_nil _
  have hfacets : ∀ f ∈ facetFields, f.Keeps Dated := by
    repeat refine List.forall_mem_cons.2 ⟨keeps_entry fun _ _ => rfl, ?_⟩
    exact List.forall_mem_nil _
  have hlater : ∀ f ∈ laterFields, f.Keeps Dated := by
    repeat refine List.forall_mem_cons.2 ⟨keeps_entry fun _ _ => rfl, ?_⟩
    exact List.forall_mem_nil _
  intro f hf
  simp only [schema, List.mem_append, or_assoc] at hf
  rcases hf with hf | hf | hf | hf
  · exact hrequest f hf
  · exact hfacets f hf
  · exact keeps_dateFields f hf
  · exact hlater f hf

/-- What JSON denotes is a valid request, all of whose dates can be written. -/
theorem of_ofJson {v : Json} {o : SearchOptions} (h : ofJson v = .ok o) :
    o.validate = .ok () ∧ o.Dated := by
  obtain ⟨o', hdecode, h⟩ := bind_eq_ok.1 h
  obtain ⟨⟨⟩, hvalid, h⟩ := bind_eq_ok.1 h
  cases h
  refine ⟨hvalid, record_keeps keeps_schema ?_ (mapError_eq_ok.1 hdecode)⟩
  intro w hw
  have hempty : w = {} := by simpa [Facets.windows] using hw
  subst hempty
  exact ⟨fun _ h => (by cases h), fun _ h => (by cases h)⟩

end SearchOptions

/-! ## Facets -/

namespace Facets

theorem bound_ok {t : Option Timestamp} (h : ∀ x, t = some x → x.HasText) : ∃ b, bound? t = .ok b := by
  cases t with
  | none => exact ⟨none, rfl⟩
  | some x =>
    obtain ⟨s, hs⟩ := h x rfl
    refine ⟨some (.str s), ?_⟩
    show (dateJson x).map some = _
    unfold dateJson
    rw [hs]
    rfl

theorem byWindow_ok {w : Window} (h : w.Dated) (d : QueryDocument) (field : String) :
    ∃ d', byWindow d field w = .ok d' := by
  obtain ⟨gte, hgte⟩ := bound_ok h.1
  obtain ⟨lte, hlte⟩ := bound_ok h.2
  exact ⟨_, bind_eq_ok.2 ⟨gte, hgte, bind_eq_ok.2 ⟨lte, hlte, rfl⟩⟩⟩

theorem byDates_ok {f : Facets} (h : ∀ w ∈ f.windows, w.Dated) (d : QueryDocument) :
    ∃ d', byDates d f = .ok d' := by
  simp only [windows, List.forall_mem_cons] at h
  obtain ⟨hcreated, hupdated, hclosed, hdue, -⟩ := h
  obtain ⟨d₁, h₁⟩ := byWindow_ok hcreated d "created_at"
  obtain ⟨d₂, h₂⟩ := byWindow_ok hupdated d₁ "updated_at"
  obtain ⟨d₃, h₃⟩ := byWindow_ok hclosed d₂ "closed_at"
  obtain ⟨d₄, h₄⟩ := byWindow_ok hdue d₃ "due_date"
  exact ⟨d₄, bind_eq_ok.2 ⟨d₁, h₁, bind_eq_ok.2 ⟨d₂, h₂, bind_eq_ok.2 ⟨d₃, h₃, h₄⟩⟩⟩⟩

/-- The facets of a request whose dates can be written compile for every type. -/
theorem apply_ok {o : SearchOptions} (h : o.Dated) (d : QueryDocument) (t : DocType) :
    ∃ d', apply d o.facets t = .ok d' := by
  cases t with
  | blob | wikiBlob | commit => exact ⟨_, rfl⟩
  | _ => exact byDates_ok h _

end Facets

end TenantSearch
