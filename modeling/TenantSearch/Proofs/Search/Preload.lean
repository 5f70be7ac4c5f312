/-
Data loaded for the records of a page. The records are those of the hits, one each, in natural order, and
data is handed out by id as the page is gone through: the first record of an id takes what was loaded for
it and leaves nothing for a later one. So every record gets the data of its id exactly when no id for
which there is data comes twice.
-/
import TenantSearch.Proofs.Results
import TenantSearch.Search.Relation

namespace TenantSearch

/-- A record without what was loaded for it. -/
def SearchRecord.unloaded (r : SearchRecord) : SearchRecord := { r with related := none }

/-! ## Handing out -/

theorem lookup_filter_ne (related : List (String × Json)) (taken id : String) :
    (related.filter fun e => e.1 ≠ taken).lookup id = if id = taken then none else related.lookup id := by
  induction related with
  | nil => simp
  | cons e related ih =>
    obtain ⟨k, v⟩ := e
    by_cases hk : k = taken
    · subst hk
      rw [List.filter_cons_of_neg (by simp), ih, List.lookup_cons]
      by_cases hid : id = k
      · rw [if_pos hid, if_pos hid]
      · rw [if_neg hid, if_neg hid, beq_false_of_ne hid]
    · rw [List.filter_cons_of_pos (by simpa using hk), List.lookup_cons, List.lookup_cons, ih]
      by_cases hid : id = k
      · subst hid
        simp [hk]
      · rw [beq_false_of_ne hid]

/-- A record gets the data of its id unless a record before it has the id. -/
theorem attachRelated_split : ∀ {records : List SearchRecord} {related : List (String × Json)}
    {before after : List SearchRecord} {r : SearchRecord},
    attachRelated records related = before ++ r :: after →
      r.related = if r.id ∈ before.map SearchRecord.id then none else related.lookup r.id
  | [], related, before, after, r, h => by simp [attachRelated] at h
  | first :: records, related, [], after, r, h => by
    simp only [attachRelated, List.nil_append, List.cons.injEq] at h
    obtain ⟨rfl, -⟩ := h
    simp
  | first :: records, related, b :: before, after, r, h => by
    simp only [attachRelated, List.cons_append, List.cons.injEq] at h
    obtain ⟨rfl, h⟩ := h
    rw [attachRelated_split h, lookup_filter_ne]
    by_cases hid : r.id = first.id <;> simp [hid]

theorem map_unloaded_attachRelated (records : List SearchRecord) (related : List (String × Json)) :
    (attachRelated records related).map SearchRecord.unloaded = records.map SearchRecord.unloaded := by
  induction records generalizing related with
  | nil => rfl
  | cons r records ih =>
    rw [attachRelated, List.map_cons, List.map_cons, ih]
    rfl

/-- All records have the data of their ids exactly when no id that has data comes twice. -/
theorem forall_related_iff {records : List SearchRecord} {related : List (String × Json)}
    (h : ∀ before r after, records = before ++ r :: after →
      r.related = if r.id ∈ before.map SearchRecord.id then none else related.lookup r.id) :
    (∀ r ∈ records, r.related = related.lookup r.id) ↔
      records.Pairwise fun a b => a.id = b.id → related.lookup a.id = none := by
  constructor
  · intro hall
    rw [List.pairwise_iff_getElem]
    intro i j hi hj hij hid
    -- the later record is left without data, and has what its id has
    have hsplit : records = records.take j ++ records[j] :: records.drop (j + 1) := by simp
    have hmem : records[j].id ∈ (records.take j).map SearchRecord.id := by
      rw [← hid]
      exact List.mem_map_of_mem (List.mem_take_iff_getElem.2 ⟨i, by omega, rfl⟩)
    have hnone := h _ _ _ hsplit
    rw [if_pos hmem, hall _ (List.getElem_mem hj)] at hnone
    rw [hid, hnone]
  · intro hpair r hr
    obtain ⟨before, after, rfl⟩ := List.append_of_mem hr
    rw [h before r after rfl]
    split
    · rename_i hmem
      obtain ⟨a, ha, hid⟩ := List.mem_map.1 hmem
      have hnone := (List.pairwise_append.1 hpair).2.2 a ha r List.mem_cons_self hid
      rw [← hid, hnone]
    · rfl

/-! ## Records of a page -/

namespace Relation

variable {r : Relation}

/-- The hits of an answer as records: those of a page counted from the end come in reversed order. -/
theorem recordsOf_eq (r : Relation) (hits : List Hit) :
    (∀ n, r.page = .last n → r.recordsOf hits = (hits.map SearchRecord.ofHit).reverse) ∧
      ((∀ n, r.page ≠ .last n) → r.recordsOf hits = hits.map SearchRecord.ofHit) := by
  unfold recordsOf
  cases r.page <;> simp

theorem map_unloaded_recordsOf (r : Relation) (hits : List Hit) :
    (r.recordsOf hits).map SearchRecord.unloaded = r.recordsOf hits := by
  have hplain : (hits.map SearchRecord.ofHit).map SearchRecord.unloaded = hits.map SearchRecord.ofHit := by
    rw [List.map_map]
    rfl
  unfold recordsOf
  cases r.page <;> simp only [List.map_reverse, hplain]

theorem length_recordsOf (r : Relation) (hits : List Hit) : (r.recordsOf hits).length = hits.length := by
  unfold recordsOf
  cases r.page <;> simp

/-- What a relation gives for an answer that reads, with a loader that comes back with data by id: one
record for each hit, in natural order. The first record of an id has the data that came for the id and
the later ones have none; so all of them have it exactly when no id with data comes twice. -/
theorem records_preloaded {c : Cluster} {answer : Json} {hits : SearchHits} {load : RecordLoader}
    {related : List (String × Json)} (hanswer : c.search r.index r.compiled.toJson = .ok answer)
    (hhits : SearchHits.ofJson answer = .ok hits) (hload : r.loader = some load)
    (hrelated : load (r.recordsOf hits.hits) = .ok related) :
    ∃ records, (r.records c).result = .ok records ∧ records.length = hits.hits.length ∧
      (∀ n, r.page = .last n →
        records.map SearchRecord.unloaded = (hits.hits.map SearchRecord.ofHit).reverse) ∧
      ((∀ n, r.page ≠ .last n) →
        records.map SearchRecord.unloaded = hits.hits.map SearchRecord.ofHit) ∧
      (∀ before a after, records = before ++ a :: after →
        a.related = if a.id ∈ before.map SearchRecord.id then none else related.lookup a.id) ∧
      ((∀ a ∈ records, a.related = related.lookup a.id) ↔
        records.Pairwise fun a b => a.id = b.id → related.lookup a.id = none) := by
  have hresult : (r.records c).result = .ok (attachRelated (r.recordsOf hits.hits) related) := by
    show (((c.search r.index r.compiled.toJson).mapError SearchError.cluster) >>= fun answer =>
      ((SearchHits.ofJson answer).mapError SearchError.cluster) >>= fun hits =>
        r.loaded (r.recordsOf hits.hits)) = _
    rw [mapError_eq_ok.2 hanswer, ok_bind, mapError_eq_ok.2 hhits, ok_bind]
    unfold loaded
    rw [hload]
    dsimp only
    rw [hrelated]
    rfl
  have hunloaded : (attachRelated (r.recordsOf hits.hits) related).map SearchRecord.unloaded =
      r.recordsOf hits.hits := by
    rw [map_unloaded_attachRelated, map_unloaded_recordsOf]
  obtain ⟨hlast, hfirst⟩ := r.recordsOf_eq hits.hits
  refine ⟨_, hresult, ?_, fun n hn => hunloaded.trans (hlast n hn), fun hn => hunloaded.trans (hfirst hn),
    fun _ _ _ => attachRelated_split, forall_related_iff fun _ _ _ => attachRelated_split⟩
  calc (attachRelated (r.recordsOf hits.hits) related).length
      = (r.recordsOf hits.hits).length := by rw [← List.length_map SearchRecord.unloaded, hunloaded]
    _ = hits.hits.length := r.length_recordsOf hits.hits

/-- An answer with a hit for each of some ids. -/
def answerOf (ids : List String) : Json :=
  .obj [("hits", .obj [("hits", .arr (ids.map fun id => .obj [("_id", .str id)]))])]

/-- The last page of all documents, for every record of which with the id 1 there is data. -/
def lastLoaded : Relation :=
  { index := "docs", document := .empty, tieBreakerField := "id", page := .last 3
    loader := some fun _ => .ok [("1", .str "author")] }

theorem records_preloaded_lastLoaded :
    ∃ hits records, SearchHits.ofJson (answerOf ["2", "1", "2"]) = .ok hits ∧
      (lastLoaded.records ⟨fun _ _ => .ok (answerOf ["2", "1", "2"]), fun _ _ => .error .noCount⟩).result =
        .ok records ∧
      records.length = 3 ∧ ∀ a ∈ records, a.related = [("1", Json.str "author")].lookup a.id := by
  have hhits : ∃ hits, SearchHits.ofJson (answerOf ["2", "1", "2"]) = .ok hits := ⟨_, rfl⟩
  obtain ⟨hits, hhits⟩ := hhits
  obtain ⟨records, hrecords, hlength, -, -, -, hall⟩ := records_preloaded (r := lastLoaded)
    (c := ⟨fun _ _ => .ok (answerOf ["2", "1", "2"]), fun _ _ => .error .noCount⟩) rfl hhits rfl rfl
  cases hhits
  cases hrecords
  refine ⟨_, _, rfl, rfl, hlength, hall.2 ?_⟩
  -- the id that comes twice has no data
  decide

/-- With two hits of one id the second record has none of the data that was loaded for it. -/
theorem records_repeated_unloaded : ∃ a b,
    (lastLoaded.records ⟨fun _ _ => .ok (answerOf ["1", "1"]), fun _ _ => .error .noCount⟩).result =
      .ok [a, b] ∧ a.id = b.id ∧ a.related = some (.str "author") ∧ b.related = none :=
  ⟨_, _, rfl, rfl, rfl, rfl⟩

end Relation

end TenantSearch
