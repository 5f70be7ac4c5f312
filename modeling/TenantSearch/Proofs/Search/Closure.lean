/-
Whatever a request compiles to, an index in memory evaluates. The filters, the rules of access, the
free text, the positions and the vector parts are written in the part of the query language that the
index knows, so it answers every search and every count of a relation, and the answers read back. Over
documents whose sorted fields hold values of one kind each, the keys that are sent compare like a
linear order.
-/
import TenantSearch.Proofs.Search.Moves
import TenantSearch.Proofs.Search.Requests

namespace TenantSearch

open Index

/-! ## Sort keys of one kind -/

namespace MemoryIndex

/-- What a sort key sees of a source. -/
def SortKey.rank? (k : SortKey) (source : Json) : Option Scalar :=
  (fieldValue source k.field).bind Scalar.ofJson?

/-- The order of what a key sees. With missing values first it is an order with missing values last
that is turned round. -/
def SortKey.compareRanks (k : SortKey) (a b : Option Scalar) : Ordering :=
  (if k.missingFirst then SortOrder.desc else .asc).orient
    (missingLast (fun v w => (if k.descending = k.missingFirst then SortOrder.asc else .desc).orient
      (v.compare w)) a b)

instance (k : SortKey) : Std.TransCmp k.compareRanks := by
  unfold SortKey.compareRanks
  infer_instance

/-- The order by some keys of what they see, the first key first. -/
def compareByRanks : List SortKey → Json → Json → Ordering
  | [] => fun _ _ => .eq
  | k :: rest => compareLex (fun a b => k.compareRanks (k.rank? a) (k.rank? b)) (compareByRanks rest)

theorem transCmp_compareByRanks : ∀ keys : List SortKey, Std.TransCmp (compareByRanks keys)
  | [] => { eq_swap := rfl, isLE_trans := fun _ _ => rfl }
  | k :: rest => by
    have hhead : Std.TransCmp fun a b : Json => k.compareRanks (k.rank? a) (k.rank? b) :=
      transCmp_on k.rank?
    have htail := transCmp_compareByRanks rest
    exact inferInstanceAs (Std.TransCmp (compareLex _ _))

/-- A field whose values are all of one kind, where a source has one at all. -/
def OneKindField (field : String) (sources : List Json) : Prop :=
  ∃ kind, ∀ source ∈ sources, ∀ v, fieldValue source field = some v → kind? v = some kind

variable {k : SortKey} {keys : List SortKey} {sources : List Json} {a b : Json}

/-- Over values of one kind a key compares what it sees. -/
theorem SortKey.compare_eq_ranks (h : OneKindField k.field sources) (ha : a ∈ sources) (hb : b ∈ sources) :
    k.compare a b = k.compareRanks (k.rank? a) (k.rank? b) := by
  obtain ⟨kind, hkind⟩ := h
  unfold SortKey.compare SortKey.compareRanks SortKey.rank?
  cases hx : fieldValue a k.field with
  | none =>
    cases hy : fieldValue b k.field with
    | none => cases k.missingFirst <;> rfl
    | some y =>
      obtain ⟨v, hv, -⟩ := KeyOrder.exists_scalar (hkind b hb y hy)
      cases k.missingFirst <;> simp [hv, missingLast, SortOrder.orient]
  | some x =>
    cases hy : fieldValue b k.field with
    | none =>
      obtain ⟨v, hv, -⟩ := KeyOrder.exists_scalar (hkind a ha x hx)
      cases k.missingFirst <;> simp [hv, missingLast, SortOrder.orient]
    | some y =>
      obtain ⟨v, w, hv, hw, hcmp⟩ :=
        KeyOrder.compareValues_eq_of_kind (hkind a ha x hx) (hkind b hb y hy)
      cases k.missingFirst <;> cases k.descending <;>
        simp [hv, hw, hcmp, missingLast, SortOrder.orient]

theorem compareSources_eq_ranks (h : ∀ k ∈ keys, OneKindField k.field sources) (ha : a ∈ sources)
    (hb : b ∈ sources) : compareSources a b keys = compareByRanks keys a b := by
  induction keys with
  | nil => rfl
  | cons k rest ih =>
    obtain ⟨hk, hrest⟩ := List.forall_mem_cons.1 h
    rw [compareSources, SortKey.compare_eq_ranks hk ha hb, ih hrest, compareByRanks, compareLex]
    cases k.compareRanks (k.rank? a) (k.rank? b) <;> rfl

/-- Documents whose sorted fields are of one kind each are listed in the order of their keys. -/
theorem ordered_pairwise (m : MemoryIndex) (d : QueryDocument)
    (h : OrderedBy (d.sort.map SortKey.ofClause) (compareByRanks (d.sort.map SortKey.ofClause)) Prod.snd
      m.documents) :
    (m.ordered d).Pairwise fun a b =>
      (compareByRanks (d.sort.map SortKey.ofClause) a.2 b.2).isLE := by
  unfold ordered
  by_cases hsort : d.sort = []
  · rw [if_pos hsort, hsort]
    exact List.pairwise_of_forall fun _ _ => rfl
  · rw [if_neg hsort]
    have := transCmp_compareByRanks (d.sort.map SortKey.ofClause)
    exact sorted_pairwise (h.of_subset (m.found_sublist _).subset)

end MemoryIndex

/-! ## Relations that are answered -/

open MemoryIndex

namespace Relation

variable {r : Relation} {k : KeyOrder} {m : MemoryIndex}

/-- An index answers the search and the counts of a relation, and its answers read back. -/
structure AnsweredBy (r : Relation) (m : MemoryIndex) : Prop where
  search : ∃ answer hits, m.search r.compiled.toJson = .ok answer ∧ SearchHits.ofJson answer = .ok hits ∧
    (r.records (.ofIndex m)).result = .ok (r.recordsOf hits.hits)
  count : ∃ answer n, m.count (.obj [("query", r.compiled.queryClause)]) = .ok answer ∧
    countOfJson answer = .ok n
  total : ∃ answer n, m.count r.countBody = .ok answer ∧ countOfJson answer = .ok n ∧
    (r.totalCount (.ofIndex m)).result = .ok n

theorem Browses.answeredBy (h : r.Browses k) (m : MemoryIndex) : r.AnsweredBy m := by
  obtain ⟨answer, hanswer, hhits⟩ := MemoryIndex.search_eq (m := m) h.decided_compiled
  obtain ⟨counted, hcounted, hn⟩ := m.count_eq h.decided_compiled
  obtain ⟨counted', hcounted', hn'⟩ := m.count_eq h.plain.decided
  constructor
  · exact ⟨answer, _, hanswer, hhits, h.records_eq m⟩
  · exact ⟨counted, _, hcounted, hn⟩
  · exact ⟨counted', _, hcounted', hn', totalCount_eq h.plain.decided m⟩

/-- The hits of an answer come in the order of the documents found. -/
theorem Browses.hits_pairwise (h : r.Browses k) {cmp : Json → Json → Ordering}
    (hm : (m.ordered r.compiled).Pairwise fun a b => (cmp a.2 b.2).isLE) {answer : Json} {hits : SearchHits}
    (hanswer : m.search r.compiled.toJson = .ok answer) (hhits : SearchHits.ofJson answer = .ok hits) :
    hits.hits.Pairwise fun a b => (cmp a.source b.source).isLE := by
  obtain ⟨answer', hanswer', hhits'⟩ := MemoryIndex.search_eq (m := m) h.decided_compiled
  obtain rfl : answer = answer' := Except.ok.inj (hanswer.symm.trans hanswer')
  obtain rfl := Except.ok.inj (hhits.symm.trans hhits')
  exact List.pairwise_map.2 ((hm.sublist (List.drop_sublist _ _)).sublist (List.take_sublist _ _))

end Relation

namespace SearchService

variable {s : SearchService} {o : SearchOptions} {r : Relation} {status : HybridStatus}

/-- An index in memory answers whatever is sent for a request's relation, after any steps and with
any vector part, so neither its records nor its total can fail. Over fields of one kind the keys that
are sent compare sources like a linear order, and the hits come in this order. -/
theorem compiled_answered (h : (s.relation o).result = .ok (r, status)) (moves : List Relation.Move)
    (m : MemoryIndex) (hk : ∀ c ∈ (r.follow moves).compiled.sort,
      OneKindField c.field (m.documents.map Prod.snd)) :
    (r.follow moves).AnsweredBy m ∧ ∃ cmp : Json → Json → Ordering, Std.TransCmp cmp ∧
      OrderedBy ((r.follow moves).compiled.sort.map SortKey.ofClause) cmp Prod.snd m.documents ∧
      ∀ answer hits, m.search (r.follow moves).compiled.toJson = .ok answer →
        SearchHits.ofJson answer = .ok hits →
        hits.hits.Pairwise fun a b => (cmp a.source b.source).isLE := by
  obtain ⟨k, hr⟩ := exists_browses h
  replace hr := hr.follow moves
  generalize r.follow moves = r at hr hk ⊢
  have hordered : OrderedBy (r.compiled.sort.map SortKey.ofClause)
      (compareByRanks (r.compiled.sort.map SortKey.ofClause)) Prod.snd m.documents := by
    intro a ha b hb
    refine compareSources_eq_ranks ?_ (List.mem_map_of_mem ha) (List.mem_map_of_mem hb)
    intro key hkey
    obtain ⟨c, hc, rfl⟩ := List.mem_map.1 hkey
    exact hk c hc
  refine ⟨hr.answeredBy m, _, transCmp_compareByRanks _, hordered, ?_⟩
  intro answer hits hanswer hhits
  exact hr.hits_pairwise (m.ordered_pairwise r.compiled hordered) hanswer hhits

/-- Two issues from the end, in front of a position that no issue could have. -/
def strayMoves : List Relation.Move := [.first 1, .before ⟨some (.arr [.null]), .obj []⟩, .last 2]

theorem compiled_answered_strayMoves :
    (exampleService.relation oldestIssues).result = .ok (oldestIssuesRelation, .disabled) ∧
      (∀ c ∈ (oldestIssuesRelation.follow strayMoves).compiled.sort,
        OneKindField c.field (threeIssues.documents.map Prod.snd)) ∧
      (oldestIssuesRelation.follow strayMoves).AnsweredBy threeIssues := by
  have hrelation : (exampleService.relation oldestIssues).result =
      .ok (oldestIssuesRelation, .disabled) := rfl
  have hsort : (oldestIssuesRelation.follow strayMoves).compiled.sort =
      [⟨"created_at", .desc, some .first⟩, ⟨"id", .desc, none⟩] := rfl
  have hone := oneKind_issues [("a", some "2024-02-01"), ("b", none), ("c", some "2024-01-01")]
  have hk : ∀ c ∈ (oldestIssuesRelation.follow strayMoves).compiled.sort,
      OneKindField c.field (threeIssues.documents.map Prod.snd) := by
    rw [hsort]
    simp only [List.forall_mem_cons]
    refine ⟨⟨.text, ?_⟩, ⟨.text, ?_⟩, List.forall_mem_nil _⟩
    · rw [List.forall_mem_map]
      exact hone.primary
    · rw [List.forall_mem_map]
      exact hone.tieBreaker
  exact ⟨hrelation, hk, (compiled_answered hrelation strayMoves threeIssues hk).1⟩

end SearchService

end TenantSearch
