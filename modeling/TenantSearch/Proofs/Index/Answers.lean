/-
What the index in memory answers. A query without faults finds the documents that satisfy it; the
written form of a document is read back key by key; sorting permutes the found documents into the
order of their sort keys; and the answer lists the window asked for, with the number of all found.
-/
import TenantSearch.Cluster.Basic
import TenantSearch.Proofs.Index.Clauses
import TenantSearch.Query.Document

namespace TenantSearch.MemoryIndex

open Index

/-! ## Found documents -/

/-- The documents that satisfy a clause, in the order of the index. -/
def found (m : MemoryIndex) (c : Clause) : List (String × Json) :=
  m.documents.filter fun d => decide (Accepts d.1 d.2 c)

theorem found_sublist (m : MemoryIndex) (c : Clause) : (m.found c).Sublist m.documents :=
  List.filter_sublist

theorem mem_found {m : MemoryIndex} {c : Clause} {d : String × Json} :
    d ∈ m.found c ↔ d ∈ m.documents ∧ Accepts d.1 d.2 c := by
  rw [found, List.mem_filter, decide_eq_true_iff]

theorem matchingFrom_eq {c : Clause} (hc : Decided c) :
    ∀ ds : List (String × Json),
      matchingFrom c ds = .ok (ds.filter fun d => decide (Accepts d.1 d.2 c))
  | [] => rfl
  | (id, source) :: rest => by
    rw [matchingFrom, hc.outcome_eq, ok_bind, matchingFrom_eq hc rest, ok_bind, List.filter_cons]

/-! ## The written form -/

theorem lookup_member_append (key k : String) (v : Option Json) (rest : List (String × Json)) :
    (QueryDocument.member k v ++ rest).lookup key =
      if key = k then v.or (rest.lookup key) else rest.lookup key := by
  cases v with
  | none => simp [QueryDocument.member]
  | some v =>
    by_cases h : key = k
    · simp [QueryDocument.member, h]
    · have hne : (key == k) = false := by simp [h]
      simp [QueryDocument.member, List.lookup_cons, h, hne]

theorem lookup_member (key k : String) (v : Option Json) :
    (QueryDocument.member k v).lookup key = if key = k then v else none := by
  have h := lookup_member_append key k v []
  rwa [List.append_nil, List.lookup_nil, Option.or_none] at h

theorem queryOf_toJson (d : QueryDocument) : queryOf d.toJson = d.queryClause := by
  simp [queryOf, QueryDocument.toJson, Json.get?, lookup_member_append, List.append_assoc]

theorem get?_size (d : QueryDocument) : d.toJson.get? "size" = d.size.map Json.ofUInt32 := by
  obtain ⟨query, knn, sort, offset, size, trackScores, highlight, source⟩ := d
  cases sort <;> cases trackScores <;> cases size <;>
    simp [QueryDocument.toJson, Json.get?, lookup_member_append, lookup_member, List.append_assoc,
      List.lookup_cons]

theorem get?_from (d : QueryDocument) : d.toJson.get? "from" = d.offset.map Json.ofUInt32 := by
  obtain ⟨query, knn, sort, offset, size, trackScores, highlight, source⟩ := d
  cases sort <;> cases trackScores <;> cases offset <;>
    simp [QueryDocument.toJson, Json.get?, lookup_member_append, lookup_member, List.append_assoc,
      List.lookup_cons]

theorem get?_sort (d : QueryDocument) :
    d.toJson.get? "sort" = if d.sort = [] then none else some (.arr (d.sort.map SortClause.toJson)) := by
  obtain ⟨query, knn, sort, offset, size, trackScores, highlight, source⟩ := d
  cases sort <;> cases trackScores <;>
    simp [QueryDocument.toJson, Json.get?, lookup_member_append, lookup_member, List.append_assoc,
      List.lookup_cons]

theorem asUInt64?_ofUInt32 (n : UInt32) : (Json.ofUInt32 n).asUInt64? = some n.toUInt64 := by
  simp [Json.ofUInt32, Json.asUInt64?, Integer.ofUInt32]

theorem asUInt64?_ofUInt64 (n : UInt64) : (Json.ofUInt64 n).asUInt64? = some n := by
  simp [Json.ofUInt64, Json.asUInt64?, Integer.ofUInt64]

/-- A number of the written form is what the document says, or the default. -/
theorem numberOf_eq {body : Json} {key : String} {n : Option UInt32}
    (h : body.get? key = n.map Json.ofUInt32) (default : Nat) :
    numberOf body key default = (n.map UInt32.toNat).getD default := by
  unfold numberOf
  rw [h]
  cases n with
  | none => rfl
  | some n => simp [asUInt64?_ofUInt32]

def SortKey.ofClause (c : SortClause) : SortKey := ⟨c.field, c.order = .desc, c.missing = some .first⟩

theorem SortKey.ofJson_toJson (c : SortClause) : SortKey.ofJson c.toJson = .ok (.ofClause c) := by
  obtain ⟨field, order, missing⟩ := c
  rcases missing with _ | _ | _ <;> cases order <;> rfl

theorem sortKeys_toJson (d : QueryDocument) :
    sortKeys d.toJson = .ok (d.sort.map SortKey.ofClause) := by
  have hmapM : ∀ cs : List SortClause,
      (cs.map SortClause.toJson).mapM SortKey.ofJson = .ok (cs.map SortKey.ofClause) := by
    intro cs
    induction cs with
    | nil => rfl
    | cons c cs ih => rw [List.map_cons, List.mapM_cons, SortKey.ofJson_toJson, ok_bind, ih]; rfl
  unfold sortKeys
  rw [get?_sort]
  by_cases h : d.sort = []
  · rw [if_pos h, h]
    rfl
  · rw [if_neg h]
    exact hmapM d.sort

/-! ## Sorting -/

theorem compareSources_cons (key : SortKey) (keys : List SortKey) (a b : Json) :
    compareSources a b (key :: keys) = (key.compare a b).then (compareSources a b keys) := by
  rw [compareSources]
  cases key.compare a b <;> rfl

/-- Sources are equal to an order where none of its keys tells them apart. -/
theorem compareSources_eq_iff {a b : Json} : ∀ keys : List SortKey,
    compareSources a b keys = .eq ↔ ∀ key ∈ keys, key.compare a b = .eq
  | [] => by simp [compareSources]
  | key :: keys => by
    rw [compareSources_cons, Ordering.then_eq_eq, List.forall_mem_cons, compareSources_eq_iff keys]

theorem insertDescending_perm (keys : List SortKey) (x : String × Json) :
    ∀ ds : List (String × Json), (insertDescending keys x ds).Perm (x :: ds)
  | [] => .refl _
  | e :: rest => by
    rw [insertDescending]
    split
    · exact ((insertDescending_perm keys x rest).cons e).trans (.swap x e rest)
    · exact .refl _

theorem foldl_insertDescending_perm (keys : List SortKey) :
    ∀ ds acc : List (String × Json),
      (ds.foldl (fun acc x => insertDescending keys x acc) acc).Perm (ds ++ acc)
  | [], _ => .refl _
  | x :: ds, acc => by
    rw [List.foldl_cons]
    refine (foldl_insertDescending_perm keys ds _).trans ?_
    exact ((insertDescending_perm keys x acc).append_left ds).trans List.perm_middle

theorem sorted_perm (keys : List SortKey) (ds : List (String × Json)) : (sorted keys ds).Perm ds := by
  have h := foldl_insertDescending_perm keys ds []
  rw [List.append_nil] at h
  exact (List.reverse_perm _).trans h

section

variable {α : Type} {cmp : α → α → Ordering} {place : String × Json → α} {keys : List SortKey}

/-- On some documents the sort keys order sources as their places are ordered. -/
def OrderedBy (keys : List SortKey) (cmp : α → α → Ordering) (place : String × Json → α)
    (ds : List (String × Json)) : Prop :=
  ∀ a ∈ ds, ∀ b ∈ ds, compareSources a.2 b.2 keys = cmp (place a) (place b)

theorem OrderedBy.of_subset {ds es : List (String × Json)} (h : OrderedBy keys cmp place ds)
    (hs : es ⊆ ds) : OrderedBy keys cmp place es :=
  fun a ha b hb => h a (hs ha) b (hs hb)

theorem insertDescending_pairwise [Std.TransCmp cmp] {x : String × Json} :
    ∀ {ds : List (String × Json)}, OrderedBy keys cmp place (x :: ds) →
      ds.Pairwise (fun a b => (cmp (place a) (place b)).isGE) →
      (insertDescending keys x ds).Pairwise fun a b => (cmp (place a) (place b)).isGE
  | [], _, _ => List.pairwise_singleton _ _
  | e :: rest, h, hd => by
    have hcmp := h x List.mem_cons_self e (List.mem_cons_of_mem _ List.mem_cons_self)
    obtain ⟨hhead, htail⟩ := List.pairwise_cons.1 hd
    rw [insertDescending, hcmp]
    by_cases hlt : cmp (place x) (place e) = .lt
    · rw [if_pos hlt]
      have hrest : OrderedBy keys cmp place (x :: rest) :=
        h.of_subset (List.cons_subset_cons x (List.subset_cons_self e rest))
      refine List.pairwise_cons.2 ⟨?_, insertDescending_pairwise hrest htail⟩
      intro b hb
      rcases List.mem_cons.1 ((insertDescending_perm keys x rest).mem_iff.1 hb) with rfl | hb
      · rw [Std.OrientedCmp.gt_of_lt hlt]
        rfl
      · exact hhead b hb
    · -- what comes no earlier than the head goes in front of it, and so comes no earlier than the rest
      rw [if_neg hlt]
      have hge : (cmp (place x) (place e)).isGE := Ordering.ne_lt_iff_isGE.1 hlt
      refine List.pairwise_cons.2 ⟨?_, hd⟩
      intro b hb
      rcases List.mem_cons.1 hb with rfl | hb
      · exact hge
      · exact Std.TransCmp.isGE_trans hge (hhead b hb)

theorem foldl_insertDescending_pairwise [Std.TransCmp cmp] :
    ∀ {ds acc : List (String × Json)}, OrderedBy keys cmp place (ds ++ acc) →
      acc.Pairwise (fun a b => (cmp (place a) (place b)).isGE) →
      (ds.foldl (fun acc x => insertDescending keys x acc) acc).Pairwise
        fun a b => (cmp (place a) (place b)).isGE
  | [], _, _, hacc => hacc
  | x :: ds, acc, h, hacc => by
    rw [List.foldl_cons]
    have hx : OrderedBy keys cmp place (x :: acc) :=
      h.of_subset (List.cons_subset_cons x (List.subset_append_right ds acc))
    apply foldl_insertDescending_pairwise _ (insertDescending_pairwise hx hacc)
    apply h.of_subset
    intro b hb
    rw [((insertDescending_perm keys x acc).append_left ds).mem_iff] at hb
    exact List.perm_middle.mem_iff.1 hb

/-- Sorting puts documents into the order of their places. -/
theorem sorted_pairwise [Std.TransCmp cmp] {ds : List (String × Json)}
    (h : OrderedBy keys cmp place ds) :
    (sorted keys ds).Pairwise fun a b => (cmp (place a) (place b)).isLE := by
  unfold sorted
  rw [List.pairwise_reverse]
  have hnil : OrderedBy keys cmp place (ds ++ []) := by rwa [List.append_nil]
  refine (foldl_insertDescending_pairwise hnil .nil).imp fun {a b} hge => ?_
  exact Std.OrientedCmp.isGE_iff_isLE.1 hge

/-- In a list that is strictly in order no two documents share a place. -/
theorem eq_of_same_place [Std.OrientedCmp cmp] {L : List (String × Json)}
    (hL : L.Pairwise fun a b => cmp (place a) (place b) = .lt) {a b : String × Json}
    (ha : a ∈ L) (hb : b ∈ L) (h : cmp (place a) (place b) = .eq) : a = b := by
  have hall := List.Pairwise.forall_of_forall_of_flip
    (R := fun a b => cmp (place a) (place b) = .eq → a = b) (fun _ _ _ => rfl)
    (hL.imp fun hlt heq => absurd (hlt.symm.trans heq) (by decide))
    (hL.imp fun hlt heq => absurd (hlt.symm.trans (Std.OrientedCmp.eq_symm heq)) (by decide))
  exact hall ha hb h

/-- Documents at different places have exactly one order. -/
theorem sorted_eq [Std.TransCmp cmp] {ds L : List (String × Json)} (h : OrderedBy keys cmp place ds)
    (hp : L.Perm ds) (hL : L.Pairwise fun a b => cmp (place a) (place b) = .lt) :
    sorted keys ds = L := by
  -- two arrangements of the same documents, both in order, differ at most within equal places
  refine List.Perm.eq_of_pairwise ?_ (sorted_pairwise h) (hL.imp Ordering.isLE_of_eq_lt)
    ((sorted_perm keys ds).trans hp.symm)
  intro a b ha hb hab hba
  have haL : a ∈ L := hp.mem_iff.2 ((sorted_perm keys ds).mem_iff.1 ha)
  exact eq_of_same_place hL haL hb (Std.OrientedCmp.isLE_antisymm hab hba)

/-- Documents at different places are sorted strictly. -/
theorem sorted_strict [Std.TransCmp cmp] {ds : List (String × Json)} (h : OrderedBy keys cmp place ds)
    (hapart : ds.Pairwise fun a b => cmp (place a) (place b) ≠ .eq) :
    (sorted keys ds).Pairwise fun a b => cmp (place a) (place b) = .lt := by
  have hsymm : ∀ {a b : String × Json}, cmp (place a) (place b) ≠ .eq → cmp (place b) (place a) ≠ .eq :=
    fun hne heq => hne (Std.OrientedCmp.eq_symm heq)
  -- in order but never at the same place is strictly in order
  have hboth := (sorted_pairwise h).and (((sorted_perm keys ds).pairwise_iff hsymm).2 hapart)
  exact hboth.imp fun hab => (Ordering.isLE_iff_eq_lt_or_eq_eq.1 hab.1).resolve_right hab.2

/-- Keys that compare the other way round sort documents at different places the other way round. -/
theorem sorted_flipped [Std.TransCmp cmp] {flipped : List SortKey} {ds : List (String × Json)}
    (h : OrderedBy keys cmp place ds) (hflipped : OrderedBy flipped (fun x y => cmp y x) place ds)
    (hapart : ds.Pairwise fun a b => cmp (place a) (place b) ≠ .eq) :
    sorted flipped ds = (sorted keys ds).reverse :=
  sorted_eq hflipped ((List.reverse_perm _).trans (sorted_perm keys ds))
    (List.pairwise_reverse.2 (sorted_strict h hapart))

end

/-! ## Answers -/

/-- The hit reported for a document. -/
def hitOf (keys : List SortKey) (d : String × Json) : Hit :=
  ⟨d.1, some (.ofDyadic 1), d.2, keys.map fun k => k.hitValue d.2⟩

theorem hitOf_hitJson (keys : List SortKey) (d : String × Json) :
    SearchHits.hitOf (hitJson keys d) = .ok (hitOf keys d) := by
  cases keys <;> rfl

theorem mapM_hitJson (keys : List SortKey) :
    ∀ ds : List (String × Json),
      (ds.map (hitJson keys)).mapM SearchHits.hitOf = .ok (ds.map (hitOf keys))
  | [] => rfl
  | d :: ds => by
    rw [List.map_cons, List.mapM_cons, hitOf_hitJson, ok_bind, mapM_hitJson keys ds]
    rfl

/-- The found documents in the order that a document asks for. -/
def ordered (m : MemoryIndex) (d : QueryDocument) : List (String × Json) :=
  if d.sort = [] then m.found d.queryClause
  else sorted (d.sort.map SortKey.ofClause) (m.found d.queryClause)

variable {m : MemoryIndex} {d : QueryDocument}

theorem matching_eq {body : Json} {c : Clause} (hq : queryOf body = c) (hc : Decided c) :
    m.matching body = .ok (m.found c) := by
  unfold matching
  rw [hq]
  exact matchingFrom_eq hc m.documents

/-- The answer to a document whose query has no faults lists the window of the found documents. -/
theorem search_eq (hd : Decided d.queryClause) :
    ∃ answer, m.search d.toJson = .ok answer ∧ SearchHits.ofJson answer =
      .ok ⟨some (m.found d.queryClause).length.toUInt64,
        (((m.ordered d).drop ((d.offset.map UInt32.toNat).getD 0)).take
          ((d.size.map UInt32.toNat).getD defaultSize)).map
            (hitOf (d.sort.map SortKey.ofClause))⟩ := by
  have hfound := matching_eq (m := m) (queryOf_toJson d) hd
  have hwindow : m.window d.toJson = .ok (d.sort.map SortKey.ofClause,
      ((m.ordered d).drop ((d.offset.map UInt32.toNat).getD 0)).take
        ((d.size.map UInt32.toNat).getD defaultSize), (m.found d.queryClause).length) := by
    unfold window ordered
    rw [hfound, ok_bind, sortKeys_toJson, ok_bind, numberOf_eq (get?_from d), numberOf_eq (get?_size d)]
    simp
  unfold search
  rw [hwindow, ok_bind]
  refine ⟨_, rfl, ?_⟩
  show (List.mapM SearchHits.hitOf (List.map (hitJson (d.sort.map SortKey.ofClause)) _)).map _ = _
  rw [mapM_hitJson, Except.map]
  simp [SearchHits.totalOf, Json.get?, List.lookup_cons, Json.ofNat, asUInt64?_ofUInt64]

/-- The answer to a count tells how many documents satisfy the clause. -/
theorem count_eq {c : Clause} (hc : Decided c) :
    ∃ answer, m.count (.obj [("query", c)]) = .ok answer ∧
      countOfJson answer = .ok (m.found c).length.toUInt64 := by
  have hfound : m.matching (.obj [("query", c)]) = .ok (m.found c) := matching_eq rfl hc
  unfold count
  rw [hfound, ok_bind]
  refine ⟨_, rfl, ?_⟩
  simp [countOfJson, Json.get?, Json.ofNat, asUInt64?_ofUInt64]

end TenantSearch.MemoryIndex
