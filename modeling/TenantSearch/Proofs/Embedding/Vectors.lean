/-
The vectors in the answer of a provider. An answer is read exactly when it has a list of items, each with
a list of numbers. There is then a vector for every item, and they stand in the order of the indices that
the items name, items without one counting by their place and equal indices in the order of the items. So
vectors that are sent in any order with their indices come out as they were, and those that a provider is
asked for all have the size that is configured.
-/
import Mathlib
import TenantSearch.Embedding.Provider
import TenantSearch.Proofs.Index.Answers

namespace TenantSearch

/-! ## Lists in the order of a key -/

section

variable {α : Type} {key : α → Nat} {xs ys zs : List α}

/-- A list put in the order of a key, the members with the same key in the order in which they were. -/
structure StablySorted (key : α → Nat) (xs ys : List α) : Prop where
  perm : ys.Perm xs
  ordered : ys.Pairwise fun a b => key a ≤ key b
  stable : ∀ k, ys.filter (fun a => key a = k) = xs.filter (fun a => key a = k)

theorem stablySorted_mergeSort (key : α → Nat) (xs : List α) :
    StablySorted key xs (xs.mergeSort fun a b => key a ≤ key b) := by
  have htrans : ∀ a b c : α, decide (key a ≤ key b) = true → decide (key b ≤ key c) = true →
      decide (key a ≤ key c) = true := by
    intro a b c
    simp only [decide_eq_true_eq]
    exact Nat.le_trans
  have htotal : ∀ a b : α, (decide (key a ≤ key b) || decide (key b ≤ key a)) = true := by
    intro a b
    simp only [Bool.or_eq_true, decide_eq_true_eq]
    exact Nat.le_total _ _
  have hperm := List.mergeSort_perm xs fun a b => decide (key a ≤ key b)
  refine ⟨hperm, ?_, fun k => ?_⟩
  · exact (List.pairwise_mergeSort htrans htotal xs).imp fun h => of_decide_eq_true h
  · -- the members with one key are in order already, so they are left as they are
    have hsame : (xs.filter fun a => key a = k).Pairwise fun a b => decide (key a ≤ key b) = true := by
      refine List.pairwise_of_forall_mem_list fun a ha b hb => ?_
      have hka := (List.mem_filter.1 ha).2
      have hkb := (List.mem_filter.1 hb).2
      simp only [decide_eq_true_eq] at hka hkb ⊢
      omega
    have hsub := (List.sublist_mergeSort htrans htotal hsame List.filter_sublist).filter fun a => key a = k
    rw [List.filter_filter] at hsub
    simp only [Bool.and_self] at hsub
    exact (hsub.eq_of_length (hperm.filter _).length_eq.symm).symm

/-- Lists in the order of a key are told by their members with each key. -/
theorem eq_of_ordered : ∀ {ys zs : List α}, ys.Pairwise (fun a b => key a ≤ key b) →
    zs.Pairwise (fun a b => key a ≤ key b) →
    (∀ k, ys.filter (fun a => key a = k) = zs.filter (fun a => key a = k)) → ys = zs
  | [], [], _, _, _ => rfl
  | [], z :: zs, _, _, h => by simpa using h (key z)
  | y :: ys, [], _, _, h => by simpa using h (key y)
  | y :: ys, z :: zs, hy, hz, h => by
    have hle : ∀ {a b : α} {as bs : List α}, (b :: bs).Pairwise (fun a b => key a ≤ key b) →
        (a :: as).filter (fun c => key c = key a) = (b :: bs).filter (fun c => key c = key a) →
        key b ≤ key a := by
      intro a b as bs hb hsame
      have ha : a ∈ (b :: bs).filter fun c => key c = key a := by
        rw [← hsame]
        simp
      rcases List.mem_cons.1 (List.mem_filter.1 ha).1 with rfl | ha
      · exact le_rfl
      · exact (List.pairwise_cons.1 hb).1 a ha
    have hkey : key y = key z := Nat.le_antisymm (hle hy (h (key z)).symm) (hle hz (h (key y)))
    obtain ⟨rfl, -⟩ : y = z ∧ _ := by
      have hhead := h (key y)
      rw [List.filter_cons_of_pos (by simp), List.filter_cons_of_pos (by simp [hkey]), List.cons.injEq] at hhead
      exact hhead
    congr 1
    refine eq_of_ordered (List.pairwise_cons.1 hy).2 (List.pairwise_cons.1 hz).2 fun k => ?_
    have hk := h k
    rw [List.filter_cons, List.filter_cons] at hk
    split at hk
    · exact (List.cons.inj hk).2
    · exact hk

/-- Where no two members have the same key, every list of them in order is the sorted one. -/
theorem StablySorted.of_nodup (hperm : ys.Perm xs) (hordered : ys.Pairwise fun a b => key a ≤ key b)
    (hkeys : (xs.map key).Nodup) : StablySorted key xs ys := by
  have hsorted := stablySorted_mergeSort key xs
  have hanti : ∀ a b, a ∈ ys → b ∈ xs.mergeSort (fun a b => key a ≤ key b) → key a ≤ key b →
      key b ≤ key a → a = b := fun a b ha hb hab hba =>
    List.inj_on_of_nodup_map hkeys (hperm.subset ha) (hsorted.perm.subset hb) (Nat.le_antisymm hab hba)
  rw [hperm.trans hsorted.perm.symm |>.eq_of_pairwise hanti hordered hsorted.ordered]
  exact hsorted

theorem StablySorted.eq (h : StablySorted key xs ys) (h' : StablySorted key xs zs) : ys = zs :=
  eq_of_ordered h.ordered h'.ordered fun k => (h.stable k).trans (h'.stable k).symm

end

namespace Embedding

variable {place : Nat} {item v : Json} {items vs : List Json} {vector : Vector} {x : Nat × Vector}
  {indexed : List (Nat × Vector)} {vectors : List Vector}

/-! ## Items -/

/-- The index that an item names, or its place where it names none. -/
inductive IndexOf (place : Nat) (item : Json) : Nat → Prop where
  | named {n : UInt64} (h : item.get? "index" = some (.ofUInt64 n)) : IndexOf place item n.toNat
  | placed (h : ∀ n : UInt64, item.get? "index" ≠ some (.ofUInt64 n)) : IndexOf place item place

/-- The embedding of an item is a list of these numbers. -/
def HasNumbers (item : Json) (xs : List Double) : Prop :=
  ∃ vs, item.get? "embedding" = some (.arr vs) ∧ vs.map Json.asDouble? = xs.map some

/-- What is read of an item at a place: its index, and its numbers in the 32-bit format. -/
structure Yields (place : Nat) (item : Json) (x : Nat × Vector) : Prop where
  index : IndexOf place item x.1
  vector : ∃ xs, HasNumbers item xs ∧ x.2 = xs.map Extended.singleOfDouble

theorem asUInt64?_eq_some {n : UInt64} : v.asUInt64? = some n ↔ v = .ofUInt64 n := by
  constructor
  · intro h
    cases v with
    | int i =>
      change (if 0 ≤ i.val then some i.val.toNat.toUInt64 else none) = some n at h
      obtain ⟨val, hrange⟩ := i
      simp only [Option.ite_none_right_eq_some, Option.some.injEq] at h
      obtain ⟨hpos, rfl⟩ := h
      have hsame : ((val.toNat.toUInt64.toNat : Nat) : Int) = val := by
        rw [Nat.toUInt64_eq, UInt64.toNat_ofNat', Nat.mod_eq_of_lt (by omega)]
        exact Int.toNat_of_nonneg hpos
      simp only [Json.ofUInt64, Integer.ofUInt64, hsame]
    | _ => cases h
  · rintro rfl
    exact MemoryIndex.asUInt64?_ofUInt64 n

theorem bind_asUInt64?_eq_some {o : Option Json} {n : UInt64} :
    o.bind Json.asUInt64? = some n ↔ o = some (.ofUInt64 n) := by
  cases o with
  | none => simp
  | some v => simp [asUInt64?_eq_some]

/-- The index that the reader takes is the one that the item has at its place. -/
theorem indexOf_iff {n : Nat} : IndexOf place item n ↔
    n = (((item.get? "index").bind Json.asUInt64?).map UInt64.toNat).getD place := by
  cases hread : (item.get? "index").bind Json.asUInt64? with
  | some m =>
    have hget := bind_asUInt64?_eq_some.1 hread
    constructor
    · rintro (hn | hp)
      · rw [bind_asUInt64?_eq_some.2 hn] at hread
        rw [Option.some.inj hread]
        rfl
      · exact absurd hget (hp m)
    · rintro rfl
      exact .named hget
  | none =>
    have hno : ∀ n : UInt64, item.get? "index" ≠ some (.ofUInt64 n) := by
      intro n hn
      rw [bind_asUInt64?_eq_some.2 hn] at hread
      cases hread
    constructor
    · rintro (hn | -)
      · exact absurd hn (hno _)
      · rfl
    · rintro rfl
      exact .placed hno

theorem bind_asArray?_eq_some {o : Option Json} {vs : List Json} :
    o.bind Json.asArray? = some vs ↔ o = some (.arr vs) := by
  cases o with
  | none => simp
  | some v => cases v <;> simp [Json.asArray?]

theorem readNumbers_eq_ok : ∀ {vs : List Json} {vector : Vector}, readNumbers vs = .ok vector ↔
    ∃ xs : List Double, vs.map Json.asDouble? = xs.map some ∧ vector = xs.map Extended.singleOfDouble
  | [], vector => by
    constructor
    · intro h
      cases h
      exact ⟨[], rfl, rfl⟩
    · rintro ⟨xs, hxs, rfl⟩
      obtain rfl := List.map_eq_nil_iff.1 hxs.symm
      rfl
  | v :: vs, vector => by
    rw [readNumbers]
    cases hv : v.asDouble? with
    | some x =>
      simp only [bind_eq_ok, readNumbers_eq_ok]
      constructor
      · rintro ⟨_, ⟨xs, hxs, rfl⟩, h⟩
        cases h
        exact ⟨x :: xs, by rw [List.map_cons, List.map_cons, hv, hxs], rfl⟩
      · rintro ⟨xs, hxs, rfl⟩
        obtain ⟨y, ys, rfl, hy, hys⟩ := List.map_eq_cons_iff.1 hxs.symm
        obtain rfl := Option.some.inj (hy.trans hv)
        exact ⟨_, ⟨ys, hys.symm, rfl⟩, rfl⟩
    | none =>
      constructor
      · intro h
        cases h
      · rintro ⟨xs, hxs, -⟩
        obtain ⟨y, ys, -, hy, -⟩ := List.map_eq_cons_iff.1 hxs.symm
        rw [hv] at hy
        cases hy

theorem readItem_eq_ok : readItem place item = .ok x ↔ Yields place item x := by
  unfold readItem
  cases hvs : (item.get? "embedding").bind Json.asArray? with
  | some vs =>
    have hget := bind_asArray?_eq_some.1 hvs
    simp only [map_eq_ok, readNumbers_eq_ok]
    constructor
    · rintro ⟨_, ⟨xs, hxs, rfl⟩, rfl⟩
      exact ⟨indexOf_iff.2 rfl, xs, ⟨vs, hget, hxs⟩, rfl⟩
    · rintro ⟨hindex, xs, ⟨vs', hget', hxs⟩, hx⟩
      obtain rfl := Json.arr.inj (Option.some.inj (hget.symm.trans hget'))
      exact ⟨x.2, ⟨xs, hxs, hx⟩, Prod.ext (indexOf_iff.1 hindex).symm rfl⟩
  | none =>
    constructor
    · intro h
      cases h
    · rintro ⟨-, xs, ⟨vs, hget, -⟩, -⟩
      rw [bind_asArray?_eq_some.2 hget] at hvs
      cases hvs

/-- Something is read of an item exactly when it has numbers. -/
theorem exists_yields : (∃ x, Yields place item x) ↔ ∃ xs, HasNumbers item xs := by
  constructor
  · rintro ⟨_, -, xs, hxs, -⟩
    exact ⟨xs, hxs⟩
  · rintro ⟨xs, hxs⟩
    exact ⟨(_, xs.map Extended.singleOfDouble), indexOf_iff.2 rfl, xs, hxs, rfl⟩

/-! ## Lists of items -/

/-- What is read of items that stand in a list, from a place on. -/
def AllYield (place : Nat) (items : List Json) (indexed : List (Nat × Vector)) : Prop :=
  List.Forall₂ (fun e x => Yields e.2 e.1 x) (items.zipIdx place) indexed

theorem readItems_eq_ok : ∀ {place : Nat} {items : List Json} {indexed : List (Nat × Vector)},
    readItems place items = .ok indexed ↔ AllYield place items indexed
  | place, [], indexed => by
    constructor
    · intro h
      cases h
      exact .nil
    · intro h
      cases h
      rfl
  | place, item :: items, indexed => by
    rw [readItems]
    simp only [bind_eq_ok, readItem_eq_ok, readItems_eq_ok]
    constructor
    · rintro ⟨x, hx, more, hmore, h⟩
      cases h
      exact .cons hx hmore
    · rintro (_ | ⟨hx, hmore⟩)
      exact ⟨_, hx, _, hmore, rfl⟩

theorem exists_allYield : ∀ {place : Nat} {items : List Json},
    (∃ indexed, AllYield place items indexed) ↔ ∀ item ∈ items, ∃ xs, HasNumbers item xs
  | place, [] => by
    constructor
    · intro _ item h
      cases h
    · intro _
      exact ⟨[], .nil⟩
  | place, item :: items => by
    rw [List.forall_mem_cons, ← @exists_yields place, ← @exists_allYield (place + 1)]
    constructor
    · rintro ⟨_, _ | ⟨hx, hmore⟩⟩
      exact ⟨⟨_, hx⟩, _, hmore⟩
    · rintro ⟨⟨x, hx⟩, more, hmore⟩
      exact ⟨x :: more, .cons hx hmore⟩

theorem AllYield.length_eq (h : AllYield place items indexed) : indexed.length = items.length := by
  rw [← List.Forall₂.length_eq h, List.length_zipIdx]

/-! ## Answers -/

/-- The vectors of an answer: what its items yield, in the order of the indices. -/
theorem readResponse_eq_ok : readResponse v = .ok vectors ↔
    ∃ items indexed sorted, v.get? "data" = some (.arr items) ∧ AllYield 0 items indexed ∧
      StablySorted Prod.fst indexed sorted ∧ vectors = sorted.map Prod.snd := by
  unfold readResponse
  cases hdata : (v.get? "data").bind Json.asArray? with
  | some items =>
    have hget := bind_asArray?_eq_some.1 hdata
    simp only [bind_eq_ok, readItems_eq_ok]
    constructor
    · rintro ⟨indexed, hindexed, h⟩
      cases h
      exact ⟨items, indexed, _, hget, hindexed, stablySorted_mergeSort Prod.fst indexed, rfl⟩
    · rintro ⟨items', indexed, sorted, hget', hindexed, hsorted, rfl⟩
      obtain rfl := Json.arr.inj (Option.some.inj (hget.symm.trans hget'))
      exact ⟨indexed, hindexed, by rw [(stablySorted_mergeSort Prod.fst indexed).eq hsorted]⟩
  | none =>
    constructor
    · intro h
      cases h
    · rintro ⟨items, _, _, hget, -⟩
      rw [bind_asArray?_eq_some.2 hget] at hdata
      cases hdata

theorem readResponse_ok : (∃ vectors, readResponse v = .ok vectors) ↔
    ∃ items, v.get? "data" = some (.arr items) ∧ ∀ item ∈ items, ∃ xs, HasNumbers item xs := by
  constructor
  · rintro ⟨vectors, h⟩
    obtain ⟨items, indexed, -, hdata, hyield, -⟩ := readResponse_eq_ok.1 h
    exact ⟨items, hdata, exists_allYield.1 ⟨indexed, hyield⟩⟩
  · rintro ⟨items, hdata, hnumbers⟩
    obtain ⟨indexed, hyield⟩ := exists_allYield.2 hnumbers
    exact ⟨_, readResponse_eq_ok.2
      ⟨items, indexed, _, hdata, hyield, stablySorted_mergeSort Prod.fst indexed, rfl⟩⟩

/-! ## Vectors that are sent with their indices -/

/-- An item carries some numbers and names their index. -/
structure Carries (item : Json) (x : List Double × Nat) : Prop where
  index : ∃ n : UInt64, item.get? "index" = some (.ofUInt64 n) ∧ n.toNat = x.2
  numbers : HasNumbers item x.1

/-- An index beside numbers in the 32-bit format. -/
def single (x : List Double × Nat) : Nat × Vector := (x.2, x.1.map Extended.singleOfDouble)

theorem Carries.yields {x : List Double × Nat} (h : Carries item x) : Yields place item (single x) := by
  obtain ⟨⟨n, hget, hn⟩, hnumbers⟩ := h
  refine ⟨?_, x.1, hnumbers, rfl⟩
  show IndexOf place item x.2
  rw [← hn]
  exact .named hget

theorem allYield_of_carries : ∀ {place : Nat} {items : List Json} {order : List (List Double × Nat)},
    List.Forall₂ Carries items order → AllYield place items (order.map single)
  | _, [], [], _ => .nil
  | _, _ :: _, _ :: _, .cons h hrest => .cons h.yields (allYield_of_carries hrest)

theorem map_fst_single (order : List (List Double × Nat)) :
    (order.map single).map Prod.fst = order.map Prod.snd := by
  rw [List.map_map]
  rfl

/-- Vectors that are numbered in their order come back in it, in whichever order they are sent. -/
theorem readResponse_of_perm {sent : List (List Double)} {order : List (List Double × Nat)}
    (hdata : v.get? "data" = some (.arr items)) (horder : order.Perm sent.zipIdx)
    (hcarries : List.Forall₂ Carries items order) :
    readResponse v = .ok (sent.map (List.map Extended.singleOfDouble)) := by
  have hkeys : ((order.map single).map Prod.fst).Nodup := by
    rw [map_fst_single, (horder.map Prod.snd).nodup_iff, List.zipIdx_map_snd]
    exact List.nodup_range'
  have hordered : (sent.zipIdx.map single).Pairwise fun a b => a.1 ≤ b.1 := by
    have hplaces : (sent.zipIdx.map Prod.snd).Pairwise (· < ·) := by
      rw [List.zipIdx_map_snd]
      exact List.pairwise_lt_range'
    exact List.pairwise_map.2 ((List.pairwise_map.1 hplaces).imp Nat.le_of_lt)
  refine readResponse_eq_ok.2 ⟨items, order.map single, sent.zipIdx.map single, hdata,
    allYield_of_carries hcarries, .of_nodup (horder.map single).symm hordered hkeys, ?_⟩
  have hsnd : Prod.snd ∘ single = List.map Extended.singleOfDouble ∘ Prod.fst := rfl
  rw [List.map_map, hsnd, ← List.map_map, List.zipIdx_map_fst]

/-! ## Sizes -/

theorem checkSizes_eq_ok {dimensions : UInt32} {found : List Vector} :
    checkSizes dimensions vectors = .ok found ↔
      vectors = found ∧ ∀ x ∈ found, x.length = dimensions.toNat := by
  unfold checkSizes
  cases hfind : vectors.find? fun v => v.length ≠ dimensions.toNat with
  | some x =>
    have hx : x.length ≠ dimensions.toNat := by simpa using List.find?_some hfind
    constructor
    · intro h
      cases h
    · rintro ⟨rfl, hall⟩
      exact absurd (hall x (List.mem_of_find?_eq_some hfind)) hx
  | none =>
    have hall : ∀ x ∈ vectors, x.length = dimensions.toNat := by
      simpa using List.find?_eq_none.1 hfind
    constructor
    · intro h
      cases h
      exact ⟨rfl, hall⟩
    · rintro ⟨rfl, -⟩
      rfl

/-- A provider gives the vectors of its answer: the answer came, its status is no refusal, it is read, and
all of its vectors have the configured size. -/
theorem embed_eq_ok {peer : Http.Peer} {s : EmbeddingSettings} {texts : List String} :
    embed peer s texts = .ok vectors ↔ ∃ r answer v, request s texts = .ok r ∧ peer.send r = .ok answer ∧
      answer.status ≠ 429 ∧ Http.isFailure answer.status = false ∧ answer.json = .ok v ∧
      readResponse v = .ok vectors ∧ ∀ x ∈ vectors, x.length = s.dimensions.toNat := by
  simp only [embed, ofResponse, bind_eq_ok, ite_error_eq_ok, mapError_eq_ok, checkSizes_eq_ok, Bool.not_eq_true]
  constructor
  · rintro ⟨r, hr, answer, hanswer, hlimit, hstatus, v, hv, _, hread, rfl, hsizes⟩
    exact ⟨r, answer, v, hr, hanswer, hlimit, hstatus, hv, hread, hsizes⟩
  · rintro ⟨r, answer, v, hr, hanswer, hlimit, hstatus, hv, hread, hsizes⟩
    exact ⟨r, hr, answer, hanswer, hlimit, hstatus, v, hv, _, hread, rfl, hsizes⟩

/-! ## Reassembly -/

/-- Answers are put together again without loss. An answer is read exactly when it has a list of items
that all have numbers; what is read is one vector for each item, in the order of the indices, equal
indices in the order of the items. Vectors that are sent in any order with their indices come back as
they were, and a provider that is asked gives those of its answer, all of the configured size. -/
theorem readResponse_reassembles (v : Json) (peer : Http.Peer) (s : EmbeddingSettings) (texts : List String) :
    ((∃ vectors, readResponse v = .ok vectors) ↔
      ∃ items, v.get? "data" = some (.arr items) ∧ ∀ item ∈ items, ∃ xs, HasNumbers item xs) ∧
    (∀ items vectors, v.get? "data" = some (.arr items) → readResponse v = .ok vectors →
      vectors.length = items.length ∧ ∃ indexed sorted, AllYield 0 items indexed ∧
        (∀ ys, StablySorted Prod.fst indexed ys ↔ ys = sorted) ∧ vectors = sorted.map Prod.snd) ∧
    (∀ items sent order, v.get? "data" = some (.arr items) → order.Perm (sent : List (List Double)).zipIdx →
      List.Forall₂ Carries items order → readResponse v = .ok (sent.map (List.map Extended.singleOfDouble))) ∧
    ∀ vectors, embed peer s texts = .ok vectors ↔ ∃ r answer w, request s texts = .ok r ∧
      peer.send r = .ok answer ∧ answer.status ≠ 429 ∧ Http.isFailure answer.status = false ∧
      answer.json = .ok w ∧ readResponse w = .ok vectors ∧
      ∀ x ∈ vectors, x.length = s.dimensions.toNat := by
  refine ⟨readResponse_ok, ?_, fun items sent order hdata => readResponse_of_perm hdata,
    fun vectors => embed_eq_ok⟩
  intro items vectors hdata hread
  obtain ⟨items', indexed, sorted, hdata', hyield, hsorted, rfl⟩ := readResponse_eq_ok.1 hread
  obtain rfl := Json.arr.inj (Option.some.inj (hdata.symm.trans hdata'))
  refine ⟨?_, indexed, sorted, hyield, fun ys => ⟨fun h => h.eq hsorted, ?_⟩, rfl⟩
  · rw [List.length_map, hsorted.perm.length_eq, hyield.length_eq]
  · rintro rfl
    exact hsorted

/-! ## Two vectors that are sent the other way round -/

def onePlace : EmbeddingSettings where
  providerId := "provider"
  apiBase := "http://localhost"
  apiKey := "key"
  path := "/embeddings"
  model := "model"
  dimensions := 1
  timeoutMs := 1000

/-- An item with an index and one number. -/
def numbered (index number : UInt64) : Json :=
  .obj [("embedding", .arr [.ofUInt64 number]), ("index", .ofUInt64 index)]

/-- The second of two vectors, then the first. -/
def turned : Json := .obj [("data", .arr [numbered 1 7, numbered 0 8])]

def turnedAnswer : Http.Response where
  status := 200
  body := "\x7b\"data\":[\x7b\"embedding\":[7],\"index\":1\x7d,\x7b\"embedding\":[8],\"index\":0\x7d]\x7d"

def turning : Http.Peer := fun _ => some turnedAnswer

/-- The two vectors in their order. -/
def upright : List (List Double) := [[.ofInt 8], [.ofInt 7]]

theorem carries_numbered (index number : UInt64) :
    Carries (numbered index number) ([(Integer.ofUInt64 number).toDouble], index.toNat) :=
  ⟨⟨index, rfl, rfl⟩, [.ofUInt64 number], rfl, rfl⟩

theorem carries_turned : List.Forall₂ Carries [numbered 1 7, numbered 0 8]
    [([.ofInt 7], 1), ([.ofInt 8], 0)] :=
  .cons (carries_numbered 1 7) (.cons (carries_numbered 0 8) .nil)

theorem json_turnedAnswer : turnedAnswer.json = .ok turned := by
  have htext : Json.ofText turnedAnswer.content = .ok turned := by cbv
  rw [Http.Response.json, htext]
  rfl

theorem readResponse_reassembles_turned :
    readResponse turned = .ok (upright.map (List.map Extended.singleOfDouble)) ∧
    embed turning onePlace ["first", "second"] = .ok (upright.map (List.map Extended.singleOfDouble)) := by
  obtain ⟨-, -, horder, hembed⟩ := readResponse_reassembles turned turning onePlace ["first", "second"]
  have hread : readResponse turned = .ok (upright.map (List.map Extended.singleOfDouble)) :=
    horder _ upright _ rfl (.swap _ _ _) carries_turned
  obtain ⟨r, hr⟩ : ∃ r, request onePlace ["first", "second"] = .ok r := ⟨_, rfl⟩
  have hsizes : ∀ x ∈ upright.map (List.map Extended.singleOfDouble), x.length = 1 := by
    simp [upright]
  exact ⟨hread, (hembed _).2
    ⟨r, turnedAnswer, turned, hr, rfl, by decide, by decide, json_turnedAnswer, hread, hsizes⟩⟩

end Embedding

end TenantSearch
