/-
Walks from page to page over an index that changes between the requests. Each page starts where the
last record of the one before stood, whether or not that record is still there. What the walk has
passed never comes again, and what stays in the index all the while is passed exactly once: until it
is returned it lies beyond the position that the walk has reached, and a walk that has reached an
empty page has nothing beyond it.
-/
import TenantSearch.Proofs.Search.Service

namespace TenantSearch

open Index MemoryIndex

/-! ## Directions -/

namespace PageDirection

variable {α : Type}

/-- A list in the order in which a walk passes it. -/
def turn : PageDirection → List α → List α
  | .forward, l => l
  | .backward, l => l.reverse

@[simp]
theorem turn_turn (dir : PageDirection) (l : List α) : dir.turn (dir.turn l) = l := by
  cases dir with
  | forward => rfl
  | backward => exact List.reverse_reverse l

@[simp]
theorem mem_turn {dir : PageDirection} {l : List α} {x : α} : x ∈ dir.turn l ↔ x ∈ l := by
  cases dir with
  | forward => rfl
  | backward => exact List.mem_reverse

theorem turn_perm (dir : PageDirection) (l : List α) : (dir.turn l).Perm l := by
  cases dir with
  | forward => exact .refl l
  | backward => exact List.reverse_perm l

theorem turn_map {β : Type} (dir : PageDirection) (f : α → β) (l : List α) :
    dir.turn (l.map f) = (dir.turn l).map f := by
  cases dir with
  | forward => rfl
  | backward => exact List.map_reverse.symm

/-- A page is what a walk passes first. -/
theorem cut_eq_take (dir : PageDirection) (n : Nat) (l : List α) :
    dir.cut n l = dir.turn ((dir.turn l).take n) := by
  cases dir with
  | forward => rfl
  | backward =>
    show l.drop (l.length - n) = (l.reverse.take n).reverse
    rw [List.take_reverse, List.reverse_reverse]

/-- Pages put together, each behind the ones before or, backward, in front of them. -/
def assemble : PageDirection → List (List α) → List α
  | .forward, pages => pages.flatten
  | .backward, pages => pages.reverse.flatten

theorem assemble_turn (dir : PageDirection) (vs : List (List α)) :
    dir.assemble (vs.map dir.turn) = dir.turn vs.flatten := by
  cases dir with
  | forward => exact congrArg List.flatten (List.map_id vs)
  | backward => exact List.reverse_flatten.symm

/-- A page in front of those already put together. -/
theorem assemble_cons (dir : PageDirection) (v : List α) {w : List α} {pages : List (List α)}
    (h : dir.assemble pages = dir.turn w) : dir.assemble (dir.turn v :: pages) = dir.turn (v ++ w) := by
  cases dir with
  | forward => exact congrArg (v ++ ·) h
  | backward =>
    show (v.reverse :: pages).reverse.flatten = (v ++ w).reverse
    rw [List.reverse_cons, List.flatten_append, List.flatten_singleton, List.reverse_append]
    exact congrArg (· ++ v.reverse) h

end PageDirection

/-! ## Walking on -/

namespace KeyOrder

variable {k : KeyOrder} {p t : Kind} {c : Cursor} {d e : String × Json} {dir : PageDirection}

/-- A document is passed after another one. -/
def Ahead (k : KeyOrder) (dir : PageDirection) (d e : String × Json) : Prop :=
  k.isBeyond (some (dir, k.position d.2)) e = true

theorem isBeyond_trans (hc : k.Fits p t c) (hd : k.Fits p t (k.position d.2))
    (he : k.Fits p t (k.position e.2)) (hcd : k.isBeyond (some (dir, c)) d = true)
    (hde : k.Ahead dir d e) : k.isBeyond (some (dir, c)) e = true := by
  unfold Ahead at hde
  simp only [isBeyond, compare_eq_rank hd hc, compare_eq_rank he hd, compare_eq_rank he hc] at *
  cases dir with
  | forward => exact beq_iff_eq.2 (Std.TransCmp.gt_trans (beq_iff_eq.1 hde) (beq_iff_eq.1 hcd))
  | backward => exact beq_iff_eq.2 (Std.TransCmp.lt_trans (beq_iff_eq.1 hde) (beq_iff_eq.1 hcd))

/-- What is passed after a document lies beyond whatever that document lies beyond. -/
theorem isBeyond_of_ahead {c : Option Cursor} (hc : ∀ c', c = some c' → k.Fits p t c')
    (hd : k.Fits p t (k.position d.2)) (he : k.Fits p t (k.position e.2))
    (hcd : k.isBeyond (c.map (dir, ·)) d = true) (hde : k.Ahead dir d e) :
    k.isBeyond (c.map (dir, ·)) e = true := by
  cases c with
  | none => rfl
  | some c => exact isBeyond_trans (hc c rfl) hd he hcd hde

theorem not_ahead_self (hd : k.Fits p t (k.position d.2)) : ¬ k.Ahead dir d d := by
  unfold Ahead isBeyond
  simp only [compare_eq_rank hd hd, Std.ReflCmp.compare_self]
  cases dir <;> decide

/-- The natural order, in the order in which a walk passes it. -/
theorem pairwise_turn {ds L : List (String × Json)} (h : k.Placed p t ds) (hp : ∀ d ∈ L, d ∈ ds)
    (hL : L.Pairwise k.Precedes) (dir : PageDirection) : (dir.turn L).Pairwise (k.Ahead dir) := by
  cases dir with
  | forward =>
    exact hL.imp_of_mem fun {a b} ha hb hab => (isBeyond_forward h (hp a ha) (hp b hb)).2 hab
  | backward =>
    exact List.pairwise_reverse.2 (hL.imp fun {a b} hab => (isBeyond_backward k b a).2 hab)

end KeyOrder

/-- In a list of lists whose elements never come back, an element stands in one list only. -/
theorem index_eq_of_mem {α : Type} {R : α → α → Prop} {vs : List (List α)} (h : vs.flatten.Pairwise R)
    {x : α} (hx : ¬ R x x) {i j : Nat} {v w : List α} (hi : vs[i]? = some v) (hv : x ∈ v)
    (hj : vs[j]? = some w) (hw : x ∈ w) : i = j := by
  obtain ⟨hilt, rfl⟩ := List.getElem?_eq_some_iff.1 hi
  obtain ⟨hjlt, rfl⟩ := List.getElem?_eq_some_iff.1 hj
  have hpair := List.pairwise_iff_getElem.1 (List.pairwise_flatten.1 h).2
  rcases Nat.lt_trichotomy i j with hlt | heq | hgt
  · exact absurd (hpair i j hilt hjlt hlt x hv x hw) hx
  · exact heq
  · exact absurd (hpair j i hjlt hilt hgt x hw x hv) hx

/-! ## Walks over a changing index -/

/-- The cursor that a page hands on: that of its last record, or backward of its first. -/
def PageDirection.edge : PageDirection → List SearchRecord → Option Cursor
  | .forward, page => page.getLast?.bind SearchRecord.cursor
  | .backward, page => page.head?.bind SearchRecord.cursor

namespace Relation

/-- The search for the page of a walk: from its end, or from the cursor handed on. -/
def step (r : Relation) (size : UInt32) : PageDirection → Option Cursor → Relation
  | .forward, none => r.first size
  | .forward, some c => (r.first size).after c
  | .backward, none => r.last size
  | .backward, some c => (r.last size).before c

/-- The pages of a walk, each from the next state of an index, up to one that hands on nothing. -/
def walk (r : Relation) (size : UInt32) (dir : PageDirection) :
    Option Cursor → List MemoryIndex → Except SearchError (List (List SearchRecord))
  | _, [] => .ok []
  | c, m :: rest => do
    let page ← ((r.step size dir c).records (.ofIndex m)).result
    match dir.edge page with
    | none => .ok [page]
    | some cursor => do
      let pages ← r.walk size dir (some cursor) rest
      .ok (page :: pages)

variable {r : Relation} {k : KeyOrder} {p t : Kind} {n : UInt32} {dir : PageDirection}

theorem step_eq_turnTo (h : r.position = none) (n : UInt32) (dir : PageDirection) (c : Option Cursor) :
    r.step n dir c = r.turnTo dir n (c.map (dir, ·)) := by
  cases c with
  | none =>
    cases dir <;> unfold step turnTo first last <;> rw [h] <;> rfl
  | some c => cases dir <;> rfl

theorem edge_records (dir : PageDirection) (k : KeyOrder) (V : List (String × Json)) :
    dir.edge (dir.turn (V.map k.record)) = V.getLast?.map fun d => k.position d.2 := by
  cases dir with
  | forward =>
    show ((V.map k.record).getLast?).bind _ = _
    rw [List.getLast?_map]
    cases V.getLast? <;> rfl
  | backward =>
    show ((V.map k.record).reverse.head?).bind _ = _
    rw [List.head?_reverse, List.getLast?_map]
    cases V.getLast? <;> rfl

/-- One page of a walk: of what lies beyond the cursor, in the order passed, as much as it holds. -/
theorem Windows.step (h : r.Windows k) (hr : r.position = none) {m : MemoryIndex}
    (hm : k.Placed p t (m.found r.document.queryClause)) (n : UInt32) (dir : PageDirection)
    {c : Option Cursor} (hc : ∀ c', c = some c' → k.Fits p t c') :
    ∃ W : List (String × Json), W.Pairwise (k.Ahead dir) ∧
      (∀ d, d ∈ W ↔ d ∈ m.found r.document.queryClause ∧ k.isBeyond (c.map (dir, ·)) d = true) ∧
      ((r.step n dir c).records (.ofIndex m)).result = .ok (dir.turn ((W.take n.toNat).map k.record)) := by
  obtain ⟨L, hperm, hL⟩ := hm.exists_order
  have hpage := h m p t L hm hperm hL dir n (c.map (dir, ·)) fun _ c' hc' => by
    obtain ⟨c'', rfl, he⟩ := Option.map_eq_some_iff.1 hc'
    cases he
    exact hc _ rfl
  rw [← step_eq_turnTo hr, PageDirection.cut_eq_take, ← PageDirection.turn_map] at hpage
  refine ⟨dir.turn (L.filter (k.isBeyond (c.map (dir, ·)))), ?_, ?_, hpage⟩
  · exact KeyOrder.pairwise_turn hm (fun d hd => hperm.mem_iff.1 (List.filter_sublist.subset hd))
      (hL.sublist List.filter_sublist) dir
  · intro d
    rw [PageDirection.mem_turn, List.mem_filter, hperm.mem_iff]

/-- What a walk from a cursor passes: only what lies beyond the cursor, in order, and when it has
ended all that lay beyond the cursor in every state of the index. -/
structure Passed (r : Relation) (k : KeyOrder) (p t : Kind) (dir : PageDirection) (c : Option Cursor)
    (ms : List MemoryIndex) (vs : List (List (String × Json))) : Prop where
  fits : ∀ d ∈ vs.flatten, k.Fits p t (k.position d.2)
  beyond : ∀ d ∈ vs.flatten, k.isBeyond (c.map (dir, ·)) d = true
  inOrder : vs.flatten.Pairwise (k.Ahead dir)
  complete : vs.getLast? = some [] → ∀ d, (∀ m ∈ ms.take vs.length, d ∈ m.found r.document.queryClause) →
    k.isBeyond (c.map (dir, ·)) d = true → d ∈ vs.flatten

/-- An empty page has nothing beyond the cursor. -/
theorem Passed.stop {c : Option Cursor} {m : MemoryIndex} {ms : List MemoryIndex}
    (h : ∀ d ∈ m.found r.document.queryClause, ¬ k.isBeyond (c.map (dir, ·)) d = true) :
    r.Passed k p t dir c (m :: ms) [[]] :=
  ⟨fun d hd => (by cases hd), fun d hd => (by cases hd), .nil,
    fun _ d hd hb => absurd hb (h d (hd m List.mem_cons_self))⟩

/-- A page is passed, and then what the walk passes from its last record on. -/
theorem Passed.turn {c : Option Cursor} {m : MemoryIndex} {ms : List MemoryIndex}
    {W : List (String × Json)} {vs : List (List (String × Json))} {j : Nat} {e : String × Json}
    (hc : ∀ c', c = some c' → k.Fits p t c') (hW : W.Pairwise (k.Ahead dir))
    (hfits : ∀ d ∈ W, k.Fits p t (k.position d.2))
    (hmem : ∀ d, d ∈ W ↔ d ∈ m.found r.document.queryClause ∧ k.isBeyond (c.map (dir, ·)) d = true)
    (he : (W.take j).getLast? = some e) (h : r.Passed k p t dir (some (k.position e.2)) ms vs) :
    r.Passed k p t dir c (m :: ms) (W.take j :: vs) := by
  obtain ⟨V, hV⟩ := List.getLast?_eq_some_iff.1 he
  have heV : e ∈ W.take j := hV ▸ List.mem_append_right _ (List.mem_singleton_self e)
  have hVW : ∀ d ∈ W.take j, d ∈ W := fun d hd => List.take_subset _ _ hd
  have heW := hVW e heV
  have hafter : ∀ d ∈ vs.flatten, k.Ahead dir e d := h.beyond
  constructor
  · intro d hd
    rcases List.mem_append.1 hd with hd | hd
    · exact hfits d (hVW d hd)
    · exact h.fits d hd
  · intro d hd
    rcases List.mem_append.1 hd with hd | hd
    · exact ((hmem d).1 (hVW d hd)).2
    · exact KeyOrder.isBeyond_of_ahead hc (hfits e heW) (h.fits d hd) ((hmem e).1 heW).2 (hafter d hd)
  · have hpage : (W.take j).Pairwise (k.Ahead dir) := hW.sublist (List.take_sublist _ _)
    refine List.pairwise_append.2 ⟨hpage, h.inOrder, ?_⟩
    intro d hd d' hd'
    rw [hV] at hpage hd
    rcases List.mem_append.1 hd with hdV | hde
    · -- the last record of the page stands between the two
      have hde := (List.pairwise_append.1 hpage).2.2 d hdV e (List.mem_singleton_self e)
      have hdW := hVW d (hV ▸ List.mem_append_left _ hdV)
      exact KeyOrder.isBeyond_trans (hfits d hdW) (hfits e heW) (h.fits d' hd') hde (hafter d' hd')
    · obtain rfl := List.mem_singleton.1 hde
      exact hafter d' hd'
  · intro hlast d hd hb
    have hvs : vs.getLast? = some [] := by
      cases vs with
      | nil =>
        have hnil : W.take j = [] := Option.some.inj hlast
        rw [hnil] at heV
        cases heV
      | cons v rest => rwa [List.getLast?_cons_cons] at hlast
    -- what this page leaves out stands behind its last record, so the rest of the walk passes it
    have hdW := (hmem d).2 ⟨hd m List.mem_cons_self, hb⟩
    rw [← List.take_append_drop j W] at hdW hW
    rcases List.mem_append.1 hdW with hdV | hdrop
    · exact List.mem_append_left _ hdV
    · have hahead := (List.pairwise_append.1 hW).2.2 e heV d hdrop
      exact List.mem_append_right _
        (h.complete hvs d (fun m' hm' => hd m' (List.mem_cons_of_mem _ hm')) hahead)

/-- A walk over the states of an index always comes through, and passes what it should. -/
theorem Windows.walk_eq (h : r.Windows k) (hr : r.position = none) (hn : n ≠ 0) :
    ∀ (ms : List MemoryIndex) (c : Option Cursor),
      (∀ m ∈ ms, k.Placed p t (m.found r.document.queryClause)) →
      (∀ c', c = some c' → k.Fits p t c') →
      ∃ vs, r.walk n dir c ms = .ok (vs.map fun v => dir.turn (v.map k.record)) ∧
        r.Passed k p t dir c ms vs
  | [], c, _, _ => ⟨[], rfl, fun d hd => (by cases hd), fun d hd => (by cases hd), .nil,
      fun hlast => (by cases hlast)⟩
  | m :: rest, c, hms, hc => by
    have hm := hms m List.mem_cons_self
    obtain ⟨W, hW, hmem, hpage⟩ := h.step hr hm n dir hc
    have hfits : ∀ d ∈ W, k.Fits p t (k.position d.2) := fun d hd => hm.fits d ((hmem d).1 hd).1
    rw [walk, hpage, ok_bind, edge_records]
    cases hlast : (W.take n.toNat).getLast? with
    | none =>
      -- a page that could hold a record and holds none was cut from nothing
      have hpos : n.toNat ≠ 0 := fun h0 => hn (UInt32.toNat_inj.1 h0)
      have hnil : W.take n.toNat = [] := List.getLast?_eq_none_iff.1 hlast
      have hWnil : W = [] := (List.take_eq_nil_iff.1 hnil).resolve_left hpos
      refine ⟨[[]], ?_, .stop ?_⟩
      · rw [hnil]
        rfl
      · intro d hd hb
        have hdW := (hmem d).2 ⟨hd, hb⟩
        rw [hWnil] at hdW
        cases hdW
    | some e =>
      have heW : e ∈ W := List.take_subset _ _ (List.mem_of_getLast? hlast)
      obtain ⟨vs, hwalk, hpassed⟩ := h.walk_eq hr hn rest (some (k.position e.2))
        (fun m' hm' => hms m' (List.mem_cons_of_mem _ hm')) fun c' hc' => by cases hc'; exact hfits e heW
      refine ⟨W.take n.toNat :: vs, ?_, hpassed.turn hc hW hfits hmem hlast⟩
      show (r.walk n dir (some (k.position e.2)) rest >>= fun pages => _) = _
      rw [hwalk]
      rfl

/-- Put together, the pages of a walk are in natural order. -/
theorem Passed.pairwise_assemble {c : Option Cursor} {ms : List MemoryIndex}
    {vs : List (List (String × Json))} (h : r.Passed k p t dir c ms vs) :
    (dir.assemble (vs.map fun v => dir.turn (v.map k.record))).Pairwise fun a b =>
      ∃ c c', a.cursor = some c ∧ b.cursor = some c' ∧ k.compare c c' = .lt := by
  have hpages : (vs.map fun v => dir.turn (v.map k.record)) =
      (vs.map (List.map k.record)).map dir.turn := by rw [List.map_map]; rfl
  have hfits := h.fits
  have hinOrder := h.inOrder
  rw [hpages, PageDirection.assemble_turn, ← List.map_flatten]
  cases dir with
  | forward =>
    refine List.pairwise_map.2 (hinOrder.imp_of_mem fun {d e} hd he hde => ⟨_, _, rfl, rfl, ?_⟩)
    rw [KeyOrder.compare_swap (hfits d hd) (hfits e he), Ordering.swap_eq_lt]
    exact beq_iff_eq.1 hde
  | backward =>
    refine List.pairwise_reverse.2 (List.pairwise_map.2 (hinOrder.imp fun {d e} hde => ?_))
    exact ⟨_, _, rfl, rfl, beq_iff_eq.1 hde⟩

theorem Passed.existsUnique_page {c : Option Cursor} {ms : List MemoryIndex}
    {vs : List (List (String × Json))} (h : r.Passed k p t dir c ms vs) {d : String × Json}
    (hd : d ∈ vs.flatten) : ∃! i : Nat, ∃ page : List SearchRecord,
      (vs.map fun v => dir.turn (v.map k.record))[i]? = some page ∧
        ∃ rec ∈ page, rec.id = d.1 ∧ rec.source = d.2 := by
  have honly : ∀ (i : Nat) (page : List SearchRecord),
      (vs.map fun v => dir.turn (v.map k.record))[i]? = some page →
      (∃ rec ∈ page, rec.id = d.1 ∧ rec.source = d.2) → ∃ v, vs[i]? = some v ∧ d ∈ v := by
    rintro i page hi ⟨rec, hrec, hid, hsource⟩
    rw [List.getElem?_map] at hi
    obtain ⟨v, hv, rfl⟩ := Option.map_eq_some_iff.1 hi
    obtain ⟨e, he, rfl⟩ := List.mem_map.1 (PageDirection.mem_turn.1 hrec)
    obtain rfl : e = d := Prod.ext hid hsource
    exact ⟨v, hv, he⟩
  obtain ⟨v, hv, hdv⟩ := List.mem_flatten.1 hd
  obtain ⟨i, hi⟩ := List.getElem?_of_mem hv
  refine ⟨i, ⟨dir.turn (v.map k.record), ?_, k.record d, ?_, rfl, rfl⟩, ?_⟩
  · rw [List.getElem?_map, hi]
    rfl
  · exact PageDirection.mem_turn.2 (List.mem_map_of_mem hdv)
  · rintro j ⟨page, hj, hrec⟩
    obtain ⟨w, hw, hdw⟩ := honly j page hj hrec
    exact index_eq_of_mem h.inOrder (KeyOrder.not_ahead_self (h.fits d hd)) hw hdw hi hdv

end Relation

/-! ## The law of walks -/

namespace SearchService

variable {s : SearchService} {o : SearchOptions} {r : Relation} {status : HybridStatus}

/-- A walk over an index that changes between its requests returns no position twice, in either
direction, and when it has ended it has returned every document that was in all the states it read
on exactly one page. -/
theorem walk_returns_once (h : (s.relation o).result = .ok (r, status))
    (hp : o.paging.usesKeyset = false) {n : UInt32} (hn : 1 ≤ n) (dir : PageDirection)
    (ms : List MemoryIndex) (ho : ∀ m ∈ ms, (s.keyOrder o).Orderly (m.found r.document.queryClause))
    (hk : ∃ p t, (s.keyOrder o).OneKind p t (ms.flatMap fun m => m.found r.document.queryClause)) :
    ∃ pages, r.walk n dir none ms = .ok pages ∧
      (dir.assemble pages).Pairwise (fun a b => ∃ c c', a.cursor = some c ∧ b.cursor = some c' ∧
        (s.keyOrder o).compare c c' = .lt) ∧
      (pages.getLast? = some [] → ∀ d : String × Json,
        (∀ m ∈ ms.take pages.length, d ∈ m.found r.document.queryClause) →
            ∃! i : Nat, ∃ page : List SearchRecord, pages[i]? = some page ∧
          ∃ rec ∈ page, rec.id = d.1 ∧ rec.source = d.2) := by
  obtain ⟨-, hposition⟩ := relation_unpaged h hp
  have hwindows := relation_windows h
  generalize s.keyOrder o = k at *
  obtain ⟨p, t, hk⟩ := hk
  -- the kinds are those of all states together, so positions of one state fit every other
  have hplaced : ∀ m ∈ ms, k.Placed p t (m.found r.document.queryClause) := fun m hm =>
    (ho m hm).placed (hk.of_subset fun d hd => List.mem_flatMap.2 ⟨m, hm, hd⟩)
  have hne : n ≠ 0 := by
    rintro rfl
    exact absurd hn (by decide)
  obtain ⟨vs, hwalk, hpassed⟩ := hwindows.walk_eq hposition hne ms none hplaced fun c hc => by cases hc
  refine ⟨_, hwalk, hpassed.pairwise_assemble, ?_⟩
  intro hlast d hd
  have hend : vs.getLast? = some [] := by
    rw [List.getLast?_map] at hlast
    obtain ⟨v, hv, hnil⟩ := Option.map_eq_some_iff.1 hlast
    cases v with
    | nil => exact hv
    | cons d v =>
      have hmem : k.record d ∈ dir.turn ((d :: v).map k.record) :=
        PageDirection.mem_turn.2 (List.mem_map_of_mem List.mem_cons_self)
      rw [hnil] at hmem
      cases hmem
  have hdvs := hpassed.complete hend d (by rwa [List.length_map] at hd) rfl
  exact hpassed.existsUnique_page hdvs

/-- Two issues that stay, one of them without a date. -/
def lastingIssues : List (String × Option String) := [("a", some "2024-02-01"), ("b", none)]

/-- An index that loses the oldest of three issues between two requests, and gains and loses another. -/
def changingIssues : List (List (String × Option String)) :=
  [lastingIssues ++ [("c", some "2024-01-01")], lastingIssues ++ [("d", some "2024-03-01")],
    lastingIssues, lastingIssues]

def changingIndex : List MemoryIndex := changingIssues.map fun es => ⟨es.map issue⟩

theorem walk_returns_once_changingIndex :
    (exampleService.relation oldestIssues).result = .ok (oldestIssuesRelation, .disabled) ∧
      oldestIssues.paging.usesKeyset = false ∧
      (∀ m ∈ changingIndex, (exampleService.keyOrder oldestIssues).Orderly
        (m.found oldestIssuesRelation.document.queryClause)) ∧
      (∃ p t, (exampleService.keyOrder oldestIssues).OneKind p t
        (changingIndex.flatMap fun m => m.found oldestIssuesRelation.document.queryClause)) ∧
      ∃ pages, oldestIssuesRelation.walk 1 .forward none changingIndex = .ok pages ∧
        pages.map (List.map SearchRecord.id) = [["c"], ["a"], ["b"], []] ∧
        ((PageDirection.forward.assemble pages).Pairwise fun a b => ∃ c c',
          a.cursor = some c ∧ b.cursor = some c' ∧
            (exampleService.keyOrder oldestIssues).compare c c' = .lt) ∧
        ∀ e ∈ lastingIssues, ∃! i : Nat, ∃ page : List SearchRecord, pages[i]? = some page ∧
          ∃ rec ∈ page, rec.id = (issue e).1 ∧ rec.source = (issue e).2 := by
  have hrelation : (exampleService.relation oldestIssues).result =
      .ok (oldestIssuesRelation, .disabled) := rfl
  have horderly : ∀ m ∈ changingIndex, (exampleService.keyOrder oldestIssues).Orderly
      (m.found oldestIssuesRelation.document.queryClause) := by
    intro m hm
    obtain ⟨es, hes, rfl⟩ := List.mem_map.1 hm
    have hapart : ∀ es ∈ changingIssues, (es.map issue).Pairwise fun a b =>
        compareValues (.str a.1) (.str b.1) ≠ .eq := by decide
    exact (orderly_issues (hapart es hes)).of_sublist (found_sublist _ _)
  have honeKind : (exampleService.keyOrder oldestIssues).OneKind .text .text
      (changingIndex.flatMap fun m => m.found oldestIssuesRelation.document.queryClause) := by
    apply (oneKind_issues changingIssues.flatten).of_subset
    intro d hd
    obtain ⟨m, hm, hd⟩ := List.mem_flatMap.1 hd
    obtain ⟨es, hes, rfl⟩ := List.mem_map.1 hm
    obtain ⟨e, he, rfl⟩ := List.mem_map.1 (mem_found.1 hd).1
    exact List.mem_map_of_mem (List.mem_flatten_of_mem hes he)
  have hlasting : ∀ e ∈ lastingIssues, ∀ m ∈ changingIndex,
      issue e ∈ m.found oldestIssuesRelation.document.queryClause := by
    intro e he m hm
    obtain ⟨es, hes, rfl⟩ := List.mem_map.1 hm
    have hstays : ∀ es ∈ changingIssues, ∀ e ∈ lastingIssues, e ∈ es := by decide
    have haccepts : ∀ e ∈ lastingIssues,
        Accepts (issue e).1 (issue e).2 oldestIssuesRelation.document.queryClause := by decide +kernel
    exact mem_found.2 ⟨List.mem_map_of_mem (hstays es hes e he), haccepts e he⟩
  obtain ⟨pages, hwalk, hinOrder, honce⟩ :=
    walk_returns_once hrelation rfl (n := 1) (by decide) .forward changingIndex horderly ⟨_, _, honeKind⟩
  have hids : pages.map (List.map SearchRecord.id) = [["c"], ["a"], ["b"], []] := by
    have hrun : (oldestIssuesRelation.walk 1 .forward none changingIndex).map
        (List.map (List.map SearchRecord.id)) = .ok [["c"], ["a"], ["b"], []] := by decide +kernel
    rw [hwalk] at hrun
    exact Except.ok.inj hrun
  have hlast : pages.getLast? = some [] := by
    have hmap := congrArg List.getLast? hids
    rw [List.getLast?_map] at hmap
    obtain ⟨page, hpage, hnil⟩ := Option.map_eq_some_iff.1 hmap
    rw [hpage, List.map_eq_nil_iff.1 hnil]
  refine ⟨hrelation, rfl, horderly, ⟨_, _, honeKind⟩, pages, hwalk, hids, hinOrder, fun e he => ?_⟩
  exact honce hlast (issue e) fun m hm => hlasting e he m (List.mem_of_mem_take hm)

end SearchService

end TenantSearch
