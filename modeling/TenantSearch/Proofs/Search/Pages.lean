/-
The page of a search over an index in memory. A position keeps of the natural order what lies
strictly beyond it, a page cuts its size off one end of what is left, and its records come in natural
order with the cursors of their positions, from whichever end the page was counted.
-/
import TenantSearch.Proofs.Paging.Ordering
import TenantSearch.Proofs.Search.Compiled

namespace TenantSearch

open Index MemoryIndex

/-! ## Windows -/

/-- The page of a size that is counted from the end a direction starts at. -/
def PageDirection.page : PageDirection → UInt32 → Page
  | .forward, size => .first size
  | .backward, size => .last size

/-- As much of a list as a page holds, from the end a direction starts at. -/
def PageDirection.cut {α : Type} : PageDirection → Nat → List α → List α
  | .forward, n, l => l.take n
  | .backward, n, l => l.drop (l.length - n)

/-- Whether the cluster is asked for the reversed order. -/
def PageDirection.reversed : PageDirection → Bool
  | .forward => false
  | .backward => true

theorem PageDirection.page_ne (dir : PageDirection) (n : UInt32) : dir.page n ≠ .unpaged := by
  cases dir <;> exact Page.noConfusion

/-- The record of a document. -/
def KeyOrder.record (k : KeyOrder) (d : String × Json) : SearchRecord :=
  { id := d.1, score := some (.ofDyadic 1), source := d.2, cursor := some (k.position d.2) }

/-- A hit with the sort values of a position is the record of its document. -/
theorem KeyOrder.ofHit_hitOf {k : KeyOrder} {keys : List SortKey} {d : String × Json}
    (h : Cursor.ofSortValues (keys.map fun key => key.hitValue d.2) = some (k.position d.2)) :
    SearchRecord.ofHit (hitOf keys d) = k.record d := by
  unfold SearchRecord.ofHit hitOf record
  rw [h]

/-- Whether a document lies beyond a position, if there is one. -/
def KeyOrder.isBeyond (k : KeyOrder) (position : Option (PageDirection × Cursor)) (d : String × Json) :
    Bool :=
  match position with
  | none => true
  | some (dir, c) => dir.beyond (k.compare (k.position d.2) c)

namespace KeyOrder

variable {k : KeyOrder} {p t : Kind} {ds L : List (String × Json)} {d e : String × Json}

@[simp]
theorem isBeyond_none (k : KeyOrder) (d : String × Json) : k.isBeyond none d = true := rfl

theorem filter_isBeyond_none (k : KeyOrder) (L : List (String × Json)) :
    L.filter (k.isBeyond none) = L := List.filter_eq_self.2 fun d _ => isBeyond_none k d

theorem isBeyond_forward (h : k.Placed p t ds) (hd : d ∈ ds) (he : e ∈ ds) :
    k.isBeyond (some (.forward, k.position d.2)) e = true ↔ k.Precedes d e := by
  show (k.compare (k.position e.2) (k.position d.2) == .gt) = true ↔ _
  rw [beq_iff_eq, compare_swap (h.fits e he) (h.fits d hd), Ordering.swap_eq_gt]
  rfl

theorem isBeyond_backward (k : KeyOrder) (d e : String × Json) :
    k.isBeyond (some (.backward, k.position d.2)) e = true ↔ k.Precedes e d := by
  show (k.compare (k.position e.2) (k.position d.2) == .lt) = true ↔ _
  rw [beq_iff_eq]
  rfl

theorem Placed.not_precedes_self (h : k.Placed p t ds) (hd : d ∈ ds) : ¬ k.Precedes d d := by
  intro hlt
  have heq := Ordering.eq_eq_of_eq_swap (compare_swap (h.fits d hd) (h.fits d hd))
  exact absurd (heq.symm.trans hlt) (by decide)

theorem Placed.not_precedes_of_precedes (h : k.Placed p t ds) (hd : d ∈ ds) (he : e ∈ ds)
    (hlt : k.Precedes d e) : ¬ k.Precedes e d := by
  intro hgt
  have hswap := compare_swap (h.fits d hd) (h.fits e he)
  unfold Precedes at hlt hgt
  rw [hlt, hgt] at hswap
  cases hswap

/-- Beyond the position of a document lies what stands behind it, or before it. -/
theorem filter_isBeyond_split (h : k.Placed p t ds) {xs ys : List (String × Json)}
    (hp : (xs ++ d :: ys).Perm ds) (hL : (xs ++ d :: ys).Pairwise k.Precedes) :
    (xs ++ d :: ys).filter (k.isBeyond (some (.forward, k.position d.2))) = ys ∧
      (xs ++ d :: ys).filter (k.isBeyond (some (.backward, k.position d.2))) = xs := by
  obtain ⟨-, hdys, hxs⟩ := List.pairwise_append.1 hL
  have hmem : ∀ {e}, e ∈ xs ++ d :: ys → e ∈ ds := hp.mem_iff.1
  have hd : d ∈ ds := hmem (List.mem_append_right _ List.mem_cons_self)
  have hbefore : ∀ e ∈ xs, k.Precedes e d := fun e he => hxs e he d List.mem_cons_self
  have hafter : ∀ e ∈ ys, k.Precedes d e := (List.pairwise_cons.1 hdys).1
  have hxmem : ∀ {e}, e ∈ xs → e ∈ ds := fun he => hmem (List.mem_append_left _ he)
  have hymem : ∀ {e}, e ∈ ys → e ∈ ds :=
    fun he => hmem (List.mem_append_right _ (List.mem_cons_of_mem _ he))
  rw [List.filter_append, List.filter_append, List.filter_cons, List.filter_cons]
  -- the document itself lies on neither side of its own position
  constructor
  · rw [if_neg fun hself => h.not_precedes_self hd ((isBeyond_forward h hd hd).1 hself),
      List.filter_eq_nil_iff.2 fun e he hb => h.not_precedes_of_precedes (hxmem he) hd (hbefore e he)
        ((isBeyond_forward h hd (hxmem he)).1 hb),
      List.filter_eq_self.2 fun e he => (isBeyond_forward h hd (hymem he)).2 (hafter e he), List.nil_append]
  · rw [if_neg fun hself => h.not_precedes_self hd ((isBeyond_backward k d d).1 hself),
      List.filter_eq_self.2 fun e he => (isBeyond_backward k d e).2 (hbefore e he),
      List.filter_eq_nil_iff.2 fun e he hb => h.not_precedes_of_precedes hd (hymem he) (hafter e he)
        ((isBeyond_backward k d e).1 hb), List.append_nil]

end KeyOrder

namespace Relation

variable {r : Relation} {k : KeyOrder} {m : MemoryIndex} {p t : Kind} {L : List (String × Json)}

theorem Browses.found_compiled (h : r.Browses k) (hm : k.Placed p t (m.found r.document.queryClause))
    (hc : ∀ dir c, r.position = some (dir, c) → k.Fits p t c) :
    m.found r.compiled.queryClause = (m.found r.document.queryClause).filter (k.isBeyond r.position) := by
  unfold found
  rw [List.filter_filter]
  apply List.filter_congr
  intro d hd
  rw [Bool.eq_iff_iff, Bool.and_eq_true, decide_eq_true_iff, decide_eq_true_iff, h.accepts_compiled,
    and_comm]
  apply and_congr_left
  intro ha
  unfold positionFilter KeyOrder.isBeyond
  cases hp : r.position with
  | none => exact ⟨fun _ => rfl, fun _ _ hx => by cases hx⟩
  | some dc =>
    obtain ⟨dir, c⟩ := dc
    have hfits := hm.fits d (mem_found.2 ⟨hd, ha⟩)
    have hiff : Accepts d.1 d.2 (r.pagination.rangeClause c) ↔ _ :=
      Pagination.accepts_rangeClause h.follows_pagination hfits (hc dir c hp)
    rw [pagination_direction hp] at hiff
    simp only [Option.map_some, Option.some.injEq, forall_eq']
    exact hiff

theorem Browses.sortKeys_eq (h : r.Browses k) {dir : PageDirection} {n : UInt32}
    (hpage : r.page = dir.page n) :
    r.compiled.sort.map SortKey.ofClause = k.sortKeys dir.reversed := by
  have hreversed : r.pagination.reversed = dir.reversed := by
    unfold pagination
    rw [hpage]
    cases dir <;> rcases r.position with _ | ⟨_ | _, c⟩ <;> rfl
  rw [(compiled_window (hpage ▸ dir.page_ne n)).1, KeyOrder.map_sortClauses h.follows_pagination,
    hreversed]

/-- The documents that a page asks for, in the order asked for. -/
theorem Browses.ordered_compiled (h : r.Browses k) (hm : k.Placed p t (m.found r.document.queryClause))
    (hc : ∀ dir c, r.position = some (dir, c) → k.Fits p t c)
    (hp : L.Perm (m.found r.document.queryClause)) (hL : L.Pairwise k.Precedes) {dir : PageDirection}
    {n : UInt32} (hpage : r.page = dir.page n) :
    m.ordered r.compiled =
      if dir.reversed then (L.filter (k.isBeyond r.position)).reverse else L.filter (k.isBeyond r.position) := by
  have hfound := h.found_compiled hm hc
  have hkeys := h.sortKeys_eq hpage
  have hne : r.compiled.sort ≠ [] := by
    intro hnil
    rw [hnil] at hkeys
    exact k.sortKeys_ne_nil _ hkeys.symm
  have hplaced := hm.of_sublist (List.filter_sublist (p := k.isBeyond r.position))
  have hsorted := KeyOrder.sorted_sortKeys hplaced (hp.filter _) (hL.sublist List.filter_sublist)
    dir.reversed
  unfold ordered
  rw [if_neg hne, hkeys, hfound, hsorted]

/-- The records of a search are those of the window that its document asks for. -/
theorem Browses.records_eq (h : r.Browses k) (m : MemoryIndex) : (r.records (.ofIndex m)).result =
    .ok (r.recordsOf ((((m.ordered r.compiled).drop ((r.compiled.offset.map UInt32.toNat).getD 0)).take
      ((r.compiled.size.map UInt32.toNat).getD defaultSize)).map
        (hitOf (r.compiled.sort.map SortKey.ofClause)))) := by
  obtain ⟨answer, hanswer, hhits⟩ := search_eq (m := m) h.decided_compiled
  unfold records Cluster.ofIndex Run.call loaded
  dsimp only
  rw [hanswer, h.loader]
  simp only [Except.mapError, ok_bind, hhits]

/-- The records of a page, from the documents that it asks for in natural order. -/
theorem Browses.records_of_ordered (h : r.Browses k) {dir : PageDirection} {n : UInt32}
    (hpage : r.page = dir.page n) {W : List (String × Json)}
    (hW : m.ordered r.compiled = if dir.reversed then W.reverse else W)
    (hcursor : ∀ d ∈ W, Cursor.ofSortValues ((k.sortKeys dir.reversed).map fun key => key.hitValue d.2) =
      some (k.position d.2)) :
    (r.records (.ofIndex m)).result = .ok ((dir.cut n.toNat W).map k.record) := by
  obtain ⟨-, hoffset, hsize⟩ := compiled_window (hpage ▸ dir.page_ne n)
  have hn : r.pagination.document.size = some n := by
    unfold pagination
    rw [hpage]
    cases dir <;> rcases r.position with _ | ⟨_ | _, c⟩ <;> rfl
  have hrecords : ∀ V : List (String × Json), V ⊆ W →
      (V.map (hitOf (k.sortKeys dir.reversed))).map SearchRecord.ofHit = V.map k.record := by
    intro V hV
    rw [List.map_map]
    apply List.map_congr_left
    intro d hd
    exact KeyOrder.ofHit_hitOf (hcursor d (hV hd))
  rw [h.records_eq m, hoffset, hsize, hn, hW, h.sortKeys_eq hpage]
  congr 1
  unfold recordsOf
  rw [hpage]
  cases dir with
  | forward =>
    show List.map _ (List.map _ ((W.drop 0).take n.toNat)) = _
    rw [List.drop_zero, hrecords _ (List.take_subset _ _)]
    rfl
  | backward =>
    -- the answer comes in reversed order and is turned round once more
    have hsub : W.reverse.take n.toNat ⊆ W := fun d hd => List.mem_reverse.1 (List.take_subset _ _ hd)
    show (List.map _ (List.map _ ((W.reverse.drop 0).take n.toNat))).reverse = _
    rw [List.drop_zero, hrecords _ hsub, ← List.map_reverse, List.take_reverse, List.reverse_reverse]
    rfl

/-- The search for a page, from one end or from a position. -/
def turnTo (r : Relation) (dir : PageDirection) (size : UInt32)
    (position : Option (PageDirection × Cursor)) : Relation :=
  { r with page := dir.page size, position := position }

/-- Every page of a search is a window of the natural order of what its query finds. -/
def Windows (r : Relation) (k : KeyOrder) : Prop :=
  ∀ (m : MemoryIndex) (p t : Kind) (L : List (String × Json)), k.Placed p t (m.found r.document.queryClause) →
    L.Perm (m.found r.document.queryClause) → L.Pairwise k.Precedes →
    ∀ (dir : PageDirection) (n : UInt32) (position : Option (PageDirection × Cursor)),
      (∀ dir c, position = some (dir, c) → k.Fits p t c) →
      ((r.turnTo dir n position).records (.ofIndex m)).result =
        .ok ((dir.cut n.toNat (L.filter (k.isBeyond position))).map k.record)

theorem Browses.turnTo (h : r.Browses k) (dir : PageDirection) (n : UInt32)
    (position : Option (PageDirection × Cursor)) : (r.turnTo dir n position).Browses k :=
  ⟨h.plain, h.follows, h.loader⟩

theorem Browses.windows (h : r.Browses k) : r.Windows k := by
  intro m p t L hm hp hL dir n position hc
  refine (h.turnTo dir n position).records_of_ordered rfl
    ((h.turnTo dir n position).ordered_compiled hm hc hp hL rfl) fun d hd => ?_
  exact hm.ofSortValues (hp.mem_iff.1 (List.filter_sublist.subset hd)) dir.reversed

/-- A search that finds nothing has no records, whatever its page, its position and its vector part. -/
theorem Browses.records_of_empty (h : r.Browses k) (hnone : m.found r.document.queryClause = []) :
    (r.records (.ofIndex m)).result = .ok [] := by
  have hfound : m.found r.compiled.queryClause = [] := by
    apply List.eq_nil_iff_forall_not_mem.2
    intro d hd
    obtain ⟨hd, ha⟩ := mem_found.1 hd
    have hmem := mem_found.2 ⟨hd, (h.accepts_compiled.1 ha).1⟩
    exact absurd (hnone ▸ hmem) List.not_mem_nil
  have hordered : m.ordered r.compiled = [] := by
    unfold ordered
    rw [hfound]
    split <;> rfl
  rw [h.records_eq m, hordered, List.drop_nil, List.take_nil, List.map_nil]
  unfold recordsOf
  cases r.page <;> rfl

/-- A search that finds nothing has empty pages, in whatever order. -/
theorem Browses.windows_of_empty {k' : KeyOrder} (h : r.Browses k')
    (hnone : ∀ m : MemoryIndex, m.found r.document.queryClause = []) : r.Windows k := by
  intro m p t L _ hp _ dir n position _
  obtain rfl : L = [] := List.Perm.eq_nil (hnone m ▸ hp)
  rw [(h.turnTo dir n position).records_of_empty (hnone m)]
  cases dir <;> simp [PageDirection.cut]

end Relation

end TenantSearch
