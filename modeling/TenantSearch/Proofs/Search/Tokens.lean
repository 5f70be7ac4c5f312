/-
Walks through searches. A client asks for the first page of a request and then for the page behind
the token of the last record, over and over; backward it asks for the last page and goes on in front
of the first record. Each token reads back as the position it was made of, so the walk passes the
natural order page by page: as many pages as the matches fill, and then an empty one.
-/
import TenantSearch.Proofs.Search.Requests
import TenantSearch.Proofs.Search.Walk
import TenantSearch.Proofs.Token.Cursor

namespace TenantSearch.SearchService

open Index MemoryIndex

variable {s : SearchService} {o : SearchOptions} {d : QueryDocument} {n : UInt32} {dir : PageDirection}
variable {m : MemoryIndex} {p t : Kind} {L : List (String × Json)}

/-- The keys of an order hold no floating-point numbers, and tokens for them are short enough. -/
structure Writable (k : KeyOrder) (ds : List (String × Json)) : Prop where
  primary : ∀ e ∈ ds, ∀ x : Double, fieldValue e.2 k.primary ≠ some (.float x)
  tieBreaker : ∀ e ∈ ds, ∀ x : Double, fieldValue e.2 k.tieBreaker ≠ some (.float x)
  token : ∀ e ∈ ds, (k.position e.2).tokenOctets.length ≤ Cursor.maxTokenLength

theorem Writable.of_sublist {k : KeyOrder} {ds es : List (String × Json)} (h : Writable k ds)
    (hs : es.Sublist ds) : Writable k es :=
  ⟨fun e he => h.primary e (hs.subset he), fun e he => h.tieBreaker e (hs.subset he),
    fun e he => h.token e (hs.subset he)⟩

theorem exact_of_kind {v : Json} {kind : Kind} (h : kind? v = some kind) (hf : ∀ x, v ≠ .float x) :
    Json.Exact 0 v ∧ v ≠ .null := by
  cases v with
  | int i => exact ⟨.int i, Json.noConfusion⟩
  | str text => exact ⟨.str text, Json.noConfusion⟩
  | bool b => exact ⟨.bool b, Json.noConfusion⟩
  | float x => exact absurd rfl (hf x)
  | null => cases h
  | arr items => cases h
  | obj fields => cases h

/-- The token of a writable document reads back as its position. -/
theorem decode_position {k : KeyOrder} {ds : List (String × Json)} (hw : Writable k ds)
    (hm : k.Placed p t ds) {e : String × Json} (he : e ∈ ds) :
    Cursor.decode (k.position e.2).encode = .ok (k.position e.2) := by
  have hfits := hm.fits e he
  obtain ⟨v, hv, htie, -⟩ := Pagination.exists_tieBreaker hfits
  have hexact := exact_of_kind hfits.tieBreaker fun x hx => hw.tieBreaker e he x (hv.trans (by rw [← htie, hx]))
  refine Cursor.decode_encode_exact ?_ hexact.1 hexact.2 (by decide) (hw.token e he)
  intro w hs
  exact exact_of_kind (hfits.primary w hs) fun x hx => hw.primary e he x (by rw [← hx]; exact hs)

theorem positionOf_encode {c : Option Cursor} (hc : ∀ c', c = some c' → Cursor.decode c'.encode = .ok c')
    (dir : PageDirection) : positionOf dir (c.map Cursor.encode) = .ok (c.map (dir, ·)) := by
  cases c with
  | none => rfl
  | some c =>
    unfold positionOf
    rw [Option.map_some]
    dsimp only
    rw [hc c rfl]
    rfl

/-- The page behind a token: the records that a page holds of what lies beyond its position, with the
number of all matches. -/
theorem search_resume (hv : s.settings.validate = .ok ()) (hb : o.build s.compileSettings = .ok d)
    (hp : o.paging.Ends n dir) (hc : o.countOnly = false)
    (hm : (s.keyOrder o).Placed p t (m.found d.queryClause)) (hperm : L.Perm (m.found d.queryClause))
    (hL : L.Pairwise (s.keyOrder o).Precedes) {c : Option Cursor}
    (hfits : ∀ c', c = some c' → (s.keyOrder o).Fits p t c')
    (hdecode : ∀ c', c = some c' → Cursor.decode c'.encode = .ok c') (provider : Provider) :
    ∃ x, ((s.onIndex m provider).search (o.withPaging (o.paging.resume dir (c.map Cursor.encode)))).result =
        .ok x ∧
      x.records = (dir.cut (s.compileSettings.pageSize (some n)).toNat
        (L.filter ((s.keyOrder o).isBeyond (c.map (dir, ·))))).map (s.keyOrder o).record ∧
      x.total = L.length.toUInt64 := by
  obtain ⟨hvalid, -⟩ := SearchOptions.build_eq_ok.1 hb
  obtain ⟨d', hd', hw⟩ := SearchOptions.build_withPaging hb
    (SearchOptions.validate_resume hvalid hp (c.map Cursor.encode))
  have hquery : d'.queryClause = d.queryClause := QueryDocument.queryClause_eq hw
  obtain ⟨after, before, hafter, hbefore, hposition⟩ : ∃ after before,
      positionOf .forward (o.paging.resume dir (c.map Cursor.encode)).after = .ok after ∧
        positionOf .backward (o.paging.resume dir (c.map Cursor.encode)).before = .ok before ∧
        (before.orElse fun _ => after) = c.map (dir, ·) := by
    cases dir with
    | forward =>
      obtain ⟨-, -, hb, -⟩ := hp
      refine ⟨_, none, positionOf_encode hdecode .forward, ?_, rfl⟩
      show positionOf .backward o.paging.before = .ok none
      rw [hb]
      rfl
    | backward =>
      obtain ⟨-, -, -, ha⟩ := hp
      refine ⟨none, _, ?_, positionOf_encode hdecode .backward, ?_⟩
      · show positionOf .forward o.paging.after = .ok none
        rw [ha]
        rfl
      · cases c <;> rfl
  have hv' : (s.onIndex m provider).settings.validate = .ok () := hv
  obtain ⟨v, status, hrelation⟩ := relation_ok hv' hd' hafter hbefore
  rw [pageOf_resume hp, hposition] at hrelation
  have htotal := totalCount_ok hrelation m
  have hrecords := relation_windows hrelation m p t L (hquery ▸ hm) (hquery ▸ hperm) hL dir
    (s.compileSettings.pageSize (some n)) (c.map (dir, ·)) fun _ c' hc' => by
      obtain ⟨c'', hsome, he⟩ := Option.map_eq_some_iff.1 hc'
      cases he
      exact hfits _ hsome
  refine ⟨_, search_ok hrelation hc htotal hrecords, rfl, ?_⟩
  show (m.found d'.queryClause).length.toUInt64 = _
  rw [hquery, hperm.length_eq]

/-! ## Walks -/

/-- The outcomes of a walk: each search is for the page behind the token handed on, by a service whose
provider answers as it does at the time, up to a page that hands on none. -/
def tokenWalk (s : SearchService) (m : MemoryIndex) (dir : PageDirection) :
    SearchOptions → List Provider → Except SearchError (List SearchOutcome)
  | _, [] => .ok []
  | o, provider :: rest => do
    let x ← ((s.onIndex m provider).search o).result
    match dir.edge x.records with
    | none => .ok [x]
    | some c => do
      let more ← s.tokenWalk m dir (o.withPaging (o.paging.resume dir (some c.encode))) rest
      .ok (x :: more)

/-- Outcomes that tile documents in the order passed: pages of them, none empty and as many as the
documents fill, and an empty one at the end, each with the same total. -/
structure Tiling (k : KeyOrder) (dir : PageDirection) (size : Nat) (total : UInt64)
    (ds : List (String × Json)) (xs : List SearchOutcome) (last : SearchOutcome) : Prop where
  assembled : dir.assemble (xs.map SearchOutcome.records) = dir.turn (ds.map k.record)
  pages : xs.length = (ds.length + size - 1) / size
  nonempty : ∀ x ∈ xs, x.records ≠ []
  stop : last.records = []
  total : ∀ x ∈ xs ++ [last], x.total = total

variable {k : KeyOrder} {size : Nat} {total : UInt64}

theorem Tiling.nil {last : SearchOutcome} (hsize : size ≠ 0) (hstop : last.records = [])
    (htotal : last.total = total) : Tiling k dir size total [] [] last := by
  constructor
  · cases dir <;> rfl
  · have hlt : size - 1 < size := by omega
    rw [List.length_nil, List.length_nil, Nat.zero_add, Nat.div_eq_of_lt hlt]
  · intro x hx
    cases hx
  · exact hstop
  · intro x hx
    rw [List.mem_singleton.1 hx]
    exact htotal

/-- A list that is not empty fills one page more than what is left behind its first page. -/
theorem pages_drop {α : Type} {l : List α} (hsize : size ≠ 0) (hl : l ≠ []) :
    (l.length + size - 1) / size = ((l.drop size).length + size - 1) / size + 1 := by
  have hpos : 0 < l.length := List.length_pos_iff.2 hl
  have hfirst : l.length + size - 1 = l.length - 1 + size := by omega
  rw [hfirst, Nat.add_div_right _ (Nat.pos_of_ne_zero hsize), List.length_drop]
  by_cases hle : l.length ≤ size
  · rw [Nat.div_eq_of_lt (by omega), Nat.div_eq_of_lt (by omega)]
  · have hrest : l.length - size + size - 1 = l.length - 1 := by omega
    rw [hrest]

/-- A page in front of a tiling. -/
theorem Tiling.cons {B : List (String × Json)} {x last : SearchOutcome} {xs : List SearchOutcome}
    (hsize : size ≠ 0) (hB : B ≠ []) (hx : x.records = dir.turn ((B.take size).map k.record))
    (htotal : x.total = total) (h : Tiling k dir size total (B.drop size) xs last) :
    Tiling k dir size total B (x :: xs) last := by
  have hpos : 0 < B.length := List.length_pos_iff.2 hB
  constructor
  · rw [List.map_cons, hx, PageDirection.assemble_cons dir _ h.assembled, ← List.map_append,
      List.take_append_drop]
  · rw [List.length_cons, h.pages, pages_drop hsize hB]
  · intro y hy
    rcases List.mem_cons.1 hy with rfl | hy
    · rw [hx]
      intro hnil
      have hlength := congrArg List.length hnil
      rw [(dir.turn_perm _).length_eq, List.length_map, List.length_take, List.length_nil] at hlength
      omega
    · exact h.nonempty y hy
  · exact h.stop
  · intro y hy
    rcases List.mem_cons.1 hy with rfl | hy
    · exact htotal
    · exact h.total y hy

/-- What a walk has not yet passed is what lies beyond the last document passed. -/
theorem turn_filter_isBeyond {ds A B : List (String × Json)} (hm : k.Placed p t ds) (hperm : L.Perm ds)
    (hL : L.Pairwise k.Precedes) (hsplit : dir.turn L = A ++ B) :
    dir.turn (L.filter (k.isBeyond ((A.getLast?.map fun e => k.position e.2).map (dir, ·)))) = B := by
  rcases List.eq_nil_or_concat A with rfl | ⟨A, e, rfl⟩
  · show dir.turn (L.filter (k.isBeyond none)) = B
    rw [KeyOrder.filter_isBeyond_none]
    exact hsplit
  rw [List.concat_eq_append, List.append_assoc] at hsplit
  rw [List.concat_eq_append, List.getLast?_concat, Option.map_some, Option.map_some]
  cases dir with
  | forward =>
    obtain rfl : L = A ++ e :: B := hsplit
    exact (KeyOrder.filter_isBeyond_split hm hperm hL).1
  | backward =>
    obtain rfl : L = B.reverse ++ e :: A.reverse := by
      rw [← List.reverse_reverse L, show L.reverse = A ++ ([e] ++ B) from hsplit]
      simp
    show List.reverse _ = B
    rw [(KeyOrder.filter_isBeyond_split hm hperm hL).2, List.reverse_reverse]

/-- The request for what is left behind some documents passed. -/
def behind (s : SearchService) (o : SearchOptions) (dir : PageDirection) (A : List (String × Json)) :
    SearchOptions :=
  o.withPaging (o.paging.resume dir
    ((A.getLast?.map fun e => (s.keyOrder o).position e.2).map Cursor.encode))

/-- From any point of the natural order on, a walk of enough searches tiles what is left of it. -/
theorem tokenWalk_behind (hv : s.settings.validate = .ok ()) (hb : o.build s.compileSettings = .ok d)
    (hp : o.paging.Ends n dir) (hc : o.countOnly = false)
    (hm : (s.keyOrder o).Placed p t (m.found d.queryClause)) (hperm : L.Perm (m.found d.queryClause))
    (hL : L.Pairwise (s.keyOrder o).Precedes) (hw : Writable (s.keyOrder o) (m.found d.queryClause))
    (hsize : (s.compileSettings.pageSize (some n)).toNat = size) (hpos : size ≠ 0) :
    ∀ (providers : List Provider) (A B : List (String × Json)), dir.turn L = A ++ B →
      (B.length + size - 1) / size < providers.length →
      ∃ xs last, s.tokenWalk m dir (s.behind o dir A) providers = .ok (xs ++ [last]) ∧
        Tiling (s.keyOrder o) dir size L.length.toUInt64 B xs last
  | [], A, B, _, hlength => absurd hlength (Nat.not_lt_zero _)
  | provider :: rest, A, B, hsplit, hlength => by
    have hcursor : ∀ c, (A.getLast?.map fun e => (s.keyOrder o).position e.2) = some c →
        ∃ e ∈ m.found d.queryClause, c = (s.keyOrder o).position e.2 := by
      intro c hc
      obtain ⟨e, he, rfl⟩ := Option.map_eq_some_iff.1 hc
      have heL : e ∈ dir.turn L := hsplit ▸ List.mem_append_left B (List.mem_of_getLast? he)
      exact ⟨e, hperm.mem_iff.1 (PageDirection.mem_turn.1 heL), rfl⟩
    have hfits : ∀ c, (A.getLast?.map fun e => (s.keyOrder o).position e.2) = some c →
        (s.keyOrder o).Fits p t c := by
      intro c hc
      obtain ⟨e, he, rfl⟩ := hcursor c hc
      exact hm.fits e he
    have hdecode : ∀ c, (A.getLast?.map fun e => (s.keyOrder o).position e.2) = some c →
        Cursor.decode c.encode = .ok c := by
      intro c hc
      obtain ⟨e, he, rfl⟩ := hcursor c hc
      exact decode_position hw hm he
    obtain ⟨x, hsearch, hrecords, htotal⟩ :=
      search_resume hv hb hp hc hm hperm hL hfits hdecode provider
    rw [hsize, PageDirection.cut_eq_take, turn_filter_isBeyond hm hperm hL hsplit,
      ← PageDirection.turn_map] at hrecords
    have hedge := Relation.edge_records dir (s.keyOrder o) (B.take size)
    rw [← hrecords] at hedge
    have hwalk : s.tokenWalk m dir (s.behind o dir A) (provider :: rest) =
        (match dir.edge x.records with
          | none => .ok [x]
          | some c => s.tokenWalk m dir (o.withPaging (o.paging.resume dir (some c.encode))) rest >>=
              fun more => .ok (x :: more)) := by
      rw [tokenWalk, behind, hsearch, ok_bind]
      cases dir <;> rfl
    rw [hwalk, hedge]
    by_cases hB : B = []
    · subst hB
      rw [List.take_nil] at hrecords ⊢
      refine ⟨[], x, rfl, .nil hpos ?_ htotal⟩
      rw [hrecords]
      cases dir <;> rfl
    · -- the last record of the page is the last document passed from here on
      have htake : B.take size ≠ [] := fun hnil => (List.take_eq_nil_iff.1 hnil).elim hpos hB
      obtain ⟨e, he⟩ := Option.isSome_iff_exists.1 (List.getLast?_isSome.2 htake)
      have hlast : (A ++ B.take size).getLast? = some e := by
        rw [List.getLast?_append, he]
        rfl
      have hsplit' : dir.turn L = (A ++ B.take size) ++ B.drop size := by
        rw [List.append_assoc, List.take_append_drop, hsplit]
      have hlength' : ((B.drop size).length + size - 1) / size < rest.length := by
        rw [pages_drop hpos hB, List.length_cons] at hlength
        exact Nat.lt_of_succ_lt_succ hlength
      obtain ⟨xs, last, hrest, htiling⟩ := tokenWalk_behind hv hb hp hc hm hperm hL hw hsize hpos rest
        (A ++ B.take size) (B.drop size) hsplit' hlength'
      rw [behind, hlast] at hrest
      refine ⟨x :: xs, last, ?_, htiling.cons hpos hB hrecords htotal⟩
      rw [he, Option.map_some]
      dsimp only [Option.map_some] at hrest ⊢
      rw [hrest]
      rfl

/-- A walk through searches, from a request without a token on: as many pages as the matches fill, each
with records and the number of all matches, and an empty one; put together, all the matches in natural
order. The provider may answer each search as it likes. A step that names the token and the size of a
numbered page is the same search. -/
theorem tokenWalk_exact (hv : s.settings.validate = .ok ()) (hb : o.build s.compileSettings = .ok d)
    (hp : o.paging.Ends n dir) (hc : o.countOnly = false) (m : MemoryIndex)
    (ho : (s.keyOrder o).Orderly (m.found d.queryClause))
    (hw : Writable (s.keyOrder o) (m.found d.queryClause)) :
    ∃ L : List (String × Json), L.Perm (m.found d.queryClause) ∧ L.Pairwise (s.keyOrder o).Precedes ∧
      (∀ providers : List Provider,
        (L.length + (s.compileSettings.pageSize (some n)).toNat - 1) /
          (s.compileSettings.pageSize (some n)).toNat < providers.length →
        ∃ xs last, s.tokenWalk m dir o providers = .ok (xs ++ [last]) ∧
          xs.length = (L.length + (s.compileSettings.pageSize (some n)).toNat - 1) /
            (s.compileSettings.pageSize (some n)).toNat ∧
          (∀ x ∈ xs, x.records ≠ []) ∧ last.records = [] ∧
          dir.assemble (xs.map SearchOutcome.records) = L.map (s.keyOrder o).record ∧
          ∀ x ∈ xs ++ [last], x.total = (m.found d.queryClause).length.toUInt64) ∧
      ∀ (provider : Provider) (token : String),
        (s.onIndex m provider).search (o.withPaging (o.paging.bare n dir token)) =
          (s.onIndex m provider).search (o.withPaging (o.paging.resume dir (some token))) := by
  obtain ⟨p, t, hm⟩ := ho.exists_placed
  obtain ⟨L, hperm, hL⟩ := hm.exists_order
  have hpos : (s.compileSettings.pageSize (some n)).toNat ≠ 0 := by
    intro h
    exact s.compileSettings.pageSize_ne_zero (some n) (UInt32.toNat_inj.1 h)
  have hstart : s.behind o dir [] = o := by
    unfold behind
    rw [List.getLast?_nil, Option.map_none, Option.map_none, PageRequest.resume_none hp]
    rfl
  refine ⟨L, hperm, hL, ?_, ?_⟩
  · intro providers hlength
    rw [← (dir.turn_perm L).length_eq] at hlength
    obtain ⟨xs, last, hwalk, htiling⟩ := tokenWalk_behind hv hb hp hc hm hperm hL hw rfl hpos providers
      [] (dir.turn L) rfl hlength
    rw [hstart] at hwalk
    refine ⟨xs, last, hwalk, ?_, htiling.nonempty, htiling.stop, ?_, ?_⟩
    · rw [htiling.pages, (dir.turn_perm L).length_eq]
    · rw [htiling.assembled, ← PageDirection.turn_map, PageDirection.turn_turn]
    · rw [← hperm.length_eq]
      exact htiling.total
  · intro provider token
    have hb' : o.build (s.onIndex m provider).compileSettings = .ok d := hb
    exact search_bare hb' hp token

/-- The same search, two issues a page. -/
def pairsOfIssues : SearchOptions := oldestIssues.withPaging { first := some 2 }

def pairsDocument : QueryDocument :=
  (pairsOfIssues.build exampleService.compileSettings).toOption.getD .empty

theorem writable_threeIssues : Writable (exampleService.keyOrder pairsOfIssues) threeIssues.documents := by
  constructor
  · intro e he x hx
    obtain ⟨⟨id, created⟩, -, rfl⟩ := List.mem_map.1 he
    cases created <;> cases hx
  · intro e he x hx
    obtain ⟨e, -, rfl⟩ := List.mem_map.1 he
    cases hx
  · decide +kernel

theorem tokenWalk_exact_pairsOfIssues :
    exampleService.settings.validate = .ok () ∧
      pairsOfIssues.build exampleService.compileSettings = .ok pairsDocument ∧
      pairsOfIssues.paging.Ends 2 .forward ∧ pairsOfIssues.countOnly = false ∧
      (exampleService.keyOrder pairsOfIssues).Orderly (threeIssues.found pairsDocument.queryClause) ∧
      Writable (exampleService.keyOrder pairsOfIssues) (threeIssues.found pairsDocument.queryClause) ∧
      ∃ xs last, exampleService.tokenWalk threeIssues .forward pairsOfIssues
          (List.replicate 3 exampleService.provider) = .ok (xs ++ [last]) ∧
        xs.length = 2 ∧ last.records = [] := by
  have hvalid : exampleService.settings.validate = .ok () := rfl
  have hbuild : pairsOfIssues.build exampleService.compileSettings = .ok pairsDocument := rfl
  have hends : pairsOfIssues.paging.Ends 2 .forward := ⟨rfl, rfl, rfl, rfl⟩
  have hsub := threeIssues.found_sublist pairsDocument.queryClause
  have hall : (exampleService.keyOrder oldestIssues).Orderly threeIssues.documents :=
    orderly_issues (by decide)
  have horderly : (exampleService.keyOrder pairsOfIssues).Orderly
      (threeIssues.found pairsDocument.queryClause) := hall.of_sublist hsub
  have hwritable := writable_threeIssues.of_sublist hsub
  have hcount : (threeIssues.found pairsDocument.queryClause).length = 3 := by decide +kernel
  obtain ⟨L, hperm, -, hwalk, -⟩ :=
    tokenWalk_exact hvalid hbuild hends rfl threeIssues horderly hwritable
  have hlength : L.length = 3 := hperm.length_eq.trans hcount
  rw [hlength] at hwalk
  obtain ⟨xs, last, hwalk, hpages, -, hstop, -⟩ :=
    hwalk (List.replicate 3 exampleService.provider) (by decide)
  exact ⟨hvalid, hbuild, hends, rfl, horderly, hwritable, xs, last, hwalk, hpages, hstop⟩

end TenantSearch.SearchService
