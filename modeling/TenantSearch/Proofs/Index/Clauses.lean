/-
What the clauses of the query language mean to the index. A condition on a field holds when one of
the values of the field satisfies it; a boolean clause that holds has all of `must` and `filter`,
none of `must_not`, and as many of `should` as it asks for. Clauses built here never fault, whatever
document they are put to (`Decided`), so the boolean clauses over them are the connectives.
-/
import TenantSearch.Index.Match
import TenantSearch.Query.Clause
import TenantSearch.Proofs.Results

namespace TenantSearch.Index

variable {id : String} {source : Json}

/-- A document, an id and a source, satisfies a clause. -/
def Accepts (id : String) (source : Json) (c : Clause) : Prop := outcome id source c = .ok true

instance (id : String) (source : Json) (c : Clause) : Decidable (Accepts id source c) :=
  match h : outcome id source c with
  | .ok true => .isTrue h
  | .ok false => .isFalse fun h' => by rw [Accepts, h] at h'; cases h'
  | .error _ => .isFalse fun h' => by rw [Accepts, h] at h'; cases h'

/-- A clause that evaluates without a fault on every document. -/
def Decided (c : Clause) : Prop := ∀ id source, ∃ b, outcome id source c = .ok b

theorem Decided.outcome_eq {c : Clause} (h : Decided c) (id : String) (source : Json) :
    outcome id source c = .ok (decide (Accepts id source c)) := by
  obtain ⟨b, hb⟩ := h id source
  cases b <;> simp [Accepts, hb]

theorem Decided.outcome_false_iff {c : Clause} (h : Decided c) :
    outcome id source c = .ok false ↔ ¬ Accepts id source c := by
  rw [h.outcome_eq]
  simp

/-! ## Conditions on a field -/

@[simp]
theorem outcome_term (field : String) (v : Json) :
    outcome id source (Clause.term field v) =
      .ok ((fieldValues source field).any fun x => valuesEqual x v) := rfl

@[simp]
theorem outcome_terms (field : String) (vs : List Json) :
    outcome id source (Clause.terms field vs) =
      .ok ((fieldValues source field).any fun x => vs.any fun v => valuesEqual x v) := rfl

@[simp]
theorem outcome_startsWith (field start : String) :
    outcome id source (Clause.startsWith field start) =
      .ok ((fieldValues source field).any (startsWithChars start.toList)) := rfl

@[simp]
theorem outcome_exist (field : String) :
    outcome id source (Clause.exist field) = .ok (fieldValue source field).isSome := by
  show Except.ok (fieldValue source (String.ofList field.toList)).isSome = _
  rw [String.ofList_toList]

/-- A range holds where the field has a value within all of its bounds. -/
theorem outcome_bounds (field : String) (bounds : List (String × Json)) :
    outcome id source (.obj [("range", .obj [(field, .obj bounds)])]) =
      .ok ((fieldValue source field).any fun x => bounds.all fun e => boundHolds x e.1 e.2) := by
  have hleaf : outcome id source (.obj [("range", .obj [(field, .obj bounds)])]) =
      leaf "range" (.obj [(field, .obj bounds)]) id source := rfl
  have hentry : singleEntry (.obj [(field, .obj bounds)]) "range" = .ok (field, .obj bounds) := rfl
  rw [hleaf, leaf, if_neg (by decide), if_neg (by decide), if_neg (by decide), if_neg (by decide),
    if_neg (by decide), if_neg (by decide), if_neg (by decide), if_pos rfl, hentry, ok_bind]
  dsimp only
  cases fieldValue source field <;> rfl

@[simp]
theorem outcome_range (field : String) (op : RangeOp) (v : Json) :
    outcome id source (Clause.range field op v) =
      .ok ((fieldValue source field).any fun x => boundHolds x op.name v) := by
  unfold Clause.range
  rw [outcome_bounds]
  simp

@[simp]
theorem outcome_matchAll : outcome id source Clause.matchAll = .ok true := rfl

@[simp]
theorem outcome_matchNone : outcome id source Clause.matchNone = .ok false := rfl

theorem accepts_term {field : String} {v : Json} :
    Accepts id source (Clause.term field v) ↔ ∃ x ∈ fieldValues source field, valuesEqual x v = true := by
  simp [Accepts]

theorem accepts_terms {field : String} {vs : List Json} :
    Accepts id source (Clause.terms field vs) ↔
      ∃ x ∈ fieldValues source field, ∃ v ∈ vs, valuesEqual x v = true := by
  simp [Accepts]

theorem accepts_startsWith {field start : String} :
    Accepts id source (Clause.startsWith field start) ↔
      ∃ s, .str s ∈ fieldValues source field ∧ start.toList <+: s.toList := by
  rw [Accepts, outcome_startsWith, Except.ok.injEq, List.any_eq_true]
  constructor
  · rintro ⟨x, hx, hp⟩
    cases x with
    | str s => exact ⟨s, hx, List.isPrefixOf_iff_prefix.1 hp⟩
    | _ => cases hp
  · rintro ⟨s, hs, hp⟩
    exact ⟨.str s, hs, List.isPrefixOf_iff_prefix.2 hp⟩

/-! ## Boolean clauses -/

theorem outcomes_eq_map (id : String) (source : Json) :
    ∀ cs : List Clause, outcomes id source cs = cs.map (outcome id source)
  | [] => rfl
  | c :: cs => by rw [outcomes, outcomes_eq_map id source cs, List.map_cons]

theorem memberOutcomes_append (id : String) (source : Json) :
    ∀ fs gs : List (String × Json), memberOutcomes id source (fs ++ gs) =
      memberOutcomes id source fs ++ memberOutcomes id source gs
  | [], gs => rfl
  | (key, v) :: fs, gs => by
    cases v <;> simp [memberOutcomes, memberOutcomes_append id source fs gs]

theorem memberOutcomes_listMember (id : String) (source : Json) (key : String) (cs : List Clause) :
    memberOutcomes id source (BoolExpr.listMember key cs) =
      if cs = [] then [] else [(key, cs.map (outcome id source))] := by
  cases cs with
  | nil => rfl
  | cons c cs => simp [BoolExpr.listMember, memberOutcomes, outcomes_eq_map]

theorem minimumOf_toJson (e : BoolExpr) :
    minimumOf e.toJson = e.minimumShouldMatch.map UInt32.toUInt64 := by
  obtain ⟨must, mustNot, should, filter, minimum⟩ := e
  cases minimum <;> cases must <;> cases mustNot <;> cases should <;> cases filter <;>
    simp [minimumOf, BoolExpr.toJson, BoolExpr.toFields, BoolExpr.listMember, Json.get?, List.lookup_cons,
      Json.ofUInt32, Json.asUInt64?, Integer.ofUInt32]

/-- The outcome of a boolean expression, from those of its clauses. -/
theorem outcome_clause (e : BoolExpr) :
    outcome id source e.clause =
      combine (e.minimumShouldMatch.map UInt32.toUInt64)
        (e.must.map (outcome id source)) (e.filter.map (outcome id source))
        (e.mustNot.map (outcome id source)) (e.should.map (outcome id source)) := by
  have hlists : listOutcomes id source e.toJson = memberOutcomes id source e.toFields := rfl
  simp only [BoolExpr.clause, outcome, if_true, minimumOf_toJson, hlists]
  obtain ⟨must, mustNot, should, filter, minimum⟩ := e
  simp only [BoolExpr.toFields, memberOutcomes_append, memberOutcomes_listMember]
  cases minimum <;> cases must <;> cases mustNot <;> cases should <;> cases filter <;>
    simp [under, List.lookup_cons, memberOutcomes, Json.ofUInt32]

theorem allAre_true_iff (expected : Bool) :
    ∀ os : List Outcome, allAre expected os = .ok true ↔ ∀ o ∈ os, o = .ok expected
  | [] => by simp [allAre]
  | .ok b :: rest => by
    rw [allAre]
    by_cases hb : b = expected
    · simp [hb, allAre_true_iff expected rest]
    · simp [hb]
  | .error e :: rest => by simp [allAre]

theorem allAre_decided (expected : Bool) :
    ∀ os : List Outcome, (∀ o ∈ os, ∃ b, o = .ok b) → ∃ b, allAre expected os = .ok b
  | [], _ => ⟨true, rfl⟩
  | o :: rest, h => by
    obtain ⟨b, rfl⟩ := h o List.mem_cons_self
    rw [allAre]
    split
    · exact allAre_decided expected rest fun o ho => h o (List.mem_cons_of_mem _ ho)
    · exact ⟨false, rfl⟩

theorem countTrue_decided :
    ∀ os : List Outcome, (∀ o ∈ os, ∃ b, o = .ok b) → countTrue os = .ok (os.count (.ok true))
  | [], _ => rfl
  | o :: rest, h => by
    obtain ⟨b, rfl⟩ := h o List.mem_cons_self
    rw [countTrue, countTrue_decided rest fun o ho => h o (List.mem_cons_of_mem _ ho)]
    cases b <;> simp [Except.map]

theorem exists_true_of_countTrue :
    ∀ {os : List Outcome} {n : Nat}, countTrue os = .ok n → 0 < n → .ok true ∈ os
  | [], n, h, hn => by cases h; omega
  | .ok true :: rest, n, h, hn => List.mem_cons_self
  | .ok false :: rest, n, h, hn => by
    rw [countTrue] at h
    cases hc : countTrue rest with
    | error e => rw [hc] at h; cases h
    | ok k =>
      rw [hc] at h
      simp only [Except.map, Bool.false_eq_true, if_false, Except.ok.injEq] at h
      exact List.mem_cons_of_mem _ (exists_true_of_countTrue hc (by omega))
  | .error e :: rest, n, h, hn => by cases h

/-- A boolean clause holds when every clause of `must` and `filter` does, none of `must_not`, and
as many of `should` as are required. -/
theorem combine_true_iff {minimum : Option UInt64} {must filter mustNot should : List Outcome} :
    combine minimum must filter mustNot should = .ok true ↔
      (∀ o ∈ must, o = .ok true) ∧ (∀ o ∈ filter, o = .ok true) ∧ (∀ o ∈ mustNot, o = .ok false) ∧
        (requiredOf minimum must filter should = 0 ∨
          ∃ n, countTrue should = .ok n ∧ requiredOf minimum must filter should ≤ n) := by
  have hall : allAre true (must ++ filter) = .ok true ↔
      (∀ o ∈ must, o = .ok true) ∧ ∀ o ∈ filter, o = .ok true := by
    simp only [allAre_true_iff, List.mem_append, or_imp, forall_and]
  rw [← and_assoc, ← hall, ← allAre_true_iff]
  unfold combine
  generalize allAre true (must ++ filter) = a
  generalize allAre false mustNot = b
  generalize requiredOf minimum must filter should = r
  -- a list that faults or fails settles the outcome before the next one is looked at
  rcases a with e | a | a
  · simp [bind, Except.bind]
  · simp [ok_bind]
  rcases b with e | b | b
  · simp [bind, Except.bind]
  · simp [ok_bind]
  by_cases hr : r = 0
  · simp [ok_bind, hr]
  · simp [ok_bind, hr, bind_eq_ok]

theorem combine_decided {minimum : Option UInt64} {must filter mustNot should : List Outcome}
    (hm : ∀ o ∈ must, ∃ b, o = .ok b) (hf : ∀ o ∈ filter, ∃ b, o = .ok b)
    (hn : ∀ o ∈ mustNot, ∃ b, o = .ok b) (hs : ∀ o ∈ should, ∃ b, o = .ok b) :
    ∃ b, combine minimum must filter mustNot should = .ok b := by
  obtain ⟨a, ha⟩ := allAre_decided true (must ++ filter) fun o ho =>
    (List.mem_append.1 ho).elim (hm o) (hf o)
  obtain ⟨b, hb⟩ := allAre_decided false mustNot hn
  unfold combine
  rw [ha, ok_bind, hb, ok_bind, countTrue_decided should hs]
  cases a
  · exact ⟨false, rfl⟩
  cases b
  · exact ⟨false, rfl⟩
  simp only [Bool.not_true, Bool.false_eq_true, if_false, ok_bind]
  split
  · exact ⟨true, rfl⟩
  · exact ⟨_, rfl⟩

/-! ## Connectives -/

/-- What a boolean expression that holds tells of its clauses. -/
theorem Accepts.parts {e : BoolExpr} (h : Accepts id source e.clause) :
    (∀ c ∈ e.must, Accepts id source c) ∧ (∀ c ∈ e.filter, Accepts id source c) ∧
      ∀ c ∈ e.mustNot, outcome id source c = .ok false := by
  rw [Accepts, outcome_clause, combine_true_iff] at h
  simp only [List.forall_mem_map] at h
  exact ⟨h.1, h.2.1, h.2.2.1⟩

/-- Without `should` and a minimum, a boolean expression is the conjunction of its lists. -/
theorem accepts_clause_iff {e : BoolExpr} (hs : e.should = []) (hm : e.minimumShouldMatch = none) :
    Accepts id source e.clause ↔
      (∀ c ∈ e.must, Accepts id source c) ∧ (∀ c ∈ e.filter, Accepts id source c) ∧
        ∀ c ∈ e.mustNot, outcome id source c = .ok false := by
  rw [Accepts, outcome_clause, combine_true_iff, hs, hm]
  simp [requiredOf, Accepts]

theorem accepts_allOf {cs : List Clause} :
    Accepts id source (Clause.allOf cs) ↔ ∀ c ∈ cs, Accepts id source c := by
  rw [Clause.allOf, accepts_clause_iff rfl rfl]
  simp

theorem accepts_not {c : Clause} :
    Accepts id source (Clause.not c) ↔ outcome id source c = .ok false := by
  rw [Clause.not, accepts_clause_iff rfl rfl]
  simp [BoolExpr.addMustNot, BoolExpr.empty]

theorem Accepts.exists_of_anyOf {cs : List Clause} (h : Accepts id source (Clause.anyOf cs)) :
    ∃ c ∈ cs, Accepts id source c := by
  rw [Accepts, Clause.anyOf, outcome_clause, combine_true_iff] at h
  obtain ⟨-, -, -, h | ⟨n, hn, hle⟩⟩ := h
  · simp [requiredOf] at h
  · have hone : (1 : Nat) ≤ n := hle
    simpa [Accepts] using exists_true_of_countTrue hn (by omega)

theorem accepts_anyOf {cs : List Clause} (hd : ∀ c ∈ cs, Decided c) :
    Accepts id source (Clause.anyOf cs) ↔ ∃ c ∈ cs, Accepts id source c := by
  constructor
  · exact Accepts.exists_of_anyOf
  rintro ⟨c, hc, h⟩
  -- the count goes through all clauses, those that fail included
  have hcount := countTrue_decided (cs.map (outcome id source)) fun o ho => by
    obtain ⟨c, hc, rfl⟩ := List.mem_map.1 ho
    exact hd c hc id source
  rw [Accepts, Clause.anyOf, outcome_clause, combine_true_iff]
  refine ⟨by simp, by simp, by simp, .inr ⟨_, hcount, ?_⟩⟩
  exact List.count_pos_iff.2 (List.mem_map.2 ⟨c, hc, h⟩)

theorem accepts_anyOfFlat {cs : List Clause} (hd : ∀ c ∈ cs, Decided c) :
    Accepts id source (Clause.anyOfFlat cs) ↔ ∃ c ∈ cs, Accepts id source c := by
  unfold Clause.anyOfFlat
  split
  · simp
  · exact accepts_anyOf hd

/-- A gate, if there is one, has to hold as well. -/
theorem accepts_gated {c : Clause} {gate : Option Clause} :
    Accepts id source (Clause.gated c gate) ↔
      Accepts id source c ∧ ∀ g, gate = some g → Accepts id source g := by
  cases gate with
  | none =>
    refine (and_iff_left ?_).symm
    intro g hg
    cases hg
  | some g =>
    rw [Clause.gated, accepts_allOf]
    simp

/-! ## Clauses without faults -/

theorem decided_clause {e : BoolExpr} (hm : ∀ c ∈ e.must, Decided c) (hf : ∀ c ∈ e.filter, Decided c)
    (hn : ∀ c ∈ e.mustNot, Decided c) (hs : ∀ c ∈ e.should, Decided c) : Decided e.clause := by
  intro id source
  have hmap : ∀ cs : List Clause, (∀ c ∈ cs, Decided c) →
      ∀ o ∈ cs.map (outcome id source), ∃ b, o = .ok b := by
    intro cs hcs o ho
    obtain ⟨c, hc, rfl⟩ := List.mem_map.1 ho
    exact hcs c hc id source
  rw [outcome_clause]
  exact combine_decided (hmap _ hm) (hmap _ hf) (hmap _ hn) (hmap _ hs)

theorem decided_term (field : String) (v : Json) : Decided (Clause.term field v) :=
  fun _ _ => ⟨_, outcome_term field v⟩

theorem decided_terms (field : String) (vs : List Json) : Decided (Clause.terms field vs) :=
  fun _ _ => ⟨_, outcome_terms field vs⟩

theorem decided_startsWith (field start : String) : Decided (Clause.startsWith field start) :=
  fun _ _ => ⟨_, outcome_startsWith field start⟩

theorem decided_exist (field : String) : Decided (Clause.exist field) :=
  fun _ _ => ⟨_, outcome_exist field⟩

theorem decided_range (field : String) (op : RangeOp) (v : Json) : Decided (Clause.range field op v) :=
  fun _ _ => ⟨_, outcome_range field op v⟩

theorem decided_matchAll : Decided Clause.matchAll := fun _ _ => ⟨_, outcome_matchAll⟩

theorem decided_matchNone : Decided Clause.matchNone := fun _ _ => ⟨_, outcome_matchNone⟩

theorem decided_not {c : Clause} (h : Decided c) : Decided (Clause.not c) :=
  decided_clause (by simp [BoolExpr.addMustNot, BoolExpr.empty]) (by simp [BoolExpr.addMustNot, BoolExpr.empty])
    (by simpa [BoolExpr.addMustNot, BoolExpr.empty] using h) (by simp [BoolExpr.addMustNot, BoolExpr.empty])

theorem decided_allOf {cs : List Clause} (h : ∀ c ∈ cs, Decided c) : Decided (Clause.allOf cs) :=
  decided_clause (by simp) h (by simp) (by simp)

theorem decided_anyOf {cs : List Clause} (h : ∀ c ∈ cs, Decided c) : Decided (Clause.anyOf cs) :=
  decided_clause (by simp) (by simp) (by simp) h

theorem decided_anyOfFlat {cs : List Clause} (h : ∀ c ∈ cs, Decided c) :
    Decided (Clause.anyOfFlat cs) := by
  unfold Clause.anyOfFlat
  split
  · exact h _ (List.mem_singleton_self _)
  · exact decided_anyOf h

theorem decided_gated {c : Clause} {gate : Option Clause} (h : Decided c)
    (hg : ∀ g, gate = some g → Decided g) : Decided (Clause.gated c gate) := by
  cases gate with
  | none => exact h
  | some g => exact decided_allOf (by simpa using ⟨h, hg g rfl⟩)

/-- A window of values faults on no document, whichever of its bounds are set. -/
theorem decided_between {field : String} {gte lte : Option Json} {c : Clause}
    (h : Clause.between? field gte lte = some c) : Decided c := by
  intro id source
  unfold Clause.between? at h
  split at h
  · cases h
  · cases h
    exact ⟨_, outcome_bounds field _⟩

theorem decided_multiMatch (query : String) (fields : List String) (operator : String) :
    Decided (Clause.multiMatch query fields operator) := fun _ _ => ⟨_, rfl⟩

theorem decided_phrase (query : String) (fields : List String) :
    Decided (Clause.phrase query fields) := fun _ _ => ⟨_, rfl⟩

theorem decided_simpleQuery (query : String) (fields : List String) :
    Decided (Clause.simpleQuery query fields) := fun _ _ => ⟨_, rfl⟩

end TenantSearch.Index
