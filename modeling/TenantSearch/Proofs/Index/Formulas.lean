/-
Clauses as formulas. A formula is built from conditions on a document by negation, conjunction and
disjunction, and by boolean nodes that hold formulas under `must` and `filter`. It has a value on every
source by itself, without clauses and without faults, and the index gives its clause just this value. A
written boolean node leaves out the lists that are empty and means different things with a minimum and
without, so each connective is shown to come through the encoding, empty lists included; the rest is
induction on the formula.
-/
import TenantSearch.Proofs.Index.Clauses

namespace TenantSearch

/-- How a value may compare with the bound of a range. -/
def RangeOp.admits : RangeOp → Ordering → Bool
  | .gt, o => o == .gt
  | .gte, o => o != .lt
  | .lt, o => o == .lt
  | .lte, o => o != .gt

theorem Clause.isSome_between? (field : String) (gte lte : Option Json) :
    (between? field gte lte).isSome = (gte.isSome || lte.isSome) := by
  cases gte <;> cases lte <;> rfl

namespace Index

/-! ## Conditions -/

/-- A condition on a document. A window of values has a bound at least on one side. -/
inductive Condition where
  | term (field : String) (value : Json)
  | terms (field : String) (values : List Json)
  | startsWith (field start : String)
  | exist (field : String)
  | range (field : String) (op : RangeOp) (bound : Json)
  | between (field : String) (gte lte : Option Json) (bounded : (gte.isSome || lte.isSome) = true)
  | matchAll
  | matchNone
  | multiMatch (query : String) (fields : List String) (operator : String)
  | phrase (query : String) (fields : List String)
  | simpleQuery (query : String) (fields : List String)

/-- The text of some fields, which are named with their boosts. -/
def boostedText (source : Json) (fields : List String) : List Char :=
  fieldsText source (fields.map fun field => nameOf field.toList)

namespace Condition

def clause : Condition → Clause
  | .term field v => .term field v
  | .terms field vs => .terms field vs
  | .startsWith field start => .startsWith field start
  | .exist field => .exist field
  | .range field op bound => .range field op bound
  | .between field gte lte bounded =>
    (Clause.between? field gte lte).get ((Clause.isSome_between? field gte lte).trans bounded)
  | .matchAll => .matchAll
  | .matchNone => .matchNone
  | .multiMatch query fields operator => .multiMatch query fields operator
  | .phrase query fields => .phrase query fields
  | .simpleQuery query fields => .simpleQuery query fields

/-- Whether a source meets a condition. -/
def holds (source : Json) : Condition → Bool
  | .term field v => (fieldValues source field).any fun x => valuesEqual x v
  | .terms field vs => (fieldValues source field).any fun x => vs.any fun v => valuesEqual x v
  | .startsWith field start => (fieldValues source field).any (startsWithChars start.toList)
  | .exist field => (fieldValue source field).isSome
  | .range field op bound =>
    (fieldValue source field).any fun x => op.admits (compareValues x bound)
  | .between field gte lte _ => (fieldValue source field).any fun x =>
    gte.all (fun bound => RangeOp.admits .gte (compareValues x bound)) &&
      lte.all (fun bound => RangeOp.admits .lte (compareValues x bound))
  | .matchAll => true
  | .matchNone => false
  | .multiMatch query fields operator =>
    wordsMatch (queryWords query.toList) (boostedText source fields) (operator == "and")
  | .phrase query fields => hasInfix (Text.lower query.toList) (boostedText source fields)
  | .simpleQuery query fields =>
    wordsMatch (queryWords query.toList) (boostedText source fields) true

end Condition

/-! ## Formulas -/

inductive Formula where
  | condition (c : Condition)
  | not (f : Formula)
  | allOf (fs : List Formula)
  | anyOf (fs : List Formula)
  /-- A boolean node around formulas, of which all must hold. -/
  | node (must filter : List Formula)

namespace Formula

mutual

def clause : Formula → Clause
  | .condition c => c.clause
  | .not f => .not f.clause
  | .allOf fs => .allOf (clauses fs)
  | .anyOf fs => .anyOf (clauses fs)
  | .node must filter => { must := clauses must, filter := clauses filter : BoolExpr }.clause
termination_by structural f => f

def clauses : List Formula → List Clause
  | [] => []
  | f :: fs => f.clause :: clauses fs
termination_by structural fs => fs

end

mutual

/-- The value of a formula on a source. -/
def holds (source : Json) : Formula → Bool
  | .condition c => c.holds source
  | .not f => !f.holds source
  | .allOf fs => allHold source fs
  | .anyOf fs => anyHolds source fs
  | .node must filter => allHold source must && allHold source filter
termination_by structural f => f

def allHold (source : Json) : List Formula → Bool
  | [] => true
  | f :: fs => f.holds source && allHold source fs
termination_by structural fs => fs

def anyHolds (source : Json) : List Formula → Bool
  | [] => false
  | f :: fs => f.holds source || anyHolds source fs
termination_by structural fs => fs

end

theorem clauses_eq_map : ∀ fs : List Formula, clauses fs = fs.map clause
  | [] => rfl
  | f :: fs => by rw [clauses, clauses_eq_map fs, List.map_cons]

theorem allHold_eq_all (source : Json) : ∀ fs : List Formula, allHold source fs = fs.all (holds source)
  | [] => rfl
  | f :: fs => by rw [allHold, allHold_eq_all source fs, List.all_cons]

theorem anyHolds_eq_any (source : Json) : ∀ fs : List Formula, anyHolds source fs = fs.any (holds source)
  | [] => rfl
  | f :: fs => by rw [anyHolds, anyHolds_eq_any source fs, List.any_cons]

end Formula

/-! ## Values of clauses -/

/-- A clause has a value on every document, which depends on the source alone. -/
def HasValue (c : Clause) (value : Json → Bool) : Prop :=
  ∀ id source, outcome id source c = .ok (value source)

namespace HasValue

variable {c : Clause} {value : Json → Bool}

theorem decided (h : HasValue c value) : Decided c := fun id source => ⟨_, h id source⟩

theorem accepts_iff (h : HasValue c value) {id : String} {source : Json} :
    Accepts id source c ↔ value source = true := by
  rw [Accepts, h, Except.ok.injEq]

/-- The value of a clause that never faults says when it holds. -/
theorem of_accepts (hd : Decided c) (h : ∀ id source, Accepts id source c ↔ value source = true) :
    HasValue c value := by
  intro id source
  rw [hd.outcome_eq, Except.ok.injEq, Bool.eq_iff_iff, decide_eq_true_iff, h]

end HasValue

/-! ### Conditions -/

theorem boundHolds_name (op : RangeOp) (x bound : Json) :
    boundHolds x op.name bound = op.admits (compareValues x bound) := by
  cases op <;> rfl

theorem all_bound (op : RangeOp) (x : Json) (bound : Option Json) :
    (Clause.bound op bound).all (fun e => boundHolds x e.1 e.2) =
      bound.all fun bound => op.admits (compareValues x bound) := by
  cases bound with
  | none => rfl
  | some v => simp [Clause.bound, boundHolds_name]

theorem get_between? {field : String} {gte lte : Option Json}
    (h : (Clause.between? field gte lte).isSome = true) : (Clause.between? field gte lte).get h =
      .obj [("range", .obj [(field, .obj (Clause.bound .gte gte ++ Clause.bound .lte lte))])] := by
  cases gte <;> cases lte <;> first | rfl | cases h

theorem searchedFields_eq {body : Json} {fields : List String}
    (h : body.get? "fields" = some (.ofStrings fields)) :
    searchedFields body = fields.map fun field => nameOf field.toList := by
  unfold searchedFields Json.ofStrings at *
  rw [h]
  simp [List.filterMap_map, Json.asString?]

theorem hasValue_multiMatch (query : String) (fields : List String) (operator : String) :
    HasValue (.multiMatch query fields operator) (Condition.multiMatch query fields operator).holds := by
  intro id source
  show Except.ok (multiMatchHolds _ source) = _
  unfold multiMatchHolds
  rw [searchedFields_eq rfl]
  rfl

theorem hasValue_phrase (query : String) (fields : List String) :
    HasValue (.phrase query fields) (Condition.phrase query fields).holds := by
  intro id source
  show Except.ok (multiMatchHolds _ source) = _
  unfold multiMatchHolds
  rw [searchedFields_eq rfl]
  rfl

theorem hasValue_simpleQuery (query : String) (fields : List String) :
    HasValue (.simpleQuery query fields) (Condition.simpleQuery query fields).holds := by
  intro id source
  show Except.ok (wordsMatch _ (fieldsText source (searchedFields _)) true) = _
  rw [searchedFields_eq rfl]
  rfl

theorem Condition.hasValue : ∀ c : Condition, HasValue c.clause c.holds
  | .term field v => fun _ _ => outcome_term field v
  | .terms field vs => fun _ _ => outcome_terms field vs
  | .startsWith field start => fun _ _ => outcome_startsWith field start
  | .exist field => fun _ _ => outcome_exist field
  | .range field op bound => by
    intro id source
    show outcome id source (Clause.range field op bound) = _
    rw [outcome_range]
    simp only [boundHolds_name, Condition.holds]
  | .between field gte lte bounded => by
    intro id source
    rw [Condition.clause, get_between?, outcome_bounds]
    simp only [List.all_append, all_bound, Condition.holds]
  | .matchAll => fun _ _ => outcome_matchAll
  | .matchNone => fun _ _ => outcome_matchNone
  | .multiMatch query fields operator => hasValue_multiMatch query fields operator
  | .phrase query fields => hasValue_phrase query fields
  | .simpleQuery query fields => hasValue_simpleQuery query fields

/-! ### Connectives -/

namespace HasValue

variable {c : Clause} {value : Json → Bool} {fs gs : List Formula}

theorem not (h : HasValue c value) : HasValue (.not c) fun source => !value source := by
  refine of_accepts (decided_not h.decided) fun id source => ?_
  rw [accepts_not, h, Except.ok.injEq, Bool.not_eq_true']

theorem decided_map (h : ∀ f ∈ fs, HasValue f.clause f.holds) : ∀ c ∈ fs.map Formula.clause, Decided c := by
  rw [List.forall_mem_map]
  exact fun f hf => (h f hf).decided

theorem forall_accepts_iff (h : ∀ f ∈ fs, HasValue f.clause f.holds) {id : String} {source : Json} :
    (∀ c ∈ fs.map Formula.clause, Accepts id source c) ↔ fs.all (Formula.holds source) = true := by
  rw [List.forall_mem_map, List.all_eq_true]
  exact forall₂_congr fun f hf => (h f hf).accepts_iff

theorem allOf (h : ∀ f ∈ fs, HasValue f.clause f.holds) :
    HasValue (.allOf (fs.map Formula.clause)) fun source => fs.all (Formula.holds source) := by
  refine of_accepts (decided_allOf (decided_map h)) fun id source => ?_
  rw [accepts_allOf, forall_accepts_iff h]

theorem anyOf (h : ∀ f ∈ fs, HasValue f.clause f.holds) :
    HasValue (.anyOf (fs.map Formula.clause)) fun source => fs.any (Formula.holds source) := by
  refine of_accepts (decided_anyOf (decided_map h)) fun id source => ?_
  rw [accepts_anyOf (decided_map h), List.any_eq_true]
  simp only [List.mem_map, exists_exists_and_eq_and]
  exact exists_congr fun f => and_congr_right fun hf => (h f hf).accepts_iff

theorem node (h : ∀ f ∈ fs, HasValue f.clause f.holds) (hg : ∀ g ∈ gs, HasValue g.clause g.holds) :
    HasValue { must := fs.map Formula.clause, filter := gs.map Formula.clause : BoolExpr }.clause
      fun source => fs.all (Formula.holds source) && gs.all (Formula.holds source) := by
  refine of_accepts (decided_clause (decided_map h) (decided_map hg) (by simp) (by simp))
    fun id source => ?_
  rw [accepts_clause_iff rfl rfl, forall_accepts_iff h, forall_accepts_iff hg, Bool.and_eq_true]
  simp

end HasValue

mutual

/-- The clause of a formula has the value of the formula. -/
theorem Formula.hasValue : ∀ f : Formula, HasValue f.clause f.holds
  | .condition c => c.hasValue
  | .not f => f.hasValue.not
  | .allOf fs => by
    simp only [Formula.clause, Formula.holds, Formula.clauses_eq_map, Formula.allHold_eq_all]
    exact .allOf (Formula.hasValue_mem fs)
  | .anyOf fs => by
    simp only [Formula.clause, Formula.holds, Formula.clauses_eq_map, Formula.anyHolds_eq_any]
    exact .anyOf (Formula.hasValue_mem fs)
  | .node must filter => by
    simp only [Formula.clause, Formula.holds, Formula.clauses_eq_map, Formula.allHold_eq_all]
    exact .node (Formula.hasValue_mem must) (Formula.hasValue_mem filter)
termination_by structural f => f

theorem Formula.hasValue_mem : ∀ fs : List Formula, ∀ f ∈ fs, HasValue f.clause f.holds
  | [], _, hf => by cases hf
  | g :: fs, f, hf => by
    rcases List.mem_cons.1 hf with hfg | hf
    · exact hfg ▸ g.hasValue
    · exact Formula.hasValue_mem fs f hf
termination_by structural fs => fs

end

/-- The constructors of boolean clauses are the connectives. The clause of a formula, however deep,
evaluates without a fault to the value of the formula, on every document. So a negated clause holds where
the clause does not, a conjunction where all of its clauses do, a disjunction where one does, and a
boolean node around clauses where all of them do, whichever of its lists they are in. -/
theorem formula_evaluates (id : String) (source : Json) :
    (∀ f : Formula, outcome id source f.clause = .ok (f.holds source)) ∧
    (∀ f : Formula, Accepts id source (.not f.clause) ↔ ¬ Accepts id source f.clause) ∧
    (∀ fs : List Formula, Accepts id source (.allOf (fs.map Formula.clause)) ↔
      ∀ f ∈ fs, Accepts id source f.clause) ∧
    (∀ fs : List Formula, Accepts id source (.anyOf (fs.map Formula.clause)) ↔
      ∃ f ∈ fs, Accepts id source f.clause) ∧
    ∀ must filter : List Formula, Accepts id source
        { must := must.map Formula.clause, filter := filter.map Formula.clause : BoolExpr }.clause ↔
      (∀ f ∈ must, Accepts id source f.clause) ∧ ∀ f ∈ filter, Accepts id source f.clause := by
  have hdecided : ∀ fs : List Formula, ∀ c ∈ fs.map Formula.clause, Decided c :=
    fun fs => HasValue.decided_map (Formula.hasValue_mem fs)
  refine ⟨fun f => f.hasValue id source, fun f => ?_, fun fs => ?_, fun fs => ?_, fun must filter => ?_⟩
  · rw [accepts_not, f.hasValue.decided.outcome_false_iff]
  · rw [accepts_allOf, List.forall_mem_map]
  · rw [accepts_anyOf (hdecided fs)]
    simp only [List.mem_map, exists_exists_and_eq_and]
  · rw [accepts_clause_iff rfl rfl, List.forall_mem_map, List.forall_mem_map]
    simp

end Index

end TenantSearch
