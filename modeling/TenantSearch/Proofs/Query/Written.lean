/-
Nothing is lost when a boolean expression is written. An empty list and an unset minimum are left out,
and reading takes what is left out for empty and unset, so no two expressions have one written form.
Equal values differ in the sign of a zero at most (`Json.canonical`), and a zero is written as it is.
Two expressions are therefore equal exactly when their written forms are, and so are the expressions
that have them as a clause, however deep inside.
-/
import TenantSearch.Proofs.Index.Clauses
import TenantSearch.Proofs.Index.Integers

namespace TenantSearch

/-! ## Equal values -/

namespace Json

mutual

/-- A value with zero in place of negative zero. -/
def canonical : Json → Json
  | .float x => .float (.ofDyadic x.value)
  | .arr items => .arr (canonicalItems items)
  | .obj fields => .obj (canonicalFields fields)
  | v => v
termination_by structural v => v

def canonicalItems : List Json → List Json
  | [] => []
  | v :: rest => canonical v :: canonicalItems rest
termination_by structural v => v

def canonicalFields : List (String × Json) → List (String × Json)
  | [] => []
  | f :: rest => canonicalField f :: canonicalFields rest
termination_by structural v => v

def canonicalField : String × Json → String × Json
  | (key, v) => (key, canonical v)
termination_by structural v => v

end

theorem canonicalItems_append : ∀ vs ws : List Json,
    canonicalItems (vs ++ ws) = canonicalItems vs ++ canonicalItems ws
  | [], _ => rfl
  | v :: vs, ws => congrArg (canonical v :: ·) (canonicalItems_append vs ws)

theorem canonicalFields_append : ∀ fs gs : List (String × Json),
    canonicalFields (fs ++ gs) = canonicalFields fs ++ canonicalFields gs
  | [], _ => rfl
  | f :: fs, gs => congrArg (canonicalField f :: ·) (canonicalFields_append fs gs)

mutual

/-- Values are equal when they are the same but for the signs of zeros. -/
theorem same_iff : ∀ v w : Json, v.same w = true ↔ v.canonical = w.canonical
  | .null, w => by cases w <;> simp [same, canonical]
  | .bool b, w => by cases w <;> simp [same, canonical]
  | .int i, w => by
    cases w with
    | int j => simp [same, canonical, Integer.val_inj]
    | _ => simp [same, canonical]
  | .float x, w => by cases w <;> simp [same, canonical]
  | .str s, w => by cases w <;> simp [same, canonical]
  | .arr vs, w => by
    cases w with
    | arr ws => simpa [same, canonical] using sameItems_iff vs ws
    | _ => simp [same, canonical]
  | .obj fs, w => by
    cases w with
    | obj gs => simpa [same, canonical] using sameFields_iff fs gs
    | _ => simp [same, canonical]

theorem sameItems_iff : ∀ vs ws : List Json,
    sameItems vs ws = true ↔ canonicalItems vs = canonicalItems ws
  | [], [] => by simp [sameItems]
  | [], _ :: _ => by simp [sameItems, canonicalItems]
  | _ :: _, [] => by simp [sameItems, canonicalItems]
  | v :: vs, w :: ws => by
    simp [sameItems, canonicalItems, same_iff v w, sameItems_iff vs ws]

theorem sameFields_iff : ∀ fs gs : List (String × Json),
    sameFields fs gs = true ↔ canonicalFields fs = canonicalFields gs
  | [], [] => by simp [sameFields]
  | [], _ :: _ => by simp [sameFields, canonicalFields]
  | _ :: _, [] => by simp [sameFields, canonicalFields]
  | f :: fs, (key, w) :: gs => by
    simp [sameFields, canonicalFields, canonicalField, sameField_iff f key w, sameFields_iff fs gs]

theorem sameField_iff : ∀ (f : String × Json) (key : String) (w : Json),
    sameField f key w = true ↔ canonicalField f = (key, w.canonical)
  | (key', v), key, w => by simp [sameField, canonicalField, same_iff v w]

end

end Json

namespace BoolExpr

/-! ## Reading -/

/-- The clauses under a key; none where there is no list. -/
def clausesUnder (key : String) (fields : List (String × Json)) : List Clause :=
  ((fields.lookup key).bind Json.asArray?).getD []

/-- The expression of a written form. -/
def ofFields (fields : List (String × Json)) : BoolExpr where
  must := clausesUnder "must" fields
  mustNot := clausesUnder "must_not" fields
  should := clausesUnder "should" fields
  filter := clausesUnder "filter" fields
  minimumShouldMatch := (Index.minimumOf (.obj fields)).map UInt64.toUInt32

variable {key k : String} {cs : List Clause} {rest : List (String × Json)}

theorem clausesUnder_cons (v : Json) :
    clausesUnder key ((k, v) :: rest) = if key = k then v.asArray?.getD [] else clausesUnder key rest := by
  unfold clausesUnder
  rw [List.lookup_cons]
  by_cases h : key = k
  · simp [h]
  · rw [beq_eq_false_iff_ne.2 h, if_neg h]

/-- The clauses of a member, as long as no later member has its key. -/
theorem clausesUnder_append (h : key = k → clausesUnder key rest = []) :
    clausesUnder key (listMember k cs ++ rest) = if key = k then cs else clausesUnder key rest := by
  cases cs with
  | nil =>
    split
    · rename_i hk
      exact h hk
    · rfl
  | cons c cs => exact clausesUnder_cons (.arr (c :: cs))

theorem clausesUnder_listMember : clausesUnder key (listMember k cs) = if key = k then cs else [] := by
  have h := @clausesUnder_append key k cs [] fun _ => rfl
  rwa [List.append_nil] at h

/-- What is written is read back. -/
theorem ofFields_toFields (e : BoolExpr) : ofFields e.toFields = e := by
  have hminimum := Index.minimumOf_toJson e
  unfold toJson at hminimum
  unfold ofFields
  rw [hminimum]
  obtain ⟨must, mustNot, should, filter, minimum⟩ := e
  -- under the key of a list that is left out lies nothing, since the keys behind it are others
  cases minimum <;>
    simp [toFields, List.append_assoc, clausesUnder_append, clausesUnder_cons, clausesUnder_listMember,
      Json.ofUInt32]

theorem toFields_injective : Function.Injective toFields :=
  Function.LeftInverse.injective ofFields_toFields

theorem toJson_inj {a b : BoolExpr} : a.toJson = b.toJson ↔ a = b := by
  unfold toJson
  rw [Json.obj.injEq]
  exact toFields_injective.eq_iff

theorem clause_inj {a b : BoolExpr} : a.clause = b.clause ↔ a = b := by
  unfold clause
  simp [toJson_inj]

/-- Only the empty expression has no keys. -/
theorem toFields_eq_nil {e : BoolExpr} : e.toFields = [] ↔ e.isEmpty = true := by
  have hempty : e.isEmpty = true ↔ e = empty := by
    obtain ⟨must, mustNot, should, filter, minimum⟩ := e
    simp [isEmpty, empty, and_assoc]
  rw [hempty]
  exact toFields_injective.eq_iff' rfl

/-! ## Equal expressions -/

/-- An expression with zero in place of negative zero in its clauses. -/
def canonical (e : BoolExpr) : BoolExpr where
  must := Json.canonicalItems e.must
  mustNot := Json.canonicalItems e.mustNot
  should := Json.canonicalItems e.should
  filter := Json.canonicalItems e.filter
  minimumShouldMatch := e.minimumShouldMatch

theorem same_iff {a b : BoolExpr} : a.same b = true ↔ a.canonical = b.canonical := by
  simp [same, canonical, Json.sameItems_iff, and_assoc]

theorem canonicalFields_listMember (key : String) (cs : List Clause) :
    Json.canonicalFields (listMember key cs) = listMember key (Json.canonicalItems cs) := by
  cases cs <;> rfl

/-- Writing keeps the signs of zeros, so they can be dropped before or after it. -/
theorem toJson_canonical (e : BoolExpr) : e.canonical.toJson = e.toJson.canonical := by
  obtain ⟨must, mustNot, should, filter, minimum⟩ := e
  unfold toJson toFields canonical Json.canonical
  cases minimum <;>
    simp [Json.canonicalFields_append, canonicalFields_listMember, Json.canonicalFields,
      Json.canonicalField, Json.canonical, Json.ofUInt32]

theorem clause_canonical (e : BoolExpr) : e.canonical.clause = e.clause.canonical := by
  unfold clause
  rw [toJson_canonical]
  rfl

theorem same_toJson (a b : BoolExpr) : a.toJson.same b.toJson = a.same b := by
  rw [Bool.eq_iff_iff, Json.same_iff, same_iff, ← toJson_canonical, ← toJson_canonical, toJson_inj]

theorem same_clause (a b : BoolExpr) : a.clause.same b.clause = a.same b := by
  rw [Bool.eq_iff_iff, Json.same_iff, same_iff, ← clause_canonical, ← clause_canonical, clause_inj]

/-! ## Nested expressions -/

/-- The lists of an expression. -/
inductive Part where
  | must
  | mustNot
  | should
  | filter

/-- Changes one of the lists. -/
def Part.modify (f : List Clause → List Clause) (e : BoolExpr) : Part → BoolExpr
  | .must => { e with must := f e.must }
  | .mustNot => { e with mustNot := f e.mustNot }
  | .should => { e with should := f e.should }
  | .filter => { e with filter := f e.filter }

/-- An expression without one of its clauses: the list that the clause belongs to, what stands in front
of it there, and the rest, of which that list stands behind. -/
structure Frame where
  part : Part
  front : List Clause
  rest : BoolExpr

namespace Frame

/-- Puts an expression in the place of the clause. -/
def fill (frame : Frame) (e : BoolExpr) : BoolExpr :=
  frame.part.modify (fun behind => frame.front ++ e.clause :: behind) frame.rest

def canonical (frame : Frame) : Frame :=
  ⟨frame.part, Json.canonicalItems frame.front, frame.rest.canonical⟩

theorem fill_canonical (frame : Frame) (e : BoolExpr) :
    (frame.fill e).canonical = frame.canonical.fill e.canonical := by
  have hlist : ∀ behind : List Clause, Json.canonicalItems (frame.front ++ e.clause :: behind) =
      Json.canonicalItems frame.front ++ e.canonical.clause :: Json.canonicalItems behind := by
    intro behind
    rw [Json.canonicalItems_append, clause_canonical]
    rfl
  obtain ⟨part, front, rest⟩ := frame
  cases part <;> simp [fill, canonical, Part.modify, BoolExpr.canonical, hlist]

theorem fill_inj {frame : Frame} {a b : BoolExpr} : frame.fill a = frame.fill b ↔ a = b := by
  obtain ⟨part, front, rest⟩ := frame
  cases part <;> simp [fill, Part.modify, clause_inj]

theorem same_fill (frame : Frame) (a b : BoolExpr) : (frame.fill a).same (frame.fill b) = a.same b := by
  rw [Bool.eq_iff_iff, same_iff, same_iff, fill_canonical, fill_canonical, fill_inj]

end Frame

/-- An expression inside of others, the innermost frame last. -/
def nest (frames : List Frame) (e : BoolExpr) : BoolExpr := frames.foldr Frame.fill e

theorem nest_inj {a b : BoolExpr} : ∀ {frames : List Frame}, nest frames a = nest frames b ↔ a = b
  | [] => Iff.rfl
  | _ :: _ => Frame.fill_inj.trans nest_inj

theorem same_nest (a b : BoolExpr) : ∀ frames : List Frame,
    (nest frames a).same (nest frames b) = a.same b
  | [] => rfl
  | frame :: frames => (frame.same_fill _ _).trans (same_nest a b frames)

/-- Writing keeps expressions apart. Written forms and clauses are equal exactly when the expressions
are, whether zeros are told apart by their sign or not, and equality is decided in the same way for the
expressions that have them as a clause at any depth. A written form has no keys exactly when the
expression is empty. -/
theorem written_exact :
    (∀ a b : BoolExpr, a.toJson.same b.toJson = a.same b ∧ a.clause.same b.clause = a.same b ∧
      (a.toJson = b.toJson ↔ a = b) ∧ (a.clause = b.clause ↔ a = b)) ∧
    (∀ (frames : List Frame) (a b : BoolExpr),
      (nest frames a).same (nest frames b) = a.same b ∧
      (nest frames a).toJson.same (nest frames b).toJson = a.same b ∧
      (nest frames a).clause.same (nest frames b).clause = a.same b ∧
      ((nest frames a).toJson = (nest frames b).toJson ↔ a = b)) ∧
    ∀ e : BoolExpr, e.toJson.asObject? = some [] ↔ e.isEmpty = true := by
  refine ⟨fun a b => ⟨same_toJson a b, same_clause a b, toJson_inj, clause_inj⟩,
    fun frames a b => ?_, fun e => ?_⟩
  · rw [same_toJson, same_clause, toJson_inj, same_nest]
    exact ⟨rfl, rfl, rfl, nest_inj⟩
  · show some e.toFields = some [] ↔ _
    rw [Option.some.injEq, toFields_eq_nil]

end BoolExpr

end TenantSearch
