/-
When a document matches a clause. A clause is an object with one key, its kind; boolean clauses
hold lists of clauses. The first fault met ends the evaluation, and so does the first clause that
decides it.
-/
import TenantSearch.Index.Value
import TenantSearch.Json.Writer
import TenantSearch.Text.Alphanumeric
import TenantSearch.Text.Lower

namespace TenantSearch.Index

/-! ## Faults -/

inductive QueryFault where
  | notObject (what : String)
  | notSingle (what : String)
  | termsNotArray (field : String)
  | rangeNotObject (field : String)
  | sortNotArray
  | unsupported (kind : String)
deriving DecidableEq

def QueryFault.message : QueryFault → String
  | .notObject what => what ++ " must be an object."
  | .notSingle what => what ++ " must have exactly one key."
  | .termsNotArray field => "terms." ++ field ++ " must be an array."
  | .rangeNotObject field => "range." ++ field ++ " must be an object."
  | .sortNotArray => "sort must be an array."
  | .unsupported kind => "Unsupported query clause '" ++ kind ++ "'."

abbrev Outcome := Except QueryFault Bool

/-- The one member of an object. -/
def singleEntry (v : Json) (what : String) : Except QueryFault (String × Json) :=
  match v with
  | .obj [entry] => .ok entry
  | .obj _ => .error (.notSingle what)
  | _ => .error (.notObject what)

/-! ## Text -/

def nameOf (field : List Char) : String := String.ofList (field.takeWhile (· ≠ '^'))

/-- The fields that a text clause names, without their boosts. -/
def searchedFields (body : Json) : List String :=
  match body.get? "fields" with
  | some (.arr items) => items.filterMap fun v => v.asString?.map fun s => nameOf s.toList
  | _ => []

def valueChars : Json → List Char
  | .str s => s.toList
  | v => v.chars

/-- The text of some fields in lower case, a blank behind every value. -/
def fieldsText (source : Json) (fields : List String) : List Char :=
  Text.lower (fields.flatMap fun field =>
    (fieldValues source field).flatMap fun v => valueChars v ++ [' '])

/-- The words of a query in lower case. -/
def queryWords (query : List Char) : List (List Char) :=
  ((Text.splitWords query).filter fun w => !w.isEmpty).map Text.lower

/-- Whether all words, or any, are words of the text. No words match nothing. -/
def wordsMatch (words : List (List Char)) (text : List Char) (all : Bool) : Bool :=
  let present := Text.splitWords text
  !words.isEmpty && (if all then words.all present.contains else words.any present.contains)

def hasInfix (part : List Char) : List Char → Bool
  | [] => part.isEmpty
  | c :: rest => part.isPrefixOf (c :: rest) || hasInfix part rest

def textMember (body : Json) (key : String) : List Char :=
  match body.get? key with
  | some (.str s) => s.toList
  | _ => []

def hasText (body : Json) (key text : String) : Bool :=
  match body.get? key with
  | some (.str s) => s == text
  | _ => false

def multiMatchHolds (body source : Json) : Bool :=
  let query := textMember body "query"
  let text := fieldsText source (searchedFields body)
  if hasText body "type" "phrase" then hasInfix (Text.lower query) text
  else wordsMatch (queryWords query) text (hasText body "operator" "and")

/-! ## Conditions on a field -/

def boundHolds (value : Json) (op : String) (bound : Json) : Bool :=
  let c := compareValues value bound
  if op = "gt" then c == .gt
  else if op = "gte" then c != .lt
  else if op = "lt" then c == .lt
  else if op = "lte" then c != .gt
  else false

def startOf (spec : Json) : List Char :=
  match spec.get? "value" with
  | some (.str s) => s.toList
  | _ =>
    match spec with
    | .str s => s.toList
    | _ => []

def startsWithChars (start : List Char) : Json → Bool
  | .str s => start.isPrefixOf s.toList
  | _ => false

/-- A clause that is not boolean. -/
def leaf (kind : String) (body : Json) (id : String) (source : Json) : Outcome :=
  if kind = "match_all" then .ok true
  else if kind = "match_none" then .ok false
  else if kind = "knn" then .ok false
  else if kind = "term" then do
    let (field, expected) ← singleEntry body "term"
    .ok ((fieldValues source field).any fun v => valuesEqual v expected)
  else if kind = "terms" then do
    let (field, expected) ← singleEntry body "terms"
    match expected with
    | .arr candidates =>
      .ok ((fieldValues source field).any fun v => candidates.any fun c => valuesEqual v c)
    | _ => .error (.termsNotArray field)
  else if kind = "prefix" then do
    let (field, spec) ← singleEntry body "prefix"
    .ok ((fieldValues source field).any (startsWithChars (startOf spec)))
  else if kind = "exists" then
    .ok (fieldValue source (String.ofList (textMember body "field"))).isSome
  else if kind = "range" then do
    let (field, bounds) ← singleEntry body "range"
    match fieldValue source field with
    | none => .ok false
    | some v =>
      match bounds with
      | .obj entries => .ok (entries.all fun e => boundHolds v e.1 e.2)
      | _ => .error (.rangeNotObject field)
  else if kind = "ids" then
    match body.get? "values" with
    | some (.arr values) => .ok (values.any fun v => v.asString? == some id)
    | _ => .ok false
  else if kind = "multi_match" then .ok (multiMatchHolds body source)
  else if kind = "simple_query_string" then
    .ok (wordsMatch (queryWords (textMember body "query"))
      (fieldsText source (searchedFields body)) true)
  else .error (.unsupported kind)

/-! ## Boolean clauses -/

/-- Whether all outcomes are `expected`, up to the first that is not. -/
def allAre (expected : Bool) : List Outcome → Outcome
  | [] => .ok true
  | .ok b :: rest => if b == expected then allAre expected rest else .ok false
  | .error e :: _ => .error e

/-- The number of outcomes that are true. -/
def countTrue : List Outcome → Except QueryFault Nat
  | [] => .ok 0
  | .ok b :: rest => (countTrue rest).map fun n => if b then n + 1 else n
  | .error e :: _ => .error e

/-- How many clauses of `should` are required. Without a minimum it is one when nothing else is
asked for. -/
def requiredOf (minimum : Option UInt64) (must filter should : List Outcome) : Nat :=
  match minimum with
  | some n => n.toNat
  | none => if must.isEmpty && filter.isEmpty && !should.isEmpty then 1 else 0

/-- The outcome of a boolean clause from those of its lists. -/
def combine (minimum : Option UInt64) (must filter mustNot should : List Outcome) : Outcome := do
  if !(← allAre true (must ++ filter)) then .ok false
  else if !(← allAre false mustNot) then .ok false
  else
    let required := requiredOf minimum must filter should
    if required = 0 then .ok true
    else do
      let n ← countTrue should
      .ok (required ≤ n)

def minimumOf (body : Json) : Option UInt64 :=
  (body.get? "minimum_should_match").bind Json.asUInt64?

/-- The outcomes under a key. -/
def under (key : String) (lists : List (String × List Outcome)) : List Outcome :=
  (lists.lookup key).getD []

mutual

/-- Whether a document, an id and a source, matches a clause. -/
def outcome (id : String) (source : Json) : Json → Outcome
  | .obj [(kind, body)] =>
    if kind = "bool" then
      let lists := listOutcomes id source body
      combine (minimumOf body) (under "must" lists) (under "filter" lists)
        (under "must_not" lists) (under "should" lists)
    else leaf kind body id source
  | .obj _ => .error (.notSingle "query clause")
  | _ => .error (.notObject "query clause")
termination_by structural c => c

/-- The outcomes of the lists of a boolean clause. -/
def listOutcomes (id : String) (source : Json) : Json → List (String × List Outcome)
  | .obj fields => memberOutcomes id source fields
  | _ => []
termination_by structural c => c

def memberOutcomes (id : String) (source : Json) :
    List (String × Json) → List (String × List Outcome)
  | [] => []
  | (key, .arr items) :: rest => (key, outcomes id source items) :: memberOutcomes id source rest
  | _ :: rest => memberOutcomes id source rest
termination_by structural c => c

def outcomes (id : String) (source : Json) : List Json → List Outcome
  | [] => []
  | c :: rest => outcome id source c :: outcomes id source rest
termination_by structural c => c

end

end TenantSearch.Index
