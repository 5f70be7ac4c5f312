/-
Values of indexed documents. A field counts as present when it has a value that is neither null
nor an empty list; a list holds several values. Numbers compare as doubles, texts by code point,
false before true, and values of different kinds not at all.
-/
import TenantSearch.Json.Basic

namespace TenantSearch.Index

/-- The value of a present field. -/
def fieldValue (source : Json) (field : String) : Option Json :=
  match source.get? field with
  | none => none
  | some .null => none
  | some (.arr []) => none
  | some v => some v

/-- The values of a field. -/
def fieldValues (source : Json) (field : String) : List Json :=
  match fieldValue source field with
  | some (.arr items) => items
  | some v => [v]
  | none => []

def valuesEqual (a b : Json) : Bool :=
  match a.asDouble?, b.asDouble? with
  | some x, some y => x.cmp y == .eq
  | _, _ => a.same b

/-- The order of texts by code point. -/
def compareChars : List Char → List Char → Ordering
  | [], [] => .eq
  | [], _ :: _ => .lt
  | _ :: _, [] => .gt
  | a :: as, b :: bs =>
    if a.toNat < b.toNat then .lt else if b.toNat < a.toNat then .gt else compareChars as bs

def compareBools : Bool → Bool → Ordering
  | false, true => .lt
  | true, false => .gt
  | _, _ => .eq

/-- The order of two values; values that do not compare are equal. -/
def compareValues (a b : Json) : Ordering :=
  match a.asDouble?, b.asDouble? with
  | some x, some y => x.cmp y
  | _, _ =>
    match a, b with
    | .str x, .str y => compareChars x.toList y.toList
    | .bool x, .bool y => compareBools x y
    | _, _ => .eq

end TenantSearch.Index
