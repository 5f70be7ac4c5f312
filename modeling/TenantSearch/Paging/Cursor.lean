/-
Positions in an order, and the tokens that stand for them. A position is the value of the sorted
field, absent for a record that has none, and the value of the field that breaks ties; its token is
the compact text of the two in a list, in the sixty-four symbols that are safe in addresses.
-/
import TenantSearch.Json.Reader
import TenantSearch.Json.Writer
import TenantSearch.Paging.Base64
import TenantSearch.Text.Blank

namespace TenantSearch

/-- The position of a record in an order. -/
structure Cursor where
  /-- Absent for a record without a value in the sorted field. -/
  sortValue : Option Json
  tieBreaker : Json

/-- Why a token stands for no position. -/
inductive CursorError where
  | empty
  | tooLong (length : Nat)
  | base64 (cause : Base64.DecodeError)
  | json (cause : Json.ReadError)
  | shape
deriving DecidableEq

namespace Cursor

/-- Tokens come from outside, so their length is bounded. -/
def maxTokenLength : Nat := 4096

end Cursor

def CursorError.detail : CursorError → String
  | .empty => "cursor token is empty"
  | .tooLong n =>
    "cursor token exceeds max length: " ++ toString n ++ " chars (max " ++
      toString Cursor.maxTokenLength ++ ")"
  | .base64 cause => "cursor token is not valid base64: " ++ cause.message
  | .json cause => "cursor token is not valid JSON: " ++ cause.message
  | .shape => "cursor token must be a [sort_value, tie_breaker] pair"

def CursorError.message (e : CursorError) : String := "Invalid cursor: " ++ e.detail

namespace Cursor

/-! ## Tokens -/

/-- A value unless it is null. -/
def nonNull? : Json → Option Json
  | .null => none
  | v => some v

def pairJson (c : Cursor) : Json := .arr [c.sortValue.getD .null, c.tieBreaker]

/-- The token as octets, all of them ASCII. -/
def tokenOctets (c : Cursor) : Octets := Base64.encode (Octets.ofString c.pairJson.text)

/-- The token of a position. -/
def encode (c : Cursor) : String :=
  String.ofList (c.tokenOctets.map fun b => Char.ofNat b.toNat)

/-- The position in a list of two. -/
def ofPair : Json → Except CursorError Cursor
  | .arr [_, .null] => .error .shape
  | .arr [sortValue, tieBreaker] => .ok ⟨nonNull? sortValue, tieBreaker⟩
  | _ => .error .shape

/-- The position that a token stands for. -/
def decode (token : String) : Except CursorError Cursor := do
  let s := Octets.ofString (Text.trim token)
  if s.isEmpty then .error .empty
  else if maxTokenLength < s.length then .error (.tooLong s.length)
  else do
    let octets ← (Base64.decode s).mapError .base64
    let v ← (Json.ofOctets octets).mapError .json
    ofPair v

/-! ## Hits -/

/-- The greatest and the least integer of 64 bits stand for a missing value. -/
def sentinelToNone (v : Json) : Option Json :=
  match v.asInt64? with
  | some i => if i = Int64.maxValue ∨ i = Int64.minValue then none else some v
  | none => nonNull? v

/-- The position of a hit with the given sort values. A single value is that of the tie-breaker. -/
def ofSortValues : List Json → Option Cursor
  | [] => none
  | [tie] => some ⟨some tie, tie⟩
  | sort :: tie :: _ => some ⟨sentinelToNone sort, tie⟩

end Cursor

end TenantSearch
