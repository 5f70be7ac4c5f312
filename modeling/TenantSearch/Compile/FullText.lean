/-
Free text. A reference to a document by its sign and number is looked up by number; text with
operators goes to the query-string syntax; other text is matched in several ways at once, any term,
all terms or the phrase, unless that is switched off.
-/
import TenantSearch.Query.Document
import TenantSearch.Request.Options

namespace TenantSearch.FullText

/-- The operators of the query-string syntax. -/
def operators : List Char := ['+', '*', '"', '-', '|', '(', ')', '~', '\\']

def isAdvancedSyntax (query : String) : Bool :=
  query.toList.any fun c => operators.contains c

/-- The value of ASCII digits, at least one, when it fits 64 bits. -/
def digitsValue? (cs : List Char) : Option UInt64 :=
  if cs.isEmpty || !cs.all Text.isAsciiDigit then none
  else
    let n := cs.foldl (fun acc c => acc * 10 + (c.toNat - 48)) 0
    if n < 0x10000000000000000 then some n.toUInt64 else none

/-- The number that a query refers to: the sign of the type, then digits. -/
def reference? (query : String) (t : DocType) : Option UInt64 :=
  match t.referenceSign?, Text.trimChars query.toList with
  | some sign, c :: digits => if c = sign then digitsValue? digits else none
  | _, _ => none

/-- The fields to look in, with their boosts. -/
def textFields (o : SearchOptions) (t : DocType) : List String :=
  if o.fields.isEmpty then t.textFields else o.fields

/-- The clause for text that is neither blank nor a reference. -/
def textClause (query : String) (fields : List String) (multiMatch : Bool) : Clause :=
  if isAdvancedSyntax query || !multiMatch then Clause.simpleQuery query fields
  else Clause.anyOf [Clause.multiMatch query fields "or", Clause.multiMatch query fields "and",
    Clause.phrase query fields]

/-- Adds the scored clause. A blank query matches all and keeps scores. -/
def byFullText (d : QueryDocument) (o : SearchOptions) (t : DocType) (multiMatch : Bool) :
    QueryDocument :=
  let query := Text.trim o.query
  if query = "" then { d with trackScores := true }.must .matchAll
  else match reference? query t with
    | some n => d.must (.term "iid" (.ofUInt64 n))
    | none => d.must (textClause query (textFields o t) multiMatch)

/-- A field without its boost. -/
def fieldName (field : String) : String := String.ofList (field.toList.takeWhile (· ≠ '^'))

/-- A list without the items equal to the one before them. -/
def dropRepeats {α : Type} [DecidableEq α] : List α → List α
  | a :: b :: rest => if a = b then dropRepeats (b :: rest) else a :: dropRepeats (b :: rest)
  | xs => xs

def byHighlight (d : QueryDocument) (o : SearchOptions) (t : DocType) (preTag postTag : String) :
    QueryDocument :=
  if o.highlight then
    let shown : Highlight := ⟨dropRepeats ((textFields o t).map fieldName), 0, [preTag], [postTag]⟩
    { d with highlight := some shown }
  else d

/-- Whether a request qualifies for a vector query, where the deployment has them. -/
def hybridEligible (o : SearchOptions) (t : DocType) (enabled : Bool) (minChars : Nat) : Bool :=
  let query := Text.trimChars o.query.toList
  enabled && o.flags.hybrid && t.supportsHybrid && (reference? o.query t).isNone &&
    decide (minChars ≤ query.length) && o.vectors.backend.isSome &&
    o.vectors.field.any (fun f => f ≠ "") && o.vectors.similarity.isSome

end TenantSearch.FullText
