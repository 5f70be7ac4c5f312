/-
Orders that users name. A key and a direction come as two settings or as one word with an
underscore between them; a key stands for an indexed field, and only for the types that index it.
Whatever does not name an order leaves the order to relevance.
-/
import TenantSearch.Query.Document
import TenantSearch.Request.Vocabulary

namespace TenantSearch.Sorting

/-- The names of a key, the field it stands for and the types that index it. -/
structure SortKey where
  names : List String
  field : String
  docTypes : List DocType

def timestamped : List DocType :=
  [.issue, .workItem, .mergeRequest, .note, .milestone, .epic, .project, .user]

def keys : List SortKey :=
  [⟨["created", "created_at"], "created_at", timestamped⟩,
    ⟨["updated", "updated_at"], "updated_at", timestamped⟩,
    ⟨["popularity", "upvotes"], "upvotes", [.issue, .workItem, .mergeRequest, .epic]⟩,
    ⟨["milestone_due"], "milestone_due_date", [.issue, .workItem, .mergeRequest]⟩,
    ⟨["due_date"], "due_date", [.issue, .workItem, .epic, .milestone]⟩,
    ⟨["closed", "closed_at"], "closed_at", [.issue, .workItem, .mergeRequest]⟩]

/-- The text before and after the last underscore. -/
def splitAtLastUnderscore (s : String) : Option (String × String) :=
  let back := s.toList.reverse
  match back.dropWhile (· ≠ '_') with
  | [] => none
  | _ :: front =>
    some (String.ofList front.reverse, String.ofList (back.takeWhile (· ≠ '_')).reverse)

/-- The key and the direction that the settings name; a key on its own is descending. -/
def split? (orderBy sort : Option String) : Option (String × SortOrder) :=
  match orderBy.bind Text.trimmed?, sort.bind Text.trimmed? with
  | some key, none => some (Text.lowerAscii key, .desc)
  | some key, some direction => do
    let order ← SortOrder.ofName? direction
    some (Text.lowerAscii key, order)
  | none, none => none
  | none, some combined => do
    let (key, direction) ← splitAtLastUnderscore (Text.lowerAscii combined)
    let order ← SortOrder.ofName? direction
    some (key, order)

/-- The order for a type of documents; `none` leaves it to relevance. -/
def resolve? (orderBy sort : Option String) (t : DocType) : Option SortClause := do
  let (name, order) ← split? orderBy sort
  let key ← keys.find? fun k => k.names.contains name
  if key.docTypes.contains t then some ⟨key.field, order, none⟩ else none

end TenantSearch.Sorting
