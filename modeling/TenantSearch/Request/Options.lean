/-
A search request and what makes one valid. The acting user comes with the memberships that decide
what may be found; every list left out is empty and every other setting left out is absent.
-/
import TenantSearch.Request.Vocabulary

namespace TenantSearch

abbrev Id := UInt64

/-- The ids from a root group down to a group. -/
abbrev Path := List Id

/-! ## The acting user -/

structure ProjectMembership where
  projectId : Id
  accessLevel : AccessLevel
deriving DecidableEq

structure GroupMembership where
  groupId : Id
  /-- The path of the group, itself included. -/
  traversalIds : Path
  visibility : Visibility
  accessLevel : AccessLevel
deriving DecidableEq

structure CurrentUser where
  id : Id
  external : Bool := false
  canReadAllResources : Bool := false
  canReadCrossProject : Bool := true
  canReadAllConfidential : Bool := false
  projects : List ProjectMembership := []
  groups : List GroupMembership := []
deriving DecidableEq

/-! ## The request -/

/-- Which part of the results is wanted, by number of a page or by position in the order. -/
structure PageRequest where
  page : Option UInt32 := none
  perPage : Option UInt32 := none
  first : Option UInt32 := none
  last : Option UInt32 := none
  before : Option String := none
  after : Option String := none
deriving DecidableEq

/-- Whether a position in the order is asked for. -/
def PageRequest.usesKeyset (p : PageRequest) : Bool :=
  p.first.isSome || p.last.isSome || p.before.isSome || p.after.isSome

/-- Inclusive bounds of a date. -/
structure Window where
  after : Option Timestamp := none
  before : Option Timestamp := none
deriving DecidableEq

structure Facets where
  authorId : Option Id := none
  notAuthorId : Option Id := none
  assigneeIds : List Id := []
  notAssigneeIds : List Id := []
  orAssigneeIds : List Id := []
  assigneeWildcard : Option Wildcard := none
  labelNames : List String := []
  notLabelNames : List String := []
  orLabelNames : List String := []
  labelWildcard : Option Wildcard := none
  milestoneTitles : List String := []
  notMilestoneTitles : List String := []
  milestoneWildcard : Option Wildcard := none
  weight : Option Int64 := none
  notWeight : Option Int64 := none
  weightWildcard : Option Wildcard := none
  healthStatus : List HealthStatus := []
  notHealthStatus : List HealthStatus := []
  healthStatusWildcard : Option Wildcard := none
  state : Option IssuableState := none
  confidential : Option Bool := none
  created : Window := {}
  updated : Window := {}
  closed : Window := {}
  due : Window := {}
  sourceBranches : List String := []
  notSourceBranches : List String := []
  targetBranches : List String := []
  notTargetBranches : List String := []
  workItemTypeIds : List Id := []
  notWorkItemTypeIds : List Id := []
  languages : List String := []
deriving DecidableEq

/-- What a request tells about the vectors of the index. -/
structure VectorRequest where
  similarity : Option Extended := none
  backend : Option VectorBackend := none
  field : Option String := none
deriving DecidableEq

/-- Ways of searching that a request turns on or off. -/
structure SearchFlags where
  multiMatch : Bool := true
  hybrid : Bool := false
deriving DecidableEq

structure SearchOptions where
  /-- Nobody searches anonymously. -/
  currentUser : Option CurrentUser := none
  searchLevel : Option SearchLevel := none
  projectIds : List Id := []
  groupIds : List Id := []
  /-- The path of every group in `groupIds`, in numeric order of the ids. -/
  groupPaths : List (Id × Path) := []
  features : List Feature := []
  docType : Option DocType := none
  query : String := ""
  orderBy : Option String := none
  sort : Option String := none
  paging : PageRequest := {}
  includeArchived : Bool := false
  /-- Leaves out the condition on the type, to look fields up across types. -/
  skipTypeFilter : Bool := false
  /-- Takes the place of the text fields of the type, when not empty. -/
  fields : List String := []
  sourceFields : List String := []
  highlight : Bool := false
  countOnly : Bool := false
  facets : Facets := {}
  vectors : VectorRequest := {}
  flags : SearchFlags := {}
deriving DecidableEq

/-! ## Faults of a request -/

inductive ArgumentError where
  | badOptions (cause : DecodeError)
  | unsupported (cause : Unsupported)
  | noDocType
  | noSearchLevel
  | firstAndLast
  | beforeAndAfter
  | pageZero
  | similarityNotFinite
  | notAtProjectLevel (docType : DocType)
  | noProjects
  | noGroups
  | pathMissing (group : Id)
  | pathEmpty (group : Id)
  | dateWithoutText (cause : Timestamp.WriteError)
deriving DecidableEq

def ArgumentError.detail : ArgumentError → String
  | .badOptions cause => "Invalid search options: " ++ cause.message ++ "."
  | .unsupported cause => cause.message
  | .noDocType => "doc_type is a required option."
  | .noSearchLevel => "search_level is a required option."
  | .firstAndLast => "first and last cannot be combined in one request."
  | .beforeAndAfter => "before and after cannot be combined in one request."
  | .pageZero => "page must be greater than zero."
  | .similarityNotFinite => "hybrid_similarity must be a finite number."
  | .notAtProjectLevel t => t.name ++ " documents cannot be searched at project level."
  | .noProjects => "project_ids are required for project-level search."
  | .noGroups => "group_ids are required for group-level search."
  | .pathMissing g => "Ancestry path for group " ++ toString g.toNat ++ " is missing."
  | .pathEmpty g => "Ancestry path for group " ++ toString g.toNat ++ " is empty."
  | .dateWithoutText cause => "Date cannot be formatted: " ++ cause.message ++ "."

def ArgumentError.message (e : ArgumentError) : String := "Invalid argument: " ++ e.detail

namespace SearchOptions

def docType? (o : SearchOptions) : Except ArgumentError DocType :=
  match o.docType with
  | some t => .ok t
  | none => .error .noDocType

def searchLevel? (o : SearchOptions) : Except ArgumentError SearchLevel :=
  match o.searchLevel with
  | some l => .ok l
  | none => .error .noSearchLevel

def isAuthenticated (o : SearchOptions) : Bool := o.currentUser.isSome

def isAdmin (o : SearchOptions) : Bool :=
  match o.currentUser with
  | some u => u.canReadAllResources
  | none => false

/-- The first thing wrong with a request, if any. -/
def validate (o : SearchOptions) : Except ArgumentError Unit := do
  let t ← o.docType?
  if t.isScoped && o.searchLevel.isNone then .error .noSearchLevel
  else if o.paging.first.isSome && o.paging.last.isSome then .error .firstAndLast
  else if o.paging.before.isSome && o.paging.after.isSome then .error .beforeAndAfter
  else if o.paging.page = some 0 then .error .pageZero
  else if o.vectors.similarity.any (fun x => !x.isFinite) then .error .similarityNotFinite
  else .ok ()

end SearchOptions

end TenantSearch
