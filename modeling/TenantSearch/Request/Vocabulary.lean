/-
The words of a search request: the level it runs at, the roles and visibilities that decide who
reads what, the types of documents and what is indexed for each. Every word has one written name,
and the numbers are those stored in the index.
-/
import TenantSearch.Decode.Basic
import TenantSearch.Text.Blank

namespace TenantSearch

/-! ## Levels -/

/-- How much of the tenant hierarchy a search covers. -/
inductive SearchLevel where
  | global
  | group
  | project
deriving DecidableEq

def SearchLevel.name : SearchLevel → String
  | .global => "global"
  | .group => "group"
  | .project => "project"

def SearchLevel.ofName (s : String) : Except Unsupported SearchLevel :=
  if s = "global" then .ok .global
  else if s = "group" then .ok .group
  else if s = "project" then .ok .project
  else .error (.searchLevel s)

/-- Roles of a member, from the least to the most privileged. -/
inductive AccessLevel where
  | guest
  | reporter
  | developer
  | maintainer
  | owner
deriving DecidableEq

namespace AccessLevel

def names : List (String × AccessLevel) :=
  [("guest", .guest), ("reporter", .reporter), ("developer", .developer),
    ("maintainer", .maintainer), ("owner", .owner)]

def rank : AccessLevel → Nat
  | .guest => 0
  | .reporter => 1
  | .developer => 2
  | .maintainer => 3
  | .owner => 4

/-- Whether a role has at least the rights of another. -/
def atLeast (role minimum : AccessLevel) : Bool := minimum.rank ≤ role.rank

end AccessLevel

/-- Who may see a project or a namespace. -/
inductive Visibility where
  | priv
  | internal
  | pub
deriving DecidableEq

namespace Visibility

def names : List (String × Visibility) :=
  [("private", .priv), ("internal", .internal), ("public", .pub)]

def all : List Visibility := [.priv, .internal, .pub]

/-- The number stored in the index. -/
def stored : Visibility → UInt64
  | .priv => 0
  | .internal => 10
  | .pub => 20

end Visibility

/-- Who may use a feature of a project or a namespace. -/
inductive FeatureAccess where
  | disabled
  | priv
  | enabled
  | pub
deriving DecidableEq

/-- The number stored in the index. -/
def FeatureAccess.stored : FeatureAccess → UInt64
  | .disabled => 0
  | .priv => 10
  | .enabled => 20
  | .pub => 30

inductive Feature where
  | issues
  | mergeRequests
  | repository
  | wiki
  | snippets
deriving DecidableEq

namespace Feature

def names : List (String × Feature) :=
  [("issues", .issues), ("merge_requests", .mergeRequests), ("repository", .repository),
    ("wiki", .wiki), ("snippets", .snippets)]

/-- The indexed field that holds who may use the feature. -/
def accessField : Feature → String
  | .issues => "issues_access_level"
  | .mergeRequests => "merge_requests_access_level"
  | .repository => "repository_access_level"
  | .wiki => "wiki_access_level"
  | .snippets => "snippets_access_level"

/-- The least role that reads the feature where only members may. -/
def minimumRole : Feature → AccessLevel
  | .issues | .wiki | .snippets => .guest
  | .mergeRequests | .repository => .reporter

end Feature

/-! ## Documents -/

/-- Where documents of a type live in the tenant hierarchy. -/
inductive Scope where
  | project
  | group
  | unscoped
deriving DecidableEq

def Scope.name : Scope → String
  | .project => "project"
  | .group => "namespace"
  | .unscoped => "unscoped"

inductive DocType where
  | issue
  | workItem
  | mergeRequest
  | note
  | milestone
  | epic
  | project
  | blob
  | wikiBlob
  | commit
  | user
deriving DecidableEq

namespace DocType

def names : List (String × DocType) :=
  [("issue", .issue), ("work_item", .workItem), ("merge_request", .mergeRequest), ("note", .note),
    ("milestone", .milestone), ("epic", .epic), ("project", .project), ("blob", .blob),
    ("wiki_blob", .wikiBlob), ("commit", .commit), ("user", .user)]

def name : DocType → String
  | .issue => "issue"
  | .workItem => "work_item"
  | .mergeRequest => "merge_request"
  | .note => "note"
  | .milestone => "milestone"
  | .epic => "epic"
  | .project => "project"
  | .blob => "blob"
  | .wikiBlob => "wiki_blob"
  | .commit => "commit"
  | .user => "user"

def scope : DocType → Scope
  | .epic => .group
  | .user => .unscoped
  | _ => .project

def isScoped (t : DocType) : Bool := t.scope != .unscoped

def visibilityField (t : DocType) : String :=
  if t.scope = .group then "namespace_visibility_level" else "visibility_level"

/-- The field with the project, or the group, that a member must belong to. -/
def membershipField (t : DocType) : String :=
  if t.scope = .group then "namespace_id" else "project_id"

/-- The fields that free text is looked for in, with their boosts. -/
def textFields : DocType → List String
  | .issue | .workItem | .epic => ["iid^3", "title^2", "description"]
  | .mergeRequest => ["iid^3", "title^2", "description", "source_branch", "target_branch"]
  | .note => ["note"]
  | .milestone => ["title^2", "description"]
  | .project =>
    ["name^10", "path^9", "name_with_namespace^2", "path_with_namespace", "description"]
  | .blob | .wikiBlob => ["file_name^2", "path", "content"]
  | .commit => ["sha^2", "message"]
  | .user => ["username^2", "name", "public_email"]

def hasArchived (t : DocType) : Bool := t.scope = .project

def hasConfidentiality : DocType → Bool
  | .issue | .workItem | .epic => true
  | _ => false

def hasHidden : DocType → Bool
  | .issue | .workItem | .mergeRequest => true
  | _ => false

def supportsHybrid : DocType → Bool
  | .issue | .workItem | .mergeRequest => true
  | _ => false

/-- The sign before a number that refers to one document. -/
def referenceSign? : DocType → Option Char
  | .issue | .workItem => some '#'
  | .mergeRequest => some '!'
  | .epic => some '&'
  | _ => none

end DocType

/-! ## Facets and vectors -/

/-- The kind of cluster, which decides the shape of a vector query. -/
inductive VectorBackend where
  | elasticsearch
  | opensearch
deriving DecidableEq

namespace VectorBackend

def name : VectorBackend → String
  | .elasticsearch => "elasticsearch"
  | .opensearch => "opensearch"

/-- Blanks around the name and the case of its letters do not matter. -/
def ofName (s : String) : Except Unsupported VectorBackend :=
  let s := Text.lowerAscii (Text.trim s)
  if s = "elasticsearch" then .ok .elasticsearch
  else if s = "opensearch" then .ok .opensearch
  else .error (.vectorBackend s)

end VectorBackend

/-- Whether a facet has to be absent or present, whatever its value. -/
inductive Wildcard where
  | absent
  | any
deriving DecidableEq

def Wildcard.names : List (String × Wildcard) := [("none", .absent), ("any", .any)]

inductive HealthStatus where
  | onTrack
  | needsAttention
  | atRisk
deriving DecidableEq

namespace HealthStatus

def names : List (String × HealthStatus) :=
  [("on_track", .onTrack), ("needs_attention", .needsAttention), ("at_risk", .atRisk)]

/-- The number stored in the index. -/
def stored : HealthStatus → UInt64
  | .onTrack => 1
  | .needsAttention => 2
  | .atRisk => 3

end HealthStatus

inductive IssuableState where
  | opened
  | closed
  | merged
  | locked
  | all
deriving DecidableEq

namespace IssuableState

def names : List (String × IssuableState) :=
  [("opened", .opened), ("closed", .closed), ("merged", .merged), ("locked", .locked),
    ("all", .all)]

def name : IssuableState → String
  | .opened => "opened"
  | .closed => "closed"
  | .merged => "merged"
  | .locked => "locked"
  | .all => "all"

end IssuableState

end TenantSearch
