/-
Who may read what. A search finds a document only when it lies in the scope of the search, when
its visibility or a membership of the user opens it, and when it is neither confidential nor hidden
to the user. A scope that is not given is a fault of the request and never a wider search.
-/
import TenantSearch.Compile.Facets
import TenantSearch.Compile.FullText

namespace TenantSearch.Access

/-! ## Paths of groups -/

/-- A path as it is indexed: every id with a dash behind it. -/
def traversalPath (path : Path) : String :=
  String.join (path.map fun id => toString id.toNat ++ "-")

/-- Documents of a group and of the groups below it. -/
def pathClause (path : Path) : Clause := .startsWith "traversal_ids" (traversalPath path)

/-- The order of paths: id by id, a path after those it begins with. -/
def pathAtMost : Path → Path → Bool
  | [], _ => true
  | _ :: _, [] => false
  | a :: as, b :: bs => a.toNat < b.toNat || (a == b && pathAtMost as bs)

/-- Adds a path unless a path kept already covers it. -/
def keepUncovered (kept : List Path) (path : Path) : List Path :=
  if kept.any (fun above => above.isPrefixOf path) then kept else kept ++ [path]

/-- The paths, in order, that no other path of the list begins. -/
def minimalPaths (paths : List Path) : List Path :=
  (FullText.dropRepeats (paths.mergeSort pathAtMost)).foldl keepUncovered []

/-- The paths of private groups, and those of the other groups outside of them, for memberships
with at least the given role. A membership without a path counts nowhere. -/
def splitPaths (groups : List GroupMembership) (minimum : AccessLevel) :
    List Path × List Path :=
  let mine := groups.filter fun g => g.accessLevel.atLeast minimum && !g.traversalIds.isEmpty
  let closed := minimalPaths ((mine.filter fun g => g.visibility = .priv).map (·.traversalIds))
  let free := ((mine.filter fun g => g.visibility ≠ .priv).map (·.traversalIds)).filter
    fun path => !closed.any fun above => above.isPrefixOf path
  (closed, minimalPaths free)

/-! ## Scope -/

/-- Whether a user who may not read across projects searches more than projects. Who searches
anonymously finds public documents only, and may. -/
def crossProjectDenied (o : SearchOptions) : Except ArgumentError Bool := do
  match ← o.searchLevel? with
  | .project => .ok false
  | _ => .ok (o.currentUser.any fun u => !u.canReadCrossProject)

/-- The path recorded for a group. -/
def groupPath (o : SearchOptions) (group : Id) : Except ArgumentError Path :=
  match o.groupPaths.lookup group with
  | none => .error (.pathMissing group)
  | some [] => .error (.pathEmpty group)
  | some path => .ok path

/-- Restricts a search to the projects or groups it names. -/
def bySearchLevel (d : QueryDocument) (o : SearchOptions) (t : DocType) :
    Except ArgumentError QueryDocument := do
  match ← o.searchLevel? with
  | .global => .ok d
  | .project =>
    if t.scope = .group then .error (.notAtProjectLevel t)
    else if o.projectIds.isEmpty then .error .noProjects
    else .ok (d.filter (.terms "project_id" (o.projectIds.map Json.ofUInt64)))
  | .group =>
    if o.groupIds.isEmpty then .error .noGroups
    else do
      let paths ← o.groupIds.mapM (groupPath o)
      .ok (d.filter (.anyOfFlat (paths.map pathClause)))

/-! ## Membership -/

/-- The visibilities that open a document to everybody like the user. -/
def visibleLevels : Option CurrentUser → List Visibility
  | some u => if u.external then [.pub] else [.pub, .internal]
  | none => [.pub]

/-- The projects in which a user has at least a role, in order and each once. -/
def memberProjects (u : CurrentUser) (minimum : AccessLevel) : List Id :=
  let ids := (u.projects.filter fun p => p.accessLevel.atLeast minimum).map (·.projectId)
  FullText.dropRepeats (ids.mergeSort fun a b => a.toNat ≤ b.toNat)

/-- The projects, or for documents of groups the groups, that a user belongs to by role. -/
def memberIds (u : CurrentUser) (t : DocType) (minimum : AccessLevel) : List Id :=
  if t.scope = .group then
    (u.groups.filter fun g => g.accessLevel.atLeast minimum).map (·.groupId)
  else memberProjects u minimum

def visibilityTerms (t : DocType) (levels : List Visibility) : Clause :=
  .terms t.visibilityField (levels.map fun l => .ofUInt64 l.stored)

/-- What a feature must be set to for members to use it. -/
def memberGate (f : Feature) : Clause :=
  .terms f.accessField [.ofUInt64 FeatureAccess.enabled.stored, .ofUInt64 FeatureAccess.priv.stored]

/-- Documents whose visibility is open, with the feature open to everybody. -/
def visibleClause (u : Option CurrentUser) (t : DocType) (feature : Option Feature) : Clause :=
  let visibility := visibilityTerms t (visibleLevels u)
  match feature with
  | some f =>
    .allOf [visibility, .term f.accessField (.ofUInt64 FeatureAccess.enabled.stored)]
  | none => visibility

/-- The clauses that memberships of a user add. -/
def memberClauses (u : CurrentUser) (t : DocType) (feature : Option Feature) : List Clause :=
  let minimum := (feature.map Feature.minimumRole).getD .guest
  let gate := feature.map memberGate
  let direct := memberIds u t minimum
  let (closed, free) := splitPaths u.groups minimum
  let hidden := Visibility.all.filter fun l => !(visibleLevels (some u)).contains l
  (if direct.isEmpty then []
    else [Clause.gated (.terms t.membershipField (direct.map Json.ofUInt64)) gate]) ++
  (if closed.isEmpty then []
    else [Clause.gated (.anyOfFlat (closed.map pathClause)) gate]) ++
  (if free.isEmpty then []
    else [Clause.allOf [.anyOfFlat (free.map pathClause),
      gate.getD (visibilityTerms t hidden)]])

/-- What opens a document for one feature, or without one. -/
def membershipClause (u : Option CurrentUser) (t : DocType) (feature : Option Feature) : Clause :=
  .anyOf (visibleClause u t feature ::
    match u with
    | some u => memberClauses u t feature
    | none => [])

/-- The features of a request, or the case of none. -/
def featureChoices (o : SearchOptions) : List (Option Feature) :=
  if o.features.isEmpty then [none] else o.features.map some

/-- Restricts results to documents that visibility or a membership opens for one of the features.
An administrator reads all. -/
def byMembership (d : QueryDocument) (o : SearchOptions) (t : DocType) : QueryDocument :=
  if o.isAdmin then d
  else d.filter (.anyOfFlat ((featureChoices o).map (membershipClause o.currentUser t)))

/-! ## Confidential and hidden documents -/

/-- The clauses of those who read a confidential document: its author, its assignees, and who is
at least a reporter of its project or of a group above it. -/
def readerClauses (u : CurrentUser) (t : DocType) : List Clause :=
  let projects := if t.scope = .project then memberProjects u .reporter else []
  let paths := (u.groups.filter fun g => g.accessLevel.atLeast .reporter).map (·.traversalIds)
  [.term "author_id" (.ofUInt64 u.id), .term "assignee_id" (.ofUInt64 u.id)] ++
  (if projects.isEmpty then [] else [.terms "project_id" (projects.map Json.ofUInt64)]) ++
  (minimalPaths paths).map pathClause

def byConfidentiality (d : QueryDocument) (o : SearchOptions) (t : DocType) : QueryDocument :=
  if !t.hasConfidentiality then d
  else match o.currentUser with
    | none => d.filter (.term "confidential" (.bool false))
    | some u =>
      if u.canReadAllResources || u.canReadAllConfidential then d
      else d.filter (.anyOf [.term "confidential" (.bool false),
        .allOf [.term "confidential" (.bool true), .anyOf (readerClauses u t)]])

def byNotHidden (d : QueryDocument) (o : SearchOptions) (t : DocType) : QueryDocument :=
  if !t.hasHidden || o.isAdmin then d else d.mustNot (.term "hidden" (.bool true))

/-! ## All rules -/

/-- Adds every rule for a type of documents. Unscoped types have none. -/
def apply (d : QueryDocument) (o : SearchOptions) (t : DocType) :
    Except ArgumentError QueryDocument := do
  if !t.isScoped then .ok d
  else if ← crossProjectDenied o then .ok (d.filter .matchNone)
  else do
    let level ← o.searchLevel?
    let d ← bySearchLevel d o t
    let d := byMembership d o t
    let d := if level ≠ .project && t.hasArchived then Facets.byArchived d o else d
    .ok (byNotHidden (byConfidentiality d o t) o t)

end TenantSearch.Access
