/-
Requests from JSON. The tables below list the fields of every record in the order in which a list
stands for it.
-/
import TenantSearch.Request.Options

namespace TenantSearch

open Decode

def SearchLevel.decode (v : Json) : Except DecodeError SearchLevel := do
  (SearchLevel.ofName (← text v)).mapError .unsupported

def VectorBackend.decode (v : Json) : Except DecodeError VectorBackend := do
  (VectorBackend.ofName (← text v)).mapError .unsupported

def ProjectMembership.fields : List (Field Json ProjectMembership) :=
  [field "project_id" .required uint64 fun x m => { m with projectId := x },
    field "access_level" .required (name AccessLevel.names) fun x m => { m with accessLevel := x }]

def ProjectMembership.decode : Json → Except DecodeError ProjectMembership :=
  record "ProjectMembership" fields ⟨0, .guest⟩

def GroupMembership.fields : List (Field Json GroupMembership) :=
  [field "group_id" .required uint64 fun x m => { m with groupId := x },
    field "traversal_ids" .required (list uint64) fun x m => { m with traversalIds := x },
    field "visibility_level" .required (name Visibility.names) fun x m =>
      { m with visibility := x },
    field "access_level" .required (name AccessLevel.names) fun x m => { m with accessLevel := x }]

def GroupMembership.decode : Json → Except DecodeError GroupMembership :=
  record "GroupMembership" fields ⟨0, [], .priv, .guest⟩

def CurrentUser.fields : List (Field Json CurrentUser) :=
  [field "id" .required uint64 fun x u => { u with id := x },
    field "external" .defaulted bool fun x u => { u with external := x },
    field "can_read_all_resources" .defaulted bool fun x u => { u with canReadAllResources := x },
    field "can_read_cross_project" .defaulted bool fun x u => { u with canReadCrossProject := x },
    field "can_read_all_confidential" .defaulted bool fun x u =>
      { u with canReadAllConfidential := x },
    field "projects" .defaulted (list ProjectMembership.decode) fun x u =>
      { u with projects := x },
    field "groups" .defaulted (list GroupMembership.decode) fun x u => { u with groups := x }]

def CurrentUser.decode : Json → Except DecodeError CurrentUser :=
  record "CurrentUser" fields ⟨0, false, false, true, false, [], []⟩

def SearchFlags.fields : List (Field Json SearchFlags) :=
  [field "multi_match" .defaulted bool fun x f => { f with multiMatch := x },
    field "hybrid" .defaulted bool fun x f => { f with hybrid := x }]

def SearchFlags.decode : Json → Except DecodeError SearchFlags :=
  record "SearchFlags" fields {}

namespace SearchOptions

/-- A field that may be left out. -/
def entry {β : Type} (key : String) (decode : Json → Except DecodeError β)
    (set : β → SearchOptions → SearchOptions) : Field Json SearchOptions :=
  field key .defaulted decode set

/-- A field of the facets. -/
def facet {β : Type} (key : String) (decode : Json → Except DecodeError β)
    (set : β → Facets → Facets) : Field Json SearchOptions :=
  entry key decode fun x o => { o with facets := set x o.facets }

/-- A field of the page request. -/
def pageEntry {β : Type} (key : String) (decode : Json → Except DecodeError β)
    (set : β → PageRequest → PageRequest) : Field Json SearchOptions :=
  entry key decode fun x o => { o with paging := set x o.paging }

/-- The two bounds of a date. -/
def dates (stem : String) (get : Facets → Window) (set : Window → Facets → Facets) :
    List (Field Json SearchOptions) :=
  [facet (stem ++ "_after") (optional timestamp) fun x f => set { get f with after := x } f,
    facet (stem ++ "_before") (optional timestamp) fun x f => set { get f with before := x } f]

def requestFields : List (Field Json SearchOptions) :=
  [entry "current_user" (optional CurrentUser.decode) fun x o => { o with currentUser := x },
    entry "search_level" (optional SearchLevel.decode) fun x o => { o with searchLevel := x },
    entry "project_ids" (list uint64) fun x o => { o with projectIds := x },
    entry "group_ids" (list uint64) fun x o => { o with groupIds := x },
    entry "group_traversal_ids" (numericMembers (list uint64)) fun x o =>
      { o with groupPaths := x },
    entry "features" (list (name Feature.names)) fun x o => { o with features := x },
    entry "doc_type" (optional (name DocType.names)) fun x o => { o with docType := x },
    entry "query" text fun x o => { o with query := x },
    entry "order_by" (optional text) fun x o => { o with orderBy := x },
    entry "sort" (optional text) fun x o => { o with sort := x },
    pageEntry "page" (optional uint32) fun x p => { p with page := x },
    pageEntry "per_page" (optional uint32) fun x p => { p with perPage := x },
    pageEntry "first" (optional uint32) fun x p => { p with first := x },
    pageEntry "last" (optional uint32) fun x p => { p with last := x },
    pageEntry "before" (optional text) fun x p => { p with before := x },
    pageEntry "after" (optional text) fun x p => { p with after := x },
    entry "include_archived" bool fun x o => { o with includeArchived := x },
    entry "skip_type_filter" bool fun x o => { o with skipTypeFilter := x },
    entry "fields" (list text) fun x o => { o with fields := x },
    entry "source_fields" (list text) fun x o => { o with sourceFields := x },
    entry "highlight" bool fun x o => { o with highlight := x },
    entry "count_only" bool fun x o => { o with countOnly := x }]

def facetFields : List (Field Json SearchOptions) :=
  [facet "author_id" (optional uint64) fun x f => { f with authorId := x },
    facet "not_author_id" (optional uint64) fun x f => { f with notAuthorId := x },
    facet "assignee_ids" (list uint64) fun x f => { f with assigneeIds := x },
    facet "not_assignee_ids" (list uint64) fun x f => { f with notAssigneeIds := x },
    facet "or_assignee_ids" (list uint64) fun x f => { f with orAssigneeIds := x },
    facet "assignee_wildcard" (optional (name Wildcard.names)) fun x f =>
      { f with assigneeWildcard := x },
    facet "label_names" (list text) fun x f => { f with labelNames := x },
    facet "not_label_names" (list text) fun x f => { f with notLabelNames := x },
    facet "or_label_names" (list text) fun x f => { f with orLabelNames := x },
    facet "label_wildcard" (optional (name Wildcard.names)) fun x f =>
      { f with labelWildcard := x },
    facet "milestone_titles" (list text) fun x f => { f with milestoneTitles := x },
    facet "not_milestone_titles" (list text) fun x f => { f with notMilestoneTitles := x },
    facet "milestone_wildcard" (optional (name Wildcard.names)) fun x f =>
      { f with milestoneWildcard := x },
    facet "weight" (optional int64) fun x f => { f with weight := x },
    facet "not_weight" (optional int64) fun x f => { f with notWeight := x },
    facet "weight_wildcard" (optional (name Wildcard.names)) fun x f =>
      { f with weightWildcard := x },
    facet "health_status" (list (name HealthStatus.names)) fun x f => { f with healthStatus := x },
    facet "not_health_status" (list (name HealthStatus.names)) fun x f =>
      { f with notHealthStatus := x },
    facet "health_status_wildcard" (optional (name Wildcard.names)) fun x f =>
      { f with healthStatusWildcard := x },
    facet "state" (optional (name IssuableState.names)) fun x f => { f with state := x },
    facet "confidential" (optional bool) fun x f => { f with confidential := x }]

def dateFields : List (Field Json SearchOptions) :=
  dates "created" Facets.created (fun w f => { f with created := w }) ++
  dates "updated" Facets.updated (fun w f => { f with updated := w }) ++
  dates "closed" Facets.closed (fun w f => { f with closed := w }) ++
  dates "due" Facets.due (fun w f => { f with due := w })

def laterFields : List (Field Json SearchOptions) :=
  [facet "source_branches" (list text) fun x f => { f with sourceBranches := x },
    facet "not_source_branches" (list text) fun x f => { f with notSourceBranches := x },
    facet "target_branches" (list text) fun x f => { f with targetBranches := x },
    facet "not_target_branches" (list text) fun x f => { f with notTargetBranches := x },
    facet "work_item_type_ids" (list uint64) fun x f => { f with workItemTypeIds := x },
    facet "not_work_item_type_ids" (list uint64) fun x f => { f with notWorkItemTypeIds := x },
    facet "languages" (list text) fun x f => { f with languages := x },
    entry "hybrid_similarity" (optional single) fun x o =>
      { o with vectors := { o.vectors with similarity := x } },
    entry "vectors_supported" (optional VectorBackend.decode) fun x o =>
      { o with vectors := { o.vectors with backend := x } },
    entry "embedding_field" (optional text) fun x o =>
      { o with vectors := { o.vectors with field := x } },
    entry "flags" SearchFlags.decode fun x o => { o with flags := x }]

/-- Every field of a request, in order. -/
def schema : List (Field Json SearchOptions) :=
  requestFields ++ facetFields ++ dateFields ++ laterFields

/-- The request that a value denotes, valid or not. -/
def decode : Json → Except DecodeError SearchOptions :=
  record "SearchOptions" schema {}

/-- The valid request that a value denotes. -/
def ofJson (v : Json) : Except ArgumentError SearchOptions := do
  let o ← (decode v).mapError .badOptions
  o.validate
  .ok o

end SearchOptions

end TenantSearch
