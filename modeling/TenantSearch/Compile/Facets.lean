/-
Facets. Each function adds the conditions of one facet and leaves the document as it is when the
facet is not asked for.
-/
import TenantSearch.Query.Document
import TenantSearch.Request.Options

namespace TenantSearch.Facets

/-- Adds a filter for a list that is not empty. -/
def filterTerms (d : QueryDocument) (field : String) (values : List Json) : QueryDocument :=
  if values.isEmpty then d else d.filter (.terms field values)

/-- Excludes the values of a list that is not empty. -/
def excludeTerms (d : QueryDocument) (field : String) (values : List Json) : QueryDocument :=
  if values.isEmpty then d else d.mustNot (.terms field values)

def byWildcard (d : QueryDocument) (field : String) : Option Wildcard → QueryDocument
  | some .absent => d.mustNot (.exist field)
  | some .any => d.filter (.exist field)
  | none => d

/-- Adds the filter, then the exclusion, of single values. -/
def byTerm (d : QueryDocument) (field : String) (value notValue : Option Json) : QueryDocument :=
  let d := match value with
    | some v => d.filter (.term field v)
    | none => d
  match notValue with
  | some v => d.mustNot (.term field v)
  | none => d

/-! ## Type and archive -/

def byType (d : QueryDocument) (o : SearchOptions) (t : DocType) : QueryDocument :=
  if o.skipTypeFilter then d else d.filter (.term "type" (.str t.name))

/-- Leaves out what is archived, unless it is asked for. -/
def byArchived (d : QueryDocument) (o : SearchOptions) : QueryDocument :=
  if o.includeArchived then d
  else d.filter (.anyOf [.term "archived" (.bool false), .not (.exist "archived")])

/-! ## People, labels and milestones -/

def byAuthor (d : QueryDocument) (f : Facets) : QueryDocument :=
  byTerm d "author_id" (f.authorId.map Json.ofUInt64) (f.notAuthorId.map Json.ofUInt64)

def byAssignees (d : QueryDocument) (f : Facets) : QueryDocument :=
  let d := f.assigneeIds.foldl (fun d id => d.filter (.term "assignee_id" (.ofUInt64 id))) d
  let d := filterTerms d "assignee_id" (f.orAssigneeIds.map Json.ofUInt64)
  let d := excludeTerms d "assignee_id" (f.notAssigneeIds.map Json.ofUInt64)
  byWildcard d "assignee_id" f.assigneeWildcard

/-- A label that ends in `::*` stands for every label of its scope. -/
def labelClause (label : String) : Clause :=
  match label.toList.reverse with
  | '*' :: ':' :: ':' :: front =>
    .startsWith "label_names" (String.ofList (front.reverse ++ [':', ':']))
  | _ => .term "label_names" (.str label)

def byLabels (d : QueryDocument) (f : Facets) : QueryDocument :=
  let d := f.labelNames.foldl (fun d label => d.filter (labelClause label)) d
  let d := if f.orLabelNames.isEmpty then d
    else d.filter (.anyOf (f.orLabelNames.map labelClause))
  let d := f.notLabelNames.foldl (fun d label => d.mustNot (labelClause label)) d
  byWildcard d "label_names" f.labelWildcard

def byMilestone (d : QueryDocument) (f : Facets) : QueryDocument :=
  let d := filterTerms d "milestone_title" (f.milestoneTitles.map Json.str)
  let d := excludeTerms d "milestone_title" (f.notMilestoneTitles.map Json.str)
  byWildcard d "milestone_title" f.milestoneWildcard

/-! ## Weight, health and state -/

def byWeight (d : QueryDocument) (f : Facets) : QueryDocument :=
  let d := byTerm d "weight" (f.weight.map Json.ofInt64) (f.notWeight.map Json.ofInt64)
  byWildcard d "weight" f.weightWildcard

def healthJson (s : HealthStatus) : Json := .ofUInt64 s.stored

def byHealthStatus (d : QueryDocument) (f : Facets) : QueryDocument :=
  let d := filterTerms d "health_status" (f.healthStatus.map healthJson)
  let d := excludeTerms d "health_status" (f.notHealthStatus.map healthJson)
  byWildcard d "health_status" f.healthStatusWildcard

def byState (d : QueryDocument) (f : Facets) : QueryDocument :=
  match f.state with
  | some .all => d
  | some s => d.filter (.term "state" (.str s.name))
  | none => d

def byConfidential (d : QueryDocument) (f : Facets) : QueryDocument :=
  match f.confidential with
  | some b => d.filter (.term "confidential" (.bool b))
  | none => d

/-! ## Dates -/

def dateJson (t : Timestamp) : Except ArgumentError Json :=
  match t.text with
  | .ok s => .ok (.str s)
  | .error e => .error (.dateWithoutText e)

def bound? : Option Timestamp → Except ArgumentError (Option Json)
  | some t => (dateJson t).map some
  | none => .ok none

def byWindow (d : QueryDocument) (field : String) (w : Window) :
    Except ArgumentError QueryDocument := do
  let gte ← bound? w.after
  let lte ← bound? w.before
  .ok (d.filter? (Clause.between? field gte lte))

def byDates (d : QueryDocument) (f : Facets) : Except ArgumentError QueryDocument := do
  let d ← byWindow d "created_at" f.created
  let d ← byWindow d "updated_at" f.updated
  let d ← byWindow d "closed_at" f.closed
  byWindow d "due_date" f.due

/-! ## Branches, work items and languages -/

def byBranches (d : QueryDocument) (f : Facets) : QueryDocument :=
  let d := filterTerms d "source_branch" (f.sourceBranches.map Json.str)
  let d := excludeTerms d "source_branch" (f.notSourceBranches.map Json.str)
  let d := filterTerms d "target_branch" (f.targetBranches.map Json.str)
  excludeTerms d "target_branch" (f.notTargetBranches.map Json.str)

def byWorkItemType (d : QueryDocument) (f : Facets) : QueryDocument :=
  let d := filterTerms d "work_item_type_id" (f.workItemTypeIds.map Json.ofUInt64)
  excludeTerms d "work_item_type_id" (f.notWorkItemTypeIds.map Json.ofUInt64)

def byLanguages (d : QueryDocument) (f : Facets) : QueryDocument :=
  filterTerms d "language" (f.languages.map Json.str)

/-! ## The facets of a type -/

/-- Adds every facet that documents of a type have. -/
def apply (d : QueryDocument) (f : Facets) : DocType → Except ArgumentError QueryDocument
  | .issue =>
    byDates (byConfidential (byState (byHealthStatus (byWeight (byMilestone (byLabels
      (byAssignees (byAuthor d f) f) f) f) f) f) f) f) f
  | .workItem =>
    byDates (byWorkItemType (byConfidential (byState (byHealthStatus (byWeight (byMilestone
      (byLabels (byAssignees (byAuthor d f) f) f) f) f) f) f) f) f) f
  | .mergeRequest =>
    byDates (byBranches (byState (byMilestone (byLabels (byAssignees (byAuthor d f) f) f) f) f)
      f) f
  | .epic =>
    byDates (byConfidential (byState (byHealthStatus (byLabels (byAuthor d f) f) f) f) f) f
  | .note => byDates (byAuthor d f) f
  | .milestone => byDates (byState d f) f
  | .project | .user => byDates d f
  | .blob => .ok (byLanguages d f)
  | .wikiBlob | .commit => .ok d

end TenantSearch.Facets
