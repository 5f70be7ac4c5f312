/-
Answers of a cluster to a search and to a count, and what can be wrong with them. A total may come
as a number or inside an object; what is no number counts as no total.
-/
import TenantSearch.Http.Exchange

namespace TenantSearch

inductive ClusterFault where
  | noHits
  | noHitList
  | noHitId
  | noCount
  | refused (status : Nat) (body : String)
  | transport (cause : Http.TransportFault)
  /-- A fault of another kind of cluster, in its own words. -/
  | other (message : String)
deriving DecidableEq

def ClusterFault.detail : ClusterFault → String
  | .noHits => "Search response is missing hits."
  | .noHitList => "Search response is missing the hits array."
  | .noHitId => "Search hit is missing _id."
  | .noCount => "Count response is missing count."
  | .refused status body => "Cluster returned " ++ Http.statusText status ++ ": " ++ body
  | .transport cause => cause.message
  | .other message => message

def ClusterFault.message (e : ClusterFault) : String := "Cluster error: " ++ e.detail

/-- A hit, with the values it was sorted by. -/
structure Hit where
  id : String
  score : Option Double
  source : Json
  sort : List Json

structure SearchHits where
  total : Option UInt64
  hits : List Hit

namespace SearchHits

def totalOf : Option Json → Option UInt64
  | some (.obj fields) => (fields.lookup "value").bind Json.asUInt64?
  | some v => v.asUInt64?
  | none => none

def hitOf (item : Json) : Except ClusterFault Hit :=
  match item.get? "_id" with
  | some (.str id) =>
    .ok ⟨id, (item.get? "_score").bind Json.asDouble?, (item.get? "_source").getD .null,
      ((item.get? "sort").bind Json.asArray?).getD []⟩
  | _ => .error .noHitId

/-- The hits of an answer, in its order. -/
def ofJson (v : Json) : Except ClusterFault SearchHits :=
  match v.get? "hits" with
  | none => .error .noHits
  | some hits =>
    match (hits.get? "hits").bind Json.asArray? with
    | none => .error .noHitList
    | some items => (items.mapM hitOf).map fun parsed => ⟨totalOf (hits.get? "total"), parsed⟩

end SearchHits

/-- The number in the answer to a count. -/
def countOfJson (v : Json) : Except ClusterFault UInt64 :=
  match (v.get? "count").bind Json.asUInt64? with
  | some n => .ok n
  | none => .error .noCount

end TenantSearch
