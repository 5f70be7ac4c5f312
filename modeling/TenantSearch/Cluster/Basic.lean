/-
Clusters: what answers a search and a count over an index. One is reached over the network by
requests to two endpoints of the index; another one is the index in memory.
-/
import TenantSearch.Cluster.Response
import TenantSearch.Config.Settings
import TenantSearch.Index.Memory

namespace TenantSearch

/-- A cluster answers requests to search and to count, given the index and the body. -/
structure Cluster where
  search : String → Json → Except ClusterFault Json
  count : String → Json → Except ClusterFault Json

namespace Cluster

/-! ## Over the network -/

inductive Endpoint where
  | search
  | count
deriving DecidableEq

def Endpoint.name : Endpoint → String
  | .search => "_search"
  | .count => "_count"

/-- The headers of a request; the key is sent only when there is one. -/
def headers (s : ClusterSettings) : Option Http.Headers :=
  let h : Http.Headers := [("content-type", "application/json")]
  match s.apiKey with
  | none => some h
  | some key =>
    match Http.headerValue ("ApiKey " ++ key) with
    | .ok value => some (h.set "authorization" value)
    | .error _ => none

/-- The request to an endpoint of an index; `none` when it cannot be built. -/
def request? (s : ClusterSettings) (index : String) (e : Endpoint) (body : Json) :
    Option Http.Request := do
  let address ← Http.Address.ofText? (s.url ++ "/" ++ index ++ "/" ++ e.name)
  let headers ← headers s
  some ⟨address, headers, body⟩

/-- Sends a value to an endpoint; the answer must be a success and hold a value. -/
def post (peer : Http.Peer) (s : ClusterSettings) (e : Endpoint) (index : String) (body : Json) :
    Except ClusterFault Json :=
  match request? s index e body with
  | none => .error (.transport .notBuilt)
  | some r => do
    let answer ← (peer.send r).mapError .transport
    if Http.isSuccess answer.status then answer.json.mapError .transport
    else .error (.refused answer.status answer.text)

/-- The cluster on the other side. -/
def remote (peer : Http.Peer) (s : ClusterSettings) : Cluster :=
  ⟨post peer s .search, post peer s .count⟩

/-! ## In memory -/

/-- The cluster of an index in memory, whatever the name of the index. -/
def ofIndex (m : MemoryIndex) : Cluster :=
  ⟨fun _ body => (m.search body).mapError fun e => .other e.message,
    fun _ body => (m.count body).mapError fun e => .other e.message⟩

end Cluster

end TenantSearch
