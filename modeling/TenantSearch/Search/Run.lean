/-
Runs: what an operation asks of the cluster and of the provider, in order, together with what comes
of it. A run that fails keeps the calls made before.
-/
import TenantSearch.Cluster.Basic
import TenantSearch.Embedding.Provider
import TenantSearch.Paging.Cursor
import TenantSearch.Request.Options

namespace TenantSearch

/-! ## Faults -/

inductive SearchError where
  | argument (cause : ArgumentError)
  | cursor (cause : CursorError)
  | invalidRequest (message : String)
  | cluster (cause : ClusterFault)
  | provider (cause : EmbeddingError)
deriving DecidableEq

def SearchError.message : SearchError → String
  | .argument cause => cause.message
  | .cursor cause => cause.message
  | .invalidRequest message => "Invalid request: " ++ message
  | .cluster cause => cause.message
  | .provider cause => "Provider error: " ++ cause.message

/-! ## Calls -/

/-- One question to the outside. -/
inductive Call where
  | search (index : String) (body : Json)
  | count (index : String) (body : Json)
  | embed (texts : List String)

/-- The calls of an operation and its result. -/
structure Run (α : Type) where
  calls : List Call
  result : Except SearchError α

namespace Run

variable {α β : Type}

def ofExcept (result : Except SearchError α) : Run α := ⟨[], result⟩

def call (c : Call) (result : Except SearchError α) : Run α := ⟨[c], result⟩

/-- Goes on with the result; the calls of both come one after the other. -/
def bind (r : Run α) (next : α → Run β) : Run β :=
  match r.result with
  | .ok x => ⟨r.calls ++ (next x).calls, (next x).result⟩
  | .error e => ⟨r.calls, .error e⟩

instance : Monad Run where
  pure x := ⟨[], .ok x⟩
  bind := bind

end Run

end TenantSearch
