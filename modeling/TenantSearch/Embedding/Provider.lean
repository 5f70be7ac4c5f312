/-
The provider that turns texts into vectors: the request it takes, how its answer is read, and what
can go wrong. Every text gets the vector with its index, and all vectors have the configured size.
-/
import TenantSearch.Config.Settings
import TenantSearch.Http.Exchange

namespace TenantSearch

/-! ## Faults -/

inductive EmbeddingError where
  | transport (cause : Http.TransportFault)
  | header (cause : Http.HeaderFault)
  | invalidConfig (message : String)
  | invalidResponse (message : String)
  | rateLimited (providerId : String)
deriving DecidableEq

def EmbeddingError.message : EmbeddingError → String
  | .transport cause => cause.message
  | .header cause => cause.message
  | .invalidConfig message => message
  | .invalidResponse message => message
  | .rateLimited provider => "Provider " ++ provider ++ " rejected the request with a rate limit."

namespace Embedding

abbrev Vector := List Extended

def headerNotText : EmbeddingError :=
  .invalidConfig "Default header values must be strings."

def noData : EmbeddingError := .invalidResponse "Embedding response is missing data array."

def noVector : EmbeddingError := .invalidResponse "Embedding item missing embedding array."

def notNumeric : EmbeddingError := .invalidResponse "Embedding value must be numeric."

def wrongSize (expected : UInt32) (found : Nat) : EmbeddingError :=
  .invalidResponse ("Embedding dimension mismatch: expected " ++ toString expected.toNat ++
    ", got " ++ toString found ++ ".")

/-! ## Headers -/

/-- Sets one of the configured headers. A value that is no text is reported first, then the name,
then the characters of the value. -/
def setHeader (h : Http.Headers) (entry : String × Json) : Except EmbeddingError Http.Headers :=
  match entry.2 with
  | .str raw => do
    let name ← (Http.headerName entry.1).mapError .header
    let value ← (Http.headerValue raw).mapError .header
    .ok (h.set name value)
  | _ => .error headerNotText

/-- The headers of a request: the credential, then the configured ones in order of their keys. -/
def authHeaders (apiKey : String) (defaults : List (String × Json)) :
    Except EmbeddingError Http.Headers := do
  let value ← (Http.headerValue ("Bearer " ++ apiKey)).mapError .header
  defaults.foldlM setHeader (Http.Headers.set "authorization" value [])

/-! ## Answers -/

/-- The numbers of a vector, rounded to the 32-bit format. -/
def readNumbers : List Json → Except EmbeddingError Vector
  | [] => .ok []
  | v :: rest =>
    match v.asDouble? with
    | some x => do
      let more ← readNumbers rest
      .ok (.singleOfDouble x :: more)
    | none => .error notNumeric

/-- The index of an item, or its place in the list, and its vector. -/
def readItem (place : Nat) (item : Json) : Except EmbeddingError (Nat × Vector) :=
  let index := (((item.get? "index").bind Json.asUInt64?).map UInt64.toNat).getD place
  match (item.get? "embedding").bind Json.asArray? with
  | some numbers => (readNumbers numbers).map fun vector => (index, vector)
  | none => .error noVector

def readItems (place : Nat) : List Json → Except EmbeddingError (List (Nat × Vector))
  | [] => .ok []
  | item :: rest => do
    let x ← readItem place item
    let more ← readItems (place + 1) rest
    .ok (x :: more)

/-- The vectors of an answer in the order of their indices; equal indices keep their order. -/
def readResponse (v : Json) : Except EmbeddingError (List Vector) :=
  match (v.get? "data").bind Json.asArray? with
  | some items => do
    let indexed ← readItems 0 items
    .ok ((indexed.mergeSort fun a b => a.1 ≤ b.1).map Prod.snd)
  | none => .error noData

/-- Refuses vectors of another size than the configured one. -/
def checkSizes (dimensions : UInt32) (vectors : List Vector) :
    Except EmbeddingError (List Vector) :=
  match vectors.find? fun v => v.length ≠ dimensions.toNat with
  | some v => .error (wrongSize dimensions v.length)
  | none => .ok vectors

/-! ## Requests -/

def requestBody (s : EmbeddingSettings) (texts : List String) : Json :=
  .obj [("dimensions", .ofUInt32 s.dimensions), ("input", .ofStrings texts),
    ("model", .str s.model)]

/-- The request that embeds some texts. -/
def request (s : EmbeddingSettings) (texts : List String) : Except EmbeddingError Http.Request := do
  let headers ← authHeaders s.apiKey s.defaultHeaders
  match Http.Address.ofText? (s.apiBase ++ s.path) with
  | some address =>
    .ok ⟨address, headers.setDefault "content-type" "application/json", requestBody s texts⟩
  | none => .error (.transport .notBuilt)

/-- What an answer with its status makes of the request. -/
def ofResponse (s : EmbeddingSettings) (address : Http.Address) (r : Http.Response) :
    Except EmbeddingError (List Vector) :=
  if r.status = 429 then .error (.rateLimited s.providerId)
  else if Http.isFailure r.status then .error (.transport (.refused r.status address))
  else do
    let v ← r.json.mapError .transport
    let vectors ← readResponse v
    checkSizes s.dimensions vectors

/-- The vectors of some texts, from a provider on the other side. -/
def embed (peer : Http.Peer) (s : EmbeddingSettings) (texts : List String) :
    Except EmbeddingError (List Vector) := do
  let r ← request s texts
  let answer ← (peer.send r).mapError .transport
  ofResponse s r.address answer

end Embedding

end TenantSearch
