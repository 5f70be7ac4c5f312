/-
The program: reads the settings and the request, and prints the document of the request or the
outcome of its search as indented JSON. Files and the other side of the network are given as
functions, so a run of the program is a value.
-/
import TenantSearch.CommandLine.Arguments
import TenantSearch.Config.Decode
import TenantSearch.Request.Decode
import TenantSearch.Search.Service

namespace TenantSearch

/-! ## Request files -/

inductive FileFault where
  | missing
  | notText
deriving DecidableEq

def FileFault.message : FileFault → String
  | .missing => "No such file or directory (os error 2)"
  | .notText => "stream did not contain valid UTF-8"

inductive RequestError where
  | unreadable (path : String) (cause : FileFault)
  | notJson (path : String) (cause : Json.ReadError)
  | notObject
  | invalid (cause : ArgumentError)
deriving DecidableEq

/-- The texts of an error, the outermost first. -/
def RequestError.messages : RequestError → List String
  | .unreadable path cause =>
    ["Failed to read request file " ++ path ++ ".", cause.message]
  | .notJson path cause => ["Request file " ++ path ++ " is not valid JSON.", cause.message]
  | .notObject => ["Request file must contain a JSON object."]
  | .invalid cause => [cause.message]

/-- The text of a file, whose octets are missing when there is no such file. -/
def fileText (octets : Option Octets) : Except FileFault String :=
  match octets with
  | none => .error .missing
  | some octets =>
    match Octets.toString? octets with
    | some text => .ok text
    | none => .error .notText

/-- The valid request in the file at a path. -/
def SearchOptions.ofFile (path : String) (octets : Option Octets) :
    Except RequestError SearchOptions := do
  let text ← (fileText octets).mapError (.unreadable path)
  let v ← (Json.ofText text).mapError (.notJson path)
  match v with
  | .obj _ => (SearchOptions.ofJson v).mapError .invalid
  | _ => .error .notObject

/-! ## Runs of the program -/

namespace Program

def version : String := "0.1.0"

inductive Failure where
  | settings (cause : SettingsError)
  | request (cause : RequestError)
  | search (cause : SearchError)
deriving DecidableEq

def Failure.messages : Failure → List String
  | .settings cause => [cause.message]
  | .request cause => cause.messages
  | .search cause => [cause.message]

/-- What the program printed and asked of the outside, or why it failed. -/
structure Report where
  settings : Option Settings := none
  calls : List Call := []
  result : Except Failure String

/-- Failures end the program with this code, and all else with zero. -/
def Report.exitCode (r : Report) : UInt8 :=
  match r.result with
  | .ok _ => 0
  | .error _ => 1

def Report.output (r : Report) : String :=
  match r.result with
  | .ok text => text
  | .error _ => ""

/-- A value as the program prints it. -/
def printed (v : Json) : String := v.pretty ++ "\n"

/-- What a command makes of a request. -/
def perform (s : SearchService) (o : SearchOptions) : Command → Run String
  | .compile => do
    let (r, hybrid) ← s.relation o
    return printed (.obj [("document", r.compiled.toJson), ("hybrid", .object hybrid.members)])
  | .run => do
    let outcome ← s.search o
    return printed outcome.toJson

/-- The service of some settings, with cluster and provider on the other side. -/
def service (s : Settings) (peer : Http.Peer) : SearchService :=
  ⟨s, .remote peer s.cluster, Embedding.embed peer⟩

/-- A run of the program on the files at the paths of its arguments. -/
def execute (a : Arguments) (files : String → Option Octets) (peer : Http.Peer) : Report :=
  match Settings.ofFile a.config (files a.config) with
  | .error e => { result := .error (.settings e) }
  | .ok s =>
    match SearchOptions.ofFile a.request (files a.request) with
    | .error e => { settings := some s, result := .error (.request e) }
    | .ok o =>
      let r := perform (service s peer) o a.command
      { settings := some s, calls := r.calls, result := r.result.mapError .search }

/-- The requests that a call sends; one that cannot be built is not sent. -/
def requestOf (s : Settings) : Call → Option Http.Request
  | .search index body => Cluster.request? s.cluster index .search body
  | .count index body => Cluster.request? s.cluster index .count body
  | .embed texts => (Embedding.request s.embedding texts).toOption

/-- The requests of a run, in order. -/
def Report.requests (r : Report) : List Http.Request :=
  match r.settings with
  | some s => r.calls.filterMap (requestOf s)
  | none => []

end Program

end TenantSearch
