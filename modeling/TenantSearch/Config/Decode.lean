/-
Settings from values and from the text of a settings file.
-/
import TenantSearch.Config.Settings
import TenantSearch.Toml.Reader

namespace TenantSearch

open Decode

variable {α : Type} [Readable α]

def ServiceSettings.decode : α → Except DecodeError ServiceSettings :=
  record "Service" [field "log_level" .required text fun x _ => ⟨x⟩] ⟨""⟩

def ClusterSettings.decode : α → Except DecodeError ClusterSettings :=
  record "Cluster"
    [field "url" .required text fun x c => { c with url := x },
      field "index" .required text fun x c => { c with index := x },
      field "backend" .required text fun x c => { c with backend := x },
      field "timeout_ms" .required uint64 fun x c => { c with timeoutMs := x },
      field "api_key" .nullable (optional text) fun x c => { c with apiKey := x }]
    ⟨"", "", "", 0, none⟩

def EmbeddingSettings.decode : α → Except DecodeError EmbeddingSettings :=
  record "EmbeddingProviderConfig"
    [field "provider_id" .required text fun x e => { e with providerId := x },
      field "api_base" .required text fun x e => { e with apiBase := x },
      field "api_key" .required text fun x e => { e with apiKey := x },
      field "path" .required text fun x e => { e with path := x },
      field "model" .required text fun x e => { e with model := x },
      field "dimensions" .required uint32 fun x e => { e with dimensions := x },
      field "timeout_ms" .required uint64 fun x e => { e with timeoutMs := x },
      field "default_headers" .defaulted members fun x e => { e with defaultHeaders := x }]
    ⟨"", "", "", "", "", 0, 0, []⟩

def HybridSettings.decode : α → Except DecodeError HybridSettings :=
  record "SearchHybrid"
    [field "enabled" .defaulted bool fun x h => { h with enabled := x },
      field "min_query_chars" .defaulted uint32 fun x h => { h with minQueryChars := x },
      field "k" .defaulted uint32 fun x h => { h with k := x },
      field "num_candidates" .defaulted uint32 fun x h => { h with numCandidates := x },
      field "boost" .defaulted single fun x h => { h with boost := x }]
    {}

def SearchSettings.decode : α → Except DecodeError SearchSettings :=
  record "Search"
    [field "multi_match" .defaulted bool fun x s => { s with multiMatch := x },
      field "highlight_pre_tag" .defaulted text fun x s => { s with highlightPreTag := x },
      field "highlight_post_tag" .defaulted text fun x s => { s with highlightPostTag := x },
      field "hybrid" .defaulted HybridSettings.decode fun x s => { s with hybrid := x }]
    {}

def PagingSettings.decode : α → Except DecodeError PagingSettings :=
  record "Pagination"
    [field "default_page_size" .defaulted uint32 fun x p => { p with defaultPageSize := x },
      field "max_page_size" .defaulted uint32 fun x p => { p with maxPageSize := x },
      field "tie_breaker_field" .defaulted text fun x p => { p with tieBreakerField := x }]
    {}

namespace Settings

/-- The settings of the only provider, under its own key. -/
def decodeProviders : α → Except DecodeError EmbeddingSettings :=
  record "Providers" [field "embedding" .required EmbeddingSettings.decode fun x _ => x]
    ⟨"", "", "", "", "", 0, 0, []⟩

/-- The settings that a value denotes, valid or not. -/
def decode : α → Except DecodeError Settings :=
  record "Config"
    [field "service" .required ServiceSettings.decode fun x s => { s with service := x },
      field "cluster" .required ClusterSettings.decode fun x s => { s with cluster := x },
      field "providers" .required decodeProviders fun x s => { s with embedding := x },
      field "search" .defaulted SearchSettings.decode fun x s => { s with search := x },
      field "pagination" .defaulted PagingSettings.decode fun x s => { s with paging := x }]
    ⟨⟨""⟩, ⟨"", "", "", 0, none⟩, ⟨"", "", "", "", "", 0, 0, []⟩, {}, {}⟩

end Settings

/-! ## Files -/

/-- Why a settings file gives no settings. -/
inductive SettingsError where
  | unreadable (path : String)
  | unparsable (path : String)
  | invalid (fault : SettingsFault)
deriving DecidableEq

def SettingsError.message : SettingsError → String
  | .unreadable path => "Failed to read config file at " ++ Text.shown path ++ "."
  | .unparsable path => "Failed to parse config file at " ++ Text.shown path ++ "."
  | .invalid fault => fault.message

namespace Settings

/-- The valid settings in the text of the file at a path. -/
def ofText (path text : String) : Except SettingsError Settings :=
  match Toml.ofText? text with
  | none => .error (.unparsable path)
  | some v =>
    match decode v with
    | .error _ => .error (.unparsable path)
    | .ok s => do
      (s.normalize.validate).mapError .invalid
      .ok s.normalize

/-- The settings of a text that is in no file. -/
def ofInlineText (text : String) : Except SettingsError Settings := ofText "<inline>" text

/-- The settings of the file at a path, whose octets are missing when it cannot be read. A file
that is not text cannot be read either. -/
def ofFile (path : String) (octets : Option Octets) : Except SettingsError Settings :=
  match octets.bind Octets.toString? with
  | none => .error (.unreadable path)
  | some text => ofText path text

end Settings

end TenantSearch
