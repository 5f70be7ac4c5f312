/-
One request and its answer. The other side is a function from requests to answers; a request that
cannot be built or delivered, and an answer that cannot be read, are transport faults.
-/
import TenantSearch.Http.Address
import TenantSearch.Http.Headers
import TenantSearch.Json.Reader
import TenantSearch.Json.Writer

namespace TenantSearch.Http

/-- A request that sends a value. -/
structure Request where
  address : Address
  headers : Headers
  body : Json

structure Response where
  status : Nat
  body : String
deriving DecidableEq

/-- The other side; nothing comes back when it cannot be reached. -/
abbrev Peer := Request → Option Response

/-! ## Status codes -/

/-- The standard words for the codes. -/
def reasonPhrases : List (Nat × String) :=
  [(100, "Continue"), (101, "Switching Protocols"), (102, "Processing"), (200, "OK"),
    (201, "Created"), (202, "Accepted"), (203, "Non Authoritative Information"),
    (204, "No Content"), (205, "Reset Content"), (206, "Partial Content"), (207, "Multi-Status"),
    (208, "Already Reported"), (226, "IM Used"), (300, "Multiple Choices"),
    (301, "Moved Permanently"), (302, "Found"), (303, "See Other"), (304, "Not Modified"),
    (305, "Use Proxy"), (307, "Temporary Redirect"), (308, "Permanent Redirect"),
    (400, "Bad Request"), (401, "Unauthorized"), (402, "Payment Required"), (403, "Forbidden"),
    (404, "Not Found"), (405, "Method Not Allowed"), (406, "Not Acceptable"),
    (407, "Proxy Authentication Required"), (408, "Request Timeout"), (409, "Conflict"),
    (410, "Gone"), (411, "Length Required"), (412, "Precondition Failed"),
    (413, "Payload Too Large"), (414, "URI Too Long"), (415, "Unsupported Media Type"),
    (416, "Range Not Satisfiable"), (417, "Expectation Failed"), (418, "I'm a teapot"),
    (421, "Misdirected Request"), (422, "Unprocessable Entity"), (423, "Locked"),
    (424, "Failed Dependency"), (425, "Too Early"), (426, "Upgrade Required"),
    (428, "Precondition Required"), (429, "Too Many Requests"),
    (431, "Request Header Fields Too Large"), (451, "Unavailable For Legal Reasons"),
    (500, "Internal Server Error"), (501, "Not Implemented"), (502, "Bad Gateway"),
    (503, "Service Unavailable"), (504, "Gateway Timeout"), (505, "HTTP Version Not Supported"),
    (506, "Variant Also Negotiates"), (507, "Insufficient Storage"), (508, "Loop Detected"),
    (510, "Not Extended"), (511, "Network Authentication Required")]

/-- A code with its standard words. -/
def statusText (status : Nat) : String :=
  toString status ++ " " ++ (reasonPhrases.lookup status).getD "<unknown status code>"

def isSuccess (status : Nat) : Bool := 200 ≤ status && status < 300

def isFailure (status : Nat) : Bool := 400 ≤ status && status < 600

/-- What an answer holds; those without content hold nothing. -/
def Response.content (r : Response) : String :=
  if r.status = 204 ∨ r.status = 304 then "" else r.body

/-- The text of an answer, without a byte-order mark. -/
def Response.text (r : Response) : String :=
  match r.content.toList with
  | '\ufeff' :: text => String.ofList text
  | _ => r.content

/-! ## Faults -/

inductive TransportFault where
  | notBuilt
  | notSent (address : Address)
  | refused (status : Nat) (address : Address)
  | notJson
deriving DecidableEq

def TransportFault.message : TransportFault → String
  | .notBuilt => "builder error"
  | .notSent address => "error sending request for url (" ++ address.text ++ ")"
  | .refused status address =>
    (if status < 500 then "HTTP status client error (" else "HTTP status server error (") ++
      statusText status ++ ") for url (" ++ address.text ++ ")"
  | .notJson => "error decoding response body"

/-- Sends a request. -/
def Peer.send (peer : Peer) (r : Request) : Except TransportFault Response :=
  match peer r with
  | some answer => .ok answer
  | none => .error (.notSent r.address)

/-- The value in an answer. -/
def Response.json (r : Response) : Except TransportFault Json :=
  (Json.ofText r.content).mapError fun _ => .notJson

end TenantSearch.Http
