/-
Headers of a request. Names are tokens and do not depend on case; every name occurs once, and
setting it again replaces its value. Values hold visible characters, blanks and tabs. Headers are set
as long as there is room: how many names there may be is a limit that setting does not check here.
-/
import TenantSearch.Json.Basic
import TenantSearch.Text.Blank

namespace TenantSearch.Http

inductive HeaderFault where
  | badName
  | badValue
deriving DecidableEq

def HeaderFault.message : HeaderFault → String
  | .badName => "invalid HTTP header name"
  | .badValue => "failed to parse header value"

/-- Names with their values, in the order of the names. -/
abbrev Headers := List (String × String)

/-! ## Names and values -/

/-- The signs that a token may hold besides letters and digits. -/
def tokenSigns : List Char :=
  ['!', '#', '$', '%', '&', '\x27', '*', '+', '-', '.', '^', '_', '\x60', '|', '~']

def isTokenChar (c : Char) : Bool :=
  Text.isAsciiDigit c || (65 ≤ c.toNat && c.toNat ≤ 90) || (97 ≤ c.toNat && c.toNat ≤ 122) ||
    tokenSigns.contains c

/-- The greatest length of a name. -/
def maxNameLength : Nat := 65535

/-- A name in small letters. -/
def headerName (s : String) : Except HeaderFault String :=
  if s ≠ "" && s.length ≤ maxNameLength && s.toList.all isTokenChar then .ok (Text.lowerAscii s)
  else .error .badName

def isValueChar (c : Char) : Bool := c = '\t' || (32 ≤ c.toNat && c.toNat ≠ 127)

def headerValue (s : String) : Except HeaderFault String :=
  if s.toList.all isValueChar then .ok s else .error .badValue

/-! ## Setting -/

namespace Headers

/-- The greatest number of names. -/
def maxNames : Nat := 24576

/-- There is room to set a header. Without it nothing can be set any more, not even a name that is
there already. -/
def HasRoom (h : Headers) : Prop := h.length < maxNames

/-- Sets a name, where there is room for it. -/
def set (name value : String) : Headers → Headers
  | [] => [(name, value)]
  | (n, v) :: rest =>
    if name = n then (name, value) :: rest
    else if Json.keyBefore name.toList n.toList then (name, value) :: (n, v) :: rest
    else (n, v) :: set name value rest

/-- Sets a name that is not there. -/
def setDefault (name value : String) (h : Headers) : Headers :=
  if h.any fun e => e.1 = name then h else set name value h

end Headers

end TenantSearch.Http
