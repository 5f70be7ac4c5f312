/-
Addresses of requests. The target is what follows the host: its path with dot segments resolved
and every octet escaped that may not stand there, and the query part.
-/
import TenantSearch.Text.Blank
import TenantSearch.Text.Octets

namespace TenantSearch.Http

/-- Where a request goes: scheme and host, and the target there. -/
structure Address where
  origin : String
  target : String
deriving DecidableEq

namespace Address

def hexDigit (n : Nat) : Char := if n < 10 then Char.ofNat (48 + n) else Char.ofNat (55 + n)

/-- A character with its octets as percent escapes. -/
def escape (c : Char) : List Char :=
  (Octets.ofString (String.singleton c)).flatMap fun b =>
    ['%', hexDigit (b.toNat / 16), hexDigit (b.toNat % 16)]

def mustEscape (signs : List Char) (c : Char) : Bool :=
  c.toNat ≤ 32 || 127 ≤ c.toNat || signs.contains c

def escapeIn (signs : List Char) (cs : List Char) : List Char :=
  cs.flatMap fun c => if mustEscape signs c then escape c else [c]

def pathSigns : List Char := ['"', '<', '>', '\x60', '#', '?', '\x7b', '\x7d']

def querySigns : List Char := ['"', '<', '>', '#', '\x27']

/-! ## Paths -/

/-- The parts of a path between slashes of either kind. -/
def segments (path : List Char) : List (List Char) :=
  path.foldr (fun c acc =>
    if c = '/' || c = '\\' then [] :: acc
    else match acc with
      | s :: rest => (c :: s) :: rest
      | [] => [[c]]) [[]]

def dotNames : List String := [".", "%2e"]

def doubleDotNames : List String := ["..", ".%2e", "%2e.", "%2e%2e"]

/-- Resolves the segments that stand for this level and the level above; `kept` is newest first. -/
def resolve (kept : List (List Char)) : List (List Char) → List (List Char)
  | [] => kept.reverse
  | s :: rest =>
    let name := Text.lowerAscii (String.ofList s)
    let kept := if doubleDotNames.contains name then kept.tail else kept
    if dotNames.contains name || doubleDotNames.contains name then
      if rest.isEmpty then ([] :: kept).reverse else resolve kept rest
    else resolve (s :: kept) rest

def pathText (path : List Char) : List Char :=
  (resolve [] (segments (path.drop 1))).flatMap fun s => '/' :: escapeIn pathSigns s

/-- The target of what follows the host, up to the fragment. -/
def targetOf (rest : List Char) : List Char :=
  let rest := rest.takeWhile (· ≠ '#')
  let path := pathText ('/' :: (rest.takeWhile (· ≠ '?')).drop 1)
  match rest.dropWhile (· ≠ '?') with
  | [] => path
  | query => path ++ '?' :: escapeIn querySigns (query.drop 1)

/-! ## Reading -/

def endsHost (c : Char) : Bool := c = '/' || c = '\\' || c = '?' || c = '#'

def isDropped (c : Char) : Bool := c = '\t' || c = '\n' || c = '\r'

def isControlOrBlank (c : Char) : Bool := c.toNat ≤ 32

def trimControls (cs : List Char) : List Char :=
  ((cs.dropWhile isControlOrBlank).reverse.dropWhile isControlOrBlank).reverse

/-- A host without its name, which stands in brackets when it holds colons. -/
def behindName : List Char → List Char
  | '[' :: host => (host.dropWhile (· ≠ ']')).drop 1
  | host => host.dropWhile (· ≠ ':')

/-- The number behind a host, if there is one, has sixteen bits. -/
def hostFits (host : List Char) : Bool :=
  let digits := (behindName host).drop 1
  digits.all Text.isAsciiDigit &&
    digits.foldl (fun acc c => acc * 10 + (c.toNat - 48)) 0 < 65536

/-- The address that a text denotes, of one of the two schemes. -/
def ofText? (s : String) : Option Address := do
  let cs := (trimControls s.toList).filter fun c => !isDropped c
  let (scheme, rest) ← match cs.span (· ≠ ':') with
    | (scheme, ':' :: '/' :: '/' :: rest) => some (Text.lowerAscii (String.ofList scheme), rest)
    | _ => none
  let host := rest.takeWhile fun c => !endsHost c
  if (scheme = "http" || scheme = "https") && !host.isEmpty && hostFits host then
    some ⟨scheme ++ "://" ++ String.ofList host,
      String.ofList (targetOf (rest.drop host.length))⟩
  else none

def text (a : Address) : String := a.origin ++ a.target

end Address

end TenantSearch.Http
