/-
JSON text: the compact form, which tokens and request bodies use, and the form for reading, two
blanks a level with nothing between the brackets of an empty list or object.
-/
import TenantSearch.Json.Basic
import TenantSearch.Number.Shortest

namespace TenantSearch.Json

/-! ## Strings -/

def hexDigit (n : Nat) : Char :=
  if n < 10 then Char.ofNat (48 + n) else Char.ofNat (87 + n)

/-- A character of a string: the quote, the backslash and the control characters are escaped, all
others stand for themselves. -/
def escapeChar (c : Char) : List Char :=
  if c = '"' then ['\\', '"']
  else if c = '\\' then ['\\', '\\']
  else if c = '\x08' then ['\\', 'b']
  else if c = '\x0c' then ['\\', 'f']
  else if c = '\n' then ['\\', 'n']
  else if c = '\r' then ['\\', 'r']
  else if c = '\t' then ['\\', 't']
  else if c.toNat < 32 then
    ['\\', 'u', '0', '0', hexDigit (c.toNat / 16), hexDigit (c.toNat % 16)]
  else [c]

def quote (s : String) : List Char :=
  '"' :: (s.toList.flatMap escapeChar ++ ['"'])

/-! ## Compact text -/

mutual

/-- The compact text of a value, as characters. -/
def chars : Json → List Char
  | .null => ['n', 'u', 'l', 'l']
  | .bool true => ['t', 'r', 'u', 'e']
  | .bool false => ['f', 'a', 'l', 's', 'e']
  | .int i => (toString i.val).toList
  | .float x => x.text.toList
  | .str s => quote s
  | .arr items => '[' :: itemsChars items
  | .obj fields => '{' :: fieldsChars fields
termination_by structural v => v

/-- Items up to the closing bracket. -/
def itemsChars : List Json → List Char
  | [] => [']']
  | x :: rest => chars x ++ moreItemsChars rest
termination_by structural v => v

def moreItemsChars : List Json → List Char
  | [] => [']']
  | x :: rest => ',' :: (chars x ++ moreItemsChars rest)
termination_by structural v => v

/-- Members up to the closing brace. -/
def fieldsChars : List (String × Json) → List Char
  | [] => ['}']
  | f :: rest => fieldChars f ++ moreFieldsChars rest
termination_by structural v => v

def moreFieldsChars : List (String × Json) → List Char
  | [] => ['}']
  | f :: rest => ',' :: (fieldChars f ++ moreFieldsChars rest)
termination_by structural v => v

def fieldChars : String × Json → List Char
  | (key, value) => quote key ++ ':' :: chars value
termination_by structural v => v

end

/-- The compact text of a value. -/
def text (v : Json) : String := String.ofList v.chars

/-! ## Text for reading -/

/-- A new line at a level. -/
def newLine (level : Nat) : List Char := '\n' :: List.replicate (2 * level) ' '

mutual

/-- The indented text of a value whose own line stands at `level`. -/
def prettyChars (level : Nat) : Json → List Char
  | .arr [] => ['[', ']']
  | .arr (x :: rest) =>
    '[' :: (newLine (level + 1) ++ prettyChars (level + 1) x ++ prettyItems level rest)
  | .obj [] => ['{', '}']
  | .obj (f :: rest) =>
    '{' :: (newLine (level + 1) ++ prettyField (level + 1) f ++ prettyFields level rest)
  | v => v.chars
termination_by structural v => v

def prettyItems (level : Nat) : List Json → List Char
  | [] => newLine level ++ [']']
  | x :: rest => ',' :: (newLine (level + 1) ++ prettyChars (level + 1) x ++ prettyItems level rest)
termination_by structural v => v

def prettyFields (level : Nat) : List (String × Json) → List Char
  | [] => newLine level ++ ['}']
  | f :: rest =>
    ',' :: (newLine (level + 1) ++ prettyField (level + 1) f ++ prettyFields level rest)
termination_by structural v => v

def prettyField (level : Nat) : String × Json → List Char
  | (key, value) => quote key ++ ':' :: ' ' :: prettyChars level value
termination_by structural v => v

end

/-- The indented text of a value, without a line end. -/
def pretty (v : Json) : String := String.ofList (v.prettyChars 0)

end TenantSearch.Json
