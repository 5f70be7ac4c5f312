/-
Quoted text of settings files: between double quotes with escapes, between single quotes as it
stands, and both over several lines between three quotes. Every reader starts behind the opening
quotes and gives the characters and what follows the closing ones.
-/
import TenantSearch.Toml.Scalar

namespace TenantSearch.Toml

/-- Characters that stand for themselves: all but the controls, of which the tab may stand. -/
def isTextChar (c : Char) : Bool := c = '\t' || (32 ≤ c.toNat && c.toNat ≠ 127)

/-- The character with a number in hexadecimal digits. -/
def codePoint? (digits : List Char) : Option Char :=
  let n := valueIn 16 digits
  if digits.all isHexDigit && (n < 0xD800 || (0xDFFF < n && n < 0x110000)) then some (Char.ofNat n)
  else none

/-- The character of an escape of one letter. -/
def escaped? (c : Char) : Option Char :=
  if c = '"' || c = '\\' then some c
  else if c = 'b' then some '\x08'
  else if c = 't' then some '\t'
  else if c = 'n' then some '\n'
  else if c = 'f' then some '\x0c'
  else if c = 'r' then some '\r'
  else if c = 'e' then some '\x1b'
  else none

/-- The character with a number of exactly `n` hexadecimal digits. -/
def readCode (n : Nat) (s : List Char) : Option (Char × List Char) :=
  if s.length < n then none else (codePoint? (s.take n)).map (·, s.drop n)

/-- An escape behind its backslash. -/
def readEscape : List Char → Option (Char × List Char)
  | 'x' :: r => readCode 2 r
  | 'u' :: r => readCode 4 r
  | 'U' :: r => readCode 8 r
  | c :: r => (escaped? c).map (·, r)
  | [] => none

/-- Text between double quotes, by at most as many steps as characters. -/
def readBasic : Nat → List Char → Option (List Char × List Char)
  | 0, _ => none
  | _ + 1, [] => none
  | fuel + 1, c :: s =>
    if c = '"' then some ([], s)
    else do
      let (c, s) ← if c = '\\' then readEscape s else if isTextChar c then some (c, s) else none
      let (text, rest) ← readBasic fuel s
      some (c :: text, rest)

/-- Text between single quotes. -/
def readLiteral : List Char → Option (List Char × List Char)
  | [] => none
  | c :: s =>
    if c = '\'' then some ([], s)
    else if isTextChar c then (readLiteral s).map fun (text, rest) => (c :: text, rest)
    else none

/-! ## Several lines -/

def isLineEnd (c : Char) : Bool := c = '\n' || c = '\r'

def isGap (c : Char) : Bool := c = ' ' || c = '\t' || isLineEnd c

/-- Leaves out a line end right behind the opening quotes. -/
def skipFirstLineEnd : List Char → List Char
  | '\n' :: s => s
  | '\r' :: '\n' :: s => s
  | s => s

/-- The closing quotes: three, with up to two more before them that belong to the text. -/
def closing? (quote : Char) (s : List Char) : Option (List Char × List Char) :=
  let n := (s.takeWhile (· = quote)).length
  if n < 3 then none
  else
    let extra := min (n - 3) 2
    some (List.replicate extra quote, s.drop (extra + 3))

/-- What follows a backslash at the end of a line: the text up to the next character is left out. -/
def skipLineBreak? (s : List Char) : Option (List Char) :=
  match s.dropWhile fun c => c = ' ' || c = '\t' with
  | [] => none
  | c :: r => if isLineEnd c then some (r.dropWhile isGap) else none

/-- Text between three double quotes, by at most as many steps as characters. -/
def readLongBasic : Nat → List Char → Option (List Char × List Char)
  | 0, _ => none
  | _ + 1, [] => none
  | fuel + 1, c :: s =>
    match closing? '"' (c :: s) with
    | some end' => some end'
    | none =>
      match if c = '\\' then skipLineBreak? s else none with
      | some s => readLongBasic fuel s
      | none => do
        let (c, s) ← if c = '\\' then readEscape s
          else if isTextChar c || isLineEnd c then some (c, s)
          else none
        let (text, rest) ← readLongBasic fuel s
        some (c :: text, rest)

/-- Text between three single quotes. -/
def readLongLiteral : List Char → Option (List Char × List Char)
  | [] => none
  | c :: s =>
    match closing? '\'' (c :: s) with
    | some end' => some end'
    | none =>
      if isTextChar c || isLineEnd c then
        (readLongLiteral s).map fun (text, rest) => (c :: text, rest)
      else none

/-- Quoted text on one line, as in keys. -/
def readShort : List Char → Option (List Char × List Char)
  | '"' :: s => readBasic s.length s
  | '\'' :: s => readLiteral s
  | _ => none

/-- Quoted text of any kind. -/
def readText : List Char → Option (List Char × List Char)
  | '"' :: '"' :: '"' :: s => readLongBasic s.length (skipFirstLineEnd s)
  | '\'' :: '\'' :: '\'' :: s => readLongLiteral (skipFirstLineEnd s)
  | s => readShort s

end TenantSearch.Toml
