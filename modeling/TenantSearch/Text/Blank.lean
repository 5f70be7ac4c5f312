/-
Blank characters, the set White_Space of Unicode, and text without the blanks around it.
-/
import TenantSearch.Text.Runs

namespace TenantSearch.Text

/-- Runs of the property White_Space. -/
def blankRuns : List Nat :=
  [0x9, 0xe, 0x20, 0x21, 0x85, 0x86, 0xa0, 0xa1, 0x1680, 0x1681, 0x2000, 0x200b, 0x2028, 0x202a,
   0x202f, 0x2030, 0x205f, 0x2060, 0x3000, 0x3001]

def isBlank (c : Char) : Bool := inRuns c.toNat blankRuns

/-- The characters between the blanks at both ends. -/
def trimChars (cs : List Char) : List Char :=
  ((cs.dropWhile isBlank).reverse.dropWhile isBlank).reverse

def trim (s : String) : String := String.ofList (trimChars s.toList)

/-- Text that is not blank, without the blanks around it. -/
def trimmed? (s : String) : Option String :=
  let t := trim s
  if t = "" then none else some t

/-- The letters A to Z in lower case; every other character stands for itself. -/
def lowerAscii (s : String) : String :=
  String.ofList (s.toList.map Char.toLower)

def isAsciiDigit (c : Char) : Bool := 48 ≤ c.toNat && c.toNat ≤ 57

end TenantSearch.Text
