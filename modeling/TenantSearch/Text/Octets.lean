/-
Text as UTF-8 octets.
-/
namespace TenantSearch

abbrev Octets := List UInt8

namespace Octets

def ofString (s : String) : Octets := s.toUTF8.data.toList

/-- The text of a sequence of octets, when they are UTF-8. -/
def toString? (octets : Octets) : Option String := String.fromUTF8? ⟨octets.toArray⟩

/-- The length of the longest beginning that is UTF-8. -/
def validLength (octets : Octets) : Nat :=
  ((List.range (octets.length + 1)).reverse.find? fun n =>
    (toString? (octets.take n)).isSome).getD 0

/-- The octet of an ASCII character. -/
def ascii (c : Char) : UInt8 := c.toNat.toUInt8

def isDigit (b : UInt8) : Bool := 48 ≤ b && b ≤ 57

/-- The value of a digit. -/
def digit (b : UInt8) : Nat := b.toNat - 48

/-- The value of a hexadecimal digit. -/
def hexDigit? (b : UInt8) : Option Nat :=
  if 48 ≤ b && b ≤ 57 then some (b.toNat - 48)
  else if 97 ≤ b && b ≤ 102 then some (b.toNat - 87)
  else if 65 ≤ b && b ≤ 70 then some (b.toNat - 55)
  else none

end Octets

end TenantSearch
