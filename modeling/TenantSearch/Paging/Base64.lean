/-
Octets as text of the sixty-four letters, digits, dash and underscore, without padding. Only the
written form of some octets is read: a symbol outside the alphabet, a length that no octets have,
and bits left over in the last symbol are faults.
-/
import TenantSearch.Text.Octets

namespace TenantSearch.Base64

/-! ## Symbols -/

/-- The symbol of six bits. -/
def symbol (n : Nat) : UInt8 :=
  if n < 26 then (65 + n).toUInt8
  else if n < 52 then (71 + n).toUInt8
  else if n < 62 then (n - 4).toUInt8
  else if n = 62 then 45
  else 95

/-- The six bits of a symbol. -/
def value? (b : UInt8) : Option Nat :=
  if 65 ≤ b && b ≤ 90 then some (b.toNat - 65)
  else if 97 ≤ b && b ≤ 122 then some (b.toNat - 71)
  else if 48 ≤ b && b ≤ 57 then some (b.toNat + 4)
  else if b = 45 then some 62
  else if b = 95 then some 63
  else none

/-! ## Writing -/

def encode : Octets → Octets
  | [] => []
  | [a] => [symbol (a.toNat / 4), symbol (a.toNat % 4 * 16)]
  | [a, b] =>
    [symbol (a.toNat / 4), symbol (a.toNat % 4 * 16 + b.toNat / 16), symbol (b.toNat % 16 * 4)]
  | a :: b :: c :: rest =>
    symbol (a.toNat / 4) :: symbol (a.toNat % 4 * 16 + b.toNat / 16) ::
      symbol (b.toNat % 16 * 4 + c.toNat / 64) :: symbol (c.toNat % 64) :: encode rest

/-! ## Reading -/

inductive DecodeError where
  | badSymbol (symbol : UInt8) (offset : Nat)
  | badLength (length : Nat)
  | badLastSymbol (symbol : UInt8) (offset : Nat)
  | badPadding
deriving DecidableEq

def DecodeError.message : DecodeError → String
  | .badSymbol b offset =>
    "Invalid symbol " ++ toString b.toNat ++ ", offset " ++ toString offset ++ "."
  | .badLength n => "Invalid input length: " ++ toString n
  | .badLastSymbol b offset =>
    "Invalid last symbol " ++ toString b.toNat ++ ", offset " ++ toString offset ++ "."
  | .badPadding => "Invalid padding"

/-- The sign that would fill up a last group. -/
def pad : UInt8 := 61

def read (b : UInt8) (offset : Nat) : Except DecodeError Nat :=
  match value? b with
  | some n => .ok n
  | none => .error (.badSymbol b offset)

/-- The values of a last group, up to the first padding, whose place is kept. Padding stands at
the end and not among the first two symbols. -/
def readGroup (offset : Nat) :
    Octets → Nat → Option Nat → Except DecodeError (List Nat × Option Nat)
  | [], _, padding => .ok ([], padding)
  | b :: rest, i, padding =>
    if b = pad then
      if i < 2 then .error (.badSymbol b (offset + i))
      else readGroup offset rest (i + 1) (some (padding.getD i))
    else match padding with
      | some at' => .error (.badSymbol pad (offset + at'))
      | none => do
        let n ← read b (offset + i)
        let (more, padding) ← readGroup offset rest (i + 1) none
        .ok (n :: more, padding)

/-- The octets of a last group of at most four symbols. -/
def decodeGroup (offset : Nat) (group : Octets) : Except DecodeError Octets := do
  let (values, padding) ← readGroup offset group 0 none
  let last := group.getD (values.length - 1) 0
  let left := DecodeError.badLastSymbol last (offset + values.length - 1)
  match values with
  | [] => if offset = 0 && group.isEmpty then .ok [] else .error (.badLength offset)
  | [_] => .error (.badLength (offset + 1))
  | a :: b :: rest =>
    if padding.isSome then .error .badPadding
    else match rest with
      | [] => if b % 16 ≠ 0 then .error left else .ok [(a * 4 + b / 16).toUInt8]
      | [c] =>
        if c % 4 ≠ 0 then .error left
        else .ok [(a * 4 + b / 16).toUInt8, (b % 16 * 16 + c / 4).toUInt8]
      | c :: d :: _ =>
        .ok [(a * 4 + b / 16).toUInt8, (b % 16 * 16 + c / 4).toUInt8, (c % 4 * 64 + d).toUInt8]

/-- The octets of groups of four symbols and a last group, from an offset on. -/
def decodeFrom (offset : Nat) : Octets → Except DecodeError Octets
  | a :: b :: c :: d :: e :: rest => do
    let a ← read a offset
    let b ← read b (offset + 1)
    let c ← read c (offset + 2)
    let d ← read d (offset + 3)
    let more ← decodeFrom (offset + 4) (e :: rest)
    .ok ((a * 4 + b / 16).toUInt8 :: (b % 16 * 16 + c / 4).toUInt8 :: (c % 4 * 64 + d).toUInt8 ::
      more)
  | group => decodeGroup offset group

/-- The octets of a text. A stray symbol at the end is reported before all other faults. -/
def decode (s : Octets) : Except DecodeError Octets :=
  match s.getLast? with
  | some b =>
    if s.length % 4 = 1 ∧ b ≠ pad ∧ (value? b).isNone then .error (.badSymbol b (s.length - 1))
    else decodeFrom 0 s
  | none => .ok []

end TenantSearch.Base64
