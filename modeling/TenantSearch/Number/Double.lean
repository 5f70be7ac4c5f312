/-
Finite binary floating-point numbers by their exact values. A number is a dyadic rational, with
negative zero kept apart from zero; every operation rounds an exact ratio to the nearest value of
a format, a half to the even significand.
-/
namespace TenantSearch

/-- `num / den` to the nearest natural number, a half to the even one. -/
def roundHalfEven (num den : Nat) : Nat :=
  let q := num / den
  let r := num % den
  if 2 * r < den then q
  else if den < 2 * r then q + 1
  else if q % 2 = 0 then q
  else q + 1

/-! ## Formats -/

/-- A binary format: the bits of a significand, the exponent of the least subnormal value, and
the least power of two beyond the greatest value. -/
structure BinaryFormat where
  precision : Nat
  minExp : Int
  maxExp : Int

def BinaryFormat.binary64 : BinaryFormat := ⟨53, -1074, 1024⟩

def BinaryFormat.binary32 : BinaryFormat := ⟨24, -149, 128⟩

namespace BinaryFormat

/-- `num / den` divided by `2 ^ e`, as a ratio. -/
def scale (num den : Nat) (e : Int) : Nat × Nat :=
  if 0 ≤ e then (num, den * Nat.pow 2 e.toNat) else (num * Nat.pow 2 (-e).toNat, den)

/-- The exponent of the last bit kept of `num / den`, no less than that of the subnormal values. -/
def lastBit (f : BinaryFormat) (num den : Nat) : Int :=
  let e : Int := (num.log2 : Int) - den.log2 - f.precision
  let (n, d) := scale num den e
  let e := if d * Nat.pow 2 f.precision ≤ n then e + 1 else e
  if e < f.minExp then f.minExp else e

/-- The value of the format nearest to `num / den`; `none` when it overflows. -/
def round (f : BinaryFormat) (num den : Nat) : Option Dyadic :=
  if num = 0 then some 0
  else
    let e := f.lastBit num den
    let (n, d) := scale num den e
    let m := roundHalfEven n d
    if Nat.pow 2 (f.maxExp - e).toNat ≤ m then none else some (.ofIntWithPrec m (-e))

end BinaryFormat

/-- The magnitude of a dyadic number as a ratio of natural numbers. -/
def magnitudeRatio : Dyadic → Nat × Nat
  | .zero => (0, 1)
  | .ofOdd n k _ => BinaryFormat.scale n.natAbs 1 k

/-! ## Doubles -/

/-- A finite number of the 64-bit format. -/
inductive Double where
  | ofDyadic (value : Dyadic)
  | negZero
deriving DecidableEq

namespace Double

instance : Inhabited Double := ⟨.ofDyadic 0⟩

/-- The exact value; both zeros are zero. -/
def value : Double → Dyadic
  | .ofDyadic x => x
  | .negZero => 0

def isNegative : Double → Bool
  | .ofDyadic x => decide (x < 0)
  | .negZero => true

/-- A magnitude with a sign. -/
def signed (negative : Bool) (magnitude : Dyadic) : Double :=
  if negative then (if magnitude = 0 then .negZero else .ofDyadic (-magnitude))
  else .ofDyadic magnitude

/-- `± num / den` rounded to the format; `none` when it overflows. -/
def ofRatio? (negative : Bool) (num den : Nat) : Option Double :=
  (BinaryFormat.binary64.round num den).map (signed negative)

/-- The nearest double of an integer within the range of the format. -/
def ofInt (i : Int) : Double :=
  (ofRatio? (decide (i < 0)) i.natAbs 1).getD default

def neg (x : Double) : Double :=
  signed (!x.isNegative) (if x.isNegative then -x.value else x.value)

/-- Orders by value, so the two zeros are equal. -/
def cmp (x y : Double) : Ordering :=
  if x.value < y.value then .lt else if y.value < x.value then .gt else .eq

/-- The rounded product; `none` when it overflows. -/
def mul? (x y : Double) : Option Double :=
  let (n, d) := magnitudeRatio x.value
  let (n', d') := magnitudeRatio y.value
  ofRatio? (x.isNegative != y.isNegative) (n * n') (d * d')

/-- The rounded quotient by a number other than zero. -/
def div? (x y : Double) : Option Double :=
  let (n, d) := magnitudeRatio x.value
  let (n', d') := magnitudeRatio y.value
  ofRatio? (x.isNegative != y.isNegative) (n * d') (d * n')

end Double

/-! ## Values that may be infinite -/

/-- A floating-point value: a finite one, an infinity, or not a number. -/
inductive Extended where
  | finite (x : Double)
  | infinite (negative : Bool)
  | nan
deriving DecidableEq

namespace Extended

instance : Inhabited Extended := ⟨.finite default⟩

def isFinite : Extended → Bool
  | .finite _ => true
  | _ => false

/-- `± num / den` rounded to the 32-bit format. -/
def singleOfRatio (negative : Bool) (num den : Nat) : Extended :=
  match BinaryFormat.binary32.round num den with
  | some x => .finite (.signed negative x)
  | none => .infinite negative

/-- An integer rounded to the 32-bit format. -/
def singleOfInt (i : Int) : Extended :=
  singleOfRatio (decide (i < 0)) i.natAbs 1

/-- A double rounded to the 32-bit format. -/
def singleOfDouble (x : Double) : Extended :=
  let (n, d) := magnitudeRatio x.value
  singleOfRatio x.isNegative n d

def toSingle : Extended → Extended
  | .finite x => singleOfDouble x
  | x => x

/-- At least zero; neither infinity nor not-a-number counts. -/
def isFiniteNonneg : Extended → Bool
  | .finite x => decide (0 ≤ x.value)
  | _ => false

end Extended

end TenantSearch
